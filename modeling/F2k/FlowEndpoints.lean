import F2k.ElementNames

namespace F2k

open Lib

/-! The two ends of a flow, and which of them is printed as the one in the LAN. -/

/-- What is printed of one end of a flow. -/
structure Endpoint where
  ip : Bytes
  port : UInt64
  interface : UInt64

namespace FlowCache

def source (cache : FlowCache) : Endpoint where
  ip := cache.address.src
  port := cache.ports.src.toUInt64
  interface := cache.interfaces.input

def destination (cache : FlowCache) : Endpoint where
  ip := cache.address.dst
  port := cache.ports.dst.toUInt64
  interface := cache.interfaces.output

def swapped (cache : FlowCache) : FlowCache :=
  { cache with
    address := { cache.address with src := cache.address.dst, dst := cache.address.src }
    ports := { src := cache.ports.dst, dst := cache.ports.src }
    interfaces := { input := cache.interfaces.output, output := cache.interfaces.input } }

def lan (cache : FlowCache) : Endpoint where
  ip := cache.addressAt cache.getDirectionBasedClientIp
  port := cache.getDirectionBasedClientPort
  interface := cache.getDirectionBasedClientInterface

def wan (cache : FlowCache) : Endpoint where
  ip := cache.addressAt cache.getDirectionBasedTargetIp
  port := cache.getDirectionBasedTargetPort
  interface := cache.getDirectionBasedTargetInterface

/-- The WAN address is the address of the flow that the LAN address is not. -/
def WanIsOther (cache : FlowCache) : Prop :=
  (cache.lan.ip = cache.address.src ∧ cache.wan.ip = cache.address.dst) ∨
    (cache.lan.ip = cache.address.dst ∧ cache.wan.ip = cache.address.src)

variable {cache : FlowCache}

theorem getDirectionBasedClientIp_station (station : cache.address.client ≠ zeroAddress) :
    cache.getDirectionBasedClientIp = .client := by
  unfold getDirectionBasedClientIp
  exact if_pos station

theorem getDirectionBasedClientIp_noStation (noStation : cache.address.client = zeroAddress) :
    cache.getDirectionBasedClientIp = cache.clientEndpoint .src .dst := by
  unfold getDirectionBasedClientIp
  exact if_neg (not_not.mpr noStation)

/-- Pointers are compared for the address and values for the rest: without a station's address
the ends are told apart all the same. -/
theorem lan_noStation (noStation : cache.address.client = zeroAddress) :
    cache.lan = cache.clientEndpoint cache.source cache.destination ∧
      cache.wan = cache.clientEndpoint cache.destination cache.source := by
  have client := getDirectionBasedClientIp_noStation noStation
  unfold lan wan getDirectionBasedTargetIp getDirectionBasedTargetPort
    getDirectionBasedTargetInterface
  rw [client]
  unfold getDirectionBasedClientPort getDirectionBasedClientInterface clientEndpoint
  by_cases downstream : cache.macs.direction = .downstream
  · simp only [if_pos downstream]
    refine ⟨rfl, ?_⟩
    unfold source addressAt
    simp only [reduceCtorEq, if_false, Endpoint.mk.injEq, true_and]
    constructor
    · split
      · next same => exact same
      · rfl
    · split
      · next same => exact same
      · rfl
  · simp only [if_neg downstream, if_true]
    exact ⟨rfl, rfl⟩

/-- The source is the WAN's end as soon as a station's address is known, so that must not be the
one of the source. -/
theorem wanIsOther_iff (apart : cache.address.src ≠ cache.address.dst)
    (present : cache.address.src ≠ zeroAddress ∧ cache.address.dst ≠ zeroAddress)
    (station : cache.address.client = zeroAddress ∨
      cache.address.client = cache.address.src ∨ cache.address.client = cache.address.dst) :
    cache.WanIsOther ∧ cache.lan.ip ≠ cache.wan.ip ↔
      cache.address.client ≠ cache.address.src := by
  by_cases known : cache.address.client = zeroAddress
  · obtain ⟨lan, wan⟩ := lan_noStation known
    unfold WanIsOther
    rw [lan, wan, known]
    unfold clientEndpoint
    split
    · exact iff_of_true ⟨.inr ⟨rfl, rfl⟩, apart.symm⟩ present.1.symm
    · exact iff_of_true ⟨.inl ⟨rfl, rfl⟩, apart⟩ present.1.symm
  · have client := getDirectionBasedClientIp_station known
    have lan : cache.lan.ip = cache.address.client := congrArg cache.addressAt client
    have wan : cache.wan.ip = cache.address.src := by
      unfold FlowCache.wan getDirectionBasedTargetIp
      rw [client]
      rfl
    unfold WanIsOther
    rw [lan, wan]
    constructor
    · exact fun both => both.2
    · intro other
      have destination := (station.resolve_left known).resolve_left other
      exact ⟨.inr ⟨destination, rfl⟩, other⟩

end FlowCache

def stationFlow : FlowCache where
  observationId := .new 0
  address :=
    { client := ipv4bufTo6 [10, 0, 0, 1]
      src := ipv4bufTo6 [10, 0, 0, 1]
      dst := ipv4bufTo6 [10, 0, 0, 2] }

theorem wanIsOther_iff_station :
    stationFlow.WanIsOther ∧ stationFlow.lan.ip ≠ stationFlow.wan.ip ↔
      stationFlow.address.client ≠ stationFlow.address.src :=
  FlowCache.wanIsOther_iff (by decide) (by decide) (.inr (.inl rfl))

/-- Both addresses are the station's one. -/
theorem not_wanIsOther_station :
    ¬stationFlow.WanIsOther ∧ stationFlow.lan.ip = stationFlow.wan.ip := by
  unfold FlowCache.WanIsOther
  decide

/-! What is printed of the ends once the direction has been guessed -/

/-- Exactly one end is in a home network: that end, the other one, and the way the flow goes. -/
inductive HomeEnd (cache : FlowCache) : Endpoint → Endpoint → Direction → Prop
  | source {network : Bytes}
      (home : cache.observationId.networkIp (.ofOctets cache.address.src) = .ok (some network))
      (other : cache.observationId.networkIp (.ofOctets cache.address.dst) = .ok none) :
      HomeEnd cache cache.source cache.destination .upstream
  | destination {network : Bytes}
      (other : cache.observationId.networkIp (.ofOctets cache.address.src) = .ok none)
      (home : cache.observationId.networkIp (.ofOctets cache.address.dst) =
        .ok (some network)) :
      HomeEnd cache cache.destination cache.source .downstream

def Direction.opposite : Direction → Direction
  | .unset => .unset
  | .upstream => .downstream
  | .downstream => .upstream
  | .internal => .internal

section Guess

variable {cache : FlowCache} {home other : Endpoint} {direction : Direction}

theorem HomeEnd.swapped (ends : HomeEnd cache home other direction) :
    HomeEnd cache.swapped home other direction.opposite := by
  cases ends with
  | source home other => exact @HomeEnd.destination cache.swapped _ other home
  | destination other home => exact @HomeEnd.source cache.swapped _ home other

theorem HomeEnd.guess (ends : HomeEnd cache home other direction)
    (present : cache.address.src ≠ zeroAddress ∧ cache.address.dst ≠ zeroAddress) :
    guessDirection cache = .ok { cache with macs := { cache.macs with direction } } := by
  unfold guessDirection
  rw [if_neg (not_or.mpr present)]
  cases ends with
  | source home other =>
      rw [home, Run.ok_bind, other]
      rfl
  | destination other home =>
      rw [other, Run.ok_bind, home]
      rfl

/-- What the exporters of one side of the flow look at. -/
structure FlowCache.SidesAre (cache : FlowCache) (home other : Endpoint)
    (observationId : ObservationID) (direction : Direction) : Prop where
  lan : cache.lan = home
  wan : cache.wan = other
  observationId : cache.observationId = observationId
  direction : cache.macs.direction = direction

theorem HomeEnd.sides (ends : HomeEnd cache home other direction)
    (noStation : cache.address.client = zeroAddress) :
    FlowCache.SidesAre { cache with macs := { cache.macs with direction } } home other
      cache.observationId direction := by
  obtain ⟨lan, wan⟩ :=
    @FlowCache.lan_noStation { cache with macs := { cache.macs with direction } } noStation
  cases ends with
  | source => exact ⟨lan, wan, rfl, rfl⟩
  | destination => exact ⟨lan, wan, rfl, rfl⟩

end Guess

def ExportFn.ofSide : ExportFn → Bool
  | .printLanAddr | .printLanAddrNet | .printLanAddrNetName | .printLanCountryCode
  | .printLanASName | .printLanPort | .printLanInterface | .printLanInterfaceName
  | .printLanInterfaceDescription | .printWanAddr | .printWanAddrNet | .printWanAddrNetName
  | .printWanCountryCode | .printWanASName | .printWanPort | .printWanInterface
  | .printWanInterfaceName | .printWanInterfaceDescription => true
  | _ => false

def ExportFn.shown (exportFn : ExportFn) (home other : Endpoint) (direction : Direction) :
    Option Bytes :=
  match exportFn with
  | .printLanAddr => some (flowCacheAddrText home.ip)
  | .printLanPort => some (n10 home.port)
  | .printLanInterface => some (n10 home.interface)
  | .printWanAddr => some (flowCacheAddrText other.ip)
  | .printWanPort => some (n10 other.port)
  | .printWanInterface => some (n10 other.interface)
  | .printFlowCacheDirection => some (directionText direction)
  | _ => none

theorem Element.exported_eq {element : Element} {exportFn : ExportFn}
    (exporter : exportFn ∈ element.exportFn) {globals : ReadOnlyGlobals} {buffer : Mem}
    {length : Nat} {cache : FlowCache} :
    element.exported globals buffer length cache =
      exportField globals exportFn buffer length cache := by
  unfold Element.exported
  rw [exporter]

section Exporters

variable {globals : ReadOnlyGlobals} {cache : FlowCache} {home other : Endpoint}
  {observationId : ObservationID} {direction : Direction}

theorem exportField_shown (normalizing : globals.normalizeDirections = true)
    (sides : cache.SidesAre home other observationId direction) {exportFn : ExportFn}
    {text : Bytes} (shown : exportFn.shown home other direction = some text) (buffer : Mem)
    (length : Nat) :
    exportField globals exportFn buffer length cache = cache.printed text := by
  obtain ⟨rfl, rfl, _, rfl⟩ := sides
  cases exportFn with
  | printLanAddr =>
      cases shown
      simp only [exportField, exporterOf, printLanAddr, normalizing, if_true]
      rfl
  | printLanPort | printLanInterface | printWanAddr | printWanPort | printWanInterface
  | printFlowCacheDirection =>
      cases shown
      rfl
  | _ => cases shown

def Printed.output (printed : Printed) : Bytes × Nat :=
  (printed.text, printed.length)

variable {one two : FlowCache}

theorem printNet0_output (same : one.observationId = two.observationId)
    (search : ObservationID → IpAddr → Run (Option Bytes)) (list : IPNameAssoc → Bytes)
    (field : Bytes) :
    (printNet0 search list globals field one).map Printed.output =
      (printNet0 search list globals field two).map Printed.output := by
  rw [printNet0, printNet0, same]
  split
  · rfl
  · cases search two.observationId (.ofOctets field) with
    | error fault => rfl
    | ok found =>
        cases found with
        | some homeNet => rfl
        | none =>
            simp only [Run.ok_bind]
            cases ipInList field globals.rbDatabases.netsNameAsList with
            | none => rfl
            | some assoc => rfl

theorem geoipDecorator_output (text : ReadOnlyGlobals → Bytes → Bytes) (address : Bytes) :
    (geoipDecorator text globals address one).map Printed.output =
      (geoipDecorator text globals address two).map Printed.output := by
  unfold geoipDecorator
  split <;> rfl

theorem exportField_ofSide (oneSides : one.SidesAre home other observationId direction)
    {opposite : Direction} (twoSides : two.SidesAre home other observationId opposite)
    {exportFn : ExportFn} (ofSide : exportFn.ofSide = true) (buffer buffer' : Mem)
    (length length' : Nat) :
    (exportField globals exportFn buffer length one).map Printed.output =
      (exportField globals exportFn buffer' length' two).map Printed.output := by
  obtain ⟨lan, wan, known, _⟩ := oneSides
  obtain ⟨sameLan, sameWan, sameKnown, _⟩ := twoSides
  replace lan := lan.trans sameLan.symm
  replace wan := wan.trans sameWan.symm
  replace known := known.trans sameKnown.symm
  simp only [FlowCache.lan, Endpoint.mk.injEq] at lan
  simp only [FlowCache.wan, Endpoint.mk.injEq] at wan
  obtain ⟨lanIp, lanPort, lanInterface⟩ := lan
  obtain ⟨wanIp, wanPort, wanInterface⟩ := wan
  cases exportFn with
  | printLanAddr =>
      simp only [exportField, exporterOf, printLanAddr, printFlowCacheAddress, lanIp]
      split <;> rfl
  | printLanAddrNet | printLanAddrNetName =>
      simp only [exportField, exporterOf, printLanAddrNet, printLanAddrNetName,
        printFlowCacheAddress, lanIp]
      exact printNet0_output known _ _ _
  | printWanAddrNet | printWanAddrNetName =>
      simp only [exportField, exporterOf, printWanAddrNet, printWanAddrNetName,
        printFlowCacheAddress, wanIp]
      exact printNet0_output known _ _ _
  | printLanCountryCode | printLanASName =>
      simp only [exportField, exporterOf, printLanCountryCode, printLanASName,
        printFlowCacheAddress, lanIp]
      exact geoipDecorator_output _ _
  | printWanAddr =>
      simp only [exportField, exporterOf, printWanAddr, printFlowCacheAddress, wanIp]
      rfl
  | printWanCountryCode | printWanASName =>
      simp only [exportField, exporterOf, printWanCountryCode, printWanASName,
        printFlowCacheAddress, wanIp]
      exact geoipDecorator_output _ _
  | printLanPort | printWanPort | printLanInterface | printWanInterface =>
      simp only [exportField, exporterOf, printLanPort, printWanPort, printLanInterface,
        printWanInterface, printFlowCacheNumber, lanPort, lanInterface, wanPort, wanInterface]
      rfl
  | printLanInterfaceName | printLanInterfaceDescription | printWanInterfaceName
  | printWanInterfaceDescription =>
      simp only [exportField, exporterOf, printLanInterfaceName, printLanInterfaceDescription,
        printWanInterfaceName, printWanInterfaceDescription, printFlowCacheInterfaceStr,
        lanInterface, wanInterface, known]
      rfl
  | _ => cases ofSide

end Exporters

/-! What normalizing leaves of a flow and of the same flow the other way round -/

theorem last_named : Element.EveryOf (fun element => element.jsonElementName ≠ none)
    postTemplates := by
  decide +kernel

theorem last_keepsSides : ∀ element ∈ Element.allOf postTemplates,
    element.writes = .nothing ∨ element.writes = .clientMac := by
  decide +kernel

theorem CachePart.Written.sides {part : CachePart} {before after : FlowCache}
    (written : part.Written before after) (keeps : part = .nothing ∨ part = .clientMac)
    {home other : Endpoint} {observationId : ObservationID} {direction : Direction}
    (sides : before.SidesAre home other observationId direction) :
    after.SidesAre home other observationId direction := by
  rcases keeps with rfl | rfl
  · cases written
    exact sides
  · obtain ⟨_, rfl⟩ := written
    exact { sides with }

/-- The elements that follow a record, printed with these ends and this direction. -/
structure Presents (globals : ReadOnlyGlobals) (line : Bytes) (cache : FlowCache)
    (home other : Endpoint) (direction : Direction) (elements : List PrintedElement) : Prop where
  inputs : elements.map PrintedElement.toElementInput = cacheInputs postTemplates
  printed : ∃ left, normalizeDirection globals line cache = .ok left ∧
    left.line = elementsText line elements
  shown : ∀ element ∈ elements, ∀ exportFn ∈ element.element.exportFn,
    ∀ text ∈ exportFn.shown home other direction,
      element.printed.text = text ∧ element.key = some element.element.name

section Normalizing

variable {globals : ReadOnlyGlobals} {cache : FlowCache} {home other : Endpoint}
  {direction : Direction}

theorem ExportFn.shown_length_pos {exportFn : ExportFn} {text : Bytes}
    (shown : exportFn.shown home other direction = some text)
    (known : direction ≠ .unset) : 0 < text.length := by
  cases exportFn with
  | printLanAddr | printWanAddr =>
      cases shown
      exact flowCacheAddrText_length_pos _
  | printLanPort | printLanInterface | printWanPort | printWanInterface =>
      cases shown
      exact n10_length_pos _
  | printFlowCacheDirection =>
      cases shown
      cases direction with
      | unset => contradiction
      | upstream | downstream | internal => decide
  | _ => cases shown

theorem HomeEnd.known (ends : HomeEnd cache home other direction) : direction ≠ .unset := by
  cases ends with
  | source | destination => exact nofun

/-- The elements are printed from flow caches that all have the same sides. -/
theorem HomeEnd.prints (ends : HomeEnd cache home other direction)
    (normalizing : globals.normalizeDirections = true)
    (noStation : cache.address.client = zeroAddress)
    (present : cache.address.src ≠ zeroAddress ∧ cache.address.dst ≠ zeroAddress)
    (line : Bytes) :
    ∃ elements after,
      PrintsElements globals { cache with macs := { cache.macs with direction } } elements
        after ∧
      (∀ element ∈ elements,
        element.cache.SidesAre home other cache.observationId direction) ∧
      Presents globals line cache home other direction elements := by
  have ran : ∃ left, normalizeDirection globals line cache = .ok left := by
    have outcome : Outcome (fun _ => False) (fun _ => True)
        (normalizeDirection globals line cache) := by
      refine @normalizeDirection_outcome globals (fun _ => False) (fun _ _ => True) _ ?_
        (fun _ _ _ _ => trivial) line cache last_named trivial
      intro element line cache named _
      exact (printElement_writes named line _ _ cache).mono fun _ _ => trivial
    obtain ⟨left, ran, _⟩ := outcome.exists_ok
    exact ⟨left, ran⟩
  obtain ⟨left, ran⟩ := ran
  have whole := ran
  unfold normalizeDirection at ran
  rw [if_pos normalizing, ends.guess present, Run.ok_bind] at ran
  obtain ⟨elements, inputs, prints, lines⟩ := printPostTemplate_leaves postTemplates ran
  have sides := (@PrintsElements.invariant globals _ _ elements
    (fun cache' => cache'.SidesAre home other cache.observationId direction) prints
    (ends.sides noStation) (by
      intro element member before
      have last : element.element ∈ Element.allOf postTemplates := by
        have input := List.mem_map_of_mem (f := PrintedElement.toElementInput) member
        rw [inputs] at input
        obtain ⟨known, inLast, same⟩ := List.mem_map.mp input
        rw [← same]
        exact inLast
      have written := (element.element.exported_writes globals element.buffer element.length
        element.cache).of_ok (prints.exported element member)
      exact written.sides (last_keepsSides _ last) before)).1
  refine ⟨elements, left.cache, prints, sides, inputs, ⟨left, whole, lines⟩, ?_⟩
  intro element member exportFn exporter text shown
  have exported := prints.exported element member
  rw [Element.exported_eq exporter] at exported
  have text := (exportField_shown normalizing (sides element member) shown element.buffer
    element.length).symm.trans exported
  have printed := Except.ok.inj text
  refine ⟨by rw [← printed], ?_⟩
  unfold PrintedElement.key
  rw [← printed, if_pos (ExportFn.shown_length_pos shown ends.known)]

end Normalizing

/-- A flow with one end in a home network shows that end as the LAN's one and the other as the
WAN's one, whatever its direction was; so does the flow the other way round, and it goes in the
opposite direction. -/
theorem normalizeDirection_symmetric {globals : ReadOnlyGlobals} {cache : FlowCache}
    {home other : Endpoint} {direction : Direction}
    (normalizing : globals.normalizeDirections = true)
    (noStation : cache.address.client = zeroAddress)
    (present : cache.address.src ≠ zeroAddress ∧ cache.address.dst ≠ zeroAddress)
    (ends : HomeEnd cache home other direction) (line : Bytes) :
    ∃ elements swapped,
      Presents globals line cache home other direction elements ∧
      Presents globals line cache.swapped home other direction.opposite swapped ∧
      ∀ element ∈ elements, ∀ counterpart ∈ swapped, element.element = counterpart.element →
        ∀ exportFn ∈ element.element.exportFn, exportFn.ofSide = true →
          element.printed.output = counterpart.printed.output := by
  obtain ⟨elements, _, prints, sides, presents⟩ :=
    ends.prints normalizing noStation present line
  obtain ⟨swapped, _, printsSwapped, sidesSwapped, presentsSwapped⟩ :=
    ends.swapped.prints normalizing noStation present.symm line
  refine ⟨elements, swapped, presents, presentsSwapped, ?_⟩
  intro element member counterpart memberSwapped same exportFn exporter ofSide
  have exported := prints.exported element member
  have exportedSwapped := printsSwapped.exported counterpart memberSwapped
  rw [← same] at exportedSwapped
  rw [Element.exported_eq exporter] at exported exportedSwapped
  have outputs := @exportField_ofSide globals _ _ _ _ _ _ (sides element member) _
    (sidesSwapped counterpart memberSwapped) _ ofSide element.buffer counterpart.buffer
    element.length counterpart.length
  rw [exported, exportedSwapped] at outputs
  exact Except.ok.inj outputs

/-! A flow out of 10.0.0.0/8 -/

def tenNet : Network where
  network := .v4 0x0a000000
  netmask := .v4 0xff000000
  name := ascii "ten"
  addressAsStr := ascii "10.0.0.0/8"

def outgoingFlow : FlowCache where
  observationId := (ObservationID.new 0).addNetwork tenNet
  address :=
    { src := ipv4bufTo6 [10, 0, 0, 1]
      dst := ipv4bufTo6 [192, 0, 2, 7] }
  ports := { src := 40000, dst := 443 }
  interfaces := { input := 3, output := 4 }
  macs := { direction := .downstream }

def normalizingGlobals : ReadOnlyGlobals :=
  { splittingGlobals with normalizeDirections := true }

theorem outgoingFlow_homeEnd :
    HomeEnd outgoingFlow outgoingFlow.source outgoingFlow.destination .upstream :=
  @HomeEnd.source outgoingFlow (ascii "10.0.0.0/8") rfl rfl

theorem normalizeDirection_symmetric_outgoing :
    ∃ elements swapped,
      Presents normalizingGlobals (ascii "\x7b") outgoingFlow outgoingFlow.source
        outgoingFlow.destination .upstream elements ∧
      Presents normalizingGlobals (ascii "\x7b") outgoingFlow.swapped outgoingFlow.source
        outgoingFlow.destination .downstream swapped ∧
      ∀ element ∈ elements, ∀ counterpart ∈ swapped, element.element = counterpart.element →
        ∀ exportFn ∈ element.element.exportFn, exportFn.ofSide = true →
          element.printed.output = counterpart.printed.output :=
  normalizeDirection_symmetric rfl rfl (by decide) outgoingFlow_homeEnd (ascii "\x7b")

end F2k
