import F2k.DataSet
import F2k.FlowTimes
import F2k.Lib.Outcome

namespace F2k

open Lib

/-! What a message is made of: the rules by which the printing of elements, records and
messages keeps a property of the message so far and of the flow cache. -/

mutual

/-- A property of an element and of all that are printed after it. -/
def Element.Every (holds : Element → Prop) : Element → Prop
  | .mk templateElementId quote jsonElementName exportFn postTemplate =>
      holds (.mk templateElementId quote jsonElementName exportFn postTemplate) ∧
        Element.EveryOf holds postTemplate

def Element.EveryOf (holds : Element → Prop) : List Element → Prop
  | [] => True
  | element :: rest => Element.Every holds element ∧ Element.EveryOf holds rest

end

mutual

def Element.decidableEvery {holds : Element → Prop} (decide : ∀ element, Decidable (holds element)) :
    ∀ element, Decidable (Element.Every holds element)
  | .mk templateElementId quote jsonElementName exportFn postTemplate =>
      have := decide (.mk templateElementId quote jsonElementName exportFn postTemplate)
      have := Element.decidableEveryOf decide postTemplate
      inferInstanceAs (Decidable (_ ∧ _))

def Element.decidableEveryOf {holds : Element → Prop}
    (decide : ∀ element, Decidable (holds element)) :
    ∀ elements, Decidable (Element.EveryOf holds elements)
  | [] => .isTrue trivial
  | element :: rest =>
      have := Element.decidableEvery decide element
      have := Element.decidableEveryOf decide rest
      inferInstanceAs (Decidable (_ ∧ _))

end

instance (holds : Element → Prop) [DecidablePred holds] : DecidablePred (Element.Every holds) :=
  Element.decidableEvery inferInstance

instance (holds : Element → Prop) [DecidablePred holds] :
    DecidablePred (Element.EveryOf holds) :=
  Element.decidableEveryOf inferInstance

mutual

theorem Element.every_and {first second : Element → Prop} :
    ∀ element : Element, element.Every first → element.Every second →
      element.Every fun element => first element ∧ second element
  | .mk _ _ _ _ postTemplate, left, right => by
      rw [Element.Every] at left right ⊢
      exact ⟨⟨left.1, right.1⟩, Element.everyOf_and postTemplate left.2 right.2⟩

theorem Element.everyOf_and {first second : Element → Prop} :
    ∀ elements : List Element, Element.EveryOf first elements → Element.EveryOf second elements →
      Element.EveryOf (fun element => first element ∧ second element) elements
  | [], _, _ => trivial
  | element :: rest, left, right => by
      rw [Element.EveryOf] at left right ⊢
      exact ⟨Element.every_and element left.1 right.1, Element.everyOf_and rest left.2 right.2⟩

end

mutual

theorem Element.every_of_forall {holds : Element → Prop} (all : ∀ element, holds element) :
    ∀ element : Element, element.Every holds
  | .mk _ _ _ _ postTemplate => by
      rw [Element.Every]
      exact ⟨all _, Element.everyOf_of_forall all postTemplate⟩

theorem Element.everyOf_of_forall {holds : Element → Prop} (all : ∀ element, holds element) :
    ∀ elements : List Element, Element.EveryOf holds elements
  | [] => trivial
  | element :: rest =>
      ⟨Element.every_of_forall all element, Element.everyOf_of_forall all rest⟩

end

def Element.exported (globals : ReadOnlyGlobals) (element : Element) (buffer : Mem)
    (realFieldLen : Nat) (cache : FlowCache) : Run Printed :=
  match element.exportFn with
  | none => cache.saved
  | some exportFn => exportField globals exportFn buffer realFieldLen cache

/-- The message with what was printed under a name, if anything was. -/
def appendPrinted (line name : Bytes) (quote : Bool) (printed : Printed) : Bytes :=
  if printed.length > 0 then
    elementPrefix line name quote ++ printed.text ++ (if quote then ascii "\"" else [])
  else line

/-- What an element leaves for what its exporter printed. -/
def appended (line name : Bytes) (quote : Bool) (printed : Printed) : LineState where
  line := appendPrinted line name quote printed
  cache := printed.cache
  valueRet :=
    if printed.length > 0 then
      if quote then printed.length + 2 else printed.length
    else 0

theorem printElement_eq (globals : ReadOnlyGlobals) (line : Bytes) {element : Element}
    {name : Bytes} (buffer : Mem) (realFieldLen : Nat) (cache : FlowCache)
    (named : element.jsonElementName = some name) :
    printElement globals line element buffer realFieldLen cache =
      (element.exported globals buffer realFieldLen cache).map
        (appended line (cString name) element.quote) := by
  have states : ∀ printed : Printed,
      (if printed.length > 0 then
        if element.quote then
          (pure
            { line := elementPrefix line (cString name) element.quote ++ printed.text ++
                ascii "\""
              cache := printed.cache
              valueRet := printed.length + 2 } : Run LineState)
        else
          pure
            { line := elementPrefix line (cString name) element.quote ++ printed.text
              cache := printed.cache
              valueRet := printed.length }
      else pure { line, cache := printed.cache, valueRet := 0 }) =
        .ok (appended line (cString name) element.quote printed) := by
    intro printed
    unfold appended appendPrinted
    split
    · split <;> simp
    · rfl
  rw [printElement, named]
  simp only [states]
  rw [Element.exported]
  cases element.exportFn with
  | none => rfl
  | some exportFn =>
      cases exportField globals exportFn buffer realFieldLen cache with
      | error fault => rfl
      | ok printed => rfl

theorem printElement_outcome {globals : ReadOnlyGlobals} {line : Bytes} {element : Element}
    {buffer : Mem} {realFieldLen : Nat} {cache : FlowCache} {fails : Fault → Prop}
    {post : LineState → Prop} {exports : Printed → Prop}
    (nameless : element.jsonElementName = none → fails .nullElementName)
    (exported : Outcome fails exports (element.exported globals buffer realFieldLen cache))
    (appends : ∀ name printed valueRet, element.jsonElementName = some name → exports printed →
      post
        { line := appendPrinted line (cString name) element.quote printed
          cache := printed.cache
          valueRet }) :
    Outcome fails post (printElement globals line element buffer realFieldLen cache) := by
  cases named : element.jsonElementName with
  | none =>
      rw [printElement, named]
      exact nameless named
  | some name =>
      rw [printElement_eq globals line buffer realFieldLen cache named]
      exact Outcome.map_iff.mpr
        (exported.mono fun printed good => appends name printed _ named good)

section Elements

variable {globals : ReadOnlyGlobals} {buffer : Mem} {realFieldLen : Nat}
  {fails : Fault → Prop} {holds : Bytes → FlowCache → Prop} {passes : Element → Prop}

mutual

/-- What every element of a tree keeps when it is printed, the whole tree keeps. -/
theorem printNetflowRecordWithTemplate_outcome
    (own : ∀ element line cache, passes element → holds line cache →
      Outcome fails (fun printed => holds printed.line printed.cache)
        (printElement globals line element buffer realFieldLen cache)) :
    ∀ (element : Element) (line : Bytes) (cache : FlowCache), element.Every passes →
      holds line cache →
      Outcome fails (fun printed => holds printed.line printed.cache)
        (printNetflowRecordWithTemplate globals line element buffer realFieldLen cache)
  | .mk templateElementId quote jsonElementName exportFn postTemplate, line, cache, every,
      before => by
      rw [Element.Every] at every
      rw [printNetflowRecordWithTemplate]
      refine (own _ line cache every.1 before).bind ?_
      intro printed _ after
      refine (printPostTemplate_outcome own postTemplate printed.line printed.cache every.2
        after).bind ?_
      intro last _ afterAll
      exact afterAll

theorem printPostTemplate_outcome
    (own : ∀ element line cache, passes element → holds line cache →
      Outcome fails (fun printed => holds printed.line printed.cache)
        (printElement globals line element buffer realFieldLen cache)) :
    ∀ (elements : List Element) (line : Bytes) (cache : FlowCache),
      Element.EveryOf passes elements → holds line cache →
      Outcome fails (fun printed => holds printed.line printed.cache)
        (printPostTemplate globals line elements buffer realFieldLen cache)
  | [], line, cache, _, before => by
      rw [printPostTemplate]
      exact before
  | element :: rest, line, cache, every, before => by
      rw [Element.EveryOf] at every
      rw [printPostTemplate]
      refine (printNetflowRecordWithTemplate_outcome own element line cache every.1 before).bind
        ?_
      intro printed _ after
      exact printPostTemplate_outcome own rest printed.line printed.cache every.2 after

end

end Elements

/-! The end of a message -/

/-- The line with numbers appended under their names, and closed. -/
def numbersText (line : Bytes) (numbers : List (String × UInt64)) : Bytes :=
  numbers.foldl (fun line number => appendNumber line number.1 number.2) line ++ ascii "\x7d"

def numberNames : List String := ["first_switched", "timestamp", "bytes", "pkts"]

/-- A message is the line it is printed from, closed after some numbers. -/
def Closes (line : Bytes) (message : Message) : Prop :=
  ∃ numbers, (∀ number ∈ numbers, number.1 ∈ numberNames) ∧
    message.string = numbersText line numbers

theorem interval_text_eq (line : Bytes) (interval : Interval) :
    interval.text line = numbersText line
      [("bytes", interval.bytes), ("pkts", interval.packets),
        ("timestamp", interval.timestamp)] := rfl

section Splitting

variable (globals : ReadOnlyGlobals) (line : Bytes)

theorem splitIntervals_texts {counts : IntervalCounts} {firstTimestamp : UInt64} (turns : Nat)
    (current : UInt64) {state : SplitState} {done : List Interval}
    (shares : state.Shares counts line done) :
    Outcome (fun fault => fault = .endlessLoop .intervals)
      (fun final => ∃ intervals : List Interval,
        final.nodes.map (fun string => string.getD final.line) =
          intervals.map fun interval => interval.text line)
      (splitIntervals globals counts firstTimestamp 60 turns current state) := by
  induction turns generalizing current state done with
  | zero => exact rfl
  | succ turns ih =>
      rw [splitIntervals]
      by_cases goesOn : current ≤ firstTimestamp + counts.dSwitched
      · rw [if_pos goesOn]
        by_cases last : current + 60 > firstTimestamp + counts.dSwitched
        · obtain ⟨next, ran, texts⟩ := splitInterval_last globals last shares
          rw [ran, Run.ok_bind]
          cases turns with
          | zero => exact rfl
          | succ turns =>
              rw [splitIntervals, if_neg (UInt64.not_le.mpr last)]
              exact ⟨_, texts⟩
        · obtain ⟨next, ran, nextShares⟩ := splitInterval_earlier globals last shares
          rw [ran, Run.ok_bind]
          exact ih (current + 60) nextShares
      · rw [if_neg goesOn]
        refine ⟨done, ?_⟩
        rw [shares.nodes_eq, List.map_map]
        rfl

theorem rbSeparateLongTimeFlow_closes (firstTimestamp dSwitched bytes pkts : UInt64) :
    Outcome (fun fault => fault = .endlessLoop .intervals)
      (fun messages => ∀ message ∈ messages, Closes line message)
      (rbSeparateLongTimeFlow globals line firstTimestamp dSwitched 60 60 bytes pkts) := by
  rw [rbSeparateLongTimeFlow]
  let counts := intervalCounts globals.firstShare dSwitched 60 60 bytes pkts
  have start : SplitState.Shares counts line []
      { line, lastSentmsg := none, nodes := [] } := ⟨rfl, .inl rfl, rfl⟩
  refine (splitIntervals_texts globals line (2 ^ 64) firstTimestamp start).bind ?_
  intro final _ both message member
  obtain ⟨intervals, texts⟩ := both
  obtain ⟨node, inNodes, rfl⟩ := List.mem_map.mp member
  have text : node.getD final.line ∈ intervals.map fun interval => interval.text line := by
    rw [← texts]
    exact List.mem_map_of_mem inNodes
  obtain ⟨interval, _, same⟩ := List.mem_map.mp text
  refine ⟨_, ?_, same.symm.trans (interval_text_eq line interval)⟩
  simp [numberNames]

theorem printWholeFlow_closes (firstTimestamp dSwitched bytes pkts clientMac : UInt64) :
    Outcome (fun fault => fault = .endlessLoop .intervals)
      (fun messages => ∀ message ∈ messages, Closes line message)
      (printWholeFlow globals line firstTimestamp dSwitched bytes pkts clientMac) := by
  rw [printWholeFlow_eq]
  intro message member
  rw [List.mem_singleton] at member
  subst member
  refine ⟨[("first_switched", firstTimestamp), ("timestamp", firstTimestamp + dSwitched),
    ("bytes", bytes), ("pkts", pkts)], ?_, rfl⟩
  simp [numberNames]

theorem timeSplitFlow_closes (cache : FlowCache) :
    Outcome (fun fault => fault = .endlessLoop .intervals)
      (fun messages => ∀ message ∈ messages, Closes line message)
      (timeSplitFlow globals line cache) := by
  rw [timeSplitFlow]
  split
  · exact rbSeparateLongTimeFlow_closes globals line _ _ _ _
  · exact printWholeFlow_closes globals line _ _ _ _ _

end Splitting

/-! The start of a message -/

theorem net2number_toBe {length : Nat} (number : Nat) (known : length ∈ [1, 2, 4, 6, 8]) :
    net2number (toBe length number) = UInt64.ofNat (number % 256 ^ length) := by
  have whole : (toBe length number).take length = toBe length number := by
    rw [List.take_of_length_le (by simp)]
  simp only [List.mem_cons, List.not_mem_nil, or_false] at known
  rcases known with rfl | rfl | rfl | rfl | rfl <;>
    simp only [net2number, length_toBe, whole, beNat_toBe]

def appendQuoted (line : Bytes) (name : String) (text : Bytes) : Bytes :=
  elementPrefix line (ascii name) true ++ text ++ ascii "\""

theorem print_quoted_eq {globals : ReadOnlyGlobals} {line : Bytes} {id : UInt16} {name : String}
    {exportFn : ExportFn} {buffer : Mem} {realFieldLen : Nat} {cache : FlowCache} {text : Bytes}
    (noZero : cString (ascii name) = ascii name)
    (exported : exportField globals exportFn buffer realFieldLen cache = cache.printed text)
    (nonempty : 0 < text.length) :
    printNetflowRecordWithTemplate globals line (entity id true (some name) (some exportFn) [])
        buffer realFieldLen cache =
      .ok { line := appendQuoted line name text, cache, valueRet := text.length + 2 } := by
  simp only [entity, printNetflowRecordWithTemplate, printPostTemplate, printElement,
    Element.jsonElementName, Element.exportFn, Element.quote, Option.map_some, exported,
    FlowCache.printed, Run.ok_bind, Run.pure_eq_ok, noZero, nonempty, if_pos, appendQuoted]

def startText (flowVersion : Nat) (flowSequenceNumber : UInt32) : Bytes :=
  let version := ascii "netflowv" ++ n10 (UInt64.ofNat flowVersion)
  appendQuoted (appendQuoted (ascii "\x7b") "type" version) "flow_sequence"
    (n10 flowSequenceNumber.toUInt64)

theorem startRecord_eq (globals : ReadOnlyGlobals) {flowVersion : Nat}
    (small : flowVersion < 65536) (flowSequenceNumber : UInt32) (cache : FlowCache) :
    startRecord globals flowVersion flowSequenceNumber cache =
      .ok
        { line := startText flowVersion flowSequenceNumber
          cache
          valueRet := (n10 flowSequenceNumber.toUInt64).length + 2 } := by
  have slices : ∀ length number,
      (Mem.ofBytes (toBe length number)).slice length = toBe length number := by
    intro length number
    have sliced := Mem.slice_ofBytes (toBe length number)
    rwa [length_toBe] at sliced
  have version : exportField globals .printNetflowType (.ofBytes (toBe 2 flowVersion)) 2 cache =
      cache.printed (ascii "netflowv" ++ n10 (UInt64.ofNat flowVersion)) := by
    simp only [exportField, exporterOf, slices, printNetflowType]
    rw [net2number_toBe _ (by decide), Nat.mod_eq_of_lt (show flowVersion < 256 ^ 2 from small)]
  have sequence : exportField globals .printNumber
      (.ofBytes (toBe 4 flowSequenceNumber.toNat)) 4 cache =
      cache.printed (n10 flowSequenceNumber.toUInt64) := by
    simp only [exportField, exporterOf, slices, printNumber]
    have fits : flowSequenceNumber.toNat < 256 ^ 4 := flowSequenceNumber.toNat_lt
    have wide : UInt64.ofNat flowSequenceNumber.toNat = flowSequenceNumber.toUInt64 := by
      apply UInt64.toNat_inj.mp
      simp
    rw [net2number_toBe _ (by decide), Nat.mod_eq_of_lt fits, wide]
  have nonempty : 0 < (ascii "netflowv" ++ n10 (UInt64.ofNat flowVersion)).length := by
    rw [List.length_append]
    have := n10_length_pos (UInt64.ofNat flowVersion)
    omega
  rw [startRecord, redborderType, print_quoted_eq (by decide) version nonempty, Run.ok_bind,
    flowSequence, print_quoted_eq (by decide) sequence (n10_length_pos _)]
  rfl

/-! Records -/

section Records

theorem applyNetmask_outcome {ip netmask : IpAddr}
    (sameFamily : (ip.isIpv4 && netmask.isIpv4 || !ip.isIpv4 && !netmask.isIpv4) = true) :
    Outcome (fun _ => False) (fun _ => True) (applyNetmask ip netmask) := by
  cases ip with
  | v4 ip =>
      cases netmask with
      | v4 netmask => exact trivial
      | v6 netmask => contradiction
  | v6 ip =>
      cases netmask with
      | v4 netmask => contradiction
      | v6 netmask => exact trivial

/-- The search applies no netmask of the other family, and what it finds is in the table. -/
theorem getNetworkIn_outcome (observationId : ObservationID) (ip : IpAddr)
    (order : List Network) :
    Outcome (fun _ => False)
      (fun found => ∀ network ∈ found, ∃ key, observationId.networks.lookup key = some network)
      (observationId.getNetworkIn ip order) := by
  induction order with
  | nil =>
      intro network found
      contradiction
  | cons homeNet rest ih =>
      rw [ObservationID.getNetworkIn]
      split
      · next sameFamily =>
        refine (applyNetmask_outcome sameFamily).bind ?_
        intro key _ _
        cases found : observationId.networks.lookup key with
        | none => exact ih
        | some network =>
            intro other same
            obtain rfl := Option.some.inj same
            exact ⟨key, found⟩
      · exact ih

theorem getNetwork_outcome (observationId : ObservationID) (ip : IpAddr) :
    Outcome (fun _ => False)
      (fun found => ∀ network ∈ found, ∃ key, observationId.networks.lookup key = some network)
      (observationId.getNetwork ip) :=
  getNetworkIn_outcome observationId ip.foldIpv4 _

theorem networkIp_outcome (observationId : ObservationID) (ip : IpAddr) :
    Outcome (fun _ => False)
      (fun found => ∀ text ∈ found, ∃ key network,
        observationId.networks.lookup key = some network ∧ text = network.addressAsStr)
      (observationId.networkIp ip) := by
  refine (getNetwork_outcome observationId ip).bind ?_
  intro found _ known text member
  obtain ⟨network, inFound, rfl⟩ := Option.map_eq_some_iff.mp member
  obtain ⟨key, lookup⟩ := known network inFound
  exact ⟨key, network, lookup, rfl⟩

theorem networkName_outcome (observationId : ObservationID) (ip : IpAddr) :
    Outcome (fun _ => False)
      (fun found => ∀ text ∈ found, ∃ key network,
        observationId.networks.lookup key = some network ∧ text = network.name)
      (observationId.networkName ip) := by
  refine (getNetwork_outcome observationId ip).bind ?_
  intro found _ known text member
  obtain ⟨network, inFound, rfl⟩ := Option.map_eq_some_iff.mp member
  obtain ⟨key, lookup⟩ := known network inFound
  exact ⟨key, network, lookup, rfl⟩

theorem guessDirection_outcome (cache : FlowCache) :
    Outcome (fun _ => False)
      (fun guessed => ∃ direction,
        guessed = { cache with macs := { cache.macs with direction } })
      (guessDirection cache) := by
  rw [guessDirection]
  split
  · exact ⟨cache.macs.direction, rfl⟩
  · refine (networkIp_outcome cache.observationId _).bind ?_
    intro src _ _
    refine (networkIp_outcome cache.observationId _).bind ?_
    intro dst _ _
    cases ipDirection src.isSome dst.isSome with
    | unset => exact ⟨cache.macs.direction, rfl⟩
    | upstream => exact ⟨.upstream, rfl⟩
    | downstream => exact ⟨.downstream, rfl⟩
    | internal => exact ⟨.internal, rfl⟩

variable {globals : ReadOnlyGlobals} {fails : Fault → Prop} {holds : Bytes → FlowCache → Prop}
  {passes : Element → Prop}

section Finish

variable (intervals : fails (.endlessLoop .intervals))
  (own : ∀ element line cache, passes element → holds line cache →
    Outcome fails (fun printed => holds printed.line printed.cache)
      (printElement globals line element (fun _ => 0) 0 cache))
  (turned : ∀ line cache direction, holds line cache →
    holds line { cache with macs := { cache.macs with direction } })
  (every : Element.EveryOf passes (host :: referer :: postTemplates))

include own turned in
theorem normalizeDirection_outcome {line : Bytes} {cache : FlowCache}
    (every : Element.EveryOf passes postTemplates) (before : holds line cache) :
    Outcome fails (fun printed => holds printed.line printed.cache)
      (normalizeDirection globals line cache) := by
  rw [normalizeDirection]
  split
  · refine ((guessDirection_outcome cache).mono_fails ?_).bind ?_
    · exact fun _ impossible => impossible.elim
    · rintro _ _ ⟨direction, rfl⟩
      exact printPostTemplate_outcome own postTemplates line _ every
        (turned line cache direction before)
  · exact before

include own turned intervals every in
/-- What printing keeps, it has kept when a record is closed into its messages. -/
theorem finishRecord_outcome {line : Bytes} {cache : FlowCache} (before : holds line cache) :
    Outcome fails
      (fun messages => ∃ line cache, holds line cache ∧
        ∀ message ∈ messages, Closes (printSensorEnrichment line cache) message)
      (finishRecord globals line cache) := by
  obtain ⟨hostPasses, refererPasses, postPasses⟩ := every
  rw [finishRecord]
  refine (printNetflowRecordWithTemplate_outcome own host line cache hostPasses before).bind ?_
  intro printed _ afterHost
  refine (printNetflowRecordWithTemplate_outcome own referer _ _ refererPasses afterHost).bind ?_
  intro printed _ afterReferer
  refine (normalizeDirection_outcome own turned postPasses afterReferer).bind ?_
  intro printed _ afterAll
  refine ((timeSplitFlow_closes globals _ printed.cache).mono_fails ?_).mono ?_
  · rintro fault rfl
    exact intervals
  · exact fun messages closes => ⟨printed.line, printed.cache, afterAll, closes⟩

end Finish

theorem printPlaces_outcome {buffer : Mem} {places : List FieldPlace} {line : Bytes}
    {cache : FlowCache}
    (each : ∀ place ∈ places, ∀ line cache, holds line cache →
      Outcome fails (fun printed => holds printed.line printed.cache)
        (place.print globals buffer line cache))
    (before : holds line cache) :
    Outcome fails (fun printed => holds printed.line printed.cache)
      (printPlaces globals buffer places line cache) := by
  induction places generalizing line cache with
  | nil => exact before
  | cons place rest ih =>
      rw [printPlaces]
      refine (each place List.mem_cons_self line cache before).bind ?_
      intro printed _ after
      exact ih (fun place member => each place (List.mem_cons_of_mem _ member)) after

variable (holds passes) in
theorem printRecord_outcome {context : PacketContext} {buffer : Mem}
    {observationId : ObservationID} {flowSequenceNumber : UInt16} {places : List FieldPlace}
    (small : context.flowVersion < 65536)
    (intervals : fails (.endlessLoop .intervals))
    (start : holds (startText context.flowVersion flowSequenceNumber.toUInt32)
      (withHeaderTimes context.handleIpfix context.flowHeader { observationId }))
    (each : ∀ place ∈ places, ∀ line cache, holds line cache →
      Outcome fails (fun printed => holds printed.line printed.cache)
        (place.print context.globals buffer line cache))
    (own : ∀ element line cache, passes element → holds line cache →
      Outcome fails (fun printed => holds printed.line printed.cache)
        (printElement context.globals line element (fun _ => 0) 0 cache))
    (turned : ∀ line cache direction, holds line cache →
      holds line { cache with macs := { cache.macs with direction } })
    (every : Element.EveryOf passes (host :: referer :: postTemplates)) :
    Outcome fails
      (fun record => record.flowSequence = flowSequenceNumber.toUInt32 ∧
        ∃ line cache, holds line cache ∧
          ∀ message ∈ record.messages, Closes (printSensorEnrichment line cache) message)
      (printRecord context buffer observationId flowSequenceNumber places) := by
  rw [printRecord]
  simp only [startRecord_eq context.globals small, Run.ok_bind]
  refine (printPlaces_outcome each start).bind ?_
  intro printed _ after
  refine (finishRecord_outcome intervals own turned every after).bind ?_
  intro messages _ closes
  exact ⟨rfl, closes⟩

end Records

end F2k
