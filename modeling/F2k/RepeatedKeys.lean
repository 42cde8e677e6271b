import F2k.ElementNames
import F2k.EnterpriseFields
import Mathlib.Data.List.Flatten

namespace F2k

open Lib

/-! When a message carries one key twice. -/

section Conditions

variable (globals : ReadOnlyGlobals) (observationId : ObservationID) (buffer : Mem)

/-- The field is of this element, and its exporter has what it needs. -/
def FieldPlace.Has (fieldId : UInt16) (need : Need) (place : FieldPlace) : Prop :=
  place.field.fieldId = fieldId ∧
    need.Met globals observationId (buffer place.place) (place.bytes buffer)

/-- The ends of the flow that the fields of a record give. -/
def recordEnds (places : List FieldPlace) : FlowEnds :=
  takenEnds ({ observationId } : FlowCache).ends
    (places.flatMap fun place => place.inputs buffer)

/-- Two fields of the record are printed under one name, or a field of it and what is printed
from its direction. -/
inductive RepeatsKey (places : List FieldPlace) : Prop
  | fields {clash : Clash} {first second : FieldPlace} (listed : clash ∈ clashes)
      (inFirst : first ∈ places)
      (hasFirst : first.Has globals observationId buffer clash.firstId clash.firstNeed)
      (inSecond : second ∈ places)
      (hasSecond : second.Has globals observationId buffer clash.secondId clash.secondNeed)
  | station {place : FieldPlace} (normalizing : globals.normalizeDirections = true)
      (inPlaces : place ∈ places) (has : place.Has globals observationId buffer 366 .station)
  | clientMac {place : FieldPlace} (normalizing : globals.normalizeDirections = true)
      (inPlaces : place ∈ places) (has : place.Has globals observationId buffer 365 .clientMac)
      (zero : net2number (place.bytes buffer) = 0)
  | clientMacVendor {place : FieldPlace} {guessed : FlowCache}
      (normalizing : globals.normalizeDirections = true) (inPlaces : place ∈ places)
      (has : place.Has globals observationId buffer 365 .vendor)
      (direction : guessDirection (recordEnds observationId buffer places).cache = .ok guessed)
      (vendor : macVendorText globals guessed.getDirectionBasedClientMac ≠ [])

end Conditions

/-! The inputs of a record -/

theorem mem_printedFor {fieldId : UInt16} {printed : Element} :
    printed ∈ printedFor fieldId ↔ ∃ element ∈ findTemplate fieldId, printed ∈ element.all := by
  unfold printedFor
  cases findTemplate fieldId with
  | none => simp
  | some element => simp

theorem mem_inputs {buffer : Mem} {place : FieldPlace}
    (known : place.field.v9Template = findTemplate place.field.fieldId) {input : ElementInput} :
    input ∈ place.inputs buffer ↔ input.element ∈ printedFor place.field.fieldId ∧
      input.buffer = buffer.shift place.place ∧ input.length = place.length := by
  unfold FieldPlace.inputs printedFor
  rw [known]
  cases findTemplate place.field.fieldId with
  | none => simp
  | some element =>
      simp only [inputsFrom, List.mem_map, Option.map_some, Option.getD_some]
      constructor
      · rintro ⟨printed, member, rfl⟩
        exact ⟨member, rfl, rfl⟩
      · rintro ⟨member, sameBuffer, sameLength⟩
        refine ⟨input.element, member, ?_⟩
        rw [← sameBuffer, ← sameLength]

theorem spoken_of_printedFor {fieldId : UInt16} {printed : Element}
    (member : printed ∈ printedFor fieldId) (announced : fieldId < privateEntityId 0)
    (spoken : printed.need ≠ .never) :
    { ownerId := fieldId, name := printed.name, need := printed.need : Spoken } ∈
      announcedSpoken := by
  obtain ⟨element, found, inElement⟩ := mem_printedFor.mp member
  obtain ⟨inTable, ownId⟩ := findTemplate_eq_some found
  have inAnnounced : element ∈ announcedElements := by
    refine List.mem_filter.mpr ⟨inTable, decide_eq_true ?_⟩
    rw [Element.IsAnnounced, ownId]
    exact announced
  refine List.mem_flatMap.mpr ⟨element, inAnnounced, List.mem_map.mpr ⟨printed, ?_, ?_⟩⟩
  · exact List.mem_filter.mpr ⟨inElement, decide_eq_true spoken⟩
  · rw [ownId]

/-- The fields of a record of a template without repeated elements, as it is stored. -/
structure Announces (places : List FieldPlace) : Prop where
  known : ∀ place ∈ places, place.field.v9Template = findTemplate place.field.fieldId
  announced : ∀ place ∈ places, place.field.fieldId < privateEntityId 0
  distinct : (places.map fun place => place.field.fieldId).Nodup

/-- The inputs are of fields of different elements. -/
def OfFields (buffer : Mem) (places : List FieldPlace) (first second : ElementInput) : Prop :=
  ∃ place ∈ places, ∃ other ∈ places, place.field.fieldId ≠ other.field.fieldId ∧
    first ∈ place.inputs buffer ∧ second ∈ other.inputs buffer

/-- The inputs are not printed under one name, unless they may repeat a key. -/
def ApartUnless (mayRepeat : ElementInput → ElementInput → Prop)
    (first second : ElementInput) : Prop :=
  first.element.need ≠ .never → second.element.need ≠ .never →
    first.element.name = second.element.name → mayRepeat first second

section Inputs

variable {buffer : Mem} {places : List FieldPlace}

theorem inputs_apart {place : FieldPlace}
    (known : place.field.v9Template = findTemplate place.field.fieldId)
    (announced : place.field.fieldId < privateEntityId 0)
    (mayRepeat : ElementInput → ElementInput → Prop) :
    (place.inputs buffer).Pairwise (ApartUnless mayRepeat) := by
  unfold FieldPlace.inputs
  rw [known]
  cases found : findTemplate place.field.fieldId with
  | none => exact .nil
  | some element =>
      obtain ⟨inTable, ownId⟩ := findTemplate_eq_some found
      have inAnnounced : element ∈ announcedElements := by
        refine List.mem_filter.mpr ⟨inTable, decide_eq_true ?_⟩
        rw [Element.IsAnnounced, ownId]
        exact announced
      have apart := announced_namesApart element inAnnounced
      unfold Element.spoken at apart
      rw [List.map_map, List.nodup_iff_pairwise_ne, List.pairwise_map,
        List.pairwise_filter] at apart
      refine List.pairwise_map.mpr (apart.imp ?_)
      intro first second different spokenFirst spokenSecond same
      exact absurd same
        (different (decide_eq_true spokenFirst) (decide_eq_true spokenSecond))

theorem ending_apart (mayRepeat : ElementInput → ElementInput → Prop) :
    (cacheInputs (host :: referer :: postTemplates)).Pairwise (ApartUnless mayRepeat) := by
  refine List.pairwise_map.mpr ((List.pairwise_map.mp ending_namesApart).imp ?_)
  intro first second different _ _ same
  exact absurd same different

theorem ending_eq : cacheInputs (host :: referer :: postTemplates) =
    cacheInputs [host, referer] ++ cacheInputs postTemplates := rfl

theorem fields_apart (announces : Announces places) :
    ((places.flatMap fun place => place.inputs buffer) ++ cacheInputs [host, referer]).Pairwise
      (ApartUnless (OfFields buffer places)) := by
  have hosts := ending_apart (OfFields buffer places)
  rw [ending_eq] at hosts
  refine List.pairwise_append.mpr ⟨?_, (List.pairwise_append.mp hosts).1, ?_⟩
  · refine List.pairwise_flatMap.mpr ⟨?_, ?_⟩
    · intro place member
      exact inputs_apart (announces.known place member) (announces.announced place member) _
    · refine (List.pairwise_map.mp announces.distinct).imp_of_mem ?_
      intro place other member otherMember different first inFirst second inSecond _ _ _
      exact ⟨place, member, other, otherMember, different, inFirst, inSecond⟩
  · intro first inFields second inHosts spokenFirst _ same
    obtain ⟨place, member, inFirst⟩ := List.mem_flatMap.mp inFields
    obtain ⟨printed, _, _⟩ := (mem_inputs (announces.known place member)).mp inFirst
    have spoken := spoken_of_printedFor printed (announces.announced place member) spokenFirst
    obtain ⟨last, inHost, rfl⟩ := List.mem_map.mp inHosts
    have taken : first.element.name ∈ (Element.allOf [host, referer]).map Element.name := by
      rw [same]
      exact List.mem_map_of_mem inHost
    exact absurd taken (announced_notEnding spoken)

end Inputs

/-! The elements that are printed of them -/

namespace RecordElements

variable {context : PacketContext} {buffer : Mem} {observationId : ObservationID}
  {places : List FieldPlace}

theorem mem_fields (record : RecordElements context buffer observationId places)
    {element : PrintedElement} (member : element ∈ record.fields) :
    (∃ place ∈ places, element.toElementInput ∈ place.inputs buffer) ∨
      element.element ∈ Element.allOf [host, referer] := by
  have input : element.toElementInput ∈ record.fields.map PrintedElement.toElementInput :=
    List.mem_map_of_mem member
  rw [record.fields_inputs] at input
  refine (List.mem_append.mp input).imp List.mem_flatMap.mp ?_
  intro inHosts
  obtain ⟨printed, inAll, same⟩ := List.mem_map.mp inHosts
  rw [← congrArg ElementInput.element same]
  exact inAll

theorem mem_last (record : RecordElements context buffer observationId places)
    {element : PrintedElement} (member : element ∈ record.last) :
    context.globals.normalizeDirections = true ∧
      element.element ∈ Element.allOf postTemplates := by
  have input : element.toElementInput ∈ record.last.map PrintedElement.toElementInput :=
    List.mem_map_of_mem member
  rw [record.last_inputs] at input
  split at input
  · next normalizing =>
    obtain ⟨printed, inAll, same⟩ := List.mem_map.mp input
    rw [← congrArg ElementInput.element same]
    exact ⟨normalizing, inAll⟩
  · contradiction

theorem exported (record : RecordElements context buffer observationId places) :
    ∀ element ∈ record.elements,
      element.element.exported context.globals element.buffer element.length element.cache =
        .ok element.printed := by
  intro element member
  obtain inFields | inLast := List.mem_append.mp member
  · exact record.fields_printed.exported element inFields
  · exact record.last_printed.exported element inLast

theorem guessed_direction (record : RecordElements context buffer observationId places)
    (normalizing : context.globals.normalizeDirections = true) :
    ∃ direction, record.guessed =
      { record.finished with macs := { record.finished.macs with direction } } :=
  (guessDirection_outcome record.finished).of_ok (record.direction normalizing)

theorem observationId_eq (record : RecordElements context buffer observationId places) :
    ∀ element ∈ record.elements, element.cache.observationId = observationId := by
  intro element member
  obtain inFields | inLast := List.mem_append.mp member
  · exact record.fields_printed.observationId.1 element inFields
  · obtain ⟨direction, turned⟩ := record.guessed_direction (record.mem_last inLast).1
    rw [record.last_printed.observationId.1 element inLast, turned]
    exact record.fields_printed.observationId.2

end RecordElements

namespace PrintedElement

/-- The elements are not printed under one name. -/
def Apart (first second : PrintedElement) : Prop :=
  ∀ key ∈ first.key, ∀ other ∈ second.key, key ≠ other

theorem key_eq_some {element : PrintedElement} {key : Bytes} (some : key ∈ element.key) :
    0 < element.printed.length ∧ key = element.element.name := by
  unfold PrintedElement.key at some
  split at some
  · next printed => exact ⟨printed, (Option.some.inj some).symm⟩
  · contradiction

theorem key_of_printed {element : PrintedElement} (printed : 0 < element.printed.length) :
    element.key = some element.element.name :=
  if_pos printed

end PrintedElement

section Keys

variable {context : PacketContext} {buffer : Mem} {observationId : ObservationID}
  {places : List FieldPlace}

/-- An element that is printed has what it needs. -/
theorem RecordElements.met (record : RecordElements context buffer observationId places)
    {element : PrintedElement} (member : element ∈ record.elements) {key : Bytes}
    (keyed : key ∈ element.key) :
    element.element.need.Met context.globals observationId (element.buffer 0)
      (element.buffer.slice element.length) := by
  have onlyIf := (element.element.exported_onlyIf context.globals element.buffer element.length
    element.cache).of_ok (record.exported element member)
  have met := onlyIf (PrintedElement.key_eq_some keyed).1
  rwa [record.observationId_eq element member] at met

theorem ne_never_of_met {globals : ReadOnlyGlobals} {first : UInt8} {field : Bytes}
    {need : Need} (met : need.Met globals observationId first field) : need ≠ .never := by
  rintro rfl
  exact met

theorem fixedNames_eq (separateLongFlows : Bool) :
    ([ascii "type", ascii "flow_sequence"] ++
      (closingNames separateLongFlows).map ascii).Nodup ∧
    ∀ name ∈ [ascii "type", ascii "flow_sequence"] ++ (closingNames separateLongFlows).map ascii,
      name ∈ fixedNames := by
  cases separateLongFlows with
  | false => decide +kernel
  | true => decide +kernel

theorem RecordElements.key_notFixed
    (record : RecordElements context buffer observationId places) (announces : Announces places)
    {element : PrintedElement} (member : element ∈ record.elements) {key : Bytes}
    (keyed : key ∈ element.key) : key ∉ fixedNames := by
  obtain ⟨_, rfl⟩ := PrintedElement.key_eq_some keyed
  have spoken := ne_never_of_met (record.met member keyed)
  obtain inFields | inLast := List.mem_append.mp member
  · obtain ⟨place, inPlaces, inPlace⟩ | inHosts := record.mem_fields inFields
    · obtain ⟨printed, _, _⟩ := (mem_inputs (announces.known place inPlaces)).mp inPlace
      exact announced_notFixed
        (spoken_of_printedFor printed (announces.announced place inPlaces) spoken)
    · exact ending_notFixed _ (List.mem_append_left (Element.allOf postTemplates) inHosts)
  · exact ending_notFixed _
      (List.mem_append_right (Element.allOf [host, referer]) (record.mem_last inLast).2)

theorem RecordElements.keys_nodup_iff
    (record : RecordElements context buffer observationId places)
    (announces : Announces places) :
    record.keys.Nodup ↔ record.elements.Pairwise PrintedElement.Apart := by
  obtain ⟨fixedNodup, fixed⟩ := fixedNames_eq context.globals.separateLongFlows
  obtain ⟨firstNodup, lastNodup, firstLast⟩ := List.nodup_append.mp fixedNodup
  have notFixed : ∀ key ∈ record.elements.filterMap PrintedElement.key, key ∉ fixedNames := by
    intro key member
    obtain ⟨element, inElements, keyed⟩ := List.mem_filterMap.mp member
    exact record.key_notFixed announces inElements keyed
  have middle : record.keys.Nodup ↔
      (record.elements.filterMap PrintedElement.key).Nodup := by
    unfold RecordElements.keys
    rw [List.append_assoc, List.nodup_append, List.nodup_append]
    constructor
    · intro all
      exact all.2.1.1
    · intro nodup
      refine ⟨firstNodup, ⟨nodup, lastNodup, ?_⟩, ?_⟩
      · rintro key member _ closing rfl
        exact notFixed key member (fixed key (List.mem_append_right _ closing))
      · intro name start key member same
        obtain own | closing := List.mem_append.mp member
        · exact notFixed key own (same ▸ fixed name (List.mem_append_left _ start))
        · exact firstLast name start key closing same
  rw [middle, List.nodup_iff_pairwise_ne, List.pairwise_filterMap]
  rfl

end Keys

/-! The MAC address of the client -/

theorem exportField_keepsClientMac {globals : ReadOnlyGlobals} {exportFn : ExportFn}
    {buffer : Mem} {length : Nat} {cache : FlowCache} (known : cache.clientMac ≠ 0) :
    Outcome (fun _ => True) (fun printed => printed.cache.clientMac = cache.clientMac)
      (exportField globals exportFn buffer length cache) := by
  cases exportFn with
  | printClientMac =>
      simp only [exportField, exporterOf, printClientMac, if_pos known, ite_self]
      exact rfl
  | printDirectionBasedClientMac =>
      simp only [exportField, exporterOf, printDirectionBasedClientMac, if_pos known]
      exact rfl
  | _ =>
      exact ((exportField_writes globals _ buffer length cache).mono_fails
        fun _ => False.elim).mono fun _ written => written.clientMac (by decide)

theorem PrintedElement.keepsClientMac {globals : ReadOnlyGlobals} {element : PrintedElement}
    (exported : element.element.exported globals element.buffer element.length element.cache =
      .ok element.printed) (known : element.cache.clientMac ≠ 0) :
    element.printed.cache.clientMac ≠ 0 := by
  unfold Element.exported at exported
  cases exporter : element.element.exportFn with
  | none =>
      rw [exporter] at exported
      rw [← Except.ok.inj exported]
      exact known
  | some exportFn =>
      rw [exporter] at exported
      rw [(exportField_keepsClientMac known).of_ok exported]
      exact known

theorem exportFn_of_clientMac {element : Element} (need : element.need = .clientMac) :
    element.exportFn = some .printClientMac := by
  unfold Element.need at need
  cases exporter : element.exportFn with
  | none =>
      rw [exporter] at need
      contradiction
  | some exportFn =>
      rw [exporter] at need
      cases exportFn <;> first | rfl | contradiction

theorem PrintedElement.clientMac_printed {globals : ReadOnlyGlobals} {element : PrintedElement}
    (exporter : element.element.exportFn = some .printClientMac)
    (exported : element.element.exported globals element.buffer element.length element.cache =
      .ok element.printed) (printed : 0 < element.printed.length) :
    element.printed.cache.clientMac = net2number (element.buffer.slice element.length) := by
  unfold Element.exported at exported
  rw [exporter] at exported
  simp only [exportField, exporterOf, printClientMac] at exported
  split at exported
  · rw [← Except.ok.inj exported] at printed
    exact absurd printed (Nat.lt_irrefl 0)
  · split at exported
    · rw [← Except.ok.inj exported] at printed
      exact absurd printed (Nat.lt_irrefl 0)
    · rw [← Except.ok.inj exported]

/-- The address of the client is printed from the direction if there is none yet. -/
theorem PrintedElement.directionBased_printed {globals : ReadOnlyGlobals}
    {element : PrintedElement}
    (exporter : element.element.exportFn = some .printDirectionBasedClientMac)
    (exported : element.element.exported globals element.buffer element.length element.cache =
      .ok element.printed) :
    0 < element.printed.length ↔ element.cache.clientMac = 0 ∧
      0 < (macText element.cache.getDirectionBasedClientMac).length := by
  unfold Element.exported at exported
  rw [exporter] at exported
  simp only [exportField, exporterOf, printDirectionBasedClientMac] at exported
  split at exported
  · next known =>
    rw [← Except.ok.inj exported]
    exact iff_of_false (Nat.lt_irrefl 0) fun both => known both.1
  · next unknown =>
    rw [← Except.ok.inj exported]
    exact ⟨fun printed => ⟨not_not.mp unknown, printed⟩, And.right⟩

theorem PrintedElement.directionBasedVendor_printed {globals : ReadOnlyGlobals}
    {element : PrintedElement}
    (exporter : element.element.exportFn = some .printDirectionBasedClientMacVendor)
    (exported : element.element.exported globals element.buffer element.length element.cache =
      .ok element.printed) :
    0 < element.printed.length ↔
      macVendorText globals element.cache.getDirectionBasedClientMac ≠ [] := by
  unfold Element.exported at exported
  rw [exporter] at exported
  simp only [exportField, exporterOf, printDirectionBasedClientMacVendor] at exported
  rw [← Except.ok.inj exported]
  exact List.length_pos_iff

namespace RecordElements

variable {context : PacketContext} {buffer : Mem} {observationId : ObservationID}
  {places : List FieldPlace}

/-- Once the address of the client is known, it is known when the direction is. -/
theorem last_clientMac (record : RecordElements context buffer observationId places)
    {element last : PrintedElement} (member : element ∈ record.fields)
    (lastMember : last ∈ record.last) (known : element.printed.cache.clientMac ≠ 0) :
    last.cache.clientMac ≠ 0 := by
  have finished : record.finished.clientMac ≠ 0 :=
    (@PrintsElements.lasting _ _ _ _ (fun cache => cache.clientMac ≠ 0) record.fields_printed
      fun other otherMember => PrintedElement.keepsClientMac
        (record.fields_printed.exported other otherMember)).2 element member known
  obtain ⟨direction, turned⟩ := record.guessed_direction (record.mem_last lastMember).1
  have guessed : record.guessed.clientMac ≠ 0 := by
    rw [turned]
    exact finished
  exact (@PrintsElements.invariant _ _ _ _ (fun cache => cache.clientMac ≠ 0)
    record.last_printed guessed fun other otherMember => PrintedElement.keepsClientMac
      (record.last_printed.exported other otherMember)).1 last lastMember

theorem finished_ends (record : RecordElements context buffer observationId places)
    (normalizing : context.globals.normalizeDirections = true) :
    record.finished.ends = recordEnds observationId buffer places := by
  have start : (withHeaderTimes context.handleIpfix context.flowHeader
      { observationId }).ends = ({ observationId } : FlowCache).ends := by
    unfold withHeaderTimes
    split <;> rfl
  rw [record.fields_printed.ends normalizing, record.fields_inputs, start, takenEnds,
    List.foldl_append]
  rfl

theorem last_ends (record : RecordElements context buffer observationId places)
    {last : PrintedElement} (member : last ∈ record.last) :
    last.cache.ends = record.guessed.ends := by
  refine (@PrintsElements.invariant _ _ _ _ (fun cache => cache.ends = record.guessed.ends)
    record.last_printed rfl ?_).1 last member
  intro other otherMember same
  obtain ⟨noMacs, noEnds⟩ := last_writes _ (record.mem_last otherMember).2
  have written := (other.element.exported_writes context.globals other.buffer other.length
    other.cache).of_ok (record.last_printed.exported other otherMember)
  exact (written.ends noMacs noEnds).trans same

theorem guessed_ends (record : RecordElements context buffer observationId places)
    (normalizing : context.globals.normalizeDirections = true) :
    ∃ guessed, guessDirection (recordEnds observationId buffer places).cache = .ok guessed ∧
      guessed.ends = record.guessed.ends := by
  have same : (recordEnds observationId buffer places).cache.ends = record.finished.ends :=
    (record.finished_ends normalizing).symm
  have alike := guessDirection_ends same
  rw [record.direction normalizing] at alike
  exact exists_of_map_eq_ok alike

end RecordElements

/-! Messages without repeated keys -/

section Sufficient

variable {context : PacketContext} {buffer : Mem} {observationId : ObservationID}
  {places : List FieldPlace}

/-- An element that is printed of a field is one that is spoken, and the field has what it
needs. -/
theorem RecordElements.field_has (record : RecordElements context buffer observationId places)
    (announces : Announces places) {element : PrintedElement}
    (member : element ∈ record.elements) {key : Bytes} (keyed : key ∈ element.key)
    {place : FieldPlace} (inPlaces : place ∈ places)
    (input : element.toElementInput ∈ place.inputs buffer) :
    { ownerId := place.field.fieldId, name := key, need := element.element.need : Spoken } ∈
        announcedSpoken ∧
      place.Has context.globals observationId buffer place.field.fieldId
        element.element.need := by
  obtain ⟨_, rfl⟩ := PrintedElement.key_eq_some keyed
  obtain ⟨printed, sameBuffer, sameLength⟩ := (mem_inputs (announces.known place inPlaces)).mp input
  have met := record.met member keyed
  refine ⟨spoken_of_printedFor printed (announces.announced place inPlaces)
    (ne_never_of_met met), rfl, ?_⟩
  rw [sameBuffer, sameLength] at met
  exact met

theorem RecordElements.fields_apart (record : RecordElements context buffer observationId places)
    (announces : Announces places)
    (unique : ¬RepeatsKey context.globals observationId buffer places) :
    record.fields.Pairwise PrintedElement.Apart := by
  have inputs := @F2k.fields_apart buffer places announces
  rw [← record.fields_inputs] at inputs
  refine (List.pairwise_map.mp inputs).imp_of_mem ?_
  rintro first second inFirst inSecond apart key keyed other otherKeyed rfl
  have firstMember : first ∈ record.elements := List.mem_append_left _ inFirst
  have secondMember : second ∈ record.elements := List.mem_append_left _ inSecond
  obtain ⟨place, inPlaces, rival, rivalInPlaces, different, ofPlace, ofRival⟩ :=
    apart (ne_never_of_met (record.met firstMember keyed))
      (ne_never_of_met (record.met secondMember otherKeyed))
      ((PrintedElement.key_eq_some keyed).2.symm.trans (PrintedElement.key_eq_some otherKeyed).2)
  obtain ⟨spoken, has⟩ := record.field_has announces firstMember keyed inPlaces ofPlace
  obtain ⟨rivalSpoken, rivalHas⟩ :=
    record.field_has announces secondMember otherKeyed rivalInPlaces ofRival
  obtain same | listed | listed := announced_clashes _ spoken _ rivalSpoken rfl
  · exact different same
  · exact unique (.fields listed inPlaces has rivalInPlaces rivalHas)
  · exact unique (.fields listed rivalInPlaces rivalHas inPlaces has)

theorem RecordElements.last_apart (record : RecordElements context buffer observationId places) :
    record.last.Pairwise PrintedElement.Apart := by
  have inputs := ending_apart fun _ _ => False
  rw [ending_eq] at inputs
  have lastInputs : (record.last.map PrintedElement.toElementInput).Pairwise
      (ApartUnless fun _ _ => False) := by
    rw [record.last_inputs]
    split
    · exact (List.pairwise_append.mp inputs).2.1
    · exact .nil
  refine (List.pairwise_map.mp lastInputs).imp_of_mem ?_
  rintro first second inFirst inSecond apart key keyed other otherKeyed rfl
  exact apart (ne_never_of_met (record.met (List.mem_append_right _ inFirst) keyed))
    (ne_never_of_met (record.met (List.mem_append_right _ inSecond) otherKeyed))
    ((PrintedElement.key_eq_some keyed).2.symm.trans (PrintedElement.key_eq_some otherKeyed).2)

/-- No field is printed under the name of what follows from the direction. -/
theorem RecordElements.last_foreign (record : RecordElements context buffer observationId places)
    (announces : Announces places)
    (unique : ¬RepeatsKey context.globals observationId buffer places)
    {first last : PrintedElement} (inFirst : first ∈ record.fields)
    (inLast : last ∈ record.last) : first.Apart last := by
  rintro key keyed other otherKeyed rfl
  have firstMember : first ∈ record.elements := List.mem_append_left _ inFirst
  obtain ⟨normalizing, ofDirection⟩ := record.mem_last inLast
  obtain ⟨printed, ownName⟩ := PrintedElement.key_eq_some keyed
  obtain ⟨lastPrinted, lastName⟩ := PrintedElement.key_eq_some otherKeyed
  have exportedFirst := record.fields_printed.exported first inFirst
  have exportedLast := record.last_printed.exported last inLast
  obtain ⟨place, inPlaces, ofPlace⟩ | ofHosts := record.mem_fields inFirst
  · obtain ⟨spoken, has⟩ := record.field_has announces firstMember keyed inPlaces ofPlace
    obtain ⟨_, sameBuffer, sameLength⟩ := (mem_inputs (announces.known place inPlaces)).mp ofPlace
    obtain unprinted | ⟨owner, need⟩ | ⟨owner, need, exporter⟩ | ⟨owner, need, exporter⟩ :=
      announced_last spoken last.element ofDirection lastName
    · have off : context.globals.normalizeDirections = false := by
        obtain need | need := unprinted
        · rw [show first.element.need = .direction from need] at has
          exact has.2
        · rw [show first.element.need = .addressV4 from need] at has
          exact has.2.1
      rw [normalizing] at off
      contradiction
    · rw [show place.field.fieldId = 366 from owner, show first.element.need = .station from need]
        at has
      exact unique (.station normalizing inPlaces has)
    · rw [show place.field.fieldId = 365 from owner,
        show first.element.need = .clientMac from need] at has
      refine unique (.clientMac normalizing inPlaces has ?_)
      have clientMac := PrintedElement.clientMac_printed (exportFn_of_clientMac need)
        exportedFirst printed
      rw [sameBuffer, sameLength] at clientMac
      by_contra known
      have lastKnown := record.last_clientMac inFirst inLast (clientMac ▸ known)
      exact lastKnown ((PrintedElement.directionBased_printed exporter exportedLast).mp
        lastPrinted).1
    · rw [show place.field.fieldId = 365 from owner, show first.element.need = .vendor from need]
        at has
      obtain ⟨guessed, direction, sameEnds⟩ := record.guessed_ends normalizing
      have vendor := (PrintedElement.directionBasedVendor_printed exporter exportedLast).mp
        lastPrinted
      have sameMac := getDirectionBasedClientMac_ends
        (sameEnds.trans (record.last_ends inLast).symm)
      rw [← sameMac] at vendor
      exact unique (.clientMacVendor normalizing inPlaces has direction vendor)
  · have apart := ending_namesApart
    have split : Element.allOf (host :: referer :: postTemplates) =
      Element.allOf [host, referer] ++ Element.allOf postTemplates := rfl
    rw [split, List.map_append] at apart
    exact (List.nodup_append.mp apart).2.2 _ (List.mem_map_of_mem ofHosts) _
      (List.mem_map_of_mem ofDirection) (ownName.symm.trans lastName)

theorem RecordElements.keys_nodup (record : RecordElements context buffer observationId places)
    (announces : Announces places)
    (unique : ¬RepeatsKey context.globals observationId buffer places) : record.keys.Nodup :=
  (record.keys_nodup_iff announces).mpr (List.pairwise_append.mpr
    ⟨record.fields_apart announces unique, record.last_apart,
      fun _ inFirst _ inLast => record.last_foreign announces unique inFirst inLast⟩)

end Sufficient

/-! Messages with a repeated key -/

theorem pair_sublist {first second : FieldPlace} {places : List FieldPlace}
    (inFirst : first ∈ places) (inSecond : second ∈ places) (different : first ≠ second) :
    [first, second].Sublist places ∨ [second, first].Sublist places := by
  obtain ⟨before, after, rfl⟩ := List.append_of_mem inFirst
  obtain inBefore | inRest := List.mem_append.mp inSecond
  · exact .inr ((List.singleton_sublist.mpr inBefore).append
      (List.singleton_sublist.mpr List.mem_cons_self))
  · have inAfter := (List.mem_cons.mp inRest).resolve_left different.symm
    exact .inl (((List.singleton_sublist.mpr inAfter).cons_cons first).trans
      (List.sublist_append_right _ _))

section Necessary

variable {context : PacketContext} {buffer : Mem} {observationId : ObservationID}
  {places : List FieldPlace}

/-- The input for an element that is printed of a field. -/
def FieldPlace.input (buffer : Mem) (place : FieldPlace) (element : Element) : ElementInput where
  element
  buffer := buffer.shift place.place
  length := place.length

theorem input_mem {place : FieldPlace} {element : Element}
    (known : place.field.v9Template = findTemplate place.field.fieldId)
    (printed : element ∈ printedFor place.field.fieldId) :
    place.input buffer element ∈ place.inputs buffer :=
  (mem_inputs known).mpr ⟨printed, rfl, rfl⟩

theorem RecordElements.not_nodup (record : RecordElements context buffer observationId places)
    (announces : Announces places) {first second : PrintedElement}
    (sublist : [first, second].Sublist record.elements) (printed : 0 < first.printed.length)
    (secondPrinted : 0 < second.printed.length)
    (same : first.element.name = second.element.name) : ¬record.keys.Nodup := by
  intro nodup
  have apart := ((record.keys_nodup_iff announces).mp nodup).sublist sublist
  exact List.rel_of_pairwise_cons apart List.mem_cons_self _
    (PrintedElement.key_of_printed printed) _ (PrintedElement.key_of_printed secondPrinted) same

theorem RecordElements.exists_field (record : RecordElements context buffer observationId places)
    {place : FieldPlace} (inPlaces : place ∈ places) {input : ElementInput}
    (ofPlace : input ∈ place.inputs buffer) :
    ∃ element ∈ record.fields, element.toElementInput = input := by
  have member : input ∈ record.fields.map PrintedElement.toElementInput := by
    rw [record.fields_inputs]
    exact List.mem_append_left _ (List.mem_flatMap.mpr ⟨place, inPlaces, ofPlace⟩)
  exact List.mem_map.mp member

theorem RecordElements.exists_last (record : RecordElements context buffer observationId places)
    (normalizing : context.globals.normalizeDirections = true) {printed : Element}
    (ofDirection : printed ∈ Element.allOf postTemplates) :
    ∃ element ∈ record.last, element.element = printed := by
  have member : ({ element := printed, buffer := fun _ => 0, length := 0 } : ElementInput) ∈
      record.last.map PrintedElement.toElementInput := by
    rw [record.last_inputs, if_pos normalizing]
    exact List.mem_map_of_mem ofDirection
  obtain ⟨element, inLast, same⟩ := List.mem_map.mp member
  exact ⟨element, inLast, congrArg ElementInput.element same⟩

theorem RecordElements.cross_sublist
    (record : RecordElements context buffer observationId places)
    {first last : PrintedElement} (inFields : first ∈ record.fields)
    (inLast : last ∈ record.last) : [first, last].Sublist record.elements :=
  (List.singleton_sublist.mpr inFields).append (List.singleton_sublist.mpr inLast)

theorem RecordElements.exists_pair
    (record : RecordElements context buffer observationId places) {place other : FieldPlace}
    (inOrder : [place, other].Sublist places) {input second : ElementInput}
    (ofPlace : input ∈ place.inputs buffer) (ofOther : second ∈ other.inputs buffer) :
    ∃ one ∈ record.fields, ∃ two ∈ record.fields, [one, two].Sublist record.elements ∧
      one.toElementInput = input ∧ two.toElementInput = second := by
  have inputs : [input, second].Sublist (record.fields.map PrintedElement.toElementInput) := by
    rw [record.fields_inputs]
    refine List.Sublist.trans ?_ (List.sublist_append_left _ _)
    refine List.Sublist.trans ?_ (inOrder.flatMap fun place => place.inputs buffer)
    change ([input] ++ [second]).Sublist
      (place.inputs buffer ++ (other.inputs buffer ++ []))
    rw [List.append_nil]
    exact (List.singleton_sublist.mpr ofPlace).append (List.singleton_sublist.mpr ofOther)
  obtain ⟨pair, sublist, same⟩ := List.sublist_map_iff.mp inputs
  obtain ⟨one, rest, rfl, own, others⟩ := List.map_eq_cons_iff.mp same.symm
  obtain ⟨two, none, rfl, ownTwo, empty⟩ := List.map_eq_cons_iff.mp others
  obtain rfl := List.map_eq_nil_iff.mp empty
  exact ⟨one, sublist.subset (by simp), two, sublist.subset (by simp),
    sublist.trans (List.sublist_append_left _ _), own, ownTwo⟩

/-- A field that has what an element needs is printed as it. -/
theorem RecordElements.prompt_printed
    (record : RecordElements context buffer observationId places) {element : PrintedElement}
    (member : element ∈ record.fields) {place : FieldPlace} {printed : Element}
    (input : element.toElementInput = place.input buffer printed) {fieldId : UInt16}
    {need : Need} (prompt : printed.Prompt need)
    (has : place.Has context.globals observationId buffer fieldId need) :
    0 < element.printed.length := by
  have exported := record.fields_printed.exported element member
  have sameId := record.observationId_eq element (List.mem_append_left _ member)
  rw [show element.element = printed from congrArg ElementInput.element input,
    show element.buffer = buffer.shift place.place from congrArg ElementInput.buffer input,
    show element.length = place.length from congrArg ElementInput.length input] at exported
  unfold Element.Prompt at prompt
  unfold Element.exported at exported
  cases exporter : printed.exportFn with
  | none =>
      rw [exporter] at prompt
      contradiction
  | some exportFn =>
      rw [exporter] at prompt exported
      obtain ⟨isPrompt, needs⟩ := Bool.and_eq_true_iff.mp prompt
      have met : exportFn.need.Met context.globals element.cache.observationId
          ((buffer.shift place.place) 0) ((buffer.shift place.place).slice place.length) := by
        rw [sameId, of_decide_eq_true needs]
        exact has.2
      exact (exportField_prints_of_met context.globals isPrompt _ _ _ met).of_ok exported

theorem RecordElements.not_nodup_of_clash
    (record : RecordElements context buffer observationId places) (announces : Announces places)
    {clash : Clash} {first second : FieldPlace} (listed : clash ∈ clashes)
    (inFirst : first ∈ places)
    (hasFirst : first.Has context.globals observationId buffer clash.firstId clash.firstNeed)
    (inSecond : second ∈ places)
    (hasSecond : second.Has context.globals observationId buffer clash.secondId
      clash.secondNeed) : ¬record.keys.Nodup := by
  obtain ⟨one, inOne, two, inTwo, same, promptOne, promptTwo⟩ := clashes_prompt clash listed
  rw [← hasFirst.1] at inOne
  rw [← hasSecond.1] at inTwo
  have oneInput := @input_mem buffer first one (announces.known first inFirst) inOne
  have twoInput := @input_mem buffer second two (announces.known second inSecond) inTwo
  have different : first ≠ second := by
    rintro rfl
    exact clashes_different clash listed (hasFirst.1.symm.trans hasSecond.1)
  obtain inOrder | inOrder := pair_sublist inFirst inSecond different
  · obtain ⟨element, inFields, other, otherInFields, sublist, input, otherInput⟩ :=
      record.exists_pair inOrder oneInput twoInput
    refine record.not_nodup announces sublist
      (record.prompt_printed inFields input promptOne hasFirst)
      (record.prompt_printed otherInFields otherInput promptTwo hasSecond) ?_
    rw [congrArg ElementInput.element input, congrArg ElementInput.element otherInput]
    exact same
  · obtain ⟨other, otherInFields, element, inFields, sublist, otherInput, input⟩ :=
      record.exists_pair inOrder twoInput oneInput
    refine record.not_nodup announces sublist
      (record.prompt_printed otherInFields otherInput promptTwo hasSecond)
      (record.prompt_printed inFields input promptOne hasFirst) ?_
    rw [congrArg ElementInput.element input, congrArg ElementInput.element otherInput]
    exact same.symm

theorem RecordElements.not_nodup_of_station
    (record : RecordElements context buffer observationId places) (announces : Announces places)
    {place : FieldPlace} (normalizing : context.globals.normalizeDirections = true)
    (inPlaces : place ∈ places)
    (has : place.Has context.globals observationId buffer 366 .station) :
    ¬record.keys.Nodup := by
  have printed : staIpv4Address ∈ printedFor place.field.fieldId := by
    rw [has.1]
    exact List.mem_of_getElem? (show (printedFor 366)[0]? = some staIpv4Address from rfl)
  have isPrompt : staIpv4Address.Prompt .station := by decide
  obtain ⟨element, inFields, input⟩ :=
    record.exists_field inPlaces (input_mem (announces.known place inPlaces) printed)
  have ofDirection : lanIpBasedOnDirection ∈ Element.allOf postTemplates :=
    List.mem_of_getElem? (show (Element.allOf postTemplates)[14]? = _ from rfl)
  obtain ⟨last, inLast, own⟩ := record.exists_last normalizing ofDirection
  have lastPrinted : 0 < last.printed.length := by
    have exported := record.last_printed.exported last inLast
    rw [own] at exported
    have prints : Outcome (fun _ => True) (fun printed => 0 < printed.length)
        (lanIpBasedOnDirection.exported context.globals last.buffer last.length last.cache) := by
      change Outcome _ _ (printLanAddr context.globals _ last.cache)
      rw [printLanAddr, if_pos normalizing]
      exact flowCacheAddrText_length_pos _
    exact prints.of_ok exported
  refine record.not_nodup announces (record.cross_sublist inFields inLast)
    (record.prompt_printed inFields input isPrompt has) lastPrinted ?_
  rw [congrArg ElementInput.element input, own]
  rfl

theorem RecordElements.not_nodup_of_vendor
    (record : RecordElements context buffer observationId places) (announces : Announces places)
    {place : FieldPlace} {guessed : FlowCache}
    (normalizing : context.globals.normalizeDirections = true) (inPlaces : place ∈ places)
    (has : place.Has context.globals observationId buffer 365 .vendor)
    (direction : guessDirection (recordEnds observationId buffer places).cache = .ok guessed)
    (vendor : macVendorText context.globals guessed.getDirectionBasedClientMac ≠ []) :
    ¬record.keys.Nodup := by
  have printed : clientMacVendor ∈ printedFor place.field.fieldId := by
    rw [has.1]
    exact List.mem_of_getElem? (show (printedFor 365)[2]? = some clientMacVendor from rfl)
  have isPrompt : clientMacVendor.Prompt .vendor := by decide
  obtain ⟨element, inFields, input⟩ :=
    record.exists_field inPlaces (input_mem (announces.known place inPlaces) printed)
  have ofDirection : directionBasedClientMacVendor ∈ Element.allOf postTemplates :=
    List.mem_of_getElem? (show (Element.allOf postTemplates)[8]? = _ from rfl)
  obtain ⟨last, inLast, own⟩ := record.exists_last normalizing ofDirection
  obtain ⟨other, otherDirection, sameEnds⟩ := record.guessed_ends normalizing
  obtain rfl : guessed = other := Except.ok.inj (direction.symm.trans otherDirection)
  have sameMac := getDirectionBasedClientMac_ends
    (sameEnds.trans (record.last_ends inLast).symm)
  have lastPrinted : 0 < last.printed.length := by
    refine (PrintedElement.directionBasedVendor_printed ?_
      (record.last_printed.exported last inLast)).mpr ?_
    · rw [own]
      rfl
    · rw [← sameMac]
      exact vendor
  refine record.not_nodup announces (record.cross_sublist inFields inLast)
    (record.prompt_printed inFields input isPrompt has) lastPrinted ?_
  rw [congrArg ElementInput.element input, own]
  rfl

theorem exported_keepsZero {globals : ReadOnlyGlobals} {element : PrintedElement}
    (exported : element.element.exported globals element.buffer element.length element.cache =
      .ok element.printed) (unknown : element.cache.clientMac = 0)
    (zero : element.element.writes = .clientMac →
      element.element.exportFn = some .printClientMac ∧
        net2number (element.buffer.slice element.length) = 0) :
    element.printed.cache.clientMac = 0 := by
  by_cases own : element.element.writes = .clientMac
  · obtain ⟨exporter, number⟩ := zero own
    by_cases printed : 0 < element.printed.length
    · rw [PrintedElement.clientMac_printed exporter exported printed, number]
    · unfold Element.exported at exported
      rw [exporter] at exported
      simp only [exportField, exporterOf, printClientMac, unknown] at exported
      split at exported
      · rw [← Except.ok.inj exported]
        exact unknown
      · rw [← Except.ok.inj exported]
        exact number
  · have written := (element.element.exported_writes globals element.buffer element.length
      element.cache).of_ok exported
    exact (written.clientMac own).trans unknown

/-- An address of zeros leaves the client's one unknown. -/
theorem RecordElements.fields_clientMac
    (record : RecordElements context buffer observationId places) (announces : Announces places)
    {place : FieldPlace} (inPlaces : place ∈ places) (own : place.field.fieldId = 365)
    (zero : net2number (place.bytes buffer) = 0) :
    (∀ element ∈ record.fields, element.cache.clientMac = 0) ∧
      record.finished.clientMac = 0 := by
  refine @PrintsElements.invariant _ _ _ _ (fun cache => cache.clientMac = 0)
    record.fields_printed rfl ?_
  intro element inFields unknown
  refine exported_keepsZero (record.fields_printed.exported element inFields) unknown ?_
  intro writes
  obtain ⟨other, otherInPlaces, ofOther⟩ | ofHosts := record.mem_fields inFields
  · obtain ⟨printed, sameBuffer, sameLength⟩ :=
      (mem_inputs (announces.known other otherInPlaces)).mp ofOther
    obtain ⟨owner, found, inOwner⟩ := mem_printedFor.mp printed
    obtain ⟨inTable, ownerId⟩ := findTemplate_eq_some found
    have inAnnounced : owner ∈ announcedElements := by
      refine List.mem_filter.mpr ⟨inTable, decide_eq_true ?_⟩
      rw [Element.IsAnnounced, ownerId]
      exact announces.announced other otherInPlaces
    obtain ⟨isStation, exporter⟩ := announced_clientMac owner inAnnounced _ inOwner writes
    have sameId : other.field.fieldId = place.field.fieldId := by
      rw [own, ← isStation, ownerId]
    obtain rfl := List.inj_on_of_nodup_map announces.distinct otherInPlaces inPlaces sameId
    refine ⟨exporter, ?_⟩
    rw [sameBuffer, sameLength]
    exact zero
  · exact absurd writes (hosts_clientMac _ ofHosts)

/-- Nothing is printed from the direction before the client's address that is one itself. -/
theorem RecordElements.exists_clientMac
    (record : RecordElements context buffer observationId places)
    (normalizing : context.globals.normalizeDirections = true) :
    ∃ last ∈ record.last, last.element = clientMacBasedOnDirection ∧
      (record.guessed.clientMac = 0 → last.cache.clientMac = 0) := by
  have inputs := record.last_inputs
  rw [if_pos normalizing] at inputs
  have parted : cacheInputs postTemplates =
      cacheInputs [printDirection, lanInterface, wanInterface] ++
        { element := clientMacBasedOnDirection, buffer := fun _ => 0, length := 0 } ::
          cacheInputs [directionBasedClientMacVendor, wanIpBasedOnDirection,
            lanIpBasedOnDirection, wanPort, lanPort] := rfl
  rw [parted] at inputs
  obtain ⟨before, after, split, beforeInputs, afterInputs⟩ := List.map_eq_append_iff.mp inputs
  obtain ⟨last, rest, rfl, own, _⟩ := List.map_eq_cons_iff.mp afterInputs
  have prints := record.last_printed
  rw [split] at prints
  obtain ⟨between, printsBefore, printsAfter⟩ := prints.split
  have here : between = last.cache := by
    cases printsAfter
    rfl
  refine ⟨last, ?_, congrArg ElementInput.element own, ?_⟩
  · rw [split]
    exact List.mem_append_right before List.mem_cons_self
  · intro unknown
    rw [← here]
    refine (@PrintsElements.invariant _ _ _ _ (fun cache => cache.clientMac = 0) printsBefore
      unknown ?_).2
    intro element member still
    refine exported_keepsZero (printsBefore.exported element member) still ?_
    intro writes
    have input : element.toElementInput ∈
        cacheInputs [printDirection, lanInterface, wanInterface] := by
      rw [← beforeInputs]
      exact List.mem_map_of_mem member
    obtain ⟨printed, inAll, same⟩ := List.mem_map.mp input
    rw [← congrArg ElementInput.element same] at writes
    exact absurd writes (interfaces_clientMac printed inAll)

theorem RecordElements.not_nodup_of_clientMac
    (record : RecordElements context buffer observationId places) (announces : Announces places)
    {place : FieldPlace} (normalizing : context.globals.normalizeDirections = true)
    (inPlaces : place ∈ places)
    (has : place.Has context.globals observationId buffer 365 .clientMac)
    (zero : net2number (place.bytes buffer) = 0) : ¬record.keys.Nodup := by
  obtain ⟨fieldsUnknown, finished⟩ := record.fields_clientMac announces inPlaces has.1 zero
  have printed : clientMacAddress ∈ printedFor place.field.fieldId := by
    rw [has.1]
    exact List.mem_of_getElem? (show (printedFor 365)[1]? = some clientMacAddress from rfl)
  obtain ⟨element, inFields, input⟩ :=
    record.exists_field inPlaces (input_mem (announces.known place inPlaces) printed)
  obtain ⟨last, inLast, own, lastUnknown⟩ := record.exists_clientMac normalizing
  obtain ⟨direction, turned⟩ := record.guessed_direction normalizing
  have elementPrinted : 0 < element.printed.length := by
    have exported := record.fields_printed.exported element inFields
    have long : (place.bytes buffer).length = 6 := has.2
    rw [show element.element = clientMacAddress from congrArg ElementInput.element input,
      show element.buffer = buffer.shift place.place from congrArg ElementInput.buffer input,
      show element.length = place.length from congrArg ElementInput.length input] at exported
    change printClientMac context.globals (place.bytes buffer) element.cache = _ at exported
    rw [printClientMac, if_neg (not_not.mpr long),
      if_neg (not_not.mpr (fieldsUnknown element inFields))] at exported
    rw [← Except.ok.inj exported]
    exact macText_length_pos long
  have lastPrinted : 0 < last.printed.length := by
    refine (PrintedElement.directionBased_printed ?_
      (record.last_printed.exported last inLast)).mpr ⟨lastUnknown ?_, ?_⟩
    · rw [own]
      rfl
    · rw [turned]
      exact finished
    · have whole : record.finished.ends.WholeMacs := by
        rw [record.finished_ends normalizing]
        exact takenEnds_wholeMacs _ ⟨rfl, rfl, rfl⟩
      have lastWhole : last.cache.ends.WholeMacs := by
        rw [record.last_ends inLast, turned]
        exact { whole with }
      exact macText_length_pos lastWhole.clientMac
  refine record.not_nodup announces (record.cross_sublist inFields inLast) elementPrinted
    lastPrinted ?_
  rw [congrArg ElementInput.element input, own]
  rfl

theorem RecordElements.not_nodup_of_repeats
    (record : RecordElements context buffer observationId places) (announces : Announces places)
    (repeats : RepeatsKey context.globals observationId buffer places) :
    ¬record.keys.Nodup := by
  cases repeats with
  | fields listed inFirst hasFirst inSecond hasSecond =>
      exact record.not_nodup_of_clash announces listed inFirst hasFirst inSecond hasSecond
  | station normalizing inPlaces has =>
      exact record.not_nodup_of_station announces normalizing inPlaces has
  | clientMac normalizing inPlaces has zero =>
      exact record.not_nodup_of_clientMac announces normalizing inPlaces has zero
  | clientMacVendor normalizing inPlaces has direction vendor =>
      exact record.not_nodup_of_vendor announces normalizing inPlaces has direction vendor

end Necessary

/-! Records of a template -/

theorem announces_fieldPlaces {handleIpfix : Bool} {template : FlowSetV9Ipfix} {buffer : Mem}
    {endFlow displ : Nat} (ofFlows : template.isOptionTemplate = false)
    (distinct : (template.fields.map TemplateField.fieldId).Nodup)
    (announced : ∀ field ∈ template.fields, field.fieldId < privateEntityId 0) :
    Announces
      (fieldPlaces handleIpfix buffer endFlow (storedTemplate template).fields displ).1 := by
  have first := fieldPlaces_prefix handleIpfix buffer endFlow (storedTemplate template).fields
    displ
  have fields : (storedTemplate template).fields = template.fields.map fun field =>
      { field with v9Template := findTemplate field.fieldId } := by
    unfold storedTemplate
    rw [ofFlows]
    rfl
  have stored : ∀ place ∈
      (fieldPlaces handleIpfix buffer endFlow (storedTemplate template).fields displ).1,
      ∃ field ∈ template.fields,
        place.field = { field with v9Template := findTemplate field.fieldId } := by
    intro place member
    have inStored := first.subset (List.mem_map_of_mem member)
    rw [fields] at inStored
    obtain ⟨field, inFields, same⟩ := List.mem_map.mp inStored
    exact ⟨field, inFields, same.symm⟩
  refine ⟨?_, ?_, ?_⟩
  · intro place member
    obtain ⟨field, _, same⟩ := stored place member
    rw [same]
  · intro place member
    obtain ⟨field, inFields, same⟩ := stored place member
    rw [same]
    exact announced field inFields
  · have ids := first.sublist.map TemplateField.fieldId
    rw [List.map_map] at ids
    refine List.Nodup.sublist ids ?_
    rw [fields, List.map_map]
    exact distinct

/-- A template of the source addresses of both families, as it is received. -/
def sourcesTemplate : FlowSetV9Ipfix where
  templateId := 256
  isOptionTemplate := false
  fields := [
    { fieldId := 8, fieldLen := 4, v9Template := none },
    { fieldId := 27, fieldLen := 16, v9Template := none }]

def sourcesSet : Mem :=
  .ofBytes (setBytes 256 ([10, 0, 0, 1] ++ toBe 16 1))

def sourcesContext (normalizeDirections : Bool) : PacketContext :=
  { engine7Context with globals := { engine7Context.globals with normalizeDirections } }

/-- What comes of the record in a packet of version 9. -/
def sourcesRecord (normalizeDirections : Bool) : Run (FlowRecord × Nat) :=
  dissectRecord (sourcesContext normalizeDirections) (storedTemplate sourcesTemplate) sourcesSet
    24 (.new 7) 0 4

def sourcesPlaces : List FieldPlace :=
  (fieldPlaces false sourcesSet 24 (storedTemplate sourcesTemplate).fields 4).1

theorem sourcesRecord_sent (normalizeDirections : Bool) :
    ∃ record after, sourcesRecord normalizeDirections = .ok (record, after) ∧
      record.messages ≠ [] := by
  have lengths : (sourcesRecord normalizeDirections).map
      (fun result => result.1.messages.length) = .ok 1 := by
    cases normalizeDirections <;> decide +kernel
  obtain ⟨⟨record, after⟩, ran, one⟩ := exists_of_map_eq_ok lengths
  refine ⟨record, after, ran, ?_⟩
  rintro none
  rw [none] at one
  contradiction

theorem sources_repeat :
    RepeatsKey (sourcesContext false).globals (.new 7) sourcesSet sourcesPlaces := by
  let first : FieldPlace :=
    { field := { fieldId := 8, fieldLen := 4, v9Template := findTemplate 8 }
      place := 4
      length := 4 }
  let second : FieldPlace :=
    { field := { fieldId := 27, fieldLen := 16, v9Template := findTemplate 27 }
      place := 8
      length := 16 }
  have inFirst : first ∈ sourcesPlaces :=
    List.mem_of_getElem? (show sourcesPlaces[0]? = some first from rfl)
  have inSecond : second ∈ sourcesPlaces :=
    List.mem_of_getElem? (show sourcesPlaces[1]? = some second from rfl)
  exact .fields List.mem_cons_self inFirst ⟨rfl, rfl, rfl⟩ inSecond ⟨rfl, rfl⟩

end F2k
