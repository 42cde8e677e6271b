import F2k.Encode
import F2k.Messages
import F2k.TemplateStore
import Mathlib.Algebra.Order.BigOperators.Group.List

namespace F2k

open Lib

/-! The sequence numbers of the records of a packet. -/

/-! How many records each set of a packet holds, which only its bytes and the templates that
are stored tell. -/

/-- The number of data records of one set: templates without fields and option templates have
none. -/
def setRecordCount (handleIpfix : Bool) (templates : Templates) (set : SizedBuffer) : Nat :=
  match templates.lookup (UInt16.ofNat (set.u16 0)) with
  | none => 0
  | some template =>
      if template.fieldCount = 0 ∨ template.isOptionTemplate then 0
      else
        ((recordPlaces handleIpfix template.fields set.buffer (set.u16 2) (set.u16 2 + 1) 4).getD
          []).length

def recordCounts (handleIpfix : Bool) : Templates → List SizedBuffer → List Nat
  | _, [] => []
  | templates, set :: rest =>
      if isTemplateSet handleIpfix set then
        recordCounts handleIpfix
          (storeTemplates templates (announcedTemplates handleIpfix set)) rest
      else setRecordCount handleIpfix templates set :: recordCounts handleIpfix templates rest

/-! Every message starts with the number of its record: printing only appends. -/

theorem prefix_elementPrefix (line name : Bytes) (quote : Bool) :
    line <+: elementPrefix line name quote := by
  simp only [elementPrefix, List.append_assoc]
  exact List.prefix_append _ _

theorem printElement_prefix {start : Bytes} (globals : ReadOnlyGlobals) {line : Bytes}
    (element : Element) (buffer : Mem) (realFieldLen : Nat) (cache : FlowCache)
    (before : start <+: line) :
    Outcome (fun _ => True) (fun printed => start <+: printed.line)
      (printElement globals line element buffer realFieldLen cache) := by
  have exported : Outcome (fun _ : Fault => True) (fun _ => True)
      (element.exported globals buffer realFieldLen cache) := by
    cases element.exported globals buffer realFieldLen cache <;> exact trivial
  refine printElement_outcome (fun _ => trivial) exported ?_
  intro name printed _ _ _
  simp only [appendPrinted]
  split
  · rw [List.append_assoc]
    exact (before.trans (prefix_elementPrefix line _ _)).trans (List.prefix_append _ _)
  · exact before

theorem prefix_numbersText (line : Bytes) (numbers : List (String × UInt64)) :
    line <+: numbersText line numbers := by
  rw [numbersText]
  refine List.IsPrefix.trans ?_ (List.prefix_append _ _)
  induction numbers generalizing line with
  | nil => exact List.prefix_refl line
  | cons number rest ih =>
      rw [List.foldl_cons]
      refine List.IsPrefix.trans ?_ (ih _)
      exact (prefix_elementPrefix _ _ _).trans (List.prefix_append _ _)

theorem prefix_printSensorEnrichment (line : Bytes) (cache : FlowCache) :
    line <+: printSensorEnrichment line cache := by
  rw [printSensorEnrichment]
  split
  · rw [List.append_assoc]
    exact List.prefix_append _ _
  · exact List.prefix_refl line

/-- Every message of a record shows the number of the record. -/
def FlowRecord.Carries (flowVersion : Nat) (record : FlowRecord) : Prop :=
  ∀ message ∈ record.messages, startText flowVersion record.flowSequence <+: message.string

theorem printRecord_carries {context : PacketContext} (small : context.flowVersion < 65536)
    (buffer : Mem) (observationId : ObservationID) (first : UInt16) (places : List FieldPlace) :
    Outcome (fun _ => True)
      (fun record => record.flowSequence = first.toUInt32 ∧
        record.Carries context.flowVersion)
      (printRecord context buffer observationId first places) := by
  let start := startText context.flowVersion first.toUInt32
  have keeps : ∀ (buffer : Mem) (realFieldLen : Nat) (element : Element) (line : Bytes)
      (cache : FlowCache), True → start <+: line →
      Outcome (fun _ : Fault => True) (fun printed => start <+: printed.line)
        (printElement context.globals line element buffer realFieldLen cache) :=
    fun buffer realFieldLen element line cache _ before =>
      printElement_prefix context.globals element buffer realFieldLen cache before
  refine (printRecord_outcome (fun line _ => start <+: line) (fun _ => True) small trivial
    (List.prefix_refl start) ?_ (keeps _ _) (fun _ _ _ before => before)
    (Element.everyOf_of_forall (fun _ => trivial) _)).mono ?_
  · intro place _ line cache before
    rw [FieldPlace.print]
    cases place.field.v9Template with
    | none => exact before
    | some element =>
        exact printNetflowRecordWithTemplate_outcome (keeps _ _) element line cache
          (Element.every_of_forall (fun _ => trivial) element) before
  · rintro record ⟨number, line, cache, before, closes⟩
    refine ⟨number, ?_⟩
    intro message member
    obtain ⟨numbers, _, text⟩ := closes message member
    rw [number, text]
    exact (before.trans (prefix_printSensorEnrichment line cache)).trans
      (prefix_numbersText _ numbers)

/-! The numbers of the records -/

def setNumbers (first : UInt16) (count : Nat) : List UInt32 :=
  (List.range count).map fun index => (first + UInt16.ofNat index).toUInt32

theorem setNumbers_succ (first : UInt16) (count : Nat) :
    setNumbers first (count + 1) = first.toUInt32 :: setNumbers (first + 1) count := by
  have moved : ∀ index : Nat,
      (first + UInt16.ofNat (index + 1)).toUInt32 = (first + 1 + UInt16.ofNat index).toUInt32 := by
    intro index
    have same : first + UInt16.ofNat (index + 1) = first + 1 + UInt16.ofNat index := by
      rw [UInt16.ofNat_add]
      grind
    rw [same]
  rw [setNumbers, List.range_succ_eq_map, List.map_cons, List.map_map, setNumbers]
  congr 1
  · simp
  · exact List.map_congr_left fun index _ => moved index

theorem printRecords_numbers {context : PacketContext} (small : context.flowVersion < 65536)
    (buffer : Mem) (observationId : ObservationID) (first : UInt16)
    (places : List (List FieldPlace)) :
    Outcome (fun _ => True)
      (fun records => records.map FlowRecord.flowSequence = setNumbers first places.length ∧
        ∀ record ∈ records, record.Carries context.flowVersion)
      (printRecords context buffer observationId first places) := by
  induction places generalizing first with
  | nil => exact ⟨rfl, by simp⟩
  | cons place rest ih =>
      rw [printRecords]
      refine (printRecord_carries small buffer observationId first place).bind ?_
      intro record _ both
      obtain ⟨number, carries⟩ := both
      refine (ih (first + 1)).bind ?_
      intro records _ both
      obtain ⟨numbers, allCarry⟩ := both
      constructor
      · rw [List.map_cons, number, numbers, List.length_cons, setNumbers_succ]
      · simpa [carries] using allCarry

/-- The numbers of the records of a packet: every set starts with the one of the packet. -/
def packetNumbers (first : UInt16) (counts : List Nat) : List UInt32 :=
  counts.flatMap (setNumbers first)

theorem dissectSet_numbers {context : PacketContext} (small : context.flowVersion < 65536)
    (first : UInt16) (observationId : ObservationID) {set : SizedBuffer}
    (data : isTemplateSet context.handleIpfix set = false) :
    Outcome (fun _ => True)
      (fun result => result.1.templates = observationId.templates ∧
        result.2.map FlowRecord.flowSequence =
          setNumbers first (setRecordCount context.handleIpfix observationId.templates set) ∧
        ∀ record ∈ result.2, record.Carries context.flowVersion)
      (dissectSet context first observationId set) := by
  simp only [dissectSet, data, Bool.false_eq_true, if_false, dissectNetFlowV9V10Flow,
    usableTemplate, ObservationID.getTemplate, setRecordCount]
  cases observationId.templates.lookup (UInt16.ofNat (set.u16 0)) with
  | none => exact ⟨rfl, rfl, by simp⟩
  | some template =>
      by_cases usable : template.fieldCount = 0
      · simp only [Option.filter, usable, ne_eq, not_true, decide_false, Bool.false_eq_true,
          if_false, true_or, if_true]
        exact ⟨rfl, rfl, by simp⟩
      · simp only [Option.filter, usable, ne_eq, not_false_eq_true, decide_true, if_true, false_or]
        by_cases option : template.isOptionTemplate
        · simp only [option, if_true]
          refine (dissectOptionFlows_templates template _ _ 0 observationId).bind ?_
          intro learned _ kept
          exact ⟨kept, rfl, by simp⟩
        · simp only [option, if_false, Bool.false_eq_true]
          cases parsed : recordPlaces context.handleIpfix template.fields set.buffer (set.u16 2)
              (set.u16 2 + 1) 4 with
          | none =>
              have endless := dissectRecords_ne_ok context template set.buffer (set.u16 2)
                observationId first parsed
              rw [dissectNetFlowV9V10FlowSetWithTemplate]
              cases ran : dissectRecords context template set.buffer (set.u16 2) observationId
                  (set.u16 2 + 1) 4 first with
              | error fault => exact trivial
              | ok records => exact absurd ran (endless records)
          | some places =>
              rw [dissectNetFlowV9V10FlowSetWithTemplate,
                dissectRecords_eq_of_places context template set.buffer (set.u16 2) observationId
                  first parsed]
              refine (printRecords_numbers small set.buffer observationId first places).bind ?_
              intro records _ numbers
              exact ⟨rfl, numbers⟩

theorem runSteps_numbers {context : PacketContext} (small : context.flowVersion < 65536)
    (first : UInt16) (sets : List SizedBuffer) (observationId : ObservationID) :
    Outcome (fun _ => True)
      (fun result => result.2.flatten.map FlowRecord.flowSequence =
          packetNumbers first (recordCounts context.handleIpfix observationId.templates sets) ∧
        ∀ record ∈ result.2.flatten, record.Carries context.flowVersion)
      (runSteps (dissectSet context first) observationId sets) := by
  induction sets generalizing observationId with
  | nil => exact ⟨rfl, by simp⟩
  | cons set rest ih =>
      rw [runSteps, recordCounts]
      cases kind : isTemplateSet context.handleIpfix set with
      | true =>
          simp only [dissectSet, kind, if_true, Run.ok_bind]
          refine (ih _).bind ?_
          intro result _ both
          obtain ⟨numbers, carries⟩ := both
          rw [saveTemplates_templates] at numbers
          exact ⟨numbers, carries⟩
      | false =>
          refine (dissectSet_numbers small first observationId kind).bind ?_
          intro result _ both
          obtain ⟨kept, numbers, carries⟩ := both
          refine (ih result.1).bind ?_
          intro later _ both
          obtain ⟨laterNumbers, laterCarries⟩ := both
          rw [kept] at laterNumbers
          simp only [Bool.false_eq_true, if_false, packetNumbers, List.flatMap_cons]
          constructor
          · rw [List.flatten_cons, List.map_append, numbers, laterNumbers]
            rfl
          · intro record member
            rw [List.flatten_cons, List.mem_append] at member
            rcases member with inSet | inLater
            · exact carries record inSet
            · exact laterCarries record inLater

/-! When the numbers are consecutive -/

def Consecutive (first : UInt32) (numbers : List UInt32) : Prop :=
  ∀ index number, numbers[index]? = some number → number = first + UInt32.ofNat index

theorem consecutive_append_iff {first : UInt32} {left right : List UInt32} :
    Consecutive first (left ++ right) ↔
      Consecutive first left ∧ Consecutive (first + UInt32.ofNat left.length) right := by
  have moved : ∀ index : Nat, first + UInt32.ofNat (left.length + index) =
      first + UInt32.ofNat left.length + UInt32.ofNat index := by
    intro index
    rw [UInt32.ofNat_add]
    grind
  constructor
  · intro consecutive
    constructor
    · intro index number found
      apply consecutive index number
      rw [List.getElem?_append_left (List.getElem?_eq_some_iff.mp found).1, found]
    · intro index number found
      rw [← moved]
      apply consecutive (left.length + index) number
      rw [List.getElem?_append_right (by omega), Nat.add_sub_cancel_left, found]
  · intro both index number found
    obtain ⟨before, after⟩ := both
    by_cases inLeft : index < left.length
    · rw [List.getElem?_append_left inLeft] at found
      exact before index number found
    · rw [List.getElem?_append_right (by omega)] at found
      have number := after _ _ found
      rwa [← moved, Nat.add_sub_cancel' (by omega)] at number

theorem Consecutive.nodup {first : UInt32} {numbers : List UInt32}
    (consecutive : Consecutive first numbers) (few : numbers.length ≤ 2 ^ 32) :
    numbers.Nodup := by
  rw [List.nodup_iff_getElem?_ne_getElem?]
  intro left right less inside same
  have leftNumber := consecutive left _ (List.getElem?_eq_getElem (by omega))
  have rightNumber := consecutive right _ (List.getElem?_eq_getElem inside)
  rw [List.getElem?_eq_getElem (by omega), List.getElem?_eq_getElem inside,
    Option.some.injEq] at same
  rw [leftNumber, rightNumber] at same
  have equal := congrArg UInt32.toNat same
  simp only [UInt32.toNat_add, UInt32.toNat_ofNat'] at equal
  omega

theorem length_setNumbers (first : UInt16) (count : Nat) :
    (setNumbers first count).length = count := by
  simp [setNumbers]

theorem consecutive_setNumbers_iff (first : UInt32) (count : Nat) :
    Consecutive first (setNumbers first.toUInt16 count) ↔
      count = 0 ∨ first.toNat + count ≤ 2 ^ 16 := by
  have value : ∀ index, index < count → ∀ number,
      (setNumbers first.toUInt16 count)[index]? = some number →
      number.toNat = (first.toNat + index) % 2 ^ 16 := by
    intro index inside number found
    simp only [setNumbers, List.getElem?_map, List.getElem?_range inside, Option.map_some,
      Option.some.injEq] at found
    rw [← found]
    simp
  have bound := first.toNat_lt
  constructor
  · intro consecutive
    by_cases none : count = 0
    · exact .inl none
    · right
      by_contra tooMany
      -- the first number is kept in 16 bits, and then the one where 16 bits wrap
      let index := 2 ^ 16 - first.toNat
      have inside : index < count := by
        simp only [index]
        omega
      obtain ⟨number, found⟩ : ∃ number,
          (setNumbers first.toUInt16 count)[index]? = some number :=
        ⟨_, List.getElem?_eq_getElem (by rwa [length_setNumbers])⟩
      have wrapped := value index inside number found
      have wanted := congrArg UInt32.toNat (consecutive index number found)
      simp only [UInt32.toNat_add, UInt32.toNat_ofNat', index] at wanted
      simp only [index] at wrapped
      omega
  · rintro (rfl | fits)
    · intro index number found
      simp [setNumbers] at found
    · intro index number found
      have inside : index < count := by
        have := (List.getElem?_eq_some_iff.mp found).1
        rwa [length_setNumbers] at this
      apply UInt32.toNat_inj.mp
      rw [value index inside number found, UInt32.toNat_add, UInt32.toNat_ofNat']
      omega

/-- There is no record, or the records are all in one set and the numbers do not reach
beyond 16 bits. -/
def OneSetWithin16Bits (first : UInt32) (counts : List Nat) : Prop :=
  counts.sum = 0 ∨ ∃ count ∈ counts, count = counts.sum ∧ first.toNat + count ≤ 2 ^ 16

theorem packetNumbers_eq_nil {first : UInt16} {counts : List Nat} (none : counts.sum = 0) :
    packetNumbers first counts = [] := by
  rw [packetNumbers, List.flatMap_eq_nil_iff]
  intro count member
  have zero := List.sum_eq_zero_iff_forall_eq_nat.mp none count member
  rw [zero]
  rfl

/-- The first number after those of a set starts anew. -/
theorem packetNumbers_head {first : UInt16} {counts : List Nat} (some : counts.sum ≠ 0) :
    ∃ rest, packetNumbers first counts = first.toUInt32 :: rest := by
  induction counts with
  | nil => simp at some
  | cons count later ih =>
      cases count with
      | zero =>
          rw [List.sum_cons, Nat.zero_add] at some
          obtain ⟨rest, numbers⟩ := ih some
          exact ⟨rest, by rw [← numbers]; rfl⟩
      | succ count =>
          refine ⟨setNumbers (first + 1) count ++ packetNumbers first later, ?_⟩
          rw [packetNumbers, List.flatMap_cons, setNumbers_succ]
          rfl

theorem consecutive_packetNumbers_iff (first : UInt32) (counts : List Nat) :
    Consecutive first (packetNumbers first.toUInt16 counts) ↔
      OneSetWithin16Bits first counts := by
  induction counts with
  | nil =>
      constructor
      · exact fun _ => .inl rfl
      · intro _ index number found
        simp [packetNumbers] at found
  | cons count later ih =>
      have split : packetNumbers first.toUInt16 (count :: later) =
          setNumbers first.toUInt16 count ++ packetNumbers first.toUInt16 later := rfl
      rw [split, consecutive_append_iff, consecutive_setNumbers_iff, length_setNumbers]
      cases count with
      | zero =>
          have same : first + UInt32.ofNat 0 = first := by simp
          rw [same, ih, OneSetWithin16Bits, OneSetWithin16Bits, List.sum_cons, Nat.zero_add]
          constructor
          · rintro ⟨_, none | ⟨count, member, all⟩⟩
            · exact .inl none
            · exact .inr ⟨count, List.mem_cons_of_mem 0 member, all⟩
          · rintro (none | ⟨count, member, all, fits⟩)
            · exact ⟨.inl rfl, .inl none⟩
            · rcases List.mem_cons.mp member with rfl | inLater
              · exact ⟨.inl rfl, .inl all.symm⟩
              · exact ⟨.inl rfl, .inr ⟨count, inLater, all, fits⟩⟩
      | succ count =>
          constructor
          · rintro ⟨noCount | fits, rest⟩
            · contradiction
            · right
              refine ⟨count + 1, List.mem_cons_self, ?_, fits⟩
              by_contra more
              -- another set with records starts with the number of the packet again
              have some : later.sum ≠ 0 := by
                rw [List.sum_cons] at more
                omega
              obtain ⟨others, numbers⟩ : ∃ others, packetNumbers first.toUInt16 later =
                  first.toUInt16.toUInt32 :: others := packetNumbers_head some
              have restarted := rest 0 first.toUInt16.toUInt32 (by rw [numbers]; rfl)
              have equal := congrArg UInt32.toNat restarted
              simp only [UInt32.toNat_add, UInt32.toNat_ofNat', UInt16.toNat_toUInt32,
                UInt32.toNat_toUInt16] at equal
              omega
          · rintro (none | ⟨most, member, all, fits⟩)
            · rw [List.sum_cons] at none
              omega
            · rw [List.sum_cons] at all
              have last : later.sum = 0 ∧ first.toNat + (count + 1) ≤ 2 ^ 16 := by
                rcases List.mem_cons.mp member with rfl | inLater
                · omega
                · have := List.single_le_sum (fun _ _ => Nat.zero_le _) most inLater
                  omega
              refine ⟨.inr last.2, ?_⟩
              rw [packetNumbers_eq_nil last.1]
              intro index number found
              simp at found

/-! Packets -/

def packetRecordCounts (sensor : Sensor) (buffer : Mem) (bufferLen : Nat) : List Nat :=
  match sensor.getObservationId (packetObservationId buffer) with
  | none => []
  | some observationId =>
      recordCounts (packetHandleIpfix buffer) observationId.templates (setsOf buffer bufferLen)

/-- Each record has the number after the one before it, and no two have the same. -/
structure NumberedFrom (first : UInt32) (records : List FlowRecord) : Prop where
  numbered : ∀ index record, records[index]? = some record →
    record.flowSequence = first + UInt32.ofNat index
  distinct : records.length < 2 ^ 32 → (records.map FlowRecord.flowSequence).Nodup

theorem numberedFrom_iff (first : UInt32) (records : List FlowRecord) :
    NumberedFrom first records ↔ Consecutive first (records.map FlowRecord.flowSequence) := by
  constructor
  · intro both index number found
    obtain ⟨numbered, _⟩ := both
    rw [List.getElem?_map, Option.map_eq_some_iff] at found
    obtain ⟨record, inRecords, rfl⟩ := found
    exact numbered index record inRecords
  · intro consecutive
    constructor
    · intro index record found
      exact consecutive index record.flowSequence (by rw [List.getElem?_map, found]; rfl)
    · intro few
      exact consecutive.nodup (by rw [List.length_map]; omega)

theorem dissectNetflowV9V10_numbers (globals : ReadOnlyGlobals) (sensor : Sensor) (buffer : Mem)
    (bufferLen : Nat) :
    Outcome (fun _ => True)
      (fun dissected =>
        dissected.records.map FlowRecord.flowSequence =
            packetNumbers (packetSequence buffer).toUInt16
              (packetRecordCounts sensor buffer bufferLen) ∧
          ∀ record ∈ dissected.records, record.Carries (headerNumber buffer 0 2))
      (dissectNetflowV9V10 globals sensor buffer bufferLen) := by
  refine dissectNetflowV9V10_outcome (fun _ records =>
    records.map FlowRecord.flowSequence =
        packetNumbers (packetSequence buffer).toUInt16
          (packetRecordCounts sensor buffer bufferLen) ∧
      ∀ record ∈ records, record.Carries (headerNumber buffer 0 2)) ?_ ?_
  · intro unknown
    rw [packetRecordCounts, unknown]
    exact ⟨rfl, by simp⟩
  · intro observationId known
    rw [packetRecordCounts, known]
    exact runSteps_numbers (headerNumber_lt buffer 0 2) (packetSequence buffer).toUInt16
      (setsOf buffer bufferLen) observationId

/-- The records of a packet show their numbers, and the numbers are consecutive exactly when
the packet stays within one set of records and 16 bits. -/
theorem dissectNetflowV9V10_consecutive_iff (globals : ReadOnlyGlobals) (sensor : Sensor)
    (buffer : Mem) (bufferLen : Nat) {dissected : Dissected}
    (ran : dissectNetflowV9V10 globals sensor buffer bufferLen = .ok dissected) :
    (∀ record ∈ dissected.records, record.Carries (headerNumber buffer 0 2)) ∧
      (NumberedFrom (packetSequence buffer) dissected.records ↔
        OneSetWithin16Bits (packetSequence buffer)
          (packetRecordCounts sensor buffer bufferLen)) := by
  obtain ⟨numbers, carries⟩ :=
    (dissectNetflowV9V10_numbers globals sensor buffer bufferLen).of_ok ran
  refine ⟨carries, ?_⟩
  rw [numberedFrom_iff, numbers, consecutive_packetNumbers_iff]

/-- One template with a field of four bytes, and sets with one record each. -/
def dataSets (sequence : Nat) (values : List Nat) : Bytes :=
  v9PacketBytes sequence
    (setBytes 0 (templateBytes 256 [(500, 4)]) ::
      values.map fun value => setBytes 256 (toBe 4 value))

def dissectDataSets (sequence : Nat) (values : List Nat) : Run Dissected :=
  dissectNetflowV9V10 splittingGlobals (sensorOf (.new 7)) (.ofBytes (dataSets sequence values))
    (dataSets sequence values).length

theorem dissectDataSets_one :
    ∃ dissected, dissectDataSets 5 [1] = .ok dissected ∧
      (∀ record ∈ dissected.records,
          record.Carries (headerNumber (.ofBytes (dataSets 5 [1])) 0 2)) ∧
        (NumberedFrom (packetSequence (.ofBytes (dataSets 5 [1]))) dissected.records ↔
          OneSetWithin16Bits (packetSequence (.ofBytes (dataSets 5 [1])))
            (packetRecordCounts (sensorOf (.new 7)) (.ofBytes (dataSets 5 [1]))
              (dataSets 5 [1]).length)) := by
  have ends : (dissectDataSets 5 [1]).map (fun _ => ()) = .ok () := by decide +kernel
  cases ran : dissectDataSets 5 [1] with
  | error fault =>
      rw [ran] at ends
      contradiction
  | ok dissected =>
      rw [dissectDataSets] at ran
      exact ⟨dissected, rfl, dissectNetflowV9V10_consecutive_iff _ _ _ _ ran⟩

/-- Two sets of one record each: both records get the number of the packet. -/
theorem dissectDataSets_two :
    ∃ dissected, dissectDataSets 5 [1, 2] = .ok dissected ∧
      ¬NumberedFrom (packetSequence (.ofBytes (dataSets 5 [1, 2]))) dissected.records := by
  have numbers : (dissectDataSets 5 [1, 2]).map
      (fun dissected => dissected.records.map FlowRecord.flowSequence) = .ok [5, 5] := by
    decide +kernel
  cases ran : dissectDataSets 5 [1, 2] with
  | error fault =>
      rw [ran] at numbers
      contradiction
  | ok dissected =>
      refine ⟨dissected, rfl, ?_⟩
      intro numbered
      rw [ran] at numbers
      have same : dissected.records.map FlowRecord.flowSequence = [5, 5] :=
        Except.ok.inj numbers
      have few : dissected.records.length < 2 ^ 32 := by
        rw [← List.length_map FlowRecord.flowSequence, same]
        decide
      have distinct := numbered.distinct few
      rw [same] at distinct
      simp at distinct

end F2k
