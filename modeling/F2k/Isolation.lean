import F2k.Datagrams
import F2k.Reads
import F2k.TemplateStore

namespace F2k

open Lib

/-! What the dissection of a set reads: while that is below a bound, the bytes from the bound
on make no difference. -/

/-! Records -/

/-- What the header of the packet adds to a record is the same. -/
structure PacketContext.Alike (first second : PacketContext) : Prop where
  globals : first.globals = second.globals
  flowVersion : first.flowVersion = second.flowVersion
  times : ∀ cache, withHeaderTimes first.handleIpfix first.flowHeader cache =
    withHeaderTimes first.handleIpfix second.flowHeader cache

theorem PacketContext.Alike.handleIpfix {first second : PacketContext}
    (alike : first.Alike second) : first.handleIpfix = second.handleIpfix := by
  rw [PacketContext.handleIpfix, PacketContext.handleIpfix, alike.flowVersion]

theorem PacketContext.Alike.refl (context : PacketContext) : context.Alike context :=
  ⟨rfl, rfl, fun _ => rfl⟩

def FieldPlace.Within (bound : Nat) (place : FieldPlace) : Prop :=
  place.place + place.reach ≤ bound

/-- Every record that is reached has its fields below the bound. -/
def RecordsWithin (bound : Nat) (handleIpfix : Bool) (fields : List TemplateField)
    (buffer : Mem) (endFlow : Nat) : Nat → Nat → Prop
  | 0, _ => True
  | turns + 1, displ =>
      displ + 4 ≤ endFlow →
        (∀ place ∈ (fieldPlaces handleIpfix buffer endFlow fields displ).1,
          place.Within bound) ∧
        RecordsWithin bound handleIpfix fields buffer endFlow turns
          (fieldPlaces handleIpfix buffer endFlow fields displ).2

section Records

variable {left right : Mem} {bound : Nat} (agree : Mem.AgreeBelow bound left right)

include agree in
theorem fieldExtent_congr (handleIpfix : Bool) (fieldLen : UInt16) {displ : Nat}
    (inside : displ < bound)
    (starts : displ + (fieldExtent handleIpfix fieldLen (left.shift displ)).1 ≤ bound) :
    fieldExtent handleIpfix fieldLen (left.shift displ) =
      fieldExtent handleIpfix fieldLen (right.shift displ) := by
  have first : left.shift displ 0 = right.shift displ 0 := agree displ inside
  rw [fieldExtent] at starts
  rw [fieldExtent, fieldExtent, ← first]
  split
  · next varies =>
      rw [if_pos varies] at starts
      split
      · rfl
      · next long =>
          rw [if_neg long] at starts
          have lengths : Mem.AgreeBelow 2 ((left.shift displ).shift 1)
              ((right.shift displ).shift 1) := by
            intro index small
            exact agree (displ + (1 + index)) (by simp only at starts; omega)
          rw [lengths.slice_eq (Nat.le_refl 2)]
  · rfl

include agree in
theorem fieldPlaces_congr (handleIpfix : Bool) {endFlow : Nat} (short : endFlow ≤ bound)
    {fields : List TemplateField} {displ : Nat}
    (within : ∀ place ∈ (fieldPlaces handleIpfix left endFlow fields displ).1,
      place.Within bound) :
    fieldPlaces handleIpfix left endFlow fields displ =
      fieldPlaces handleIpfix right endFlow fields displ := by
  induction fields generalizing displ with
  | nil => rfl
  | cons field rest ih =>
      rw [fieldPlaces] at within
      rw [fieldPlaces, fieldPlaces]
      by_cases inside : displ < endFlow
      · simp only [if_pos inside, List.forall_mem_cons] at within ⊢
        obtain ⟨own, others⟩ := within
        have starts := Nat.le_trans (Nat.le_add_right _ _) own
        have extent := fieldExtent_congr agree handleIpfix field.fieldLen
          (Nat.lt_of_lt_of_le inside short) starts
        rw [← extent, ih others]
      · rw [if_neg inside, if_neg inside]

include agree in
theorem printAlike_of_within {place : FieldPlace} (within : place.Within bound) :
    PrintAlike left right place place := by
  intro globals line cache
  apply FieldPlace.print_congr rfl rfl
  exact (agree.mono within).shift

theorem printRecord_alike {first second : PacketContext} (alike : first.Alike second)
    (buffer : Mem) (observationId : ObservationID) (flowSequenceNumber : UInt16)
    (places : List FieldPlace) :
    printRecord first buffer observationId flowSequenceNumber places =
      printRecord second buffer observationId flowSequenceNumber places := by
  rw [printRecord, printRecord, ← alike.globals, ← alike.flowVersion, ← alike.handleIpfix]
  simp only [alike.times]

theorem dissectRecords_turn (context : PacketContext) (template : FlowSetV9Ipfix) (buffer : Mem)
    (observationId : ObservationID) {endFlow displ : Nat} (another : displ + 4 ≤ endFlow)
    (turns : Nat) (flowSequenceNumber : UInt16) :
    dissectRecords context template buffer endFlow observationId (turns + 1) displ
        flowSequenceNumber =
      dissectRecord context template buffer endFlow observationId flowSequenceNumber displ >>=
        fun read => dissectRecords context template buffer endFlow observationId turns read.2
          (flowSequenceNumber + 1) >>= fun rest => pure (read.1 :: rest) := by
  rw [dissectRecords, if_pos (by omega), if_neg (by omega)]

theorem dissectRecords_end (context : PacketContext) (template : FlowSetV9Ipfix) (buffer : Mem)
    (observationId : ObservationID) {endFlow displ : Nat} (none : ¬displ + 4 ≤ endFlow)
    (turns : Nat) (flowSequenceNumber : UInt16) :
    dissectRecords context template buffer endFlow observationId (turns + 1) displ
        flowSequenceNumber = pure [] := by
  rw [dissectRecords]
  split
  · rw [if_pos (by omega)]
  · rfl

include agree in
theorem dissectRecords_congr {first second : PacketContext} (alike : first.Alike second)
    {endFlow : Nat} (short : endFlow ≤ bound) (template : FlowSetV9Ipfix)
    (observationId : ObservationID) {turns displ : Nat}
    (within : RecordsWithin bound first.handleIpfix template.fields left endFlow turns displ)
    (flowSequenceNumber : UInt16) :
    dissectRecords first template left endFlow observationId turns displ flowSequenceNumber =
      dissectRecords second template right endFlow observationId turns displ
        flowSequenceNumber := by
  induction turns generalizing displ flowSequenceNumber with
  | zero => rfl
  | succ turns ih =>
      by_cases another : displ + 4 ≤ endFlow
      · obtain ⟨fields, later⟩ := within another
        have places := fieldPlaces_congr agree first.handleIpfix short fields
        have printed : printRecord first left observationId flowSequenceNumber
              (fieldPlaces first.handleIpfix left endFlow template.fields displ).1 =
            printRecord second right observationId flowSequenceNumber
              (fieldPlaces first.handleIpfix left endFlow template.fields displ).1 := by
          rw [← printRecord_alike alike]
          apply printRecord_congr
          exact List.forall₂_same.mpr fun place member =>
            printAlike_of_within agree (fields place member)
        rw [dissectRecords_turn _ _ _ _ another, dissectRecords_turn _ _ _ _ another,
          dissectRecord_eq, dissectRecord_eq, ← alike.handleIpfix, ← places, printed]
        cases printRecord second right observationId flowSequenceNumber
            (fieldPlaces first.handleIpfix left endFlow template.fields displ).1 with
        | error fault => simp only [Except.map, Run.error_bind]
        | ok record => simp only [Except.map, Run.ok_bind, ih later]
      · rw [dissectRecords_end _ _ _ _ another, dissectRecords_end _ _ _ _ another]

end Records

/-! Options -/

theorem u16_congr {left right : Mem} {bound offset : Nat} (size : Nat)
    (agree : Mem.AgreeBelow bound left right) (inside : offset + 2 ≤ bound) :
    SizedBuffer.u16 { buffer := left, size } offset =
      SizedBuffer.u16 { buffer := right, size } offset := by
  rw [SizedBuffer.u16, SizedBuffer.u16, (agree.mono inside).shift.slice_eq (Nat.le_refl 2)]

section Options

variable {left right : Mem} {size : Nat} (agree : Mem.AgreeBelow size left right)

include agree in
theorem readOptionFields_congr {fields : List TemplateField} {cursor : Nat}
    (names : OptionNames) :
    readOptionFields { buffer := left, size } fields cursor names =
      readOptionFields { buffer := right, size } fields cursor names := by
  induction fields generalizing cursor names with
  | nil => rfl
  | cons field rest ih =>
      rw [readOptionFields, readOptionFields]
      simp only
      split
      · rfl
      · next fits =>
          have value : (left.shift cursor).slice field.fieldLen.toNat =
              (right.shift cursor).slice field.fieldLen.toNat := by
            have part := agree.mono (Nat.not_lt.mp fits)
            exact part.shift.slice_eq (Nat.le_refl _)
          rw [value, ih]

include agree in
theorem dissectOptionFlows_congr (small : size < 2 ^ 64) (template : FlowSetV9Ipfix)
    {turns cursor : Nat} (observationId : ObservationID) :
    dissectOptionFlows template { buffer := left, size } turns cursor observationId =
      dissectOptionFlows template { buffer := right, size } turns cursor observationId := by
  induction turns generalizing cursor observationId with
  | zero => rfl
  | succ turns ih =>
      rw [dissectOptionFlows, dissectOptionFlows]
      simp only
      split
      · next inside =>
          have rest : (size + 2 ^ 64 - cursor) % 2 ^ 64 = size - cursor := by omega
          have part : Mem.AgreeBelow (size - cursor) (left.shift cursor) (right.shift cursor) := by
            apply Mem.AgreeBelow.shift
            rwa [Nat.add_sub_cancel' (Nat.le_of_lt inside)]
          have one : dissectNf9OptionFlow template
                (SizedBuffer.after { buffer := left, size } cursor) observationId =
              dissectNf9OptionFlow template
                (SizedBuffer.after { buffer := right, size } cursor) observationId := by
            rw [SizedBuffer.after, SizedBuffer.after, dissectNf9OptionFlow, dissectNf9OptionFlow]
            simp only [rest, readOptionFields_congr part]
          rw [one]
          congr 1
          funext learned
          exact ih learned.1
      · rfl

end Options

/-! Templates -/

/-- How many fields of an option template are read. -/
def optionEntries (handleIpfix : Bool) (sbuffer : SizedBuffer) : Nat :=
  let params :=
    if handleIpfix then dissectIpfixOptionTemplateParams sbuffer
    else dissectNf9OptionTemplateParams sbuffer
  min maxNumEntries ((params.scopeFieldCount + params.fieldCount) % 2 ^ 16)

/-- Every header of a flow template that is looked for is below the bound. -/
def HeadersWithin (bound : Nat) (handleIpfix : Bool) (set : SizedBuffer) : Nat → Nat → Prop
  | 0, _ => True
  | turns + 1, displ =>
      displ < set.size →
        displ + 4 ≤ bound ∧
        HeadersWithin bound handleIpfix set turns
          (displ + (dissectFlowTemplate handleIpfix (set.after displ)).2)

section Templates

variable {left right : Mem} {size bound : Nat} (agree : Mem.AgreeBelow bound left right)
  (handleIpfix : Bool)

theorem fieldAt_congr {displ : Nat} (agree : Mem.AgreeBelow bound left right)
    (inside : displ + 4 ≤ bound) (mask : UInt16) :
    fieldAt { buffer := left, size } displ mask =
      fieldAt { buffer := right, size } displ mask := by
  rw [fieldAt, fieldAt, u16_congr size agree (by omega),
    u16_congr size agree (by omega)]

include agree in
theorem dissectTemplateFields_congr (short : size ≤ bound) (count displ : Nat) :
    dissectTemplateFields handleIpfix { buffer := left, size } count displ =
      dissectTemplateFields handleIpfix { buffer := right, size } count displ := by
  induction count generalizing displ with
  | zero => rfl
  | succ count ih =>
      simp only [dissectTemplateFields]
      by_cases inside : displ < size
      · have four : 4 ≤ if (handleIpfix && right displ &&& 128 != 0) = true then 8 else 4 := by
          split <;> decide
        simp only [agree displ (by omega)]
        generalize (if (handleIpfix && right displ &&& 128 != 0) = true then 8 else 4) =
          taken at four ⊢
        by_cases fits : displ + taken > size
        · rw [if_pos fits, if_pos fits]
        · rw [if_neg fits, if_neg fits, ih, fieldAt_congr agree (by omega)]
      · have beyond : ∀ memory : Mem,
            displ + (if (handleIpfix && memory displ &&& 128 != 0) = true then 8 else 4) >
              size := by
          intro memory
          split <;> omega
        rw [if_pos (beyond left), if_pos (beyond right)]

include agree in
theorem dissectFlowTemplate_congr (short : size ≤ bound) (header : 4 ≤ bound) :
    dissectFlowTemplate handleIpfix { buffer := left, size } =
      dissectFlowTemplate handleIpfix { buffer := right, size } := by
  have id := u16_congr size agree (show 0 + 2 ≤ bound by omega)
  have count := u16_congr size agree (show 2 + 2 ≤ bound by omega)
  rw [dissectFlowTemplate, dissectFlowTemplate, id, count]
  simp only [dissectTemplateFields_congr agree handleIpfix short]

include agree in
theorem flowTemplates_congr (short : size ≤ bound) (small : size < 2 ^ 64) {turns displ : Nat}
    (within : HeadersWithin bound handleIpfix { buffer := left, size } turns displ) :
    flowTemplates handleIpfix { buffer := left, size } turns displ =
      flowTemplates handleIpfix { buffer := right, size } turns displ := by
  induction turns generalizing displ with
  | zero => rfl
  | succ turns ih =>
      rw [flowTemplates, flowTemplates]
      by_cases inside : displ < size
      · obtain ⟨header, later⟩ := within inside
        have rest : (size + 2 ^ 64 - displ) % 2 ^ 64 = size - displ := by omega
        have part : Mem.AgreeBelow (bound - displ) (left.shift displ) (right.shift displ) := by
          apply Mem.AgreeBelow.shift
          rwa [Nat.add_sub_cancel' (by omega)]
        have one : dissectFlowTemplate handleIpfix
              (SizedBuffer.after { buffer := left, size } displ) =
            dissectFlowTemplate handleIpfix
              (SizedBuffer.after { buffer := right, size } displ) := by
          rw [SizedBuffer.after, SizedBuffer.after]
          simp only [rest]
          exact dissectFlowTemplate_congr part handleIpfix (by omega) (by omega)
        simp only [if_pos inside, ← one, ih later]
      · simp only [if_neg inside]

/-- The parts of an option template are read one after another: the header where the buffer
holds one, and then the fields where it holds them. -/
theorem dissectOptionTemplate_eq (sbuffer : SizedBuffer) :
    dissectOptionTemplate handleIpfix sbuffer =
      if sbuffer.size < 6 then none
      else if sbuffer.size < 6 + 4 * optionEntries handleIpfix sbuffer then none
      else
        some
          { templateId := UInt16.ofNat (sbuffer.u16 0)
            isOptionTemplate := true
            fields := (List.range (optionEntries handleIpfix sbuffer)).map fun index =>
              fieldAt sbuffer (6 + 4 * index) 0xffff } := by
  have capped : ∀ announced, min maxNumEntries announced =
      if announced > maxNumEntries then maxNumEntries else announced := by
    intro announced
    split
    · next more => exact Nat.min_eq_left (Nat.le_of_lt more)
    · next few => exact Nat.min_eq_right (Nat.not_lt.mp few)
  have id : (if handleIpfix = true then dissectIpfixOptionTemplateParams sbuffer
      else dissectNf9OptionTemplateParams sbuffer).templateId = sbuffer.u16 0 := by
    cases handleIpfix <;> rfl
  simp only [dissectOptionTemplate, optionEntries, capped, optionTemplateHeaderSize, id]

include agree in
theorem optionEntries_congr (header : 6 ≤ bound) :
    optionEntries handleIpfix { buffer := left, size } =
      optionEntries handleIpfix { buffer := right, size } := by
  have first := u16_congr size agree (show 2 + 2 ≤ bound by omega)
  have second := u16_congr size agree (show 4 + 2 ≤ bound by omega)
  rw [optionEntries, optionEntries]
  cases handleIpfix with
  | true =>
      simp only [if_true, dissectIpfixOptionTemplateParams, first, second]
  | false =>
      simp only [Bool.false_eq_true, if_false, dissectNf9OptionTemplateParams, first, second]

include agree in
theorem dissectOptionTemplate_congr (header : 6 ≤ size → 6 ≤ bound)
    (fields : 6 + 4 * optionEntries handleIpfix { buffer := left, size } ≤ size →
      6 + 4 * optionEntries handleIpfix { buffer := left, size } ≤ bound) :
    dissectOptionTemplate handleIpfix { buffer := left, size } =
      dissectOptionTemplate handleIpfix { buffer := right, size } := by
  rw [dissectOptionTemplate_eq, dissectOptionTemplate_eq]
  simp only
  by_cases short : size < 6
  · rw [if_pos short, if_pos short]
  · rw [if_neg short, if_neg short,
      ← optionEntries_congr agree handleIpfix (header (by omega))]
    by_cases cut : size < 6 + 4 * optionEntries handleIpfix { buffer := left, size }
    · rw [if_pos cut, if_pos cut]
    · have room := fields (by omega)
      have id := u16_congr size agree (show 0 + 2 ≤ bound by omega)
      have fields : ∀ index ∈ List.range (optionEntries handleIpfix { buffer := left, size }),
          fieldAt { buffer := left, size } (6 + 4 * index) 0xffff =
            fieldAt { buffer := right, size } (6 + 4 * index) 0xffff := by
        intro index member
        have inside := List.mem_range.mp member
        exact fieldAt_congr agree (by omega) 0xffff
      rw [if_neg cut, if_neg cut, id, List.map_congr_left fields]

end Templates

/-! Sets -/

/-- Where a template set is read. A set shorter than its own header is taken for one that does
not end. -/
def TemplatesWithin (bound : Nat) (handleIpfix : Bool) (set : SizedBuffer) : Prop :=
  if set.buffer 1 != 0 && !(handleIpfix && set.buffer 1 == 2) then
    set.size < 4 → 10 + 4 * optionEntries handleIpfix (set.after 4) ≤ bound
  else HeadersWithin bound handleIpfix set (set.size + 1) 4

/-- Everything that is read of a set is below the bound. -/
def SetWithin (bound : Nat) (context : PacketContext) (observationId : ObservationID)
    (set : SizedBuffer) : Prop :=
  if isTemplateSet context.handleIpfix set then TemplatesWithin bound context.handleIpfix set
  else
    ∀ template, usableTemplate observationId (set.u16 0) = some template →
      if template.isOptionTemplate then set.size < 4 → 4 + set.size ≤ bound
      else
        RecordsWithin bound context.handleIpfix template.fields set.buffer set.size
          (set.size + 1) 4

section Sets

variable {left right : Mem} {size bound : Nat} (agree : Mem.AgreeBelow bound left right)
  (header : 4 ≤ bound) (short : size ≤ bound) (small : size < 2 ^ 16)

include agree header short small in
theorem announcedTemplates_congr (handleIpfix : Bool)
    (within : TemplatesWithin bound handleIpfix { buffer := left, size }) :
    announcedTemplates handleIpfix { buffer := left, size } =
      announcedTemplates handleIpfix { buffer := right, size } := by
  have kind : left 1 = right 1 := agree 1 (by omega)
  rw [TemplatesWithin] at within
  rw [announcedTemplates, announcedTemplates]
  simp only [← kind] at within ⊢
  split
  · next isOption =>
      rw [if_pos isOption] at within
      have part : Mem.AgreeBelow (bound - 4) (left.shift 4) (right.shift 4) := by
        apply Mem.AgreeBelow.shift
        rwa [Nat.add_sub_cancel' header]
      rw [SizedBuffer.after, SizedBuffer.after]
      simp only
      have rest : size < 4 ∨ (size + 2 ^ 64 - 4) % 2 ^ 64 = size - 4 := by omega
      rw [dissectOptionTemplate_congr part handleIpfix]
      · intro long
        rcases rest with underflows | rest
        · have := within underflows
          omega
        · omega
      · intro long
        rcases rest with underflows | rest
        · have := within underflows
          rw [SizedBuffer.after] at this
          simp only at this
          omega
        · omega
  · next isFlow =>
      rw [if_neg isFlow] at within
      rw [flowTemplates_congr agree handleIpfix short (by omega) within]

include agree header short small in
/-- A set is dissected in the same way whatever stands from the bound on. -/
theorem dissectSet_congr {first second : PacketContext} (alike : first.Alike second)
    (flowSequenceNumber : UInt16) (observationId : ObservationID)
    (sized : SizedBuffer.u16 { buffer := left, size } 2 = size)
    (within : SetWithin bound first observationId { buffer := left, size }) :
    dissectSet first flowSequenceNumber observationId { buffer := left, size } =
      dissectSet second flowSequenceNumber observationId { buffer := right, size } := by
  have id := u16_congr size agree (show 0 + 2 ≤ bound by omega)
  have length := u16_congr size agree (show 2 + 2 ≤ bound by omega)
  have kinds : isTemplateSet first.handleIpfix { buffer := left, size } =
      isTemplateSet second.handleIpfix { buffer := right, size } := by
    have zero : left 0 = right 0 := agree 0 (by omega)
    simp only [isTemplateSet, id, zero, alike.handleIpfix]
  rw [SetWithin] at within
  rw [dissectSet, dissectSet, ← kinds, ← alike.handleIpfix]
  split
  · next isTemplate =>
      rw [if_pos isTemplate] at within
      rw [announcedTemplates_congr agree header short small first.handleIpfix within]
  · next isData =>
      rw [if_neg isData] at within
      rw [dissectNetFlowV9V10Flow, dissectNetFlowV9V10Flow, ← id, ← length, sized]
      cases usable : usableTemplate observationId (SizedBuffer.u16 { buffer := left, size } 0) with
      | none => rfl
      | some template =>
          have within := within template usable
          by_cases isOption : template.isOptionTemplate
          · rw [if_pos isOption] at within
            replace within : size < 4 → 4 + size ≤ bound := within
            simp only [if_pos isOption, SizedBuffer.after]
            have bodySize : min size ((size + 2 ^ 64 - 4) % 2 ^ 64) + 4 ≤ bound := by
              omega
            have part : Mem.AgreeBelow (min size ((size + 2 ^ 64 - 4) % 2 ^ 64)) (left.shift 4)
                (right.shift 4) := by
              apply Mem.AgreeBelow.shift
              exact agree.mono (by omega)
            have body : ∀ observationId, dissectOptionFlowSet template
                  { buffer := left.shift 4, size := min size ((size + 2 ^ 64 - 4) % 2 ^ 64) }
                  observationId =
                dissectOptionFlowSet template
                  { buffer := right.shift 4, size := min size ((size + 2 ^ 64 - 4) % 2 ^ 64) }
                  observationId := by
              intro observationId
              exact dissectOptionFlows_congr part (by omega) template observationId
            rw [body]
          · rw [if_neg isOption] at within
            simp only [if_neg isOption]
            have records := dissectRecords_congr agree alike short template observationId within
              flowSequenceNumber
            rw [dissectNetFlowV9V10FlowSetWithTemplate, dissectNetFlowV9V10FlowSetWithTemplate,
              records]

end Sets

end F2k
