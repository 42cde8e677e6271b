import F2k.Datagrams
import F2k.Encode
import F2k.PrinterFaults

namespace F2k

open Lib

/-! The loops over the records of a data set: they go on only as long as every record takes
bytes, which is up to the template that was stored for the set. -/

/-- Whether a record of the template takes bytes: a variable length has its own bytes. -/
def FlowSetV9Ipfix.HasBytes (template : FlowSetV9Ipfix) : Prop :=
  ∃ field ∈ template.fields, field.fieldLen ≠ 0

theorem fieldExtent_pos (handleIpfix : Bool) {fieldLen : UInt16} (buffer : Mem)
    (hasBytes : fieldLen ≠ 0) :
    0 < (fieldExtent handleIpfix fieldLen buffer).2 +
      (fieldExtent handleIpfix fieldLen buffer).1 := by
  rw [fieldExtent]
  split
  · split <;> simp
  · have positive : fieldLen.toNat ≠ 0 := fun zero => hasBytes (UInt16.toNat_inj.mp zero)
    simp only
    omega

theorem fieldExtent_zero (handleIpfix : Bool) (buffer : Mem) :
    fieldExtent handleIpfix 0 buffer = (0, 0) := by
  simp [fieldExtent]

section Records

variable (handleIpfix : Bool) (buffer : Mem) (endFlow : Nat)

theorem le_fieldPlaces (fields : List TemplateField) (displ : Nat) :
    displ ≤ (fieldPlaces handleIpfix buffer endFlow fields displ).2 := by
  induction fields generalizing displ with
  | nil => exact Nat.le_refl displ
  | cons field rest ih =>
      rw [fieldPlaces]
      split
      · exact Nat.le_trans (Nat.le_add_right _ _) (ih _)
      · exact Nat.le_refl displ

theorem lt_fieldPlaces {fields : List TemplateField} {displ : Nat}
    (hasBytes : ∃ field ∈ fields, field.fieldLen ≠ 0) (inside : displ < endFlow) :
    displ < (fieldPlaces handleIpfix buffer endFlow fields displ).2 := by
  induction fields generalizing displ with
  | nil => simp at hasBytes
  | cons field rest ih =>
      rw [fieldPlaces, if_pos inside]
      by_cases first : field.fieldLen = 0
      · simp only [first, fieldExtent_zero]
        have later : ∃ field ∈ rest, field.fieldLen ≠ 0 := by simpa [first] using hasBytes
        exact ih later inside
      · have taken := fieldExtent_pos handleIpfix (buffer.shift displ) first
        have le := le_fieldPlaces handleIpfix buffer endFlow rest
          (displ + ((fieldExtent handleIpfix field.fieldLen (buffer.shift displ)).2 +
            (fieldExtent handleIpfix field.fieldLen (buffer.shift displ)).1))
        exact Nat.lt_of_lt_of_le (Nat.lt_add_of_pos_right taken) le

theorem fieldPlaces_still {fields : List TemplateField} (displ : Nat)
    (noBytes : ∀ field ∈ fields, field.fieldLen = 0) :
    (fieldPlaces handleIpfix buffer endFlow fields displ).2 = displ := by
  induction fields with
  | nil => rfl
  | cons field rest ih =>
      obtain ⟨first, later⟩ := List.forall_mem_cons.mp noBytes
      rw [fieldPlaces]
      split
      · simp only [first, fieldExtent_zero]
        exact ih later
      · rfl

/-- A turn of the loop over the records: one starts at `displ`, the next one at `next`. -/
def RecordTurn (fields : List TemplateField) (displ next : Nat) : Prop :=
  displ + 4 ≤ endFlow ∧ next = (fieldPlaces handleIpfix buffer endFlow fields displ).2

theorem recordPlaces_ends {fields : List TemplateField} {turns displ : Nat}
    (hasBytes : ∃ field ∈ fields, field.fieldLen ≠ 0) (left : 0 < turns)
    (enough : endFlow < turns + displ) :
    ∃ records, recordPlaces handleIpfix fields buffer endFlow turns displ = some records := by
  induction turns generalizing displ with
  | zero => contradiction
  | succ turns ih =>
      rw [recordPlaces]
      by_cases another : displ + 4 ≤ endFlow
      · have progress := lt_fieldPlaces handleIpfix buffer endFlow hasBytes
          (show displ < endFlow by omega)
        obtain ⟨rest, parsed⟩ :=
          ih (by omega)
            (show endFlow < turns + (fieldPlaces handleIpfix buffer endFlow fields displ).2 by
              omega)
        refine ⟨(fieldPlaces handleIpfix buffer endFlow fields displ).1 :: rest, ?_⟩
        simp only [if_pos another, parsed, Option.map_some]
      · exact ⟨[], by rw [if_neg another]⟩

/-- A record without bytes starts where the one before it did, again and again. -/
theorem recordPlaces_endless {fields : List TemplateField} {displ : Nat}
    (noBytes : ∀ field ∈ fields, field.fieldLen = 0) (another : displ + 4 ≤ endFlow)
    (turns : Nat) : recordPlaces handleIpfix fields buffer endFlow turns displ = none := by
  induction turns with
  | zero => rfl
  | succ turns ih =>
      have still := fieldPlaces_still handleIpfix buffer endFlow displ noBytes
      simp only [recordPlaces, if_pos another, still, ih, Option.map_none]

end Records

theorem recordTurn_of_dissectRecord {context : PacketContext} {template : FlowSetV9Ipfix}
    {buffer : Mem} {endFlow : Nat} {observationId : ObservationID} {flowSequenceNumber : UInt16}
    {displ next : Nat} {record : FlowRecord} (another : displ + 4 ≤ endFlow)
    (ran : dissectRecord context template buffer endFlow observationId flowSequenceNumber displ =
      .ok (record, next)) :
    RecordTurn context.handleIpfix buffer endFlow template.fields displ next := by
  rw [dissectRecord_eq] at ran
  cases printed : printRecord context buffer observationId flowSequenceNumber
      (fieldPlaces context.handleIpfix buffer endFlow template.fields displ).1 with
  | error fault =>
      rw [printed] at ran
      contradiction
  | ok record =>
      rw [printed] at ran
      cases ran
      exact ⟨another, rfl⟩

section Options

variable (sbuffer : SizedBuffer)

theorem readOptionFields_le (fields : List TemplateField) {cursor : Nat} (names : OptionNames)
    (inside : cursor ≤ sbuffer.size) :
    cursor ≤ (readOptionFields sbuffer fields cursor names).2 := by
  induction fields generalizing cursor names with
  | nil => exact Nat.le_refl cursor
  | cons field rest ih =>
      rw [readOptionFields]
      split
      · exact inside
      · exact Nat.le_trans (Nat.le_add_right _ _) (ih _ (by omega))

theorem lt_readOptionFields {fields : List TemplateField} {cursor : Nat} (names : OptionNames)
    (hasBytes : ∃ field ∈ fields, field.fieldLen ≠ 0) (inside : cursor < sbuffer.size) :
    cursor < (readOptionFields sbuffer fields cursor names).2 := by
  induction fields generalizing cursor names with
  | nil => simp at hasBytes
  | cons field rest ih =>
      rw [readOptionFields]
      split
      · exact inside
      · next fits =>
          by_cases first : field.fieldLen = 0
          · have later : ∃ field ∈ rest, field.fieldLen ≠ 0 := by
              simpa [first] using hasBytes
            simp only [first]
            exact ih _ later inside
          · have taken : field.fieldLen.toNat ≠ 0 := fun zero =>
              first (UInt16.toNat_inj.mp zero)
            have le := readOptionFields_le sbuffer rest
              (names.read field.fieldId.toNat
                ((sbuffer.buffer.shift cursor).slice field.fieldLen.toNat))
              (show cursor + field.fieldLen.toNat ≤ sbuffer.size by omega)
            exact Nat.lt_of_lt_of_le
              (Nat.lt_add_of_pos_right (Nat.pos_of_ne_zero taken)) le

theorem readOptionFields_still {fields : List TemplateField} {cursor : Nat} (names : OptionNames)
    (noBytes : ∀ field ∈ fields, field.fieldLen = 0) (inside : cursor ≤ sbuffer.size) :
    (readOptionFields sbuffer fields cursor names).2 = cursor := by
  induction fields generalizing names with
  | nil => rfl
  | cons field rest ih =>
      obtain ⟨first, later⟩ := List.forall_mem_cons.mp noBytes
      have fits : ¬cursor + field.fieldLen.toNat > sbuffer.size := by
        rw [first]
        exact Nat.not_lt.mpr inside
      rw [readOptionFields, if_neg fits, first]
      exact ih _ later

/-- A turn of the loop over the option records of a set. -/
def OptionTurn (template : FlowSetV9Ipfix) (cursor next : Nat) : Prop :=
  cursor < sbuffer.size ∧
    next = cursor + (readOptionFields (sbuffer.after cursor) template.fields 0 {}).2

theorem learnNames_outcome (names : OptionNames) (observationId : ObservationID) :
    Outcome (fun fault => fault = .nullInterfaceText) (fun _ => True)
      (learnNames names observationId) := by
  rw [learnNames, learnInterface]
  split
  · split
    · exact trivial
    · exact rfl
  · exact trivial

theorem dissectOptionFlows_outcome {template : FlowSetV9Ipfix} {turns cursor : Nat}
    (small : sbuffer.size < 2 ^ 64) (hasBytes : template.HasBytes) (left : 0 < turns)
    (enough : sbuffer.size < turns + cursor) (observationId : ObservationID) :
    Outcome (fun fault => fault = .nullInterfaceText) (fun _ => True)
      (dissectOptionFlows template sbuffer turns cursor observationId) := by
  induction turns generalizing cursor observationId with
  | zero => contradiction
  | succ turns ih =>
      rw [dissectOptionFlows]
      by_cases inside : cursor < sbuffer.size
      · have within := after_size (Nat.le_of_lt inside) small
        have progress := lt_readOptionFields (sbuffer.after cursor) {} hasBytes
          (show 0 < (sbuffer.after cursor).size by omega)
        rw [if_pos inside]
        have taken : Outcome (fun fault => fault = .nullInterfaceText)
            (fun result : ObservationID × Nat => 0 < result.2)
            (dissectNf9OptionFlow template (sbuffer.after cursor) observationId) := by
          refine (learnNames_outcome _ observationId).bind ?_
          intro learned _ _
          exact progress
        refine taken.bind ?_
        intro result _ some
        exact ih (by omega) (by omega) result.1
      · rw [if_neg inside]
        exact trivial

end Options

/-! Sets -/

/-- The bytes of an option data set that are read. -/
def optionBody (set : SizedBuffer) : SizedBuffer :=
  { set.after 4 with size := min (set.u16 2) (set.after 4).size }

/-- A turn of the loop over the records of a data set, of either kind. -/
def SetTurn (handleIpfix : Bool) (template : FlowSetV9Ipfix) (set : SizedBuffer)
    (place next : Nat) : Prop :=
  if template.isOptionTemplate then OptionTurn (optionBody set) template place next
  else RecordTurn handleIpfix set.buffer (set.u16 2) template.fields place next

def firstRecord (template : FlowSetV9Ipfix) : Nat :=
  if template.isOptionTemplate then 0 else 4

/-- Every turn of the loop over the records of the set takes at least one byte. -/
def Consumes (context : PacketContext) (observationId : ObservationID) (set : SizedBuffer) :
    Prop :=
  isTemplateSet context.handleIpfix set = false → ∀ template,
    usableTemplate observationId (set.u16 0) = some template → ∀ place next,
      Relation.ReflTransGen (SetTurn context.handleIpfix template set) (firstRecord template)
        place →
      SetTurn context.handleIpfix template set place next → place < next

/-- Whether a data set has a record at all. -/
def HasRecord (template : FlowSetV9Ipfix) (set : SizedBuffer) : Prop :=
  if template.isOptionTemplate then 0 < (optionBody set).size else 8 ≤ set.u16 2

/-- A set with records is not for a template whose records take no bytes. -/
def RecordsHaveBytes (context : PacketContext) (observationId : ObservationID)
    (set : SizedBuffer) : Prop :=
  isTemplateSet context.handleIpfix set = false → ∀ template,
    usableTemplate observationId (set.u16 0) = some template →
      HasRecord template set → template.HasBytes

theorem optionBody_small (set : SizedBuffer) : (optionBody set).size < 2 ^ 64 := by
  have bound : (set.after 4).size < 2 ^ 64 := Nat.mod_lt _ (by decide)
  exact Nat.lt_of_le_of_lt (Nat.min_le_right _ _) bound

theorem setTurn_lt {handleIpfix : Bool} {template : FlowSetV9Ipfix} {set : SizedBuffer}
    {place next : Nat} (hasBytes : template.HasBytes)
    (turn : SetTurn handleIpfix template set place next) : place < next := by
  rw [SetTurn] at turn
  split at turn
  · obtain ⟨inside, rfl⟩ := turn
    have within := after_size (Nat.le_of_lt inside) (optionBody_small set)
    have progress := lt_readOptionFields ((optionBody set).after place) {} hasBytes
      (show 0 < ((optionBody set).after place).size by omega)
    omega
  · obtain ⟨another, rfl⟩ := turn
    exact lt_fieldPlaces handleIpfix set.buffer _ hasBytes (by omega)

theorem hasRecord_of_setTurn {handleIpfix : Bool} {template : FlowSetV9Ipfix}
    {set : SizedBuffer} {place next : Nat} (first : firstRecord template ≤ place)
    (turn : SetTurn handleIpfix template set place next) : HasRecord template set := by
  rw [SetTurn] at turn
  rw [firstRecord] at first
  rw [HasRecord]
  split at turn
  · next isOption =>
      rw [if_pos isOption]
      exact Nat.lt_of_le_of_lt (Nat.zero_le _) turn.1
  · next isFlow =>
      rw [if_neg isFlow] at first ⊢
      have := turn.1
      omega

theorem setTurn_still (handleIpfix : Bool) {template : FlowSetV9Ipfix} {set : SizedBuffer}
    (noBytes : ∀ field ∈ template.fields, field.fieldLen = 0)
    (record : HasRecord template set) :
    SetTurn handleIpfix template set (firstRecord template) (firstRecord template) := by
  rw [HasRecord] at record
  rw [SetTurn, firstRecord]
  split
  · next isOption =>
      rw [if_pos isOption] at record
      refine ⟨record, ?_⟩
      rw [readOptionFields_still _ _ noBytes (Nat.zero_le _)]
  · next isFlow =>
      rw [if_neg isFlow] at record
      exact ⟨by omega, (fieldPlaces_still _ _ _ _ noBytes).symm⟩

theorem le_of_reached {handleIpfix : Bool} {template : FlowSetV9Ipfix} {set : SizedBuffer}
    {place : Nat}
    (reached : Relation.ReflTransGen (SetTurn handleIpfix template set) (firstRecord template)
      place) : firstRecord template ≤ place := by
  induction reached with
  | refl => exact Nat.le_refl _
  | @tail place next _ turn ih =>
      refine Nat.le_trans ih ?_
      rw [SetTurn] at turn
      split at turn
      · rw [turn.2]
        exact Nat.le_add_right _ _
      · rw [turn.2]
        exact le_fieldPlaces _ _ _ _ _

theorem consumes_iff (context : PacketContext) (observationId : ObservationID)
    (set : SizedBuffer) :
    Consumes context observationId set ↔ RecordsHaveBytes context observationId set := by
  constructor
  · intro consumes isData template found record
    by_contra without
    have noBytes : ∀ field ∈ template.fields, field.fieldLen = 0 := by
      simpa [FlowSetV9Ipfix.HasBytes] using without
    have still := setTurn_still context.handleIpfix noBytes record
    exact Nat.lt_irrefl _ (consumes isData template found _ _ .refl still)
  · intro haveBytes isData template found place next reached turn
    have record := hasRecord_of_setTurn (le_of_reached reached) turn
    exact setTurn_lt (haveBytes isData template found record) turn

/-! What stops the program while it prints, and what does not -/

/-- Every fault but a loop over records that does not end. -/
def Stops (fault : Fault) : Prop :=
  fault ≠ .endlessLoop .records ∧ fault ≠ .endlessLoop .options

theorem Printable.stops (element : Element) : Printable Stops element :=
  fun _ => by simp [Stops]

/-! Runs -/

theorem dissectRecords_stops (context : PacketContext) (small : context.flowVersion < 65536)
    (template : FlowSetV9Ipfix) (set : SizedBuffer) (observationId : ObservationID)
    (flowSequenceNumber : UInt16) (haveBytes : 8 ≤ set.u16 2 → template.HasBytes) :
    Outcome Stops (fun _ => True)
      (dissectNetFlowV9V10FlowSetWithTemplate context template (set.u16 2) set.buffer
        observationId flowSequenceNumber) := by
  rw [dissectNetFlowV9V10FlowSetWithTemplate]
  obtain ⟨records, parsed⟩ : ∃ records, recordPlaces context.handleIpfix template.fields
      set.buffer (set.u16 2) (set.u16 2 + 1) 4 = some records := by
    by_cases any : 8 ≤ set.u16 2
    · exact recordPlaces_ends _ _ _ (haveBytes any) (Nat.succ_pos _) (by omega)
    · exact ⟨[], by rw [recordPlaces, if_neg (by omega)]⟩
  rw [dissectRecords_eq_of_places _ _ _ _ _ _ parsed]
  exact (printRecords_outcome (fun _ => True)
    (fun _ _ _ => printRecord_fails small (by simp [Stops]) _ _ _
      fun _ _ element _ => Element.every_of_forall Printable.stops element)
    flowSequenceNumber).mono fun _ _ => trivial

theorem dissectSet_stops (context : PacketContext) (small : context.flowVersion < 65536)
    (flowSequenceNumber : UInt16) (observationId : ObservationID) (set : SizedBuffer)
    (haveBytes : RecordsHaveBytes context observationId set) :
    Outcome Stops (fun _ => True)
      (dissectSet context flowSequenceNumber observationId set) := by
  rw [dissectSet]
  split
  · exact trivial
  · next isData =>
      have haveBytes := haveBytes (by simpa using isData)
      rw [dissectNetFlowV9V10Flow]
      cases usable : usableTemplate observationId (set.u16 0) with
      | none => exact trivial
      | some template =>
          have haveBytes := haveBytes template usable
          rw [HasRecord] at haveBytes
          by_cases isOption : template.isOptionTemplate
          · simp only [if_pos isOption] at haveBytes ⊢
            refine Outcome.bind (?_ : Outcome _ (fun _ => True)
              (dissectOptionFlowSet template (optionBody set) observationId))
              fun _ _ _ => trivial
            rw [dissectOptionFlowSet]
            by_cases any : 0 < (optionBody set).size
            · refine (dissectOptionFlows_outcome _ (optionBody_small set) (haveBytes any)
                (Nat.succ_pos _) (by omega) observationId).mono_fails ?_
              rintro fault rfl
              simp [Stops]
            · rw [dissectOptionFlows, if_neg any]
              exact trivial
          · simp only [if_neg isOption] at haveBytes ⊢
            exact (dissectRecords_stops context small template set observationId _
              haveBytes).bind fun _ _ _ => trivial

theorem dissectDatagrams_stops {sensor : Sensor} {datagrams : List Received}
    (haveBytes : AlongRun dissectReceived
      (fun sensor received => received.EverySet RecordsHaveBytes sensor) sensor datagrams) :
    Outcome Stops (fun _ => True) (runSteps dissectReceived sensor datagrams) := by
  refine dissectDatagrams_fails (by simp [Stops]) (by simp [Stops]) ?_ haveBytes
  intro received observationId set haveBytes
  exact dissectSet_stops received.context (headerNumber_lt received.buffer 0 2) _ observationId set
    haveBytes

theorem not_consumes_of_endless {sensor : Sensor} {datagrams : List Received}
    (ran : runSteps dissectReceived sensor datagrams = .error (.endlessLoop .records)) :
    ¬AlongRun dissectReceived (fun sensor received => received.EverySet Consumes sensor) sensor
      datagrams := by
  intro consumes
  have haveBytes : AlongRun dissectReceived
      (fun sensor received => received.EverySet RecordsHaveBytes sensor) sensor datagrams :=
    consumes.mono fun sensor received every => every.mono fun context observationId set =>
      (consumes_iff context observationId set).mp
  have stops := dissectDatagrams_stops haveBytes
  rw [ran] at stops
  exact stops.1 rfl

/-- As long as no set with records is for a template whose records take no bytes, every turn
takes bytes, and no loop over records keeps the program from going on. -/
theorem dissectReceived_consumes (sensor : Sensor) (datagrams : List Received) :
    (AlongRun dissectReceived (fun sensor received => received.EverySet Consumes sensor) sensor
        datagrams ↔
      AlongRun dissectReceived (fun sensor received => received.EverySet RecordsHaveBytes sensor)
        sensor datagrams) ∧
    (AlongRun dissectReceived (fun sensor received => received.EverySet RecordsHaveBytes sensor)
        sensor datagrams →
      Outcome Stops (fun _ => True) (runSteps dissectReceived sensor datagrams)) := by
  refine ⟨⟨fun along => along.mono ?_, fun along => along.mono ?_⟩, dissectDatagrams_stops⟩
  · exact fun sensor received every => every.mono fun context observationId set =>
      (consumes_iff context observationId set).mp
  · exact fun sensor received every => every.mono fun context observationId set =>
      (consumes_iff context observationId set).mpr

/-- A template with one field of no bytes, and then a set for it. -/
def endlessDatagrams : List Received :=
  let received := fun bytes =>
    ({ globals := splittingGlobals, buffer := .ofBytes bytes, bufferLen := bytes.length } :
      Received)
  [received (v9PacketBytes 1 [setBytes 0 (templateBytes 256 [(500, 0)])]),
    received (v9PacketBytes 2 [setBytes 256 [1, 2, 3, 4]])]

theorem endlessDatagrams_endless :
    runSteps dissectReceived (sensorOf (.new 7)) endlessDatagrams =
        .error (.endlessLoop .records) ∧
      ¬AlongRun dissectReceived (fun sensor received => received.EverySet Consumes sensor)
        (sensorOf (.new 7)) endlessDatagrams := by
  have mapped : (runSteps dissectReceived (sensorOf (.new 7)) endlessDatagrams).map
      (fun _ => ()) = .error (.endlessLoop .records) := by
    decide +kernel
  have endless := eq_error_of_map mapped
  exact ⟨endless, not_consumes_of_endless endless⟩

end F2k
