import F2k.NamesRead

namespace F2k

open Lib

/-! Templates that are received, and data sets of them -/

/-- The set is these bytes, as long as a set can be. -/
structure SizedBuffer.Holds (set : SizedBuffer) (bytes : Bytes) : Prop where
  starts : set.buffer.StartsWith bytes
  size : set.size = bytes.length
  fits : bytes.length < 65536

theorem SizedBuffer.holds_ofBytes {bytes : Bytes} (fits : bytes.length < 65536) :
    SizedBuffer.Holds { buffer := .ofBytes bytes, size := bytes.length } bytes :=
  ⟨Mem.startsWith_ofBytes bytes, rfl, fits⟩

def optionDataBytes (templateId : UInt16) (records : List (List Bytes)) (padding : Bytes) :
    Bytes :=
  setBytes templateId.toNat (optionRecordsBytes records ++ padding)

/-- Once the template is received, and as long as it is the one that is stored, every data set
of it with these bytes behind its records teaches what the records announce. -/
def TeachesAnnounced (handleIpfix : Bool) (announced : AnnouncedOption) (padding : Bytes) :
    Prop :=
  ∀ templatePadding : Bytes, templatePadding.length < 4 → ∀ templateSet : SizedBuffer,
    templateSet.Holds (optionTemplateSetBytes handleIpfix [announced] templatePadding) →
    ∀ before learned,
      dissectNetFlowV9V10TemplateSet handleIpfix templateSet before = .ok learned →
    ∀ observationId : ObservationID,
      observationId.getTemplate announced.templateId = learned.getTemplate announced.templateId →
    ∀ records, (∀ record ∈ records, Conforms announced.fields record) → ∀ set : SizedBuffer,
      set.Holds (optionDataBytes announced.templateId records padding) →
    ∀ context flowSequenceNumber, ∃ after,
      dissectNetFlowV9V10Flow context set observationId flowSequenceNumber = .ok (after, []) ∧
        Teaches announced.fields records observationId after

section Received

variable {handleIpfix : Bool} {announced : AnnouncedOption}

/-- All fields but the last one are read as they are announced when none of them has the number
of an enterprise behind it. -/
theorem optionFields_stored {sbuffer : SizedBuffer} {fields : List AnnouncedField} (displ : Nat)
    (allowed : ∀ field ∈ fields, field.Allowed handleIpfix)
    (plain : ∀ field ∈ fields.dropLast, field.enterprise = none)
    (starts : (sbuffer.buffer.shift displ).StartsWith (fieldsBytes fields)) :
    optionFields sbuffer fields.length displ = fields.map AnnouncedField.stored := by
  induction fields generalizing displ with
  | nil => rfl
  | cons field rest ih =>
      obtain ⟨firstAllowed, restAllowed⟩ := List.forall_mem_cons.mp allowed
      rw [fieldsBytes, List.flatMap_cons] at starts
      obtain ⟨fieldStarts, restStarts⟩ := Mem.startsWith_append.mp starts
      have read := AnnouncedField.fieldAt_eq 0xffff firstAllowed fieldStarts
      rw [and_0xffff] at read
      rw [List.length_cons, optionFields_succ, List.map_cons, read]
      refine List.cons_eq_cons.mpr ⟨rfl, ?_⟩
      cases rest with
      | nil => rfl
      | cons next later =>
          rw [List.dropLast_cons_cons] at plain
          obtain ⟨noEnterprise, others⟩ := List.forall_mem_cons.mp plain
          rw [Mem.shift_shift, AnnouncedField.length_bytes, noEnterprise] at restStarts
          exact ih (displ + 4) restAllowed others restStarts

def AnnouncedOption.stored (announced : AnnouncedOption) : FlowSetV9Ipfix where
  templateId := announced.templateId
  isOptionTemplate := true
  fields := announced.fields.map AnnouncedField.stored

theorem received_stored (wellFormed : announced.WellFormed handleIpfix)
    (plain : ∀ field ∈ announced.fields.dropLast, field.enterprise = none)
    {templatePadding : Bytes} (short : templatePadding.length < 4) {templateSet : SizedBuffer}
    (holds : templateSet.Holds
      (optionTemplateSetBytes handleIpfix [announced] templatePadding))
    {before learned : ObservationID}
    (received : dissectNetFlowV9V10TemplateSet handleIpfix templateSet before = .ok learned) :
    learned.getTemplate announced.templateId = some announced.stored := by
  obtain ⟨buffer, size⟩ := templateSet
  obtain ⟨starts, rfl, fits⟩ := holds
  have all : ∀ one ∈ [announced], one.WellFormed handleIpfix := by
    intro one member
    rw [List.mem_singleton.mp member]
    exact wellFormed
  have body := (setBytes_startsWith starts).2
  rw [List.flatMap_cons, List.append_assoc] at body
  have fieldsStart := AnnouncedOption.fields_startsWith (Mem.startsWith_append.mp body).1
  have small : (optionTemplateSetBytes handleIpfix [announced] templatePadding).length < 2 ^ 64 :=
    Nat.lt_trans fits (by decide)
  rw [dissectNetFlowV9V10TemplateSet_eq handleIpfix small before,
    announcedTemplates_option all short fits starts] at received
  rw [← Except.ok.inj received]
  simp only [List.take_succ_cons, List.take_zero, List.map_cons, List.map_nil, List.foldl_cons,
    List.foldl_nil]
  rw [getTemplate_saveTemplate, if_pos rfl,
    optionFields_stored 6 wellFormed.allowed plain fieldsStart]
  rfl

theorem usableTemplate_stored {observationId : ObservationID}
    (found : observationId.getTemplate announced.templateId = some announced.stored)
    (hasBytes : 0 < recordLen announced.stored.fields) :
    usableTemplate observationId announced.templateId.toNat = some announced.stored := by
  have fields : announced.stored.fieldCount ≠ 0 := by
    intro none
    rw [List.length_eq_zero_iff.mp none] at hasBytes
    cases hasBytes
  rw [usableTemplate, UInt16.ofNat_toNat, found, Option.filter_some, if_pos (by simpa using fields)]

theorem length_optionDataBytes {records : List (List Bytes)} {padding : Bytes} :
    (optionDataBytes announced.templateId records padding).length =
      4 + ((optionRecordsBytes records).length + padding.length) := by
  rw [optionDataBytes, setBytes, List.length_append, List.length_append, length_toBe,
    length_toBe, List.length_append]

theorem optionData_run {observationId : ObservationID}
    (found : observationId.getTemplate announced.templateId = some announced.stored)
    {padding : Bytes} (short : padding.length < recordLen announced.stored.fields)
    {records : List (List Bytes)} (conform : ∀ record ∈ records, Conforms announced.fields record)
    {set : SizedBuffer} (holds : set.Holds (optionDataBytes announced.templateId records padding))
    (context : PacketContext) (flowSequenceNumber : UInt16) :
    ∃ memory : Mem,
      dissectNetFlowV9V10Flow context set observationId flowSequenceNumber =
        (learnRecords announced.fields records observationId >>=
          learnRest memory announced.stored.fields padding.length).map
            fun learned => (learned, []) := by
  obtain ⟨starts, size, fits⟩ := holds
  have body := (setBytes_startsWith starts).2
  have total := @length_optionDataBytes announced records padding
  rw [optionDataBytes, setBytes, Mem.startsWith_append, Mem.startsWith_append,
    length_toBe] at starts
  have id : set.u16 0 = announced.templateId.toNat := by
    rw [u16_of_startsWith (by rw [Mem.shift_zero]; exact starts.1.1),
      Nat.mod_eq_of_lt announced.templateId.toNat_lt]
  have length : set.u16 2 = (optionRecordsBytes records).length + padding.length + 4 := by
    rw [u16_of_startsWith starts.1.2, List.length_append, Nat.mod_eq_of_lt (by omega)]
  have left := @after_size set 4 (by omega) (by omega)
  have sized : (optionBody set).size = (optionRecordsBytes records).length + padding.length := by
    change min (set.u16 2) (set.after 4).size = _
    omega
  have ran := @dissectOptionFlows_records announced.fields announced.stored rfl (optionBody set)
    (optionBody_small set) records padding.length conform short ((optionBody set).size + 1) 0
    (by rw [Mem.shift_zero]; exact (Mem.startsWith_append.mp body).1) (by omega) (by omega)
    observationId
  have usable := usableTemplate_stored found (Nat.zero_lt_of_lt short)
  rw [← id] at usable
  refine ⟨(optionBody set).buffer.shift ((optionBody set).size - padding.length), ?_⟩
  rw [← ran]
  simp only [dissectNetFlowV9V10Flow, usable]
  rw [if_pos (show announced.stored.isOptionTemplate = true from rfl)]
  change (dissectOptionFlowSet announced.stored (optionBody set) observationId >>= _) = _
  unfold dissectOptionFlowSet
  cases dissectOptionFlows announced.stored (optionBody set) _ 0 observationId <;> rfl

theorem unnamed_new (id : UInt32) (templates : Table UInt16 FlowSetV9Ipfix) :
    Unnamed { ObservationID.new id with templates } := by
  constructor <;> exact fun _ => rfl

def AnnouncedOption.templateSet (handleIpfix : Bool) (announced : AnnouncedOption) :
    SizedBuffer :=
  let bytes := optionTemplateSetBytes handleIpfix [announced] []
  { buffer := .ofBytes bytes, size := bytes.length }

theorem fieldsBytes_length_le_eight (fields : List AnnouncedField) :
    (fieldsBytes fields).length ≤ 8 * fields.length := by
  induction fields with
  | nil => exact Nat.le_refl 0
  | cons field rest ih =>
      rw [fieldsBytes] at ih
      rw [fieldsBytes, List.flatMap_cons, List.length_append, AnnouncedField.length_bytes,
        List.length_cons]
      split <;> omega

theorem templateSet_holds (few : announced.fields.length ≤ 4) :
    (announced.templateSet handleIpfix).Holds
      (optionTemplateSetBytes handleIpfix [announced] []) := by
  apply SizedBuffer.holds_ofBytes
  have enough := fieldsBytes_length_le_eight announced.fields
  rw [optionTemplateSetBytes, setBytes, List.append_nil, List.flatMap_cons, List.flatMap_nil,
    List.append_nil, AnnouncedOption.bytes]
  simp only [List.length_append, length_toBe]
  omega

/-- What one data set does to an observation id that knows the template and no names. -/
theorem exists_learned_of_teachesAnnounced (wellFormed : announced.WellFormed handleIpfix)
    (plain : ∀ field ∈ announced.fields.dropLast, field.enterprise = none) {padding : Bytes}
    (short : padding.length < recordLen announced.stored.fields)
    (taught : TeachesAnnounced handleIpfix announced padding) {records : List (List Bytes)}
    (conform : ∀ record ∈ records, Conforms announced.fields record)
    (fits : (optionDataBytes announced.templateId records padding).length < 65536) :
    ∃ (memory : Mem) (blank between after : ObservationID), Unnamed blank ∧
      learnRecords announced.fields records blank = .ok between ∧
      learnRest memory announced.stored.fields padding.length between = .ok after ∧
      Teaches announced.fields records blank after := by
  have templateHolds := @templateSet_holds handleIpfix announced wellFormed.few
  have small : (announced.templateSet handleIpfix).size < 2 ^ 64 := by
    rw [templateHolds.size]
    exact Nat.lt_trans templateHolds.fits (by decide)
  have received := dissectNetFlowV9V10TemplateSet_eq handleIpfix small (.new 0)
  generalize List.foldl ObservationID.saveTemplate _ _ = learned at received
  let blank : ObservationID := { ObservationID.new 0 with templates := learned.templates }
  have found := received_stored wellFormed plain (by decide) templateHolds received
  have stored : blank.getTemplate announced.templateId = some announced.stored := found
  let context : PacketContext :=
    { globals := splittingGlobals, flowVersion := 9, flowHeader := .ofBytes [] }
  have holds := SizedBuffer.holds_ofBytes fits
  obtain ⟨after, ran, teaches⟩ := taught [] (by decide) _ templateHolds (.new 0) learned received
    blank rfl records conform _ holds context 0
  obtain ⟨memory, run⟩ := optionData_run stored short conform holds context 0
  rw [run] at ran
  cases learnedAll : learnRecords announced.fields records blank with
  | error fault =>
      rw [learnedAll] at ran
      cases ran
  | ok between =>
      rw [learnedAll, Run.ok_bind] at ran
      cases learnedRest : learnRest memory announced.stored.fields padding.length between with
      | error fault =>
          rw [learnedRest] at ran
          cases ran
      | ok last =>
          rw [learnedRest] at ran
          cases ran
          exact ⟨memory, blank, between, after, unnamed_new 0 _, learnedAll, learnedRest, teaches⟩

/-- Templates of at most four fields, of which only the last one may have the number of an
enterprise, teach what their records announce exactly when no name ends in the padding, ids
have lengths that are read, and interfaces have both of their texts. -/
theorem dissectNetFlowV9V10Flow_teaches_iff (wellFormed : announced.WellFormed handleIpfix)
    (plain : ∀ field ∈ announced.fields.dropLast, field.enterprise = none) {padding : Bytes}
    (short : padding.length < recordLen announced.stored.fields)
    (fits : 4 + padding.length < 65536) :
    TeachesAnnounced handleIpfix announced padding ↔
      ReadsAnnounced announced.stored.fields padding.length := by
  constructor
  · intro taught
    have quiet : NoNames (fittingFields announced.stored.fields padding.length) := by
      obtain ⟨memory, blank, between, after, unnamed, learned, rest, teaches⟩ :=
        @exists_learned_of_teachesAnnounced _ _ wellFormed plain padding short taught []
          (by simp) (by rw [length_optionDataBytes]; simpa [optionRecordsBytes] using fits)
      rw [← Except.ok.inj learned] at rest
      exact noNames_of_teaches memory unnamed rest teaches
    refine ⟨quiet, ?_⟩
    intro room
    have conforms := ones_conforms announced.fields
    have extent := length_record conforms
    obtain ⟨memory, blank, between, after, unnamed, learned, rest, teaches⟩ :=
      @exists_learned_of_teachesAnnounced _ _ wellFormed plain padding short taught
        [ones announced.fields]
        (by simpa using conforms)
        (by
          rw [length_optionDataBytes, optionRecordsBytes, List.flatMap_cons, List.flatMap_nil,
            List.append_nil, extent]
          change 4 + recordLen (announced.fields.map AnnouncedField.stored) + _ < _ at room
          omega)
    rw [learnRest_quiet memory quiet] at rest
    rw [← Except.ok.inj rest] at teaches
    have one : learnNames (readValues (storedValues announced.fields (ones announced.fields)))
        blank = .ok between := by
      rw [← learned]
      unfold learnRecords
      cases learnNames _ blank <;> rfl
    exact namesRead_of_teaches wellFormed.allowed unnamed one teaches
  · intro reads templatePadding templateShort templateSet templateHolds before learned received
      observationId same records conform set holds context flowSequenceNumber
    have stored := received_stored wellFormed plain templateShort templateHolds received
    rw [← same] at stored
    obtain ⟨memory, ran⟩ :=
      optionData_run stored short conform holds context flowSequenceNumber
    have read : records ≠ [] → NamesRead announced.stored.fields := by
      intro some
      apply reads.records
      obtain ⟨record, rest, rfl⟩ := List.exists_cons_of_ne_nil some
      have extent := length_record (conform record List.mem_cons_self)
      have bound := holds.fits
      rw [length_optionDataBytes, optionRecordsBytes, List.flatMap_cons, List.length_append,
        extent] at bound
      change 4 + recordLen (announced.fields.map AnnouncedField.stored) + _ < _
      omega
    obtain ⟨after, learnedAll, teaches⟩ :=
      learnRecords_teaches wellFormed.allowed conform read observationId
    refine ⟨after, ?_, teaches⟩
    rw [ran, learnedAll, Run.ok_bind, learnRest_quiet memory reads.padding]
    rfl

end Received

/-- Applications with names of four bytes, within a scope. -/
def applicationsOption : AnnouncedOption where
  templateId := 256
  scope := [⟨1, none, 4⟩]
  options := [⟨95, none, 4⟩, ⟨96, none, 4⟩]

theorem dissectNetFlowV9V10Flow_teaches_applications :
    TeachesAnnounced false applicationsOption [0, 0] ↔
      ReadsAnnounced applicationsOption.stored.fields 2 :=
  @dissectNetFlowV9V10Flow_teaches_iff false applicationsOption ⟨by decide, by decide⟩ (by decide)
    [0, 0] (by decide) (by decide)

/-- Applications with two more fields behind the names. -/
def describedOption : AnnouncedOption where
  templateId := 256
  scope := [⟨1, none, 4⟩]
  options := [⟨95, none, 4⟩, ⟨96, none, 4⟩, ⟨94, none, 4⟩, ⟨45, none, 4⟩]

def describedRecords : List (List Bytes) :=
  [[toBe 4 7, toBe 4 1, ascii "http", ascii "web ", toBe 4 0],
    [toBe 4 7, toBe 4 2, ascii "smtp", ascii "mail", toBe 4 0]]

/-- The records are taken for shorter ones: nothing is learned of the second application. -/
theorem dissectNetFlowV9V10Flow_misreads_described :
    ¬TeachesAnnounced false describedOption [] := by
  intro taught
  have templateHolds : (describedOption.templateSet false).Holds
      (optionTemplateSetBytes false [describedOption] []) :=
    SizedBuffer.holds_ofBytes (by decide)
  let bytes := optionDataBytes 256 describedRecords []
  let set : SizedBuffer := { buffer := .ofBytes bytes, size := bytes.length }
  have holds : set.Holds bytes := SizedBuffer.holds_ofBytes (by decide)
  let context : PacketContext :=
    { globals := splittingGlobals, flowVersion := 9, flowHeader := .ofBytes [] }
  have misread : (dissectNetFlowV9V10TemplateSet false (describedOption.templateSet false)
      (.new 7) >>= fun learned => dissectNetFlowV9V10Flow context set learned 0).map
        (fun result => result.1.applicationTexts 2) = .ok none := by
    decide +kernel
  cases received : dissectNetFlowV9V10TemplateSet false (describedOption.templateSet false)
      (.new 7) with
  | error fault =>
      rw [received] at misread
      cases misread
  | ok learned =>
      obtain ⟨after, ran, teaches⟩ := taught [] (by decide) _ templateHolds (.new 7) learned
        received learned rfl describedRecords (by unfold Conforms; decide) set holds context 0
      rw [received, Run.ok_bind, ran] at misread
      have missing : after.applicationTexts 2 = none := Except.ok.inj misread
      have announced := teaches.applications 2
      rw [missing] at announced
      have smtp : lastAnnounced (describedRecords.filterMap fun record =>
          announcedName describedOption.fields record 95 96) 2 = some (ascii "smtp") := by
        decide
      rw [smtp] at announced
      cases announced

end F2k
