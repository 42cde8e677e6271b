import F2k.EncodedSet
import F2k.Lib.Accounts
import F2k.PacketFold
import F2k.TaughtNames
import F2k.TemplateRuns

namespace F2k

open Lib

/-! An exporter and what it means: from the bytes of its packets the dissection finds out what one
that is told the templates and the values of every record would print. -/

/-! What is meant -/

/-- What an exporter writes into a set. -/
inductive ExportedSet
  | templates (announced : List Announced)
  | optionTemplate (announced : AnnouncedOption)
  | records (announced : Announced) (records : List (List Bytes))
  | optionRecords (announced : AnnouncedOption) (records : List (List Bytes))

/-- A template as the collector keeps it. -/
def Announced.stored (announced : Announced) : FlowSetV9Ipfix :=
  storedTemplate announced.parsed

/-- What prints the values of a record, if anything does. -/
def Announced.elements (announced : Announced) : List (Option Element) :=
  announced.stored.fields.map TemplateField.v9Template

/-- A value is printed with nothing behind it. -/
def printValue (globals : ReadOnlyGlobals) (line : Bytes) (cache : FlowCache)
    (element : Option Element) (value : Bytes) : Run LineState :=
  match element with
  | some element =>
      printNetflowRecordWithTemplate globals line element (.ofBytes value) value.length cache
  | none => pure { line, cache, valueRet := 0 }

def printValues (globals : ReadOnlyGlobals) :
    List (Option Element × Bytes) → Bytes → FlowCache → Run LineState
  | [], line, cache => pure { line, cache, valueRet := 0 }
  | (element, value) :: rest, line, cache => do
      let printed ← printValue globals line cache element value
      printValues globals rest printed.line printed.cache

def meantRecord (context : PacketContext) (observationId : ObservationID)
    (flowSequenceNumber : UInt16) (values : List (Option Element × Bytes)) : Run FlowRecord := do
  let flowSequenceNumber := flowSequenceNumber.toUInt32
  let cache := withHeaderTimes context.handleIpfix context.flowHeader { observationId }
  let started ← startRecord context.globals context.flowVersion flowSequenceNumber cache
  let printed ← printValues context.globals values started.line started.cache
  let messages ← finishRecord context.globals printed.line printed.cache
  pure { flowSequence := flowSequenceNumber, messages }

def meantRecords (context : PacketContext) (observationId : ObservationID) :
    UInt16 → List (List (Option Element × Bytes)) → Run (List FlowRecord)
  | _, [] => pure []
  | flowSequenceNumber, values :: more => do
      let record ← meantRecord context observationId flowSequenceNumber values
      let rest ← meantRecords context observationId (flowSequenceNumber + 1) more
      pure (record :: rest)

/-- What is to be done of a set when it is known what its exporter means: no template is looked
up, and no byte is parsed. -/
def ExportedSet.mean (context : PacketContext) (flowSequenceNumber : UInt16)
    (observationId : ObservationID) : ExportedSet → Run (ObservationID × List FlowRecord)
  | .templates announced =>
      pure ((announced.map Announced.parsed).foldl ObservationID.saveTemplate observationId, [])
  | .optionTemplate announced => pure (observationId.saveTemplate announced.stored, [])
  | .records announced all => do
      let printed ← meantRecords context observationId flowSequenceNumber
        (all.map fun record => announced.elements.zip record)
      pure (observationId, printed)
  | .optionRecords announced all => do
      let learned ← learnRecords announced.fields all observationId
      pure (learned, [])

/-! How it is written -/

/-- No more than the value is looked at: there are elements that want a byte of an empty one. -/
def ReadsValue (element : Option Element) (value : Bytes) : Prop :=
  ∀ one ∈ element, one.reach value.length ≤ value.length

/-- The bytes of a set: padding as the collector can stand it, and every way to write the length
of a value. -/
inductive ExportedSet.Writes (handleIpfix : Bool) : ExportedSet → Bytes → Prop
  | templates {announced : List Announced} {padding : Bytes}
      (wellFormed : ∀ one ∈ announced, one.WellFormed handleIpfix) (short : padding.length < 4)
      (some : announced ≠ [] ∨ padding = [])
      (fits : (templateSetBytes handleIpfix announced padding).length < 65536) :
      Writes handleIpfix (.templates announced) (templateSetBytes handleIpfix announced padding)
  | optionTemplate {announced : AnnouncedOption} {padding : Bytes}
      (wellFormed : announced.WellFormed handleIpfix)
      (plain : ∀ field ∈ announced.fields.dropLast, field.enterprise = none)
      (short : padding.length < 4)
      (fits : (optionTemplateSetBytes handleIpfix [announced] padding).length < 65536) :
      Writes handleIpfix (.optionTemplate announced)
        (optionTemplateSetBytes handleIpfix [announced] padding)
  | records {announced : Announced} (set : EncodedSet handleIpfix announced.stored.fields)
      (apart : 256 ≤ announced.templateId.toNat) (some : HasBytes announced.stored.fields)
      (padded : WellPadded set)
      (read : ∀ record ∈ set.records, ∀ value ∈ announced.elements.zip record.values,
        ReadsValue value.1 value.2)
      (fits : set.body.length + 4 < 65536) :
      Writes handleIpfix (.records announced (set.records.map EncodedRecord.values))
        (setBytes announced.templateId.toNat set.body)
  | optionRecords {announced : AnnouncedOption} {records : List (List Bytes)} {padding : Bytes}
      (apart : 256 ≤ announced.templateId.toNat)
      (conform : ∀ record ∈ records, Conforms announced.fields record)
      (short : padding.length < recordLen announced.stored.fields)
      (quiet : NoNames (fittingFields announced.stored.fields padding.length))
      (fits : (optionDataBytes announced.templateId records padding).length < 65536) :
      Writes handleIpfix (.optionRecords announced records)
        (optionDataBytes announced.templateId records padding)

/-! What an exporter may write -/

/-- The templates that an exporter has in use, each under its id. -/
abbrev InUse := UInt16 → Option (Announced ⊕ AnnouncedOption)

namespace ExportedSet

def announces (inUse : InUse) : ExportedSet → InUse
  | .templates announced =>
      announced.foldl
        (fun inUse one => Function.update inUse one.templateId (some (.inl one))) inUse
  | .optionTemplate announced =>
      Function.update inUse announced.templateId (some (.inr announced))
  | .records _ _ => inUse
  | .optionRecords _ _ => inUse

/-- Records are of a template in use. -/
def Usable (inUse : InUse) : ExportedSet → Prop
  | .templates _ => True
  | .optionTemplate _ => True
  | .records announced _ => inUse announced.templateId = some (.inl announced)
  | .optionRecords announced _ => inUse announced.templateId = some (.inr announced)

end ExportedSet

def storedOf : Announced ⊕ AnnouncedOption → FlowSetV9Ipfix
  | .inl announced => announced.stored
  | .inr announced => announced.stored

/-- The observation id has every template that the exporter uses. -/
def Understands (inUse : InUse) (observationId : ObservationID) : Prop :=
  ∀ id one, inUse id = some one → observationId.getTemplate id = some (storedOf one)

/-! Records are printed as they are meant -/

def valuesOf (buffer : Mem) (places : List FieldPlace) : List (Option Element × Bytes) :=
  places.map fun place => (place.field.v9Template, place.bytes buffer)

section Printing

variable {buffer : Mem}

theorem FieldPlace.print_eq_printValue {place : FieldPlace}
    (read : ReadsValue place.field.v9Template (place.bytes buffer)) (globals : ReadOnlyGlobals)
    (line : Bytes) (cache : FlowCache) :
    place.print globals buffer line cache =
      printValue globals line cache place.field.v9Template (place.bytes buffer) := by
  have length : (place.bytes buffer).length = place.length := Mem.length_slice _ _
  unfold FieldPlace.print printValue
  cases known : place.field.v9Template with
  | none => rfl
  | some element =>
      have inside := read element known
      rw [length] at inside ⊢
      apply printNetflowRecordWithTemplate_congr
      refine Mem.AgreeBelow.mono (Mem.agreeBelow_of_slice_eq ?_) inside
      rw [← length, Mem.slice_ofBytes, length]
      rfl

theorem printPlaces_eq_printValues {places : List FieldPlace}
    (read : ∀ value ∈ valuesOf buffer places, ReadsValue value.1 value.2)
    (globals : ReadOnlyGlobals) (line : Bytes) (cache : FlowCache) :
    printPlaces globals buffer places line cache =
      printValues globals (valuesOf buffer places) line cache := by
  induction places generalizing line cache with
  | nil => rfl
  | cons place rest ih =>
      rw [valuesOf, List.map_cons] at read ⊢
      obtain ⟨first, others⟩ := List.forall_mem_cons.mp read
      rw [printPlaces, printValues, FieldPlace.print_eq_printValue first]
      congr 1
      funext printed
      exact ih others printed.line printed.cache

theorem printRecords_eq_meantRecords {records : List (List FieldPlace)}
    (read : ∀ places ∈ records, ∀ value ∈ valuesOf buffer places, ReadsValue value.1 value.2)
    (context : PacketContext) (observationId : ObservationID) (flowSequenceNumber : UInt16) :
    printRecords context buffer observationId flowSequenceNumber records =
      meantRecords context observationId flowSequenceNumber (records.map (valuesOf buffer)) := by
  induction records generalizing flowSequenceNumber with
  | nil => rfl
  | cons places rest ih =>
      obtain ⟨first, others⟩ := List.forall_mem_cons.mp read
      have record : printRecord context buffer observationId flowSequenceNumber places =
          meantRecord context observationId flowSequenceNumber (valuesOf buffer places) := by
        rw [printRecord, meantRecord]
        congr 1
        funext started
        rw [printPlaces_eq_printValues first]
      rw [printRecords, List.map_cons, meantRecords, record]
      congr 1
      funext printed
      rw [ih others]

/-- What was read of the records are the values that were written. -/
theorem valuesOf_records {handleIpfix : Bool} {announced : Announced}
    {records : List (EncodedRecord handleIpfix announced.stored.fields)}
    {places : List (List FieldPlace)}
    (read : places.map (readFields buffer) =
      records.map fun record => announced.stored.fields.zip record.values) :
    places.map (valuesOf buffer) =
      records.map fun record => announced.elements.zip record.values := by
  have elements := congrArg (List.map (List.map (Prod.map TemplateField.v9Template id))) read
  rw [List.map_map, List.map_map] at elements
  calc
    places.map (valuesOf buffer) =
        places.map (List.map (Prod.map TemplateField.v9Template id) ∘ readFields buffer) := by
      apply List.map_congr_left
      intro one _
      simp [valuesOf, readFields, Function.comp_def]
    _ = _ := elements
    _ = records.map fun record => announced.elements.zip record.values := by
      apply List.map_congr_left
      intro record _
      rw [Announced.elements, List.zip_map_left]
      rfl

end Printing

/-! Sets -/

section Sets

variable {handleIpfix : Bool} {set : SizedBuffer}

theorem isTemplateSet_small {id : Nat} {body : Bytes} (small : id < 256)
    (starts : set.buffer.StartsWith (setBytes id body)) :
    isTemplateSet handleIpfix set = true := by
  rw [setBytes, Mem.startsWith_append, Mem.startsWith_append] at starts
  have first := firstByte_of_startsWith starts.1.1
  rw [Nat.div_eq_of_lt small] at first
  simp [isTemplateSet, first]

theorem u16_of_setBytes {id : Nat} {body : Bytes}
    (starts : set.buffer.StartsWith (setBytes id body)) :
    set.u16 0 = id % 65536 ∧ set.u16 2 = (body.length + 4) % 65536 := by
  rw [setBytes, Mem.startsWith_append, Mem.startsWith_append, length_toBe] at starts
  constructor
  · exact u16_of_startsWith (by rw [Mem.shift_zero]; exact starts.1.1)
  · exact u16_of_startsWith starts.1.2

theorem isTemplateSet_data {id : Nat} {body : Bytes} (apart : 256 ≤ id) (fits : id < 65536)
    (starts : set.buffer.StartsWith (setBytes id body)) :
    isTemplateSet handleIpfix set = false := by
  have whole := (u16_of_setBytes starts).1
  rw [setBytes, Mem.startsWith_append, Mem.startsWith_append] at starts
  have first := firstByte_of_startsWith starts.1.1
  rw [Nat.mod_eq_of_lt fits] at whole
  have large : set.buffer 0 ≠ 0 := by
    intro zero
    rw [first] at zero
    have digits := congrArg UInt8.toNat zero
    rw [UInt8.toNat_ofNat'] at digits
    change id / 256 % 256 = 0 at digits
    omega
  simp [isTemplateSet, large]
  omega

end Sets

theorem Understands.saveTemplate {inUse : InUse} {observationId : ObservationID}
    (understands : Understands inUse observationId) {template : FlowSetV9Ipfix}
    {one : Announced ⊕ AnnouncedOption} (stored : storedTemplate template = storedOf one) :
    Understands (Function.update inUse template.templateId (some one))
      (observationId.saveTemplate template) := by
  intro id other used
  rw [getTemplate_saveTemplate]
  by_cases same : template.templateId = id
  · subst same
    rw [Function.update_self] at used
    rw [if_pos rfl, stored, Option.some.inj used]
  · rw [Function.update_of_ne (Ne.symm same)] at used
    rw [if_neg same]
    exact understands id other used

theorem Understands.saveTemplates {announced : List Announced} {inUse : InUse}
    {observationId : ObservationID} (understands : Understands inUse observationId) :
    Understands ((ExportedSet.templates announced).announces inUse)
      ((announced.map Announced.parsed).foldl ObservationID.saveTemplate observationId) := by
  induction announced generalizing inUse observationId with
  | nil => exact understands
  | cons one rest ih =>
      apply ih
      exact understands.saveTemplate
        (show storedTemplate one.parsed = storedOf (.inl one) from rfl)

section Step

variable {context : PacketContext} {flowSequenceNumber : UInt16} {inUse : InUse}
  {observationId : ObservationID} {set : SizedBuffer}

theorem dissectSet_templates {announced : List Announced} {padding : Bytes}
    (wellFormed : ∀ one ∈ announced, one.WellFormed context.handleIpfix)
    (short : padding.length < 4) (some : announced ≠ [] ∨ padding = [])
    (fits : (templateSetBytes context.handleIpfix announced padding).length < 65536)
    (placed : PlacedSet (templateSetBytes context.handleIpfix announced padding) set) :
    dissectSet context flowSequenceNumber observationId set =
      (ExportedSet.templates announced).mean context flowSequenceNumber observationId := by
  obtain ⟨buffer, size⟩ := set
  obtain ⟨_, rfl, starts⟩ := placed
  have small : (if context.handleIpfix = true then 2 else 0) < 256 := by
    split <;> decide
  rw [dissectSet, if_pos (isTemplateSet_small small starts)]
  obtain ⟨flow, body⟩ := announcedTemplates_flow starts
    (templateSetBytes context.handleIpfix announced padding).length
  have parsed := @flowTemplates_announced context.handleIpfix
    { buffer, size := (templateSetBytes context.handleIpfix announced padding).length }
    announced padding ((templateSetBytes context.handleIpfix announced padding).length + 1) 4
    wellFormed short some (Nat.lt_trans fits (by decide)) body length_templateSetBytes
    (by dsimp only; omega)
  rw [flow, parsed]
  rfl

theorem dissectSet_optionTemplate {announced : AnnouncedOption} {padding : Bytes}
    (wellFormed : announced.WellFormed context.handleIpfix)
    (plain : ∀ field ∈ announced.fields.dropLast, field.enterprise = none)
    (short : padding.length < 4)
    (fits : (optionTemplateSetBytes context.handleIpfix [announced] padding).length < 65536)
    (placed : PlacedSet (optionTemplateSetBytes context.handleIpfix [announced] padding) set) :
    dissectSet context flowSequenceNumber observationId set =
      (ExportedSet.optionTemplate announced).mean context flowSequenceNumber observationId := by
  obtain ⟨buffer, size⟩ := set
  obtain ⟨_, rfl, starts⟩ := placed
  have small : (if context.handleIpfix = true then 3 else 1) < 256 := by
    split <;> decide
  have all : ∀ one ∈ [announced], one.WellFormed context.handleIpfix := by
    intro one member
    rw [List.mem_singleton.mp member]
    exact wellFormed
  have body := (setBytes_startsWith starts).2
  rw [List.flatMap_cons, List.append_assoc] at body
  have fieldsStart := AnnouncedOption.fields_startsWith (Mem.startsWith_append.mp body).1
  rw [dissectSet, if_pos (isTemplateSet_small small starts),
    announcedTemplates_option all short fits starts]
  have fields := @optionFields_stored context.handleIpfix
    (SizedBuffer.after
      { buffer, size := (optionTemplateSetBytes context.handleIpfix [announced] padding).length }
      4)
    announced.fields 6 wellFormed.allowed plain fieldsStart
  simp only [List.take_succ_cons, List.take_zero, List.map_cons, List.map_nil, List.foldl_cons,
    List.foldl_nil, fields]
  rfl

theorem dissectSet_records {announced : Announced}
    {encoded : EncodedSet context.handleIpfix announced.stored.fields}
    (found : observationId.getTemplate announced.templateId = some announced.stored)
    (apart : 256 ≤ announced.templateId.toNat) (some : HasBytes announced.stored.fields)
    (padded : WellPadded encoded)
    (read : ∀ record ∈ encoded.records, ∀ value ∈ announced.elements.zip record.values,
      ReadsValue value.1 value.2)
    (fits : encoded.body.length + 4 < 65536)
    (placed : PlacedSet (setBytes announced.templateId.toNat encoded.body) set) :
    dissectSet context flowSequenceNumber observationId set =
      (ExportedSet.records announced (encoded.records.map EncodedRecord.values)).mean context
        flowSequenceNumber observationId := by
  have data := @isTemplateSet_data context.handleIpfix set _ _ apart
    announced.templateId.toNat_lt placed.starts
  obtain ⟨id, length⟩ := u16_of_setBytes placed.starts
  rw [Nat.mod_eq_of_lt announced.templateId.toNat_lt] at id
  rw [Nat.mod_eq_of_lt fits] at length
  have usable : usableTemplate observationId (set.u16 0) = .some announced.stored := by
    have fields : announced.stored.fieldCount ≠ 0 := by
      obtain ⟨field, member, _⟩ := some
      exact Nat.ne_of_gt (List.length_pos_of_mem member)
    rw [usableTemplate, id, UInt16.ofNat_toNat, found, Option.filter_some,
      if_pos (by simpa using fields)]
  obtain ⟨places, parsed, run⟩ := dissectNetFlowV9V10FlowSetWithTemplate_decodes context
    announced.stored encoded set.buffer some padded (setBytes_startsWith placed.starts).2
  have values := valuesOf_records parsed
  have wholeValues : ∀ one ∈ places, ∀ value ∈ valuesOf set.buffer one,
      ReadsValue value.1 value.2 := by
    intro one member
    have written := List.mem_map_of_mem (f := valuesOf set.buffer) member
    rw [values] at written
    obtain ⟨record, inSet, same⟩ := List.mem_map.mp written
    rw [← same]
    exact read record inSet
  rw [dissectSet, data, if_neg Bool.false_ne_true, dissectNetFlowV9V10Flow, usable]
  simp only [length, run, printRecords_eq_meantRecords wholeValues, values]
  rw [if_neg (show ¬announced.stored.isOptionTemplate = true from Bool.false_ne_true)]
  simp only [ExportedSet.mean, List.map_map, Function.comp_def]

theorem dissectSet_optionRecords {announced : AnnouncedOption} {records : List (List Bytes)}
    {padding : Bytes}
    (found : observationId.getTemplate announced.templateId = some announced.stored)
    (apart : 256 ≤ announced.templateId.toNat)
    (conform : ∀ record ∈ records, Conforms announced.fields record)
    (short : padding.length < recordLen announced.stored.fields)
    (quiet : NoNames (fittingFields announced.stored.fields padding.length))
    (fits : (optionDataBytes announced.templateId records padding).length < 65536)
    (placed : PlacedSet (optionDataBytes announced.templateId records padding) set) :
    dissectSet context flowSequenceNumber observationId set =
      (ExportedSet.optionRecords announced records).mean context flowSequenceNumber
        observationId := by
  have data := @isTemplateSet_data context.handleIpfix set _ _ apart
    announced.templateId.toNat_lt placed.starts
  obtain ⟨memory, run⟩ := optionData_run found short conform
    ⟨placed.starts, placed.size, fits⟩ context flowSequenceNumber
  rw [dissectSet, data, if_neg Bool.false_ne_true, run, ExportedSet.mean]
  cases learnRecords announced.fields records observationId with
  | error fault => rfl
  | ok learned =>
      rw [Run.ok_bind, learnRest_quiet memory quiet]
      rfl

end Step

theorem learnRecords_templates {fields : List AnnouncedField} {records : List (List Bytes)}
    {before after : ObservationID} (learned : learnRecords fields records before = .ok after) :
    after.templates = before.templates := by
  induction records generalizing before with
  | nil =>
      cases learned
      rfl
  | cons record rest ih =>
      obtain ⟨between, first, later⟩ := Run.bind_eq_ok.mp learned
      rw [ih later]
      exact (learnNames_templates _ before).of_ok first

theorem dissectSet_mean {context : PacketContext} {flowSequenceNumber : UInt16} {inUse : InUse}
    {observationId : ObservationID} {exported : ExportedSet} {bytes : Bytes} {set : SizedBuffer}
    (understands : Understands inUse observationId) (usable : exported.Usable inUse)
    (writes : exported.Writes context.handleIpfix bytes) (placed : PlacedSet bytes set) :
    dissectSet context flowSequenceNumber observationId set =
        exported.mean context flowSequenceNumber observationId ∧
      ∀ next printed,
        exported.mean context flowSequenceNumber observationId = .ok (next, printed) →
        Understands (exported.announces inUse) next := by
  cases writes with
  | templates wellFormed short some fits =>
      refine ⟨dissectSet_templates wellFormed short some fits placed, ?_⟩
      intro next printed meant
      cases meant
      exact understands.saveTemplates
  | @optionTemplate announced padding wellFormed plain short fits =>
      refine ⟨dissectSet_optionTemplate wellFormed plain short fits placed, ?_⟩
      intro next printed meant
      cases meant
      exact understands.saveTemplate
        (show storedTemplate announced.stored = storedOf (.inr announced) from rfl)
  | @records announced set apart some padded read fits =>
      have found := understands announced.templateId (.inl announced) usable
      refine ⟨dissectSet_records found apart some padded read fits placed, ?_⟩
      intro next printed meant
      obtain ⟨_, _, same⟩ := Run.bind_eq_ok.mp meant
      cases same
      exact understands
  | @optionRecords announced records padding apart conform short quiet fits =>
      have found := understands announced.templateId (.inr announced) usable
      refine ⟨dissectSet_optionRecords found apart conform short quiet fits placed, ?_⟩
      intro next printed meant
      obtain ⟨learned, ran, same⟩ := Run.bind_eq_ok.mp meant
      cases same
      intro id one used
      rw [ObservationID.getTemplate, learnRecords_templates ran]
      exact understands id one used

/-! Packets -/

namespace ExportedSet

/-- What is to be done of the sets of a packet. -/
def meanAll (received : Received) (observationId : ObservationID) (sets : List ExportedSet) :
    Run (ObservationID × List (List FlowRecord)) :=
  runSteps (fun observationId set =>
    set.mean received.context (packetSequence received.buffer).toUInt16 observationId)
    observationId sets

end ExportedSet

/-- What arrives from the address of a sensor: a packet of the exporter with what it means, or
something else. -/
structure Arrival where
  received : Received
  sets : Option (List ExportedSet)

/-- The sensor after an arrival and the records that are printed, when the packets of the exporter
are known to mean what they do. -/
def Arrival.mean (sensor : Sensor) (arrival : Arrival) : Run (Sensor × List FlowRecord) :=
  match arrival.sets with
  | none => dissectReceived sensor arrival.received
  | some sets =>
      let id := packetObservationId arrival.received.buffer
      match sensor.getObservationId id with
      | none => pure (sensor, [])
      | some observationId =>
          (ExportedSet.meanAll arrival.received observationId sets).map fun result =>
            (sensor.updateObservationId id result.1, result.2.flatten)

/-- The templates that are in use once an arrival is accounted for. -/
def Arrival.announces (inUse : InUse) (arrival : Arrival) : InUse :=
  (arrival.sets.getD []).foldl ExportedSet.announces inUse

/-- A packet of the exporter for its observation domain, or a datagram that another observation id
of the sensor answers for. -/
inductive Arrival.Expected (configuredId : UInt32 → Option UInt32) (domain : UInt32)
    (inUse : InUse) : Arrival → Prop
  | own {received : Received} {sets : List ExportedSet} {bytes : List Bytes}
      (named : packetObservationId received.buffer = domain) (consists : received.Consists bytes)
      (written : List.Forall₂ (ExportedSet.Writes received.handleIpfix) sets bytes)
      (usable : EachMay ExportedSet.Usable ExportedSet.announces inUse sets) :
      Arrival.Expected configuredId domain inUse { received, sets := some sets }
  | other {received : Received}
      (apart : received.hasSets = true →
        configuredId (packetObservationId received.buffer) ≠ configuredId domain) :
      Arrival.Expected configuredId domain inUse { received, sets := none }

/-- The sensor is configured as it was and has every template that the exporter uses. -/
structure Listens (configuredId : UInt32 → Option UInt32) (domain : UInt32) (inUse : InUse)
    (sensor : Sensor) : Prop where
  configuredId : sensor.configuredId = configuredId
  understands : ∀ observationId, sensor.getObservationId domain = some observationId →
    Understands inUse observationId

section Packets

variable {received : Received} {sensor : Sensor} {domain : UInt32}

theorem forall₂_trans {First Second Third : Type} {left : First → Second → Prop}
    {right : Second → Third → Prop} {firsts : List First} {seconds : List Second}
    {thirds : List Third} (lefts : List.Forall₂ left firsts seconds)
    (rights : List.Forall₂ right seconds thirds) :
    List.Forall₂ (fun first third => ∃ second, left first second ∧ right second third) firsts
      thirds := by
  induction lefts generalizing thirds with
  | nil =>
      cases rights
      exact .nil
  | cons pair _ ih =>
      cases rights with
      | cons other others => exact .cons ⟨_, pair, other⟩ (ih others)

theorem runSteps_mean {inUse : InUse} {sets : List ExportedSet} {bytes : List Bytes}
    (consists : received.Consists bytes)
    (written : List.Forall₂ (ExportedSet.Writes received.handleIpfix) sets bytes)
    (usable : EachMay ExportedSet.Usable ExportedSet.announces inUse sets)
    {observationId : ObservationID} (understands : Understands inUse observationId) :
    runSteps received.dissectSet observationId (setsOf received.buffer received.bufferLen) =
        ExportedSet.meanAll received observationId sets ∧
      ∀ final printed, ExportedSet.meanAll received observationId sets = .ok (final, printed) →
        Understands (sets.foldl ExportedSet.announces inUse) final := by
  refine runSteps_eq_of_account ?_ (forall₂_trans written (setsOf_placed consists)) usable
    understands
  intro inUse observationId exported set understands usable placed
  obtain ⟨bytes, writes, there⟩ := placed
  exact dissectSet_mean understands usable writes there

/-- What another observation id answers for leaves this one alone. -/
theorem dissectReceived_apart
    (apart : received.hasSets = true →
      sensor.configuredId (packetObservationId received.buffer) ≠ sensor.configuredId domain) :
    Outcome (fun _ => True)
      (fun result => result.1.configuredId = sensor.configuredId ∧
        result.1.getObservationId domain = sensor.getObservationId domain)
      (dissectReceived sensor received) := by
  apply dissectReceived_outcome fun next _ => next.configuredId = sensor.configuredId ∧
    next.getObservationId domain = sensor.getObservationId domain
  · exact fun _ => ⟨rfl, rfl⟩
  · intro hasSets observationId _
    cases runSteps received.dissectSet observationId
        (setsOf received.buffer received.bufferLen) with
    | error fault => trivial
    | ok result =>
        refine ⟨funext (Sensor.configuredId_updateObservationId _), ?_⟩
        rw [Sensor.getObservationId_updateObservationId, if_neg (Ne.symm (apart hasSets))]
  · intro _
    cases dissectNetFlowV5 received.globals received.buffer
        (sensor.getObservationId received.v5ObservationId) with
    | error fault => trivial
    | ok records => exact ⟨rfl, rfl⟩

theorem dissectReceived_arrival {configuredId : UInt32 → Option UInt32} {inUse : InUse}
    {arrival : Arrival} (listens : Listens configuredId domain inUse sensor)
    (expected : arrival.Expected configuredId domain inUse) :
    dissectReceived sensor arrival.received = arrival.mean sensor ∧
      ∀ next printed, arrival.mean sensor = .ok (next, printed) →
        Listens configuredId domain (arrival.announces inUse) next := by
  obtain ⟨rfl, understands⟩ := listens
  cases expected with
  | @own received sets bytes named consists written usable =>
      subst named
      rw [dissectReceived_sets consists.hasSets]
      cases known : sensor.getObservationId (packetObservationId received.buffer) with
      | none =>
          simp only [Arrival.mean, known]
          refine ⟨rfl, ?_⟩
          intro next printed meant
          cases meant
          refine ⟨rfl, ?_⟩
          intro observationId found
          rw [known] at found
          cases found
      | some observationId =>
          obtain ⟨same, keeps⟩ :=
            runSteps_mean consists written usable (understands observationId known)
          simp only [Arrival.mean, known, same, true_and]
          intro next printed meant
          obtain ⟨result, ran, ends⟩ := exists_of_map_eq_ok meant
          cases ends
          refine ⟨funext (Sensor.configuredId_updateObservationId _), ?_⟩
          intro changed found
          rw [Sensor.getObservationId_updateObservationId, if_pos rfl] at found
          cases found
          exact keeps result.1 result.2 ran
  | @other received apart =>
      refine ⟨rfl, ?_⟩
      intro next printed ran
      obtain ⟨configured, still⟩ := (dissectReceived_apart apart).of_ok ran
      refine ⟨configured, ?_⟩
      intro observationId found
      rw [still] at found
      exact understands observationId found

end Packets

/-- Only elements of empty values are read further than the value. -/
theorem readsValue_of_ne_nil {element : Option Element} {value : Bytes} (some : value ≠ []) :
    ReadsValue element value := by
  intro one _
  have positive := List.length_pos_of_ne_nil some
  have reach := Element.reach_le value.length one
  omega

/-- Protocol and source address. -/
def protocolTemplate : Announced where
  templateId := 257
  fields := [⟨4, none, 1⟩, ⟨8, none, 4⟩]

def protocolRecord (protocol host : UInt8) :
    EncodedRecord false protocolTemplate.stored.fields where
  values := [[protocol], [10, 0, 0, host]]
  bytes := [protocol] ++ ([10, 0, 0, host] ++ [])
  encodes := .cons (.fixed _ (by decide) rfl) (.cons (.fixed _ (by decide) rfl) .nil)

def protocolSet (host : UInt8) : EncodedSet false protocolTemplate.stored.fields where
  records := [protocolRecord 6 host, protocolRecord 17 host]
  padding := [0, 0]

def protocolRecords (host : UInt8) : ExportedSet :=
  .records protocolTemplate ((protocolSet host).records.map EncodedRecord.values)

theorem protocolRecords_writes (host : UInt8) :
    (protocolRecords host).Writes false (setBytes 257 (protocolSet host).body) := by
  apply ExportedSet.Writes.records (protocolSet host) (by decide)
  · exact ⟨_, List.mem_cons_self, by decide⟩
  · refine ⟨show 2 < 4 by decide, ?_, .inl (List.cons_ne_nil _ _)⟩
    intro last member
    cases member
    exact show 4 ≤ 5 + 2 by decide
  · intro record member value inRecord
    apply readsValue_of_ne_nil
    simp only [protocolSet, List.mem_cons, List.not_mem_nil, or_false] at member
    rcases member with rfl | rfl
    all_goals
      have second := List.of_mem_zip inRecord
      rcases List.mem_cons.mp second.2 with same | inRest
      · simp [same]
      · simp [List.mem_singleton.mp inRest]
  · exact show 12 + 4 < 65536 by decide

/-- A template with records, a datagram of no version, and more records of the template. -/
def protocolArrivals : List Arrival :=
  [{ received := v9Received
        [templateSetBytes false [protocolTemplate] [], setBytes 257 (protocolSet 1).body] []
     sets := some [.templates [protocolTemplate], protocolRecords 1] },
    { received := { globals := splittingGlobals, buffer := .ofBytes [], bufferLen := 0 }
      sets := none },
    { received := v9Received [setBytes 257 (protocolSet 2).body] []
      sets := some [protocolRecords 2] }]

theorem expected_of_v9 {configuredId : UInt32 → Option UInt32} {inUse : InUse}
    {sets : List ExportedSet} {bytes : List Bytes}
    (header : (v9Received bytes []).handleIpfix = false ∧
      packetObservationId (v9Received bytes []).buffer = 7)
    (consists : (v9Received bytes []).Consists bytes)
    (written : List.Forall₂ (ExportedSet.Writes false) sets bytes)
    (usable : EachMay ExportedSet.Usable ExportedSet.announces inUse sets) :
    Arrival.Expected configuredId 7 inUse
      { received := v9Received bytes [], sets := some sets } := by
  obtain ⟨version, named⟩ := header
  refine .own named consists ?_ usable
  rw [version]
  exact written

end F2k
