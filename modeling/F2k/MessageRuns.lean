import F2k.JsonMessages
import F2k.TemplateRuns

namespace F2k

open Lib

/-! What runs leave of the texts that messages are printed from: the configuration of an
observation id stays what it was, and its templates list elements of the table. -/

/-- What an observation id was configured with fits into a JSON text. -/
structure PlainConfigured (observationId : ObservationID) : Prop where
  networks : ∀ key network, observationId.networks.lookup key = some network →
    JsonText (cString network.name) ∧ JsonText (cString network.addressAsStr)
  enrichment : ∀ members ∈ observationId.enrichment, JsonMembers (cString members)

/-- So do the names that an observation id has learned. -/
structure PlainLearned (observationId : ObservationID) : Prop where
  applications : ∀ id, ∀ application ∈ observationId.getApplication id,
    JsonText (cString application.name)
  selectors : ∀ id, ∀ selector ∈ observationId.getSelector id, JsonText (cString selector.name)
  interfaces : ∀ id, ∀ interface ∈ observationId.getInterface id,
    JsonText (cString interface.name) ∧ JsonText (cString interface.description)

theorem PlainConfigured.names {observationId : ObservationID}
    (configured : PlainConfigured observationId) (learned : PlainLearned observationId) :
    PlainNames observationId where
  applications := learned.applications
  selectors := learned.selectors
  interfaces := learned.interfaces
  networks := configured.networks
  enrichment := configured.enrichment

/-- What no packet changes. -/
def ObservationID.configuration (observationId : ObservationID) :=
  (observationId.networks, observationId.enrichment)

theorem PlainConfigured.of_configuration {before after : ObservationID}
    (configured : PlainConfigured before) (same : after.configuration = before.configuration) :
    PlainConfigured after := by
  obtain ⟨networks, enrichment⟩ := Prod.mk.inj same
  constructor
  · rw [networks]
    exact configured.networks
  · rw [enrichment]
    exact configured.enrichment

/-! Templates -/

theorem fromTable_stored {template : FlowSetV9Ipfix}
    (bare : ∀ field ∈ template.fields, field.v9Template = none) :
    ∀ field ∈ (storedTemplate template).fields, field.FromTable := by
  intro field member element known
  unfold storedTemplate at member
  split at member
  · rw [bare field member] at known
    contradiction
  · obtain ⟨announced, _, rfl⟩ := List.mem_map.mp member
    exact (findTemplate_eq_some known).1

theorem dissectTemplateFields_bare {handleIpfix : Bool} {sbuffer : SizedBuffer}
    {fieldCount displ after : Nat} {fields : List TemplateField}
    (parsed : dissectTemplateFields handleIpfix sbuffer fieldCount displ = some (fields, after)) :
    ∀ field ∈ fields, field.v9Template = none := by
  induction fieldCount generalizing displ fields with
  | zero =>
      cases parsed
      simp
  | succ fieldCount ih =>
      rw [dissectTemplateFields] at parsed
      simp only [Option.ite_none_left_eq_some, Option.map_eq_some_iff] at parsed
      obtain ⟨_, ⟨rest, last⟩, parsedRest, same⟩ := parsed
      cases same
      exact List.forall_mem_cons.mpr ⟨rfl, ih parsedRest⟩

theorem dissectFlowTemplate_bare {handleIpfix : Bool} {sbuffer : SizedBuffer}
    {template : FlowSetV9Ipfix}
    (accepted : (dissectFlowTemplate handleIpfix sbuffer).1 = some template) :
    ∀ field ∈ template.fields, field.v9Template = none := by
  unfold dissectFlowTemplate at accepted
  dsimp only at accepted
  split at accepted
  · contradiction
  · split at accepted
    · contradiction
    · next fields displ parsed =>
        split at accepted
        · contradiction
        · cases accepted
          exact dissectTemplateFields_bare parsed

theorem flowTemplates_bare {handleIpfix : Bool} {set : SizedBuffer} {turns displ : Nat}
    {templates : List FlowSetV9Ipfix}
    (parsed : flowTemplates handleIpfix set turns displ = some templates) :
    ∀ template ∈ templates, ∀ field ∈ template.fields, field.v9Template = none := by
  induction turns generalizing displ templates with
  | zero => contradiction
  | succ turns ih =>
      rw [flowTemplates] at parsed
      dsimp only at parsed
      split at parsed
      · obtain ⟨rest, parsedRest, rfl⟩ := Option.map_eq_some_iff.mp parsed
        intro template member
        rcases List.mem_append.mp member with first | later
        · exact dissectFlowTemplate_bare (Option.mem_toList.mp first)
        · exact ih parsedRest template later
      · cases parsed
        simp

theorem dissectOptionTemplate_bare {handleIpfix : Bool} {sbuffer : SizedBuffer}
    {template : FlowSetV9Ipfix}
    (accepted : dissectOptionTemplate handleIpfix sbuffer = some template) :
    ∀ field ∈ template.fields, field.v9Template = none := by
  unfold dissectOptionTemplate at accepted
  simp only [Option.ite_none_left_eq_some] at accepted
  obtain ⟨_, _, same⟩ := accepted
  rw [← Option.some.inj same]
  intro field member
  obtain ⟨index, _, rfl⟩ := List.mem_map.mp member
  rfl

/-- No field is announced with its element. -/
theorem announcedTemplates_bare (handleIpfix : Bool) (set : SizedBuffer) :
    ∀ template ∈ announcedTemplates handleIpfix set, ∀ field ∈ template.fields,
      field.v9Template = none := by
  unfold announcedTemplates
  split
  · intro template member
    exact dissectOptionTemplate_bare (Option.mem_toList.mp member)
  · cases parsed : flowTemplates handleIpfix set (set.size + 1) 4 with
    | none => simp
    | some templates => exact flowTemplates_bare parsed

theorem storedElements_foldl {observationId : ObservationID} {announced : List FlowSetV9Ipfix}
    (bare : ∀ template ∈ announced, ∀ field ∈ template.fields, field.v9Template = none)
    (stored : StoredElements observationId) :
    StoredElements (announced.foldl ObservationID.saveTemplate observationId) := by
  induction announced generalizing observationId with
  | nil => exact stored
  | cons first rest ih =>
      obtain ⟨own, others⟩ := List.forall_mem_cons.mp bare
      apply ih others
      intro id template found
      rw [getTemplate_saveTemplate] at found
      split at found
      · cases found
        exact fromTable_stored own
      · exact stored id template found

theorem foldl_saveTemplate_configuration (announced : List FlowSetV9Ipfix)
    (observationId : ObservationID) :
    (announced.foldl ObservationID.saveTemplate observationId).configuration =
      observationId.configuration := by
  induction announced generalizing observationId with
  | nil => rfl
  | cons first rest ih =>
      rw [List.foldl_cons, ih]
      rfl

theorem StoredElements.of_templates {before after : ObservationID}
    (stored : StoredElements before) (same : after.templates = before.templates) :
    StoredElements after := by
  unfold StoredElements ObservationID.getTemplate
  rw [same]
  exact stored

/-! Names -/

theorem learnNames_configuration (names : OptionNames) (observationId : ObservationID) :
    Outcome (fun _ => True) (fun learned => learned.configuration = observationId.configuration)
      (learnNames names observationId) := by
  have learned : (learnSelector names (learnApplication names observationId)).configuration =
      observationId.configuration := by
    rw [learnSelector, learnApplication]
    split <;> split <;> rfl
  rw [learnNames, learnInterface]
  split
  · cases names.snmpName with
    | none => exact trivial
    | some name =>
        cases names.snmpDescription with
        | none => exact trivial
        | some description => exact learned
  · exact learned

/-! Sets -/

/-- An observation id as its configuration, and then any packets, leave it. -/
structure ObservationID.Ready (observationId : ObservationID) : Prop where
  configured : PlainConfigured observationId
  stored : StoredElements observationId

theorem dissectSet_ready (context : PacketContext) (flowSequenceNumber : UInt16)
    {observationId : ObservationID} (ready : observationId.Ready) (set : SizedBuffer) :
    Outcome (fun _ => True) (fun result => result.1.Ready)
      (dissectSet context flowSequenceNumber observationId set) := by
  unfold dissectSet
  split
  · exact ⟨ready.configured.of_configuration (foldl_saveTemplate_configuration _ _),
      storedElements_foldl (announcedTemplates_bare _ _) ready.stored⟩
  · unfold dissectNetFlowV9V10Flow
    dsimp only
    split
    · exact ready
    · next template usable =>
        split
        · have kept := (dissectOptionFlows_keeps ObservationID.configuration
            learnNames_configuration template (optionBody set) ((optionBody set).size + 1) 0
            observationId).and
            (dissectOptionFlows_templates template (optionBody set) ((optionBody set).size + 1) 0
              observationId)
          refine (kept.mono_fails fun _ _ => trivial).bind ?_
          intro learned _ both
          obtain ⟨configuration, templates⟩ := both
          exact ⟨ready.configured.of_configuration configuration,
            ready.stored.of_templates templates⟩
        · cases dissectNetFlowV9V10FlowSetWithTemplate context template (set.u16 2) set.buffer
            observationId flowSequenceNumber with
          | error fault => trivial
          | ok records => exact ready

/-! Datagrams -/

def Sensor.Ready (sensor : Sensor) : Prop :=
  ∀ id, ∀ observationId ∈ sensor.getObservationId id, observationId.Ready

theorem Sensor.Ready.update {sensor : Sensor} {changed : ObservationID} (ready : sensor.Ready)
    (id : UInt32) (own : changed.Ready) : (sensor.updateObservationId id changed).Ready := by
  intro other observationId found
  rw [Sensor.getObservationId_eq, Sensor.configuredId_updateObservationId,
    Sensor.configured_updateObservationId] at found
  split at found
  · cases found
    exact own
  · apply ready other
    rwa [Sensor.getObservationId_eq]

/-- The names an observation id has learned, and the texts a set has of its own, fit into a JSON
text. -/
def SetFits (context : PacketContext) (observationId : ObservationID) (set : SizedBuffer) :
    Prop :=
  PlainLearned observationId ∧ FieldsFit context observationId set

/-- The texts of the datagram, and all that are looked up for it, fit into a JSON text. -/
structure TextsFit (sensor : Sensor) (received : Received) : Prop where
  databases : PlainDatabases received.globals
  sets : received.EverySet SetFits sensor
  v5 : received.hasSets = false →
    ∀ observationId ∈ sensor.getObservationId received.v5ObservationId, PlainLearned observationId

theorem Received.dissectSet_json (received : Received)
    (databases : PlainDatabases received.globals) {observationId : ObservationID}
    {set : SizedBuffer} (ready : observationId.Ready)
    (fits : SetFits received.context observationId set) :
    Outcome (fun _ => True)
      (fun result => result.1.Ready ∧ ∀ record ∈ result.2, record.Json)
      (received.dissectSet observationId set) := by
  have names := ready.configured.names fits.1
  have kept := dissectSet_ready received.context (packetSequence received.buffer).toUInt16 ready set
  have json := F2k.dissectSet_json (headerNumber_lt received.buffer 0 2) databases
    (packetSequence received.buffer).toUInt16 names ready.stored fits.2
  exact (kept.and json).mono_fails fun _ _ => trivial

theorem dissectNetFlowV5_json {globals : ReadOnlyGlobals} (databases : PlainDatabases globals)
    (the5Record : Mem) {observationId : Option ObservationID}
    (names : ∀ known ∈ observationId, PlainNames known) :
    Outcome (fun _ => True) (fun records => ∀ record ∈ records, record.Json)
      (dissectNetFlowV5 globals the5Record observationId) := by
  unfold dissectNetFlowV5
  cases observationId with
  | some known =>
      exact dissectNetFlowV5Records_outcome FlowRecord.Json
        (fun flowIdx => dissectNetFlowV5Record_json databases (names known rfl) the5Record flowIdx)
        _ 0
  | none =>
      dsimp only
      split
      · simp
      · trivial

theorem dissectReceived_json {sensor : Sensor} {received : Received} (ready : sensor.Ready)
    (fits : TextsFit sensor received) :
    Outcome (fun _ => True)
      (fun result => result.1.Ready ∧ ∀ record ∈ result.2, record.Json)
      (dissectReceived sensor received) := by
  refine dissectReceived_outcome (fun sensor records => sensor.Ready ∧
    ∀ record ∈ records, record.Json) (fun _ => ⟨ready, by simp⟩) ?_ ?_
  · intro hasSets observationId found
    have ran := runSteps_outcome ObservationID.Ready
      (fun records : List FlowRecord => ∀ record ∈ records, record.Json)
      (fun _ _ ready setFits => received.dissectSet_json fits.databases ready setFits)
      (ready _ observationId found) (fits.sets hasSets observationId found)
    refine ran.mono ?_
    intro result both
    obtain ⟨kept, each⟩ := both
    refine ⟨ready.update _ kept, ?_⟩
    intro record member
    obtain ⟨records, inSets, inRecords⟩ := List.mem_flatten.mp member
    exact each records inSets record inRecords
  · intro noSets
    refine (dissectNetFlowV5_json fits.databases received.buffer ?_).mono
      fun records json => ⟨ready, json⟩
    intro observationId found
    exact (ready _ observationId found).configured.names (fits.v5 noSets observationId found)

theorem runSteps_json {sensor : Sensor} {datagrams : List Received} (ready : sensor.Ready)
    (along : AlongRun dissectReceived TextsFit sensor datagrams) :
    Outcome (fun _ => True)
      (fun result => ∀ records ∈ result.2, ∀ record ∈ records, record.Json)
      (runSteps dissectReceived sensor datagrams) :=
  (runSteps_outcome Sensor.Ready (fun records => ∀ record ∈ records, record.Json)
    (fun _ _ ready fits => dissectReceived_json ready fits) ready along).mono
      fun _ result => result.2

end F2k
