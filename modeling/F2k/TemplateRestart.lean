import F2k.Announcements
import F2k.LookupFaults
import F2k.TemplateFiles
import F2k.TemplateRuns

namespace F2k

open Lib

/-! Flow templates across a restart: written to a directory when they are accepted, and loaded
from it when the program starts. -/

/-- A sensor as it is read from a configuration: its observation ids know no template yet. -/
structure ConfiguredSensor extends AddedSensor where
  untaught : ∀ id observationId, sensor.configured id = some observationId →
    observationId.templates = ∅

/-- A flow template of a packet, of no more fields than are accepted. -/
structure AcceptedTemplate where
  netflowDeviceIp : UInt32
  observationDomain : UInt32
  template : FlowSetV9Ipfix
  flow : template.isOptionTemplate = false
  few : template.fieldCount ≤ 128

/-- A template that waits for its worker. -/
structure QueuedTemplate where
  network : IpAddr
  observationDomain : UInt32
  template : FlowSetV9Ipfix

def FlowSetV9Ipfix.layouts (template : FlowSetV9Ipfix) : List (UInt16 × UInt16) :=
  template.fields.map TemplateField.layout

structure Collector where
  database : SensorsDB
  directory : Directory
  templatesQueue : List QueuedTemplate

namespace SensorsDB

/-- The database after an observation id of the sensor of this network has been changed. -/
def updateSensor (database : SensorsDB) (sensor : Sensor) (observationDomain : UInt32)
    (changed : ObservationID) : SensorsDB where
  database :=
    database.database.replace sensor.network
      (sensor.updateObservationId observationDomain changed)

end SensorsDB

namespace Collector

def start (configuration : List ConfiguredSensor) (directory : Directory) : Run Collector := do
  let database ←
    SensorsDB.new.addSensors (configuration.map fun configured => configured.sensor)
  pure { database, directory, templatesQueue := [] }

/-- What `dissect_flow_template` does with a template that it accepts: `none` where the packet has
no sensor or no observation id. -/
def acceptTemplate (path : Bytes) (collector : Collector) (accepted : AcceptedTemplate) :
    Run (Option Collector) := do
  match ← getSensor collector.database accepted.netflowDeviceIp.toUInt64 with
  | none => pure none
  | some sensor =>
      match sensor.getObservationId accepted.observationDomain with
      | none => pure none
      | some observationId =>
          let saved : SavedTemplate :=
            { netflowDeviceIp := accepted.netflowDeviceIp
              observationDomainId := observationId.id
              template := accepted.template }
          pure (some
            { collector with
              database :=
                collector.database.updateSensor sensor accepted.observationDomain
                  (observationId.saveTemplate accepted.template)
              directory :=
                if path = [] then collector.directory
                else
                  collector.directory.insert (createTemplateFilename saved)
                    (saveTemplateInFile saved) })

def acceptTemplates (path : Bytes) : List AcceptedTemplate → Collector → Run (Option Collector)
  | [], collector => pure (some collector)
  | accepted :: rest, collector => do
      match ← collector.acceptTemplate path accepted with
      | none => pure none
      | some after => acceptTemplates path rest after

/-- `save_template_async` has no body yet. -/
def saveTemplateAsync (collector : Collector) (_sensor : Sensor) (_template : SavedTemplate) :
    Collector :=
  collector

def saveTemplateInDatabase (collector : Collector) (saved : SavedTemplate) : Run Collector := do
  match ← getSensor collector.database saved.netflowDeviceIp.toUInt64 with
  | none => pure collector
  | some sensor => pure (collector.saveTemplateAsync sensor saved)

def loadTemplates (path : Bytes) (names : List Bytes) (collector : Collector) : Run Collector :=
  (loadedTemplates path collector.directory names).foldlM saveTemplateInDatabase collector

/-- `pop_all_templates` of every worker. -/
def popAllTemplates (collector : Collector) : Collector :=
  { collector with
    templatesQueue := []
    database :=
      collector.templatesQueue.foldl
        (fun database queued =>
          match database.database.lookup queued.network with
          | none => database
          | some sensor =>
              match sensor.getObservationId queued.observationDomain with
              | none => database
              | some observationId =>
                  database.updateSensor sensor queued.observationDomain
                    (observationId.saveTemplate queued.template))
        collector.database }

/-- A start with the files of the directory, read in the order of the names. -/
def restart (configuration : List ConfiguredSensor) (path : Bytes) (names : List Bytes)
    (directory : Directory) : Run Collector := do
  let collector ← start configuration directory
  let collector ← collector.loadTemplates path names
  pure collector.popAllTemplates

/-- However the directory is read, every template has the fields again that it had. -/
def TemplatesSurvive (configuration : List ConfiguredSensor) (path : Bytes)
    (before : Collector) : Prop :=
  ∀ names : List Bytes,
    names.Perm (ascii "." :: ascii ".." :: before.directory.keys) →
      ∃ after, restart configuration path names before.directory = .ok after ∧
        ∀ sensor configured id,
          (after.database.template sensor configured id).map FlowSetV9Ipfix.layouts =
            (before.database.template sensor configured id).map FlowSetV9Ipfix.layouts

/-! Before the restart -/

/-- Every sensor is in the database under its own network. -/
def Keyed (database : SensorsDB) : Prop :=
  ∀ network sensor, database.database.lookup network = some sensor → sensor.network = network

theorem start_eq (configuration : List ConfiguredSensor) (directory : Directory) :
    start configuration directory =
      .ok
        { database :=
            { database :=
                Table.insertAll Sensor.network ∅
                  (configuration.map fun configured => configured.sensor) }
          directory
          templatesQueue := [] } := by
  have added := addSensors_added (configuration.map ConfiguredSensor.toAddedSensor) SensorsDB.new
  rw [List.map_map] at added
  rw [start]
  change Except.bind (SensorsDB.new.addSensors _) _ = _
  rw [show (configuration.map fun configured => configured.sensor) =
    configuration.map (AddedSensor.sensor ∘ ConfiguredSensor.toAddedSensor) from rfl, added]
  rfl

theorem start_sensor {configuration : List ConfiguredSensor} {directory : Directory}
    {collector : Collector} (started : start configuration directory = .ok collector)
    {network : IpAddr} {sensor : Sensor}
    (found : collector.database.database.lookup network = some sensor) :
    ∃ configured ∈ configuration, configured.sensor = sensor ∧ sensor.network = network := by
  rw [start_eq] at started
  cases started
  obtain ⟨remains, same⟩ := Table.lookup_insertAll_empty.mp found
  obtain ⟨configured, member, rfl⟩ := List.mem_map.mp (Table.mem_of_mem_remaining remains)
  exact ⟨configured, member, rfl, same⟩

theorem start_template {configuration : List ConfiguredSensor} {directory : Directory}
    {collector : Collector} (started : start configuration directory = .ok collector)
    (network : IpAddr) (id : Option UInt32) (templateId : UInt16) :
    collector.database.template network id templateId = none := by
  unfold SensorsDB.template
  cases found : collector.database.database.lookup network with
  | none => rfl
  | some sensor =>
      obtain ⟨configured, _, rfl, _⟩ := start_sensor started found
      rw [Option.bind_some, Sensor.template]
      cases known : configured.sensor.configured id with
      | none => rfl
      | some observationId =>
          have untaught := configured.untaught id observationId known
          rw [Option.bind_some, ObservationID.getTemplate, untaught]
          exact AList.lookup_empty templateId

/-- A sensor that is found for an address is one of the database. -/
theorem lookup_of_getSensorIn {database : SensorsDB} {ip : IpAddr} {order : List Sensor}
    {sensor : Sensor} (found : database.getSensorIn ip order = .ok (some sensor)) :
    ∃ network, database.database.lookup network = some sensor := by
  induction order with
  | nil => cases found
  | cons first rest ih =>
      obtain ⟨network, _, tried⟩ := Run.bind_eq_ok.mp found
      cases here : database.database.lookup network with
      | some other =>
          rw [here] at tried
          cases tried
          exact ⟨network, here⟩
      | none =>
          rw [here] at tried
          exact ih tried

section Accepting

variable {path : Bytes} {collector after : Collector} {accepted : AcceptedTemplate}

theorem Keyed.updateSensor {database : SensorsDB} (keyed : Keyed database) (sensor : Sensor)
    (observationDomain : UInt32) (changed : ObservationID) :
    Keyed (database.updateSensor sensor observationDomain changed) := by
  intro network found stored
  rw [SensorsDB.updateSensor, Table.lookup_replace] at stored
  split at stored
  · next same =>
      obtain ⟨_, _, rfl⟩ := Option.map_eq_some_iff.mp stored
      rw [same, Sensor.updateObservationId]
      split <;> rfl
  · exact keyed network found stored

theorem acceptTemplate_some (ran : collector.acceptTemplate path accepted = .ok (some after)) :
    ∃ (sensor : Sensor) (observationId : ObservationID),
      getSensor collector.database accepted.netflowDeviceIp.toUInt64 = .ok (some sensor) ∧
        after.database =
          collector.database.updateSensor sensor accepted.observationDomain
            (observationId.saveTemplate accepted.template) ∧
        after.directory =
          if path = [] then collector.directory
          else
            let saved : SavedTemplate :=
              { netflowDeviceIp := accepted.netflowDeviceIp
                observationDomainId := observationId.id
                template := accepted.template }
            collector.directory.insert (createTemplateFilename saved)
              (saveTemplateInFile saved) := by
  obtain ⟨found, looked, ran⟩ := Run.bind_eq_ok.mp ran
  cases found with
  | none => cases ran
  | some sensor =>
      simp only at ran
      cases known : sensor.getObservationId accepted.observationDomain with
      | none =>
          rw [known] at ran
          cases ran
      | some observationId =>
          rw [known] at ran
          cases ran
          exact ⟨sensor, observationId, looked, rfl, rfl⟩

theorem acceptTemplate_stores (keyed : Keyed collector.database)
    (ran : collector.acceptTemplate path accepted = .ok (some after)) :
    Keyed after.database ∧ ∃ network id,
      after.database.template network id accepted.template.templateId =
        some (storedTemplate accepted.template) := by
  obtain ⟨sensor, observationId, looked, database, _⟩ := acceptTemplate_some ran
  rw [database]
  refine ⟨Keyed.updateSensor keyed sensor _ _, sensor.network,
    sensor.configuredId accepted.observationDomain, ?_⟩
  obtain ⟨network, stored⟩ := lookup_of_getSensorIn looked
  rw [← keyed network sensor stored] at stored
  rw [SensorsDB.template, SensorsDB.updateSensor, Table.lookup_replace, if_pos rfl,
    stored, Option.map_some, Option.bind_some, Sensor.template,
    Sensor.configured_updateObservationId, if_pos rfl, Option.bind_some,
    getTemplate_saveTemplate, if_pos rfl]

theorem acceptTemplates_stores {sequence : List AcceptedTemplate}
    (keyed : Keyed collector.database) (some : sequence ≠ [])
    (ran : acceptTemplates path sequence collector = .ok (.some after)) :
    ∃ network id templateId, (after.database.template network id templateId).isSome := by
  induction sequence generalizing collector with
  | nil => contradiction
  | cons first rest ih =>
      obtain ⟨next, ranFirst, ranRest⟩ := Run.bind_eq_ok.mp ran
      cases next with
      | none => cases ranRest
      | some next =>
          obtain ⟨nextKeyed, network, id, stored⟩ := acceptTemplate_stores keyed ranFirst
          cases rest with
          | nil =>
              cases ranRest
              exact ⟨network, id, _, by rw [stored]; rfl⟩
          | cons second later => exact ih nextKeyed (List.cons_ne_nil second later) ranRest

end Accepting

/-! After it -/

theorem loadTemplates_database {path : Bytes} {names : List Bytes}
    {collector after : Collector} (ran : collector.loadTemplates path names = .ok after) :
    after.database = collector.database ∧ after.templatesQueue = collector.templatesQueue := by
  unfold loadTemplates at ran
  generalize loadedTemplates path collector.directory names = loaded at ran
  induction loaded generalizing collector with
  | nil =>
      cases ran
      exact ⟨rfl, rfl⟩
  | cons first rest ih =>
      rw [List.foldlM_cons] at ran
      obtain ⟨next, ranFirst, ranRest⟩ := Run.bind_eq_ok.mp ran
      obtain ⟨found, _, saved⟩ := Run.bind_eq_ok.mp ranFirst
      have same : next = collector := by
        cases found with
        | none => exact (Except.ok.inj saved).symm
        | some sensor => exact (Except.ok.inj saved).symm
      rw [same] at ranRest
      exact ih ranRest

theorem loadedTemplates_empty (path : Bytes) (names : List Bytes) :
    loadedTemplates path ∅ names = [] := by
  have closed : ∀ name, Directory.openFile ∅ path name = none := by
    intro name
    unfold Directory.openFile
    split
    · exact AList.lookup_empty _
    · rfl
  unfold loadedTemplates
  split
  · rfl
  · rw [List.filterMap_eq_nil_iff]
    intro name _
    rw [closed]
    split
    · rfl
    · split <;> rfl

theorem restart_template {configuration : List ConfiguredSensor} {path : Bytes}
    {names : List Bytes} {directory : Directory} {after : Collector}
    (ran : restart configuration path names directory = .ok after)
    (network : IpAddr) (id : Option UInt32) (templateId : UInt16) :
    after.database.template network id templateId = none := by
  obtain ⟨started, ranStart, ran⟩ := Run.bind_eq_ok.mp ran
  obtain ⟨loaded, ranLoad, ran⟩ := Run.bind_eq_ok.mp ran
  cases ran
  obtain ⟨database, queue⟩ := loadTemplates_database ranLoad
  have empty : started.templatesQueue = [] := by
    rw [start_eq] at ranStart
    cases ranStart
    rfl
  rw [popAllTemplates, queue, empty, List.foldl_nil, database]
  exact start_template ranStart network id templateId

theorem keyed_start {configuration : List ConfiguredSensor} {directory : Directory}
    {fresh : Collector} (started : start configuration directory = .ok fresh) :
    Keyed fresh.database := by
  intro network sensor found
  obtain ⟨_, _, _, same⟩ := start_sensor started found
  exact same

theorem not_templatesSurvive_of_stored {configuration : List ConfiguredSensor} {path : Bytes}
    {before : Collector} {network : IpAddr} {id : Option UInt32} {templateId : UInt16}
    (stored : (before.database.template network id templateId).isSome) :
    ¬TemplatesSurvive configuration path before := by
  intro survive
  obtain ⟨after, restarted, same⟩ := survive _ (List.Perm.refl _)
  have lost := same network id templateId
  rw [restart_template restarted, Option.map_none] at lost
  rw [Option.map_eq_none_iff.mp lost.symm] at stored
  contradiction

/-- The templates of a sequence survive only if there are none. -/
theorem templatesSurvive_iff {configuration : List ConfiguredSensor} {path : Bytes}
    {sequence : List AcceptedTemplate} {fresh before : Collector}
    (started : start configuration ∅ = .ok fresh)
    (ran : acceptTemplates path sequence fresh = .ok (some before)) :
    TemplatesSurvive configuration path before ↔ sequence = [] := by
  constructor
  · intro survive
    by_contra some
    obtain ⟨network, id, templateId, stored⟩ :=
      acceptTemplates_stores (keyed_start started) some ran
    exact not_templatesSurvive_of_stored stored survive
  · intro none names _
    subst none
    cases ran
    have empty : fresh.directory = ∅ := by
      rw [start_eq] at started
      cases started
      rfl
    have loaded : fresh.loadTemplates path names = .ok fresh := by
      rw [loadTemplates, empty, loadedTemplates_empty]
      rfl
    have queue : fresh.popAllTemplates = fresh := by
      rw [start_eq] at started
      cases started
      rfl
    refine ⟨fresh, ?_, fun _ _ _ => rfl⟩
    rw [restart, empty, started, Run.ok_bind, loaded, Run.ok_bind, queue]
    rfl

/-- Up to there nothing is lost: what is accepted is loaded again, under the same address and
with the same fields. -/
theorem acceptTemplate_loads {path : Bytes} {collector after : Collector}
    {accepted : AcceptedTemplate} (set : path ≠ []) (room : path.length < 987)
    (ran : collector.acceptTemplate path accepted = .ok (some after)) (names : List Bytes)
    (all : ∀ name ∈ after.directory.keys, name ∈ names) :
    ∃ loaded ∈ loadedTemplates path after.directory names,
      loaded.netflowDeviceIp = accepted.netflowDeviceIp ∧
        loaded.template.templateId = accepted.template.templateId ∧
          loaded.template.layouts = accepted.template.layouts := by
  obtain ⟨sensor, observationId, _, _, directory⟩ := acceptTemplate_some ran
  rw [if_neg set] at directory
  let saved : SavedTemplate :=
    { netflowDeviceIp := accepted.netflowDeviceIp
      observationDomainId := observationId.id
      template := accepted.template }
  have few : saved.template.fieldCount < 65536 :=
    Nat.lt_of_le_of_lt accepted.few (by decide)
  have stored : after.directory.lookup (createTemplateFilename saved) =
      some (saveTemplateInFile saved) := by
    rw [directory]
    exact AList.lookup_insert _
  have listed := all (createTemplateFilename saved)
    (AList.mem_keys.mp (AList.lookup_isSome.mp (Option.isSome_of_mem stored)))
  refine ⟨saved.withoutElements, loadedTemplates_of_saved few set room stored listed,
    rfl, rfl, ?_⟩
  rw [FlowSetV9Ipfix.layouts, SavedTemplate.withoutElements, List.map_map]
  rfl

/-- The address 10.0.0.1, with observation ids of any number. -/
def hostSensor : ConfiguredSensor where
  base := ipv4Mapped 0x0a000001
  mask := prefixMask 128 128
  sensor :=
    { network := .v4 0x0a000001
      netmask := .v4 0xffffffff
      worker := none
      defaultObservationId := some (.new 0)
      observationId := ∅ }
  created := ⟨_, rfl, by decide +kernel, by decide +kernel⟩
  untaught := by
    intro id observationId known
    cases id with
    | none =>
        cases known
        rfl
    | some id => cases known

def hostTemplate : AcceptedTemplate where
  netflowDeviceIp := 0x0a000001
  observationDomain := 7
  template :=
    { templateId := 256
      isOptionTemplate := false
      fields := [{ fieldId := 8, fieldLen := 4, v9Template := none }] }
  flow := rfl
  few := by decide

theorem host_accepted : ∃ fresh before, start [hostSensor] ∅ = .ok fresh ∧
    acceptTemplates (ascii "/db") [hostTemplate] fresh = .ok (some before) := by
  have taken : ((start [hostSensor] ∅).bind fun fresh =>
      acceptTemplates (ascii "/db") [hostTemplate] fresh).map Option.isSome = .ok true := by
    decide +kernel
  obtain ⟨result, ran, accepted⟩ := exists_of_map_eq_ok taken
  obtain ⟨before, rfl⟩ := Option.isSome_iff_exists.mp accepted
  obtain ⟨fresh, started, ran⟩ := Run.bind_eq_ok.mp ran
  exact ⟨fresh, before, started, ran⟩

theorem templatesSurvive_iff_host : ∃ fresh before, start [hostSensor] ∅ = .ok fresh ∧
    acceptTemplates (ascii "/db") [hostTemplate] fresh = .ok (some before) ∧
      (TemplatesSurvive [hostSensor] (ascii "/db") before ↔ [hostTemplate] = []) := by
  obtain ⟨fresh, before, started, ran⟩ := host_accepted
  exact ⟨fresh, before, started, ran, templatesSurvive_iff started ran⟩

/-- After the restart the template of the sensor is unknown. -/
theorem not_templatesSurvive_host : ∃ fresh before, start [hostSensor] ∅ = .ok fresh ∧
    acceptTemplates (ascii "/db") [hostTemplate] fresh = .ok (some before) ∧
      ¬TemplatesSurvive [hostSensor] (ascii "/db") before := by
  obtain ⟨fresh, before, started, ran⟩ := host_accepted
  refine ⟨fresh, before, started, ran, ?_⟩
  intro survive
  obtain ⟨network, id, templateId, stored⟩ :=
    acceptTemplates_stores (keyed_start started) (List.cons_ne_nil hostTemplate []) ran
  exact not_templatesSurvive_of_stored stored survive

end Collector

end F2k
