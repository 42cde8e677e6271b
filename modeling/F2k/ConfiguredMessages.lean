import F2k.Lib.JsonBytes
import F2k.MessageRuns
import F2k.NetworksAgree
import F2k.ObservationCalls
import F2k.SensorConfig

namespace F2k

open Lib

/-! The messages of sensors that a configuration file describes. -/

/-! Networks -/

theorem isPlain_showIpv4 (bits : BitVec 32) : (showIpv4 bits).all JsonText.isPlain = true := by
  have dot : (ascii ".").all JsonText.isPlain = true := by decide
  simp only [showIpv4, List.all_append, decimal_isPlain, dot, Bool.and_self]

theorem isPlain_showSegments (bits : BitVec 128) (first count : Nat) :
    (showSegments bits first count).all JsonText.isPlain = true := by
  apply isPlain_intercalate (by decide)
  intro text member
  obtain ⟨index, _, rfl⟩ := List.mem_map.mp member
  exact hexadecimal_isPlain _

theorem isPlain_showIpv6 (bits : BitVec 128) : (showIpv6 bits).all JsonText.isPlain = true := by
  have colons : (ascii "::").all JsonText.isPlain = true := by decide
  unfold showIpv6
  dsimp only
  split
  · simp only [List.all_append, isPlain_showSegments, colons, Bool.and_self]
  · exact isPlain_showSegments bits 0 8

theorem cString_text {text : Bytes} (plain : text.all JsonText.isPlain = true) :
    JsonText (cString text) := by
  apply JsonText.of_plain
  rw [List.all_eq_true] at plain ⊢
  exact fun byte member => plain byte (mem_of_mem_cString member)

/-- The name of a network is the configured one, and its address needs no escape. -/
theorem networkNew_text (network netmask : IpAddr) (name : Bytes) :
    Outcome (fun _ => True)
      (fun homeNet => homeNet.name = name ∧ JsonText (cString homeNet.addressAsStr))
      (Network.new network netmask name) := by
  have slash : (ascii "/").all JsonText.isPlain = true := by decide
  unfold Network.new
  generalize foldNetwork network netmask = folded
  obtain ⟨network, netmask⟩ := folded
  cases network with
  | v4 ipv4 =>
      have text : (showIpv4 ipv4 ++ ascii "/" ++
          decimal (getNetmaskPrefixIpv4 netmask).toNat).all JsonText.isPlain = true := by
        simp only [List.all_append, isPlain_showIpv4, slash, decimal_isPlain, Bool.and_self]
      simp only [Run.pure_eq_ok, Run.ok_bind]
      cases applyNetmask (.v4 ipv4) netmask with
      | error fault => trivial
      | ok masked =>
          rw [Run.ok_bind, Outcome.ok_iff]
          exact ⟨rfl, cString_text text⟩
  | v6 ipv6 =>
      cases prefixed : getNetmaskPrefixIpv6 netmask with
      | error fault =>
          simp only [prefixed, Run.error_bind]
          trivial
      | ok prefixLength =>
          have text : (showIpv6 ipv6 ++ ascii "/" ++
              decimal prefixLength.toNat).all JsonText.isPlain = true := by
            simp only [List.all_append, isPlain_showIpv6, slash, decimal_isPlain, Bool.and_self]
          simp only [prefixed, Run.pure_eq_ok, Run.ok_bind]
          cases applyNetmask (.v6 ipv6) netmask with
          | error fault => trivial
          | ok masked =>
              rw [Run.ok_bind, Outcome.ok_iff]
              exact ⟨rfl, cString_text text⟩

/-! Observation ids -/

namespace ObservationID.Ready

theorem new (id : UInt32) : (ObservationID.new id).Ready := by
  constructor
  · constructor
    · intro key network found
      contradiction
    · exact nofun
  · intro id template found
    contradiction

theorem of_same {before after : ObservationID} (ready : before.Ready)
    (configuration : after.configuration = before.configuration)
    (templates : after.templates = before.templates) : after.Ready :=
  ⟨ready.configured.of_configuration configuration, ready.stored.of_templates templates⟩

theorem addNetwork {observationId : ObservationID} (ready : observationId.Ready)
    {homeNet : Network} (name : JsonText (cString homeNet.name))
    (address : JsonText (cString homeNet.addressAsStr)) :
    (observationId.addNetwork homeNet).Ready := by
  refine ⟨⟨?_, ready.configured.enrichment⟩, ready.stored⟩
  intro key network found
  unfold ObservationID.addNetwork at found
  by_cases same : key = homeNet.network
  · subst same
    rw [AList.lookup_insert] at found
    cases found
    exact ⟨name, address⟩
  · rw [AList.lookup_insert_ne same] at found
    exact ready.configured.networks key network found

theorem setEnrichment {observationId : ObservationID} (ready : observationId.Ready)
    {enrichment : Bytes} (members : JsonMembers (cString enrichment)) :
    (observationId.setEnrichment enrichment).Ready := by
  refine ⟨⟨ready.configured.networks, ?_⟩, ready.stored⟩
  intro text known
  cases known
  exact members

end ObservationID.Ready

/-- The text of an object that has members is these, between brackets. -/
def WritesObjects (jsonDumps : Json → Option Bytes) : Prop :=
  ∀ members ≠ [], ∀ text, jsonDumps (.object members) = some text →
    ∃ contents, JsonMembers contents ∧ (∀ byte ∈ contents, byte ≠ 0) ∧
      text = [123] ++ contents ++ [125]

theorem cString_of_ne_zero {text : Bytes} (some : ∀ byte ∈ text, byte ≠ 0) :
    cString text = text := by
  unfold cString
  rw [List.takeWhile_eq_self_iff]
  intro byte member
  simpa using some byte member

/-- The name of a home network fits into a JSON text. -/
def PlainHomeNet (jsonHomeNet : Json) : Prop :=
  ∀ name, jsonHomeNet.objectGet "network_name" = some (.string name) → JsonText (cString name)

/-- So do the names of all home networks, and the enrichment is not the empty object. -/
structure PlainObservationId (jobservationId : Json) : Prop where
  homeNets : ∀ elements, jobservationId.objectGet "home_nets" = some (.array elements) →
    ∀ homeNet ∈ elements, PlainHomeNet homeNet
  enrichment : ∀ members, jobservationId.objectGet "enrichment" = some (.object members) →
    members ≠ []

section Reader

variable {reader : ConfigReader}

theorem parseObservationIdEnrichment_ready (writes : WritesObjects reader.jsonDumps)
    {observationId : ObservationID} (ready : observationId.Ready) {enrichment : Json}
    (some : ∀ members, enrichment = .object members → members ≠ []) :
    (parseObservationIdEnrichment reader observationId enrichment).Ready := by
  unfold parseObservationIdEnrichment
  cases enrichment with
  | object members =>
      dsimp only
      split
      · exact ready
      · next text dumped =>
          obtain ⟨contents, isMembers, noZero, rfl⟩ := writes members (some members rfl) text dumped
          have whole : cString ([123] ++ contents ++ [125]) = [123] ++ contents ++ [125] := by
            apply cString_of_ne_zero
            simp only [List.forall_mem_append]
            exact ⟨⟨by simp, noZero⟩, by simp⟩
          rw [whole]
          have last : ([123] ++ contents ++ [125]).reverse.dropWhile (fun byte => byte != 125) =
              125 :: ([123] ++ contents).reverse := by
            simp
          rw [last]
          simp only [List.reverse_reverse]
          apply ready.setEnrichment
          have own : cString (contents ++ [0]) = contents := by
            unfold cString
            rw [List.takeWhile_append_of_pos (by simpa using noZero)]
            simp
          exact own.symm ▸ isMembers
  | _ => exact ready

theorem observationIdAddHomeNet_ready {observationId : ObservationID}
    (ready : observationId.Ready) {jsonHomeNet : Json} (plain : PlainHomeNet jsonHomeNet) :
    Outcome (fun _ => True) (fun added => ∀ observationId ∈ added, observationId.Ready)
      (observationIdAddHomeNet reader observationId jsonHomeNet) := by
  unfold observationIdAddHomeNet
  split
  · next networkNameStr network named known =>
      split
      · simp
      · next address accepted =>
          refine (networkNew_text _ _ _).bind ?_
          intro homeNet _ both observationId known
          obtain ⟨name, text⟩ := both
          cases known
          refine ready.addNetwork ?_ text
          rw [name, cString_of_ne_zero fun byte member => cString_ne_zero member]
          exact plain networkNameStr named
  · simp

theorem addHomeNets_ready {observationId : ObservationID} (ready : observationId.Ready)
    {homeNets : List Json} (plain : ∀ homeNet ∈ homeNets, PlainHomeNet homeNet) :
    Outcome (fun _ => True) ObservationID.Ready (addHomeNets reader observationId homeNets) := by
  induction homeNets generalizing observationId with
  | nil => exact ready
  | cons value rest ih =>
      obtain ⟨first, others⟩ := List.forall_mem_cons.mp plain
      rw [addHomeNets]
      refine (observationIdAddHomeNet_ready ready first).bind ?_
      intro added _ kept
      cases added with
      | none => exact ready
      | some added => exact ih (kept added rfl) others

theorem withHomeNets_ready {observationId : ObservationID} (ready : observationId.Ready)
    {jobservationId : Json} (plain : PlainObservationId jobservationId) :
    Outcome (fun _ => True) ObservationID.Ready
      (withHomeNets reader observationId jobservationId) := by
  unfold withHomeNets
  split
  · exact ready
  · next homeNets known =>
      unfold parseObservationIdHomeNets
      split
      · next elements => exact addHomeNets_ready ready (plain.homeNets elements known)
      · exact ready

theorem withEnrichment_ready (writes : WritesObjects reader.jsonDumps)
    {observationId : ObservationID} (ready : observationId.Ready) {jobservationId : Json}
    (plain : PlainObservationId jobservationId) :
    (withEnrichment reader observationId jobservationId).Ready := by
  unfold withEnrichment
  split
  · exact ready
  · next enrichment known =>
      apply parseObservationIdEnrichment_ready writes ready
      rintro members rfl
      exact plain.enrichment members known

theorem withModes_ready (unpacked : Unpacked) {observationId : ObservationID}
    (ready : observationId.Ready) : (withModes unpacked observationId).Ready := by
  unfold withModes
  dsimp only
  refine ready.of_same ?_ ?_
  · split <;> split <;> rfl
  · split <;> split <;> rfl

theorem parseObservationId_ready (writes : WritesObjects reader.jsonDumps)
    {observationId : ObservationID} (ready : observationId.Ready) {jobservationId : Json}
    (plain : PlainObservationId jobservationId) :
    Outcome (fun _ => True) (fun parsed => ∀ observationId ∈ parsed, observationId.Ready)
      (parseObservationId reader observationId jobservationId) := by
  unfold parseObservationId
  split
  · simp
  · next unpacked _ =>
      refine (withHomeNets_ready ready plain).bind ?_
      intro withNets _ ready parsed known
      cases known
      exact withModes_ready unpacked (withEnrichment_ready writes ready plain)

/-! Sensors -/

theorem Sensor.Ready.new (network netmask : IpAddr) :
    Outcome (fun _ => True) Sensor.Ready (Sensor.new network netmask) := by
  unfold Sensor.new
  dsimp only
  cases applyNetmask (foldNetwork network netmask).1 (foldNetwork network netmask).2 with
  | error fault => trivial
  | ok masked =>
      intro id observationId found
      contradiction

theorem Sensor.Ready.addDefaultObservationId {sensor : Sensor} (ready : sensor.Ready)
    {observationId : ObservationID} (own : observationId.Ready) :
    (sensor.addDefaultObservationId observationId).Ready := by
  intro id found lookup
  have before := ready id
  unfold Sensor.getObservationId at lookup before
  unfold Sensor.addDefaultObservationId at lookup
  dsimp only at lookup
  split at lookup
  · next known inTable =>
      rw [inTable] at before
      exact before found lookup
  · cases lookup
    exact own

theorem Sensor.Ready.addObservationId {sensor : Sensor} (ready : sensor.Ready)
    {observationId : ObservationID} (own : observationId.Ready) :
    (sensor.addObservationId observationId).Ready := by
  intro id found lookup
  have before := ready id
  unfold Sensor.getObservationId at lookup before
  unfold Sensor.addObservationId at lookup
  dsimp only at lookup
  by_cases same : id = observationId.id
  · subst same
    rw [AList.lookup_insert] at lookup
    cases lookup
    exact own
  · rw [AList.lookup_insert_ne same] at lookup
    exact before found lookup

def PlainSensor (jsensor : Json) : Prop :=
  ∀ observationsId, jsensor.objectGet "observations_id" = some (.object observationsId) →
    ∀ observationId ∈ observationsId, PlainObservationId observationId.2

def PlainConfig (root : Json) : Prop :=
  ∀ sensorsNetworks, root.objectGet "sensors_networks" = some (.object sensorsNetworks) →
    ∀ network ∈ sensorsNetworks, PlainSensor network.2

theorem parseObservationsId_ready (writes : WritesObjects reader.jsonDumps) {sensor : Sensor}
    (ready : sensor.Ready) {observationsId : List (Bytes × Json)}
    (plain : ∀ observationId ∈ observationsId, PlainObservationId observationId.2) :
    Outcome (fun _ => True) (fun parsed => ∀ sensor ∈ parsed, sensor.Ready)
      (parseObservationsId reader sensor observationsId) := by
  induction observationsId generalizing sensor with
  | nil =>
      intro parsed known
      cases known
      exact ready
  | cons member rest ih =>
      obtain ⟨first, others⟩ := List.forall_mem_cons.mp plain
      rw [parseObservationsId]
      dsimp only
      split
      · exact ih ready others
      · next observationIdN _ =>
          refine (parseObservationId_ready writes (.new observationIdN) first).bind ?_
          intro parsed _ own
          cases parsed with
          | none => simp
          | some curObservationId =>
              refine ih ?_ others
              split
              · exact ready.addDefaultObservationId (own curObservationId rfl)
              · exact ready.addObservationId (own curObservationId rfl)

theorem parseSensor_ready (writes : WritesObjects reader.jsonDumps) {jsensor : Json}
    (plain : PlainSensor jsensor) (ipStr : Bytes) :
    Outcome (fun _ => True) (fun parsed => ∀ sensor ∈ parsed, sensor.Ready)
      (parseSensor reader jsensor ipStr) := by
  unfold parseSensor
  split
  · next first rest known =>
      split
      · simp
      · refine (Sensor.Ready.new _ _).bind ?_
        intro sensor _ ready
        exact parseObservationsId_ready writes ready (plain (first :: rest) known)
  · simp

def SensorsDB.Ready (database : SensorsDB) : Prop :=
  ∀ network, ∀ sensor ∈ database.database.lookup network, sensor.Ready

theorem SensorsDB.Ready.addSensor {database : SensorsDB} (ready : database.Ready)
    {sensor : Sensor} (own : sensor.Ready) :
    Outcome (fun _ => True) SensorsDB.Ready (database.addSensor sensor) := by
  unfold SensorsDB.addSensor
  cases applyNetmask sensor.network sensor.netmask with
  | error fault => trivial
  | ok masked =>
      intro network found lookup
      dsimp only at lookup
      by_cases same : network = masked
      · subst same
        rw [AList.lookup_insert] at lookup
        cases lookup
        exact own
      · rw [AList.lookup_insert_ne same] at lookup
        exact ready network found lookup

theorem readSensorsConfigNetworks_ready (writes : WritesObjects reader.jsonDumps)
    (workerListSize : Nat) {database : SensorsDB} (ready : database.Ready) (workerIdx : Nat)
    {sensorsNetworks : List (Bytes × Json)}
    (plain : ∀ network ∈ sensorsNetworks, PlainSensor network.2) :
    Outcome (fun _ => True) SensorsDB.Ready
      (readSensorsConfigNetworks reader workerListSize database workerIdx sensorsNetworks) := by
  induction sensorsNetworks generalizing database workerIdx with
  | nil => exact ready
  | cons member rest ih =>
      obtain ⟨first, others⟩ := List.forall_mem_cons.mp plain
      rw [readSensorsConfigNetworks]
      refine (parseSensor_ready writes first member.1).bind ?_
      intro parsed _ own
      cases parsed with
      | none => exact ih ready workerIdx others
      | some sensor =>
          have placed : (sensor.setWorker workerIdx).Ready := own sensor rfl
          refine (ready.addSensor placed).bind ?_
          intro database _ ready
          exact ih ready _ others

theorem readRbConfig_ready (writes : WritesObjects reader.jsonDumps) {root : Option Json}
    (plain : ∀ json ∈ root, PlainConfig json) (workerListSize : Nat) :
    Outcome (fun _ => True) SensorsDB.Ready (readRbConfig reader root workerListSize) := by
  have none : SensorsDB.new.Ready := by
    intro network sensor found
    contradiction
  unfold readRbConfig
  split
  · next sensorsNetworks known =>
      obtain ⟨json, loaded, found⟩ := Option.bind_eq_some_iff.mp known
      exact readSensorsConfigNetworks_ready writes workerListSize none 0
        (plain json loaded sensorsNetworks found)
  · exact none

end Reader

/-! Messages -/

theorem getSensorIn_ready {database : SensorsDB} (ready : database.Ready) (ip : IpAddr)
    (sensors : List Sensor) :
    Outcome (fun _ => True) (fun found => ∀ sensor ∈ found, sensor.Ready)
      (database.getSensorIn ip sensors) := by
  induction sensors with
  | nil => simp [SensorsDB.getSensorIn]
  | cons sensor rest ih =>
      rw [SensorsDB.getSensorIn]
      cases applyNetmask ip sensor.netmask with
      | error fault => trivial
      | ok network =>
          rw [Run.ok_bind]
          split
          · next found known =>
              intro sensor same
              cases same
              exact ready network _ known
          · exact ih

/-- Whatever a file configures, as long as its enrichments have members and all texts fit, a
sensor of it prints one JSON object for every message. -/
theorem runSteps_jsonObjects {reader : ConfigReader} (writes : WritesObjects reader.jsonDumps)
    {root : Json} (plain : PlainConfig root) {workerListSize : Nat} {database : SensorsDB}
    (accepted : readRbConfig reader (some root) workerListSize = .ok database) {ip : UInt64}
    {sensor : Sensor} (found : getSensor database ip = .ok (some sensor))
    {datagrams : List Received} (along : AlongRun dissectReceived TextsFit sensor datagrams) :
    Outcome (fun _ => True)
      (fun result => ∀ records ∈ result.2, ∀ record ∈ records, ∀ message ∈ record.messages,
        JsonObject message.string)
      (runSteps dissectReceived sensor datagrams) := by
  have database : database.Ready := by
    apply (readRbConfig_ready writes _ workerListSize).of_ok accepted
    intro json known
    cases known
    exact plain
  exact runSteps_json ((getSensorIn_ready database _ _).of_ok found sensor rfl) along

/-- A text of an object with one plain string, and of the empty one. -/
def jsonDumpsFlat (json : Json) : Option Bytes :=
  match json with
  | .object [] => some (ascii "\x7b\x7d")
  | .object [(name, .string text)] =>
      if name.all JsonText.isPlain && text.all JsonText.isPlain then
        some ([123] ++ ([34] ++ name ++ [34, 58] ++ ([34] ++ text ++ [34])) ++ [125])
      else none
  | _ => none

theorem ne_zero_of_plain {text : Bytes} (plain : text.all JsonText.isPlain = true) :
    ∀ byte ∈ text, byte ≠ 0 := by
  rw [List.all_eq_true] at plain
  rintro byte member rfl
  exact absurd (plain 0 member) (by decide)

theorem writesObjects_flat : WritesObjects jsonDumpsFlat := by
  intro members some text dumped
  unfold jsonDumpsFlat at dumped
  split at dumped
  · next empty =>
      cases empty
      contradiction
  · next name value same =>
      rw [Option.ite_none_right_eq_some, Bool.and_eq_true] at dumped
      obtain ⟨⟨named, plain⟩, same⟩ := dumped
      refine ⟨_, .member (.of_plain named) (.string (.of_plain plain)), ?_,
        (Option.some.inj same).symm⟩
      simp only [List.forall_mem_append]
      exact ⟨⟨⟨by simp, ne_zero_of_plain named⟩, by simp⟩,
        ⟨by simp, ne_zero_of_plain plain⟩, by simp⟩
  · contradiction

def readerFlat : ConfigReader where
  inetPton := inetPtonTwo
  jsonDumps := jsonDumpsFlat
  unset _ := ⟨0, 0⟩

/-- A file of one sensor at 10.0.0.1 with one observation id. -/
def oneSensorConfig (observationId : Json) : Json :=
  .object [(ascii "sensors_networks", .object [(ascii "10.0.0.1", .object
    [(ascii "observations_id", .object [(ascii "default", observationId)])])])]

def siteConfig : Json :=
  .object
    [(ascii "enrichment", .object [(ascii "site", .string (ascii "north"))]),
      (ascii "home_nets", .array [.object
        [(ascii "network_name", .string (ascii "lan")),
          (ascii "network", .string (ascii "10.0.0.1"))]])]

theorem plainConfig_site : PlainConfig (oneSensorConfig siteConfig) := by
  intro networks known network member observationsId sensor observationId inSensor
  cases known
  cases List.mem_singleton.mp member
  cases sensor
  cases List.mem_singleton.mp inSensor
  constructor
  · intro elements nets homeNet inNets name named
    cases nets
    cases List.mem_singleton.mp inNets
    cases named
    exact cString_text (by decide)
  · rintro members enrichment rfl
    cases enrichment

theorem plainDatabases_splitting : PlainDatabases splittingGlobals := by
  constructor
  all_goals simp [splittingGlobals]

def configuredSensor (observationId : Json) : Run (Option Sensor) := do
  let database ← readRbConfig readerFlat (some (oneSensorConfig observationId)) 1
  getSensor database 0x0a000001

theorem exists_configuredSensor {observationId : Json} {sensor : Sensor}
    (found : configuredSensor observationId = .ok (some sensor)) :
    ∃ database, readRbConfig readerFlat (some (oneSensorConfig observationId)) 1 = .ok database ∧
      getSensor database 0x0a000001 = .ok (some sensor) :=
  exists_of_bind_eq_ok found

/-- No names have been learned yet. -/
def unlearned (observationId : ObservationID) : Bool :=
  observationId.applications.keys.isEmpty && observationId.selectors.keys.isEmpty &&
    observationId.interfaces.keys.isEmpty

theorem lookup_of_noKeys {Entry : Type} {table : AList fun _ : UInt64 => Entry}
    (noKeys : table.keys = []) (id : UInt64) : table.lookup id = none := by
  rw [AList.lookup_eq_none, AList.mem_keys, noKeys]
  exact List.not_mem_nil

theorem PlainLearned.of_unlearned {observationId : ObservationID}
    (fresh : unlearned observationId = true) : PlainLearned observationId := by
  simp only [unlearned, Bool.and_eq_true, List.isEmpty_iff] at fresh
  obtain ⟨⟨applications, selectors⟩, interfaces⟩ := fresh
  constructor
  · intro id application found
    rw [ObservationID.getApplication, lookup_of_noKeys applications] at found
    contradiction
  · intro id selector found
    rw [ObservationID.getSelector, lookup_of_noKeys selectors] at found
    contradiction
  · intro id interface found
    rw [ObservationID.getInterface, lookup_of_noKeys interfaces] at found
    contradiction

theorem runSteps_jsonObjects_site :
    ∃ sensor result, configuredSensor siteConfig = .ok (some sensor) ∧
      runSteps dissectReceived sensor [engine0Received] = .ok result ∧
      ∀ records ∈ result.2, ∀ record ∈ records, ∀ message ∈ record.messages,
        JsonObject message.string := by
  have mapped : (configuredSensor siteConfig).map (fun sensor => sensor.map fun sensor =>
      ((sensor.getObservationId 0).map unlearned,
        (runSteps dissectReceived sensor [engine0Received]).map fun _ => ())) =
      .ok (some (some true, .ok ())) := by
    decide +kernel
  obtain ⟨found, configured, same⟩ := exists_of_map_eq_ok mapped
  obtain ⟨sensor, rfl, pair⟩ := Option.map_eq_some_iff.mp same
  obtain ⟨observations, ran⟩ := Prod.mk.inj pair
  obtain ⟨observationId, known, fresh⟩ := Option.map_eq_some_iff.mp observations
  obtain ⟨result, ran, _⟩ := exists_of_map_eq_ok ran
  obtain ⟨database, accepted, inDatabase⟩ := exists_configuredSensor configured
  have noSets : engine0Received.hasSets = false := by decide +kernel
  have engine : engine0Received.v5ObservationId = 0 := by decide +kernel
  have fits : TextsFit sensor engine0Received := by
    refine ⟨plainDatabases_splitting, ?_, ?_⟩
    · exact fun hasSets => absurd (noSets.symm.trans hasSets) Bool.false_ne_true
    · intro _ selected lookup
      rw [engine, known] at lookup
      cases lookup
      exact .of_unlearned fresh
  have along : AlongRun dissectReceived TextsFit sensor [engine0Received] :=
    ⟨fits, fun _ _ _ => trivial⟩
  exact ⟨sensor, result, configured, ran,
    (runSteps_jsonObjects writesObjects_flat plainConfig_site accepted inDatabase along).of_ok ran⟩

/-- An empty enrichment puts two commas into every message. -/
def emptyEnrichment : Json :=
  .object [(ascii "enrichment", .object [])]

theorem not_jsonObject_emptyEnrichment :
    PlainDatabases splittingGlobals ∧ WritesObjects jsonDumpsFlat ∧
      ∃ sensor result, configuredSensor emptyEnrichment = .ok (some sensor) ∧
        dissectReceived sensor engine0Received = .ok result ∧
        ∃ record ∈ result.2, ∃ message ∈ record.messages, ¬JsonObject message.string := by
  refine ⟨plainDatabases_splitting, writesObjects_flat, ?_⟩
  have mapped : (configuredSensor emptyEnrichment).map (fun sensor => sensor.map fun sensor =>
      (dissectReceived sensor engine0Received).map fun result =>
        result.2.map fun record =>
          record.messages.map fun message => Before.outside.after message.string) =
      .ok (some (.ok [[.commas]])) := by
    decide +kernel
  obtain ⟨found, configured, same⟩ := exists_of_map_eq_ok mapped
  obtain ⟨sensor, rfl, ran⟩ := Option.map_eq_some_iff.mp same
  obtain ⟨result, ran, scanned⟩ := exists_of_map_eq_ok ran
  obtain ⟨record, records, texts⟩ := List.map_eq_singleton_iff.mp scanned
  obtain ⟨message, messages, commas⟩ := List.map_eq_singleton_iff.mp texts
  refine ⟨sensor, result, configured, ran, record, by simp [records], message,
    by simp [messages], ?_⟩
  intro object
  rw [Before.after_object object] at commas
  cases commas

end F2k
