import F2k.DatagramIsolation
import F2k.Lib.Sharing
import F2k.Shutdown

namespace F2k

open Lib

/-! Workers dissect the datagrams of their sensors side by side. All datagrams of a sensor go to
one worker, and no other touches what the sensor keeps. -/

/-- What a worker does of a datagram without anything else of the datagram in between. -/
inductive DatagramPiece
  | whole
  | set (set : SizedBuffer)

namespace Received

/-- A datagram of sets is dissected set by set, and what looks like sFlow is only freed. -/
def pieces (received : Received) : List DatagramPiece :=
  if isSflow received.buffer then []
  else if received.hasSets then received.sets.map .set
  else [.whole]

def sendable (records : List FlowRecord) : List Message :=
  records.flatMap FlowRecord.messages

def dissectPiece (received : Received) (sensor : Sensor) :
    DatagramPiece → Run (Sensor × List Message)
  | .whole => (dissectReceived sensor received).map fun result => (result.1, sendable result.2)
  | .set set =>
      match sensor.getObservationId (packetObservationId received.buffer) with
      | none => .ok (sensor, [])
      | some observationId =>
          (received.dissectSet observationId set).map fun result =>
            (sensor.updateObservationId (packetObservationId received.buffer) result.1,
              sendable result.2)

end Received

/-- The sensors are shared out among the workers that the configuration gives them. -/
def workerSharing : Sharing IpAddr Nat Packet DatagramPiece Sensor Message Fault where
  key := Packet.sensor
  owner := Sensor.worker
  pieces packet := packet.received.pieces
  work packet := packet.received.dissectPiece

/-- A packet as a single thread dissects it. -/
def Packet.dissectAlone (sensor : Sensor) (packet : Packet) : Run (Sensor × List Message) :=
  (dissectReceived sensor packet.received).map fun result =>
    (result.1, Received.sendable result.2)

/-! The pieces of a datagram come to the datagram -/

theorem kreplace_kreplace {Key Value : Type} [DecidableEq Key] (key : Key) (first last : Value)
    (entries : List (Sigma fun _ : Key => Value)) :
    List.kreplace key last (List.kreplace key first entries) =
      List.kreplace key last entries := by
  induction entries with
  | nil => rfl
  | cons entry rest ih =>
      obtain ⟨found, old⟩ := entry
      by_cases here : key = found
      · subst here
        simp [List.kreplace, List.lookmap_cons_some]
      · have kept (value : Value) (others : List (Sigma fun _ : Key => Value)) :
            List.kreplace key value (⟨found, old⟩ :: others) =
              ⟨found, old⟩ :: List.kreplace key value others := by
          apply List.lookmap_cons_none
          simp [here]
        rw [kept, kept, kept, ih]

theorem updateObservationId_twice (sensor : Sensor) (id : UInt32)
    (first last : ObservationID) :
    (sensor.updateObservationId id first).updateObservationId id last =
      sensor.updateObservationId id last := by
  have still := @Sensor.lookup_updateObservationId sensor id first id
  simp only [Sensor.updateObservationId] at still ⊢
  cases known : sensor.observationId.lookup id with
  | none =>
      simp only [known]
  | some observationId =>
      simp only [known] at still ⊢
      obtain ⟨replaced, found⟩ := Option.isSome_iff_exists.mp still
      simp only [found]
      congr 1
      exact AList.ext (kreplace_kreplace id first last sensor.observationId.entries)

theorem getObservationId_update (sensor : Sensor) (id : UInt32) (changed : ObservationID) :
    (sensor.updateObservationId id changed).getObservationId id = some changed := by
  rw [Sensor.getObservationId_updateObservationId, if_pos rfl]

namespace Received

variable {received : Received} {sensor : Sensor}

theorem sendable_append (records later : List FlowRecord) :
    sendable (records ++ later) = sendable records ++ sendable later :=
  List.flatMap_append

theorem runSteps_unknown
    (unknown : sensor.getObservationId (packetObservationId received.buffer) = none)
    (sets : List SizedBuffer) :
    ∃ outputs, runSteps received.dissectPiece sensor (sets.map .set) = .ok (sensor, outputs) ∧
      outputs.flatten = [] := by
  induction sets with
  | nil => exact ⟨[], rfl, rfl⟩
  | cons set rest ih =>
      obtain ⟨outputs, ran, empty⟩ := ih
      refine ⟨[] :: outputs, ?_, by simpa using empty⟩
      rw [List.map_cons, runSteps, dissectPiece, unknown]
      simp only [ok_bind, ran]
      rfl

theorem dissectPiece_set {observationId : ObservationID}
    (known : sensor.getObservationId (packetObservationId received.buffer) = some observationId)
    (set : SizedBuffer) :
    received.dissectPiece sensor (.set set) =
      (received.dissectSet observationId set).map fun result =>
        (sensor.updateObservationId (packetObservationId received.buffer) result.1,
          sendable result.2) := by
  rw [dissectPiece, known]

theorem runSteps_known {observationId : ObservationID}
    (known : sensor.getObservationId (packetObservationId received.buffer) = some observationId)
    (sets : List SizedBuffer) :
    (runSteps received.dissectPiece sensor (sets.map .set)).map
        (fun result => (result.1, result.2.flatten)) =
      (runSteps received.dissectSet observationId sets).map fun result =>
        (sensor.updateObservationId (packetObservationId received.buffer) result.1,
          sendable result.2.flatten) := by
  induction sets generalizing sensor observationId with
  | nil =>
      simp only [List.map_nil, runSteps, Except.map, updateObservationId_self known,
        List.flatten_nil]
      rfl
  | cons set rest ih =>
      rw [List.map_cons, runSteps, runSteps, dissectPiece_set known]
      cases received.dissectSet observationId set with
      | error fault => rfl
      | ok result =>
          have later := ih
            (getObservationId_update sensor (packetObservationId received.buffer) result.1)
          simp only [Except.map, ok_bind] at later ⊢
          cases pieces : runSteps received.dissectPiece
              (sensor.updateObservationId (packetObservationId received.buffer) result.1)
              (rest.map .set) with
          | error fault =>
              cases whole : runSteps received.dissectSet result.1 rest with
              | error other =>
                  rw [pieces, whole] at later
                  cases later
                  rfl
              | ok reached =>
                  rw [pieces, whole] at later
                  cases later
          | ok reached =>
              cases whole : runSteps received.dissectSet result.1 rest with
              | error other =>
                  rw [pieces, whole] at later
                  cases later
              | ok other =>
                  rw [pieces, whole] at later
                  obtain ⟨sensors, messages⟩ := Prod.mk.inj (Except.ok.inj later)
                  rw [updateObservationId_twice] at sensors
                  simp only [ok_bind, Run.pure_eq_ok, List.flatten_cons, sendable_append,
                    sensors, messages]

theorem dissectReceived_sflow (sflow : isSflow received.buffer = true) (sensor : Sensor) :
    dissectReceived sensor received = .ok (sensor, []) := by
  have version : headerNumber received.buffer 0 2 = 0 := by
    simp only [isSflow, Bool.and_eq_true, beq_iff_eq] at sflow
    obtain ⟨⟨⟨first, second⟩, _⟩, _⟩ := sflow
    simp [headerNumber, Mem.slice, beNat, List.range_succ, first, second]
  apply dissectReceived_other
  · simp [hasSets, version]
  · intro _
    rw [version]
    decide

/-- Whatever is done of a datagram piece by piece is what is done of it at once. -/
theorem whole_eq_dissectAlone (sensor : Sensor) (packet : Packet) :
    workerSharing.whole sensor packet = packet.dissectAlone sensor := by
  obtain ⟨address, received⟩ := packet
  change (runSteps received.dissectPiece sensor received.pieces).map _ =
    (dissectReceived sensor received).map _
  rw [pieces]
  by_cases sflow : isSflow received.buffer = true
  · rw [if_pos sflow, dissectReceived_sflow sflow]
    rfl
  · rw [if_neg sflow]
    by_cases hasSets : received.hasSets = true
    · rw [if_pos hasSets, dissectReceived_sets hasSets]
      cases known : sensor.getObservationId (packetObservationId received.buffer) with
      | none =>
          obtain ⟨outputs, ran, empty⟩ := runSteps_unknown known received.sets
          rw [ran]
          simp only [Except.map, empty, sendable, List.flatMap_nil]
      | some observationId =>
          rw [runSteps_known known, sets]
          dsimp only
          cases runSteps received.dissectSet observationId
              (setsOf received.buffer received.bufferLen) with
          | error fault => rfl
          | ok result => rfl
    · rw [if_neg hasSets, runSteps, dissectPiece]
      cases dissectReceived sensor received with
      | error fault => rfl
      | ok result =>
          simp only [Except.map, ok_bind, runSteps, Run.pure_eq_ok, List.flatten_cons,
            List.flatten_nil, List.append_nil]

/-! The worker of a sensor -/

theorem worker_updateObservationId (sensor : Sensor) (id : UInt32) (changed : ObservationID) :
    (sensor.updateObservationId id changed).worker = sensor.worker := by
  rw [Sensor.updateObservationId]
  split <;> rfl

theorem dissectReceived_worker (sensor : Sensor) (received : Received) :
    Outcome (fun _ => True) (fun result => result.1.worker = sensor.worker)
      (dissectReceived sensor received) := by
  apply dissectReceived_outcome fun next _ => next.worker = sensor.worker
  · exact fun _ => rfl
  · intro _ observationId _
    cases runSteps received.dissectSet observationId
        (setsOf received.buffer received.bufferLen) with
    | error fault => trivial
    | ok result => exact worker_updateObservationId _ _ _
  · intro _
    cases dissectNetFlowV5 received.globals received.buffer
        (sensor.getObservationId received.v5ObservationId) with
    | error fault => trivial
    | ok records => rfl

theorem workerSharing_keepsOwner : workerSharing.KeepsOwner := by
  intro packet sensor piece next made worked
  change next.worker = sensor.worker
  cases piece with
  | whole =>
      obtain ⟨result, ran, same⟩ := exists_of_map_eq_ok worked
      cases same
      exact (dissectReceived_worker sensor packet.received).of_ok ran
  | set set =>
      change (match sensor.getObservationId (packetObservationId packet.received.buffer) with
        | none => _
        | some observationId => _) = _ at worked
      split at worked
      · cases worked
        rfl
      · obtain ⟨result, _, same⟩ := exists_of_map_eq_ok worked
        cases same
        exact worker_updateObservationId _ _ _

end Received

/-- What was sent for a sensor and what the sensor keeps is what dissecting its packets one after
another comes to: some of the first ones while its worker is busy, and then all of them. -/
structure DissectsInOrder (sensor : Sensor) (worker : Nat) (address : IpAddr)
    (system : Shared IpAddr Nat Packet DatagramPiece Sensor Message) : Prop where
  sent : ∃ packets reached outputs, packets <+: workerSharing.arrivedFor system address ∧
    runSteps Packet.dissectAlone sensor packets = .ok (reached, outputs) ∧
    system.sentFor address <+: outputs.flatten
  all : system.Idle worker → ∃ reached outputs,
    runSteps Packet.dissectAlone sensor (workerSharing.arrivedFor system address) =
      .ok (reached, outputs) ∧
    system.states address = some reached ∧ system.sentFor address = outputs.flatten

/-- Listeners and workers may act in any order. -/
theorem workers_dissectInOrder {database : SensorsDB} {actions : List (SharedAction Nat Packet)}
    {system : Shared IpAddr Nat Packet DatagramPiece Sensor Message}
    (ran : Takes workerSharing.step (.start database.database.lookup) actions system)
    {address : IpAddr} {sensor : Sensor} {worker : Nat}
    (found : database.database.lookup address = some sensor)
    (owner : sensor.worker = some worker) :
    DissectsInOrder sensor worker address system := by
  have same : workerSharing.whole = Packet.dissectAlone := by
    funext sensor packet
    exact Received.whole_eq_dissectAlone sensor packet
  obtain ⟨sent, all⟩ := Sharing.sequential_of_takes Received.workerSharing_keepsOwner found
    (show workerSharing.owner sensor = some worker from owner) ran
  rw [same] at sent all
  exact ⟨sent, all⟩

/-- Two sensors, each with a worker of its own. -/
def twoSensors : SensorsDB where
  database :=
    ((∅ : Table IpAddr Sensor).insert (.v4 0) ((sensorOf (.new 7)).setWorker 0)).insert (.v4 1)
      ((sensorOf (.new 7)).setWorker 1)

def interleaved : List (SharedAction Nat Packet) :=
  let announced := packetOf [setBytes 0 (templateBytes 257 [(4, 1)])]
  let data := packetOf [setBytes 257 [6, 0, 0, 0], setBytes 257 [17, 0, 0, 0]]
  [.arrive announced, .arrive { announced with sensor := .v4 1 }, .take 1, .take 0,
    .arrive { data with sensor := .v4 1 }, .work 0, .finish 0, .work 1, .arrive data, .finish 1,
    .take 0, .take 1, .work 1, .work 0, .work 0, .send 0, .work 1, .send 1, .send 0, .finish 0]

theorem workers_dissectInOrder_interleaved :
    ∃ system, Takes workerSharing.step (.start twoSensors.database.lookup) interleaved system ∧
      system.sentFor (.v4 0) ≠ [] ∧
      DissectsInOrder ((sensorOf (.new 7)).setWorker 0) 0 (.v4 0) system := by
  have ends : (interleaved.foldlM workerSharing.step (.start twoSensors.database.lookup)).any
      (fun system => (system.sentFor (.v4 0)).length == 2) = true := by
    decide +kernel
  obtain ⟨system, ran, sent⟩ := Takes.exists_of_any ends
  refine ⟨system, ran, ?_, workers_dissectInOrder ran ?_ rfl⟩
  · intro none
    rw [none] at sent
    exact absurd sent (by decide)
  · exact (AList.lookup_insert_ne (by decide)).trans (AList.lookup_insert _)

end F2k
