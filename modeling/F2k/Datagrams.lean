import F2k.Messages
import F2k.PacketSets

namespace F2k

open Lib

/-! Datagrams of one sensor, one after another: the rules by which dissecting them keeps a
property, whatever their version. -/

section V5

variable {globals : ReadOnlyGlobals} {fails : Fault → Prop} {holds : Bytes → FlowCache → Prop}
  {passes : Element → Prop}

theorem dissectNetFlowV5Field_outcome {the5Record : Mem} {flowIdx : Nat} {line : Bytes}
    {element : Element} {cache : FlowCache}
    (mixes : ∀ line cache otherLine otherCache, holds line cache → holds otherLine otherCache →
      holds line otherCache)
    (printed : ∀ place length, v5Place flowIdx element.templateElementId.toNat =
        some (place, length) →
      Outcome fails (fun printed => holds printed.line printed.cache)
        (printNetflowRecordWithTemplate globals line element (the5Record.shift place) length
          cache))
    (before : holds line cache) :
    Outcome fails (fun printed => holds printed.line printed.cache)
      (dissectNetFlowV5Field globals the5Record flowIdx line element cache) := by
  rw [dissectNetFlowV5Field]
  cases found : v5Place flowIdx element.templateElementId.toNat with
  | none => exact before
  | some extent =>
      obtain ⟨place, length⟩ := extent
      refine (printed place length found).bind ?_
      intro result _ after
      split
      · exact mixes _ _ _ _ before after
      · exact after

theorem dissectNetFlowV5Fields_outcome {the5Record : Mem} {flowIdx : Nat}
    {elements : List Element}
    (each : ∀ element ∈ elements, ∀ line cache, holds line cache →
      Outcome fails (fun printed => holds printed.line printed.cache)
        (dissectNetFlowV5Field globals the5Record flowIdx line element cache))
    {line : Bytes} {cache : FlowCache} (before : holds line cache) :
    Outcome fails (fun printed => holds printed.line printed.cache)
      (dissectNetFlowV5Fields globals the5Record flowIdx elements line cache) := by
  induction elements generalizing line cache with
  | nil => exact before
  | cons element rest ih =>
      rw [dissectNetFlowV5Fields]
      refine (each element List.mem_cons_self line cache before).bind ?_
      intro printed _ after
      exact ih (fun element member => each element (List.mem_cons_of_mem _ member)) after

variable (holds passes) in
/-- The rule for a NetFlow V5 record, as the one for a record of a data set. -/
theorem dissectNetFlowV5Record_outcome {the5Record : Mem} {flowIdx : Nat}
    {observationId : ObservationID}
    (intervals : fails (.endlessLoop .intervals))
    (start : holds
      (startText (headerNumber the5Record 0 2)
        (UInt32.ofNat (headerNumber the5Record 16 4) + UInt32.ofNat flowIdx))
      (withHeaderTimes false the5Record { observationId }))
    (each : ∀ element ∈ v5TemplateFields, ∀ line cache, holds line cache →
      Outcome fails (fun printed => holds printed.line printed.cache)
        (dissectNetFlowV5Field globals the5Record flowIdx line element cache))
    (own : ∀ element line cache, passes element → holds line cache →
      Outcome fails (fun printed => holds printed.line printed.cache)
        (printElement globals line element (fun _ => 0) 0 cache))
    (turned : ∀ line cache direction, holds line cache →
      holds line { cache with macs := { cache.macs with direction } })
    (every : Element.EveryOf passes (host :: referer :: postTemplates)) :
    Outcome fails
      (fun record => ∃ line cache, holds line cache ∧
        ∀ message ∈ record.messages, Closes (printSensorEnrichment line cache) message)
      (dissectNetFlowV5Record globals the5Record flowIdx observationId) := by
  rw [dissectNetFlowV5Record]
  simp only [startRecord_eq globals (headerNumber_lt the5Record 0 2), Run.ok_bind]
  refine (dissectNetFlowV5Fields_outcome each start).bind ?_
  intro printed _ after
  refine (finishRecord_outcome intervals own turned every after).bind ?_
  intro messages _ closes
  exact closes

theorem dissectNetFlowV5Records_outcome (good : FlowRecord → Prop) {the5Record : Mem}
    {observationId : ObservationID}
    (each : ∀ flowIdx, Outcome fails good
      (dissectNetFlowV5Record globals the5Record flowIdx observationId))
    (count flowIdx : Nat) :
    Outcome fails (fun records => ∀ record ∈ records, good record)
      (dissectNetFlowV5Records globals the5Record observationId count flowIdx) := by
  induction count generalizing flowIdx with
  | zero =>
      intro record member
      contradiction
  | succ count ih =>
      rw [dissectNetFlowV5Records]
      refine (each flowIdx).bind ?_
      intro record _ first
      refine (ih (flowIdx + 1)).bind ?_
      intro rest _ others
      exact List.forall_mem_cons.mpr ⟨first, others⟩

end V5

theorem printRecords_outcome {fails : Fault → Prop} (good : FlowRecord → Prop)
    {context : PacketContext} {buffer : Mem} {observationId : ObservationID}
    {records : List (List FieldPlace)}
    (each : ∀ flowSequenceNumber, ∀ places ∈ records, Outcome fails good
      (printRecord context buffer observationId flowSequenceNumber places))
    (flowSequenceNumber : UInt16) :
    Outcome fails (fun printed => ∀ record ∈ printed, good record)
      (printRecords context buffer observationId flowSequenceNumber records) := by
  induction records generalizing flowSequenceNumber with
  | nil =>
      intro record member
      contradiction
  | cons places rest ih =>
      rw [printRecords]
      refine (each flowSequenceNumber places List.mem_cons_self).bind ?_
      intro record _ first
      refine (ih (fun sequence places member =>
        each sequence places (List.mem_cons_of_mem _ member)) (flowSequenceNumber + 1)).bind ?_
      intro others _ last
      exact List.forall_mem_cons.mpr ⟨first, last⟩

/-! Datagrams -/

/-- A datagram as a worker gets it: the bytes, and what the rest of the program is then. -/
structure Received where
  globals : ReadOnlyGlobals
  buffer : Mem
  bufferLen : Nat

/-- What a datagram leaves of its sensor, and the records that are printed of it. -/
def dissectReceived (sensor : Sensor) (received : Received) : Run (Sensor × List FlowRecord) :=
  (dissectNetFlow received.globals sensor received.buffer received.bufferLen).map
    fun dissected => (dissected.sensor, dissected.records)

namespace Received

def hasSets (received : Received) : Bool :=
  received.globals.sensorsInfo &&
    (headerNumber received.buffer 0 2 == 9 || headerNumber received.buffer 0 2 == 10)

def context (received : Received) : PacketContext :=
  packetContext received.globals received.buffer

def dissectSet (received : Received) (observationId : ObservationID) (set : SizedBuffer) :
    Run (ObservationID × List FlowRecord) :=
  F2k.dissectSet received.context (packetSequence received.buffer).toUInt16 observationId set

/-- Every set of the datagram meets a condition on the observation id that the sets before it
leave. -/
def EverySet (holds : PacketContext → ObservationID → SizedBuffer → Prop) (sensor : Sensor)
    (received : Received) : Prop :=
  received.hasSets = true → ∀ observationId,
    sensor.getObservationId (packetObservationId received.buffer) = some observationId →
    AlongRun received.dissectSet (holds received.context) observationId
      (setsOf received.buffer received.bufferLen)

theorem EverySet.mono {holds weaker : PacketContext → ObservationID → SizedBuffer → Prop}
    {sensor : Sensor} {received : Received} (every : received.EverySet holds sensor)
    (implies : ∀ context observationId set, holds context observationId set →
      weaker context observationId set) : received.EverySet weaker sensor :=
  fun hasSets observationId found =>
    (every hasSets observationId found).mono fun observationId set =>
      implies received.context observationId set

def v5ObservationId (received : Received) : UInt32 :=
  (received.buffer 20).toUInt32 <<< 8 + (received.buffer 21).toUInt32

end Received

/-- The rule for a datagram, from the rules for its sets and for V5. -/
theorem dissectReceived_outcome {fails : Fault → Prop}
    (post : Sensor → List FlowRecord → Prop) {sensor : Sensor} {received : Received}
    (idle : (received.hasSets = true →
      sensor.getObservationId (packetObservationId received.buffer) = none) → post sensor [])
    (sets : received.hasSets = true → ∀ observationId,
      sensor.getObservationId (packetObservationId received.buffer) = some observationId →
      Outcome fails
        (fun result =>
          post (sensor.updateObservationId (packetObservationId received.buffer) result.1)
            result.2.flatten)
        (runSteps received.dissectSet observationId
          (setsOf received.buffer received.bufferLen)))
    (v5 : received.hasSets = false → Outcome fails (post sensor)
      (dissectNetFlowV5 received.globals received.buffer
        (sensor.getObservationId received.v5ObservationId))) :
    Outcome fails (fun result => post result.1 result.2) (dissectReceived sensor received) := by
  rw [dissectReceived, Outcome.map_iff, dissectNetFlow]
  cases active : received.globals.sensorsInfo with
  | false =>
      have noSets : received.hasSets = false := by
        rw [Received.hasSets, active]
        rfl
      exact idle (by simp [noSets])
  | true =>
      simp only [Bool.true_eq_false, if_false]
      by_cases versions :
          headerNumber received.buffer 0 2 = 9 ∨ headerNumber received.buffer 0 2 = 10
      · simp only [if_pos versions]
        have hasSets : received.hasSets = true := by
          simpa [Received.hasSets, active] using versions
        exact dissectNetflowV9V10_outcome post (fun unknown => idle fun _ => unknown)
          (sets hasSets)
      · simp only [if_neg versions]
        have noSets : received.hasSets = false := by
          simpa [Received.hasSets, active] using versions
        split
        · refine Outcome.bind (v5 noSets) ?_
          intro records _ good
          simpa [Dissected.records] using good
        · exact idle (by simp [noSets])

theorem dissectReceived_sets {received : Received} (hasSets : received.hasSets = true)
    (sensor : Sensor) :
    dissectReceived sensor received =
      match sensor.getObservationId (packetObservationId received.buffer) with
      | none => .ok (sensor, [])
      | some observationId =>
          (runSteps received.dissectSet observationId
            (setsOf received.buffer received.bufferLen)).map fun result =>
              (sensor.updateObservationId (packetObservationId received.buffer) result.1,
                result.2.flatten) := by
  simp only [Received.hasSets, Bool.and_eq_true, Bool.or_eq_true, beq_iff_eq] at hasSets
  obtain ⟨active, versions⟩ := hasSets
  rw [dissectReceived, dissectNetFlow, active]
  simp only [Bool.true_eq_false, if_false, if_pos versions]
  exact dissectNetflowV9V10_eq received.globals sensor received.buffer received.bufferLen

theorem dissectReceived_v5 {received : Received} (active : received.globals.sensorsInfo = true)
    (version : headerNumber received.buffer 0 2 = 5) (sensor : Sensor) :
    dissectReceived sensor received =
      (dissectNetFlowV5 received.globals received.buffer
        (sensor.getObservationId received.v5ObservationId)).map fun records =>
          (sensor, records) := by
  rw [dissectReceived, dissectNetFlow, active]
  simp only [Bool.true_eq_false, if_false, version, Nat.reduceEqDiff, or_self, if_true]
  change ((dissectNetFlowV5 received.globals received.buffer
    (sensor.getObservationId received.v5ObservationId)) >>= _).map _ = _
  cases dissectNetFlowV5 received.globals received.buffer
      (sensor.getObservationId received.v5ObservationId) with
  | error fault => rfl
  | ok records =>
      simp only [Run.ok_bind, Run.pure_eq_ok, Except.map, Dissected.records, List.flatten_cons,
        List.flatten_nil, List.append_nil]

theorem dissectReceived_other {received : Received} (noSets : received.hasSets = false)
    (notV5 : received.globals.sensorsInfo = true → headerNumber received.buffer 0 2 ≠ 5)
    (sensor : Sensor) : dissectReceived sensor received = .ok (sensor, []) := by
  rw [dissectReceived, dissectNetFlow]
  cases active : received.globals.sensorsInfo with
  | false => rfl
  | true =>
      have versions : ¬(headerNumber received.buffer 0 2 = 9 ∨
          headerNumber received.buffer 0 2 = 10) := by
        simpa [Received.hasSets, active] using noSets
      simp only [Bool.true_eq_false, if_false, if_neg versions, if_neg (notV5 active)]
      rfl

end F2k
