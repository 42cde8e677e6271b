import F2k.ExporterCache
import F2k.SetRuns

namespace F2k

open Lib

/-! The observation ids that exporters and time functions are called with while a datagram is
dissected. -/

/-- What is called after a run, when it comes to a value. -/
def afterwards (run : Run α) (next : α → List β) : List β :=
  match run with
  | .ok value => next value
  | .error _ => []

mutual

/-- The observation id of the flow cache at each call of an exporter. -/
def elementCalls (globals : ReadOnlyGlobals) (buffer : Mem) (realFieldLen : Nat) :
    Element → Bytes → FlowCache → List ObservationID
  | .mk templateElementId quote jsonElementName exportFn postTemplate, line, cache =>
      (exportFn.map fun _ => cache.observationId).toList ++
        afterwards
          (printElement globals line
            (.mk templateElementId quote jsonElementName exportFn postTemplate) buffer
            realFieldLen cache)
          fun own => elementsCalls globals buffer realFieldLen postTemplate own.line own.cache

def elementsCalls (globals : ReadOnlyGlobals) (buffer : Mem) (realFieldLen : Nat) :
    List Element → Bytes → FlowCache → List ObservationID
  | [], _, _ => []
  | element :: rest, line, cache =>
      elementCalls globals buffer realFieldLen element line cache ++
        afterwards (printNetflowRecordWithTemplate globals line element buffer realFieldLen cache)
          fun printed =>
            elementsCalls globals buffer realFieldLen rest printed.line printed.cache

end

def startCalls (globals : ReadOnlyGlobals) (flowVersion : Nat) (flowSequenceNumber : UInt32)
    (cache : FlowCache) : List ObservationID :=
  elementCalls globals (.ofBytes (toBe 2 flowVersion)) 2 redborderType (ascii "\x7b") cache ++
    afterwards
      (printNetflowRecordWithTemplate globals (ascii "\x7b") redborderType
        (.ofBytes (toBe 2 flowVersion)) 2 cache)
      fun printed =>
        elementCalls globals (.ofBytes (toBe 4 flowSequenceNumber.toNat)) 4 flowSequence
          printed.line printed.cache

/-- `guess_direction` asks for the networks of both addresses. -/
def directionCalls (globals : ReadOnlyGlobals) (line : Bytes) (cache : FlowCache) :
    List ObservationID :=
  if globals.normalizeDirections then
    cache.observationId ::
      afterwards (guessDirection cache) fun cache =>
        elementsCalls globals (fun _ => 0) 0 postTemplates line cache
  else []

/-- Last come the enrichment and the fallback of the first timestamp. -/
def finishCalls (globals : ReadOnlyGlobals) (line : Bytes) (cache : FlowCache) :
    List ObservationID :=
  elementCalls globals (fun _ => 0) 0 host line cache ++
    afterwards (printFromCache globals line host cache) fun printed =>
      elementCalls globals (fun _ => 0) 0 referer printed.line printed.cache ++
        afterwards (printFromCache globals printed.line referer printed.cache) fun printed =>
          directionCalls globals printed.line printed.cache ++
            afterwards (normalizeDirection globals printed.line printed.cache) fun printed =>
              [printed.cache.observationId, printed.cache.observationId]

/-! NetFlow V5 -/

def v5FieldCalls (globals : ReadOnlyGlobals) (the5Record : Mem) (flowIdx : Nat) (line : Bytes)
    (element : Element) (cache : FlowCache) : List ObservationID :=
  match v5Place flowIdx element.templateElementId.toNat with
  | none => []
  | some (place, length) =>
      elementCalls globals (the5Record.shift place) length element line cache

def v5FieldsCalls (globals : ReadOnlyGlobals) (the5Record : Mem) (flowIdx : Nat) :
    List Element → Bytes → FlowCache → List ObservationID
  | [], _, _ => []
  | element :: rest, line, cache =>
      v5FieldCalls globals the5Record flowIdx line element cache ++
        afterwards (dissectNetFlowV5Field globals the5Record flowIdx line element cache)
          fun printed => v5FieldsCalls globals the5Record flowIdx rest printed.line printed.cache

def v5RecordCalls (globals : ReadOnlyGlobals) (the5Record : Mem) (flowIdx : Nat)
    (observationId : ObservationID) : List ObservationID :=
  let flowVersion := headerNumber the5Record 0 2
  let flowSequenceNumber :=
    UInt32.ofNat (headerNumber the5Record 16 4) + UInt32.ofNat flowIdx
  startCalls globals flowVersion flowSequenceNumber { observationId } ++
    afterwards (startRecord globals flowVersion flowSequenceNumber { observationId })
      fun started =>
        let cache := withHeaderTimes false the5Record started.cache
        v5FieldsCalls globals the5Record flowIdx v5TemplateFields started.line cache ++
          afterwards
            (dissectNetFlowV5Fields globals the5Record flowIdx v5TemplateFields started.line
              cache)
            fun printed => finishCalls globals printed.line printed.cache

/-! Data sets -/

def placeCalls (globals : ReadOnlyGlobals) (buffer : Mem) (place : FieldPlace) (line : Bytes)
    (cache : FlowCache) : List ObservationID :=
  match place.field.v9Template with
  | none => []
  | some element =>
      elementCalls globals (buffer.shift place.place) place.length element line cache

def placesCalls (globals : ReadOnlyGlobals) (buffer : Mem) :
    List FieldPlace → Bytes → FlowCache → List ObservationID
  | [], _, _ => []
  | place :: rest, line, cache =>
      placeCalls globals buffer place line cache ++
        afterwards (place.print globals buffer line cache) fun printed =>
          placesCalls globals buffer rest printed.line printed.cache

def recordCalls (context : PacketContext) (buffer : Mem) (observationId : ObservationID)
    (flowSequenceNumber : UInt16) (places : List FieldPlace) : List ObservationID :=
  let flowSequenceNumber := flowSequenceNumber.toUInt32
  let cache := withHeaderTimes context.handleIpfix context.flowHeader { observationId }
  startCalls context.globals context.flowVersion flowSequenceNumber cache ++
    afterwards (startRecord context.globals context.flowVersion flowSequenceNumber cache)
      fun started =>
        placesCalls context.globals buffer places started.line started.cache ++
          afterwards (printPlaces context.globals buffer places started.line started.cache)
            fun printed => finishCalls context.globals printed.line printed.cache

def recordsCalls (context : PacketContext) (template : FlowSetV9Ipfix) (buffer : Mem)
    (endFlow : Nat) (observationId : ObservationID) : Nat → Nat → UInt16 → List ObservationID
  | 0, _, _ => []
  | turns + 1, displ, flowSequenceNumber =>
      if displ + 4 ≤ endFlow then
        let (places, after) :=
          fieldPlaces context.handleIpfix buffer endFlow template.fields displ
        recordCalls context buffer observationId flowSequenceNumber places ++
          afterwards (printRecord context buffer observationId flowSequenceNumber places)
            fun _ =>
              recordsCalls context template buffer endFlow observationId turns after
                (flowSequenceNumber + 1)
      else []

/-- Only the records of flow templates are printed. -/
def setCalls (context : PacketContext) (flowSequenceNumber : UInt16)
    (observationId : ObservationID) (set : SizedBuffer) : List ObservationID :=
  if isTemplateSet context.handleIpfix set then []
  else
    match usableTemplate observationId (set.u16 0) with
    | none => []
    | some template =>
        if template.isOptionTemplate then []
        else
          recordsCalls context template set.buffer (set.u16 2) observationId (set.u16 2 + 1) 4
            flowSequenceNumber

/-! Datagrams -/

namespace Received

def isV5 (received : Received) : Bool :=
  received.globals.sensorsInfo && headerNumber received.buffer 0 2 == 5

def selectedId (received : Received) : UInt32 :=
  if received.isV5 then received.v5ObservationId else packetObservationId received.buffer

/-- Every call is made with the observation id that the sensor selected: a data set's with what
the sets before it have made of it. -/
structure CallsWith (received : Received) (observationId : ObservationID) : Prop where
  v5 : received.isV5 = true → ∀ flowIdx < v5NumFlows received.buffer,
    ∀ called ∈ v5RecordCalls received.globals received.buffer flowIdx observationId,
      called = observationId
  sets : received.hasSets = true →
    AlongRun received.dissectSet
      (fun current set =>
        ∀ called ∈ setCalls received.context (packetSequence received.buffer).toUInt16 current
          set, called = current)
      observationId (setsOf received.buffer received.bufferLen)

end Received

/-- A packet of an unknown observation id leaves no trace, and the calls for any other one are
made with the observation id that was selected. -/
def HandledAlike (sensor : Sensor) (received : Received) : Prop :=
  match sensor.getObservationId received.selectedId with
  | none => dissectReceived sensor received = .ok (sensor, [])
  | some observationId =>
      received.CallsWith observationId ∧
        Outcome (fun fault => fault ≠ .nullObservationId) (fun _ => True)
          (dissectReceived sensor received)

/-! Nothing changes the observation id of a flow cache. -/

theorem printElement_keepsId (globals : ReadOnlyGlobals) (line : Bytes) (element : Element)
    (buffer : Mem) (realFieldLen : Nat) (cache : FlowCache) :
    Outcome (fun _ => True) (fun printed => printed.cache.observationId = cache.observationId)
      (printElement globals line element buffer realFieldLen cache) := by
  have exported := ((element.exported_writes globals buffer realFieldLen cache).mono_fails
    fun _ _ => trivial).mono fun _ written => written.observationId
  exact printElement_outcome (fun _ => trivial) exported fun _ _ _ _ kept => kept

section Keeping

variable {globals : ReadOnlyGlobals} {buffer : Mem} {realFieldLen : Nat}
  {observationId : ObservationID}

theorem printElement_hasId (element : Element) (line : Bytes) (cache : FlowCache)
    (before : cache.observationId = observationId) :
    Outcome (fun _ => True) (fun printed => printed.cache.observationId = observationId)
      (printElement globals line element buffer realFieldLen cache) :=
  (printElement_keepsId globals line element buffer realFieldLen cache).mono
    fun _ kept => kept.trans before

theorem printWithTemplate_hasId (element : Element) (line : Bytes) (cache : FlowCache)
    (before : cache.observationId = observationId) :
    Outcome (fun _ => True) (fun printed => printed.cache.observationId = observationId)
      (printNetflowRecordWithTemplate globals line element buffer realFieldLen cache) :=
  @printNetflowRecordWithTemplate_outcome globals buffer realFieldLen _
    (fun _ cache => cache.observationId = observationId) (fun _ => True)
    (fun element line cache _ before => printElement_hasId element line cache before)
    element line cache (Element.every_of_forall (fun _ => trivial) element) before

theorem guessDirection_hasId {cache : FlowCache} (before : cache.observationId = observationId) :
    Outcome (fun _ => True) (fun guessed => guessed.observationId = observationId)
      (guessDirection cache) := by
  refine ((guessDirection_outcome cache).mono_fails fun _ _ => trivial).mono ?_
  rintro _ ⟨direction, rfl⟩
  exact before

theorem normalizeDirection_hasId {line : Bytes} {cache : FlowCache}
    (before : cache.observationId = observationId) :
    Outcome (fun _ => True) (fun printed => printed.cache.observationId = observationId)
      (normalizeDirection globals line cache) :=
  @normalizeDirection_outcome globals _ (fun _ cache => cache.observationId = observationId)
    (fun _ => True)
    (fun element line cache _ before => printElement_hasId element line cache before)
    (fun _ _ _ before => before) line cache
    (Element.everyOf_of_forall (fun _ => trivial) postTemplates) before

theorem print_hasId {place : FieldPlace} {line : Bytes} {cache : FlowCache}
    (before : cache.observationId = observationId) :
    Outcome (fun _ => True) (fun printed => printed.cache.observationId = observationId)
      (place.print globals buffer line cache) := by
  unfold FieldPlace.print
  split
  · exact printWithTemplate_hasId _ line cache before
  · exact before

theorem v5Field_hasId {the5Record : Mem} {flowIdx : Nat} {element : Element} {line : Bytes}
    {cache : FlowCache} (before : cache.observationId = observationId) :
    Outcome (fun _ => True) (fun printed => printed.cache.observationId = observationId)
      (dissectNetFlowV5Field globals the5Record flowIdx line element cache) :=
  @dissectNetFlowV5Field_outcome globals _ (fun _ cache => cache.observationId = observationId)
    the5Record flowIdx line element cache (fun _ _ _ _ _ after => after)
    (fun _ _ _ => printWithTemplate_hasId element line cache before) before

end Keeping

/-! So every call is made with the one that the record started with. -/

/-- All of the calls are made with one observation id. -/
def AllWith (observationId : ObservationID) (calls : List ObservationID) : Prop :=
  ∀ called ∈ calls, called = observationId

namespace AllWith

variable {observationId : ObservationID}

theorem nil : AllWith observationId [] := by
  intro called member
  contradiction

theorem cons {calls : List ObservationID} (rest : AllWith observationId calls) :
    AllWith observationId (observationId :: calls) :=
  List.forall_mem_cons.mpr ⟨rfl, rest⟩

theorem append {calls others : List ObservationID} (first : AllWith observationId calls)
    (second : AllWith observationId others) : AllWith observationId (calls ++ others) :=
  List.forall_mem_append.mpr ⟨first, second⟩

theorem afterwards {fails : Fault → Prop} {post : α → Prop} {run : Run α}
    {next : α → List ObservationID} (outcome : Outcome fails post run)
    (then_ : ∀ value, post value → AllWith observationId (next value)) :
    AllWith observationId (F2k.afterwards run next) := by
  cases run with
  | error fault => exact nil
  | ok value => exact then_ value outcome

end AllWith

section Calls

variable {globals : ReadOnlyGlobals} {buffer : Mem} {realFieldLen : Nat}
  {observationId : ObservationID}

mutual

theorem elementCalls_with :
    ∀ (element : Element) (line : Bytes) (cache : FlowCache),
      cache.observationId = observationId →
      AllWith observationId (elementCalls globals buffer realFieldLen element line cache)
  | .mk templateElementId quote jsonElementName exportFn postTemplate, line, cache, before => by
      rw [elementCalls]
      refine .append ?_ (.afterwards (printElement_hasId _ line cache before) ?_)
      · intro called member
        obtain ⟨_, _, rfl⟩ := Option.map_eq_some_iff.mp (Option.mem_toList.mp member)
        exact before
      · intro own after
        exact elementsCalls_with postTemplate own.line own.cache after

theorem elementsCalls_with :
    ∀ (elements : List Element) (line : Bytes) (cache : FlowCache),
      cache.observationId = observationId →
      AllWith observationId (elementsCalls globals buffer realFieldLen elements line cache)
  | [], line, cache, _ => by
      rw [elementsCalls]
      exact .nil
  | element :: rest, line, cache, before => by
      rw [elementsCalls]
      refine .append (elementCalls_with element line cache before)
        (.afterwards (printWithTemplate_hasId element line cache before) ?_)
      intro printed after
      exact elementsCalls_with rest printed.line printed.cache after

end

theorem startCalls_with {flowVersion : Nat} {flowSequenceNumber : UInt32} {cache : FlowCache}
    (before : cache.observationId = observationId) :
    AllWith observationId (startCalls globals flowVersion flowSequenceNumber cache) := by
  refine .append (elementCalls_with _ _ _ before)
    (.afterwards (printWithTemplate_hasId _ _ _ before) ?_)
  intro printed after
  exact elementCalls_with _ _ _ after

theorem directionCalls_with {line : Bytes} {cache : FlowCache}
    (before : cache.observationId = observationId) :
    AllWith observationId (directionCalls globals line cache) := by
  unfold directionCalls
  split
  · rw [before]
    refine .cons (.afterwards (guessDirection_hasId before) ?_)
    intro guessed after
    exact elementsCalls_with _ _ _ after
  · exact .nil

theorem finishCalls_with {line : Bytes} {cache : FlowCache}
    (before : cache.observationId = observationId) :
    AllWith observationId (finishCalls globals line cache) := by
  refine .append (elementCalls_with _ _ _ before)
    (.afterwards (printWithTemplate_hasId _ _ _ before) ?_)
  intro hosted afterHost
  refine .append (elementCalls_with _ _ _ afterHost)
    (.afterwards (printWithTemplate_hasId _ _ _ afterHost) ?_)
  intro referred afterReferer
  refine .append (directionCalls_with afterReferer)
    (.afterwards (normalizeDirection_hasId afterReferer) ?_)
  intro printed after
  rw [after]
  exact .cons (.cons .nil)

theorem startRecord_hasId {flowVersion : Nat} (small : flowVersion < 65536)
    {flowSequenceNumber : UInt32} {cache : FlowCache}
    (before : cache.observationId = observationId) :
    Outcome (fun _ => True) (fun started => started.cache.observationId = observationId)
      (startRecord globals flowVersion flowSequenceNumber cache) := by
  rw [startRecord_eq globals small]
  exact before

theorem v5FieldsCalls_with {the5Record : Mem} {flowIdx : Nat} (elements : List Element)
    {line : Bytes} {cache : FlowCache} (before : cache.observationId = observationId) :
    AllWith observationId (v5FieldsCalls globals the5Record flowIdx elements line cache) := by
  induction elements generalizing line cache with
  | nil => exact .nil
  | cons element rest ih =>
      rw [v5FieldsCalls]
      refine .append ?_ (.afterwards (v5Field_hasId before) fun printed after => ih after)
      unfold v5FieldCalls
      split
      · exact .nil
      · exact elementCalls_with element line cache before

theorem v5RecordCalls_with (the5Record : Mem) (flowIdx : Nat) :
    AllWith observationId (v5RecordCalls globals the5Record flowIdx observationId) := by
  refine .append (startCalls_with rfl)
    (.afterwards (startRecord_hasId (headerNumber_lt the5Record 0 2) rfl) ?_)
  intro started after
  refine .append (v5FieldsCalls_with v5TemplateFields after) (.afterwards
    (@dissectNetFlowV5Fields_outcome globals _ (fun _ cache => cache.observationId = observationId)
      the5Record flowIdx _ (fun _ _ _ _ before => v5Field_hasId before) _ _ after) ?_)
  intro printed afterAll
  exact finishCalls_with afterAll

theorem placesCalls_with (places : List FieldPlace) {line : Bytes} {cache : FlowCache}
    (before : cache.observationId = observationId) :
    AllWith observationId (placesCalls globals buffer places line cache) := by
  induction places generalizing line cache with
  | nil => exact .nil
  | cons place rest ih =>
      rw [placesCalls]
      refine .append ?_ (.afterwards (print_hasId before) fun printed after => ih after)
      unfold placeCalls
      split
      · exact .nil
      · exact elementCalls_with _ line cache before

end Calls

section Sets

variable {context : PacketContext} {buffer : Mem} {observationId : ObservationID}

theorem recordCalls_with (small : context.flowVersion < 65536) (flowSequenceNumber : UInt16)
    (places : List FieldPlace) :
    AllWith observationId
      (recordCalls context buffer observationId flowSequenceNumber places) := by
  refine .append (startCalls_with rfl) (.afterwards (startRecord_hasId small rfl) ?_)
  intro started after
  refine .append (placesCalls_with places after) (.afterwards
    (@printPlaces_outcome context.globals _ (fun _ cache => cache.observationId = observationId)
      buffer places _ _ (fun _ _ _ _ before => print_hasId before) after) ?_)
  intro printed afterAll
  exact finishCalls_with afterAll

theorem recordsCalls_with (small : context.flowVersion < 65536) (template : FlowSetV9Ipfix)
    (endFlow turns displ : Nat) (flowSequenceNumber : UInt16) :
    AllWith observationId
      (recordsCalls context template buffer endFlow observationId turns displ
        flowSequenceNumber) := by
  induction turns generalizing displ flowSequenceNumber with
  | zero => exact .nil
  | succ turns ih =>
      rw [recordsCalls]
      split
      · cases ran : printRecord context buffer observationId flowSequenceNumber
            (fieldPlaces context.handleIpfix buffer endFlow template.fields displ).1 with
        | error fault =>
            simp only [ran, afterwards, List.append_nil]
            exact recordCalls_with small _ _
        | ok record =>
            simp only [ran, afterwards]
            exact .append (recordCalls_with small _ _) (ih _ _)
      · exact .nil

theorem setCalls_with (small : context.flowVersion < 65536) (flowSequenceNumber : UInt16)
    (set : SizedBuffer) :
    AllWith observationId (setCalls context flowSequenceNumber observationId set) := by
  unfold setCalls
  split
  · exact .nil
  · split
    · exact .nil
    · split
      · exact .nil
      · exact recordsCalls_with small _ _ _ _ _

end Sets

/-! Datagrams -/

theorem Received.callsWith (received : Received) (observationId : ObservationID) :
    received.CallsWith observationId where
  v5 _ flowIdx _ := v5RecordCalls_with received.buffer flowIdx
  sets _ := AlongRun.of_forall
    (fun _ set => setCalls_with (headerNumber_lt received.buffer 0 2) _ set) _ _

theorem dissectSet_known {context : PacketContext} (small : context.flowVersion < 65536)
    (flowSequenceNumber : UInt16) (observationId : ObservationID) (set : SizedBuffer) :
    Outcome (fun fault => fault ≠ .nullObservationId) (fun _ => True)
      (dissectSet context flowSequenceNumber observationId set) := by
  have run := dissectSet_run context flowSequenceNumber observationId set
  generalize dissectSet context flowSequenceNumber observationId set = result at run ⊢
  cases run with
  | idle changed => exact trivial
  | options data usable isOption =>
      refine Outcome.map_iff.mpr (dissectOptionFlows_fails (by simp) ?_ _ observationId .refl)
      intro cursor observationId _ _
      refine (learnNames_outcome _ observationId).mono_fails ?_
      rintro fault rfl
      simp
  | records data usable isFlow =>
      refine Outcome.map_iff.mpr (dissectRecords_fails (by simp) ?_ _ _ .refl)
      intro displ flowSequenceNumber _ _
      refine printRecord_fails small (by simp) _ _ _ ?_
      intro place _ element _
      exact Element.every_of_forall (fun _ _ => by simp) element

/-- Packets are handled alike, whatever their version and observation id, but for V5 packets
with records of an unknown one. -/
theorem handledAlike_iff (sensor : Sensor) (received : Received) :
    HandledAlike sensor received ↔
      (received.isV5 = true → sensor.getObservationId received.v5ObservationId = none →
        v5NumFlows received.buffer = 0) := by
  unfold HandledAlike Received.selectedId
  cases isV5 : received.isV5 with
  | true =>
      have both := isV5
      simp only [Received.isV5, Bool.and_eq_true, beq_iff_eq] at both
      rw [dissectReceived_v5 both.1 both.2]
      simp only [if_true, true_implies]
      cases found : sensor.getObservationId received.v5ObservationId with
      | some observationId =>
          simp only [reduceCtorEq, false_implies, iff_true]
          refine ⟨received.callsWith observationId, Outcome.map_iff.mpr ?_⟩
          exact dissectNetFlowV5_fails (by simp) _ _ observationId
      | none =>
          simp only [true_implies, dissectNetFlowV5]
          by_cases empty : v5NumFlows received.buffer = 0
          · simp [empty, Except.map]
          · simp [empty, Except.map]
  | false =>
      simp only [Bool.false_eq_true, if_false, false_implies, iff_true]
      cases hasSets : received.hasSets with
      | true =>
          rw [dissectReceived_sets hasSets]
          cases sensor.getObservationId (packetObservationId received.buffer) with
          | none => rfl
          | some observationId =>
              refine ⟨received.callsWith observationId, Outcome.map_iff.mpr ?_⟩
              have small : received.context.flowVersion < 65536 :=
                headerNumber_lt received.buffer 0 2
              have ran := runSteps_outcome (fun _ => True) (fun _ => True)
                (fun observationId set _ _ =>
                  (dissectSet_known small (packetSequence received.buffer).toUInt16
                    observationId set).mono fun _ _ => ⟨trivial, trivial⟩)
                trivial
                (AlongRun.of_forall (fun _ _ => trivial) observationId
                  (setsOf received.buffer received.bufferLen))
              exact ran.mono fun _ _ => trivial
      | false =>
          have idle := dissectReceived_other hasSets (fun active version => by
            simp [Received.isV5, active, version] at isV5) sensor
          rw [idle]
          cases sensor.getObservationId (packetObservationId received.buffer) with
          | none => rfl
          | some observationId => exact ⟨received.callsWith observationId, trivial⟩

/-- A V5 packet of one record, of engine 0. -/
def engine0Received : Received where
  globals := splittingGlobals
  buffer := .ofBytes (toBe 2 5 ++ toBe 2 1 ++ List.replicate 68 0)
  bufferLen := 72

/-- A sensor without observation ids stops the program at its first V5 record. -/
theorem not_handledAlike_engine0 :
    dissectReceived { sensorOf (.new 7) with observationId := ∅ } engine0Received =
        .error .nullObservationId ∧
      ¬HandledAlike { sensorOf (.new 7) with observationId := ∅ } engine0Received := by
  let sensor : Sensor := { sensorOf (.new 7) with observationId := ∅ }
  have stopped : dissectReceived sensor engine0Received = .error .nullObservationId := by
    have mapped : (dissectReceived sensor engine0Received).map (fun _ => ()) =
        .error .nullObservationId := by
      decide +kernel
    exact eq_error_of_map mapped
  refine ⟨stopped, ?_⟩
  intro alike
  have unknown : sensor.getObservationId engine0Received.selectedId = none := by
    decide +kernel
  change HandledAlike sensor engine0Received at alike
  rw [HandledAlike, unknown, stopped] at alike
  contradiction

end F2k
