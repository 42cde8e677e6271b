import F2k.EncodedSet
import F2k.Isolation

namespace F2k

open Lib

/-! A datagram is dissected from its own bytes: what must be below its end, and that the bytes
behind it then make no difference. -/

theorem headerNumber_congr {left right : Mem} {bound offset length : Nat}
    (agree : Mem.AgreeBelow bound left right) (inside : offset + length ≤ bound) :
    headerNumber left offset length = headerNumber right offset length := by
  rw [headerNumber, headerNumber, (agree.mono inside).shift.slice_eq (Nat.le_refl length)]

/-! NetFlow V5 -/

theorem v5Place_le {flowIdx templateElementId place length : Nat}
    (found : v5Place flowIdx templateElementId = some (place, length)) :
    place + max length 1 ≤ v5HeaderSize + v5RecordSize * flowIdx + 40 := by
  unfold v5Place at found
  split at found
  case h_17 => contradiction
  all_goals
    obtain ⟨rfl, rfl⟩ := Prod.mk.inj (Option.some.inj found)
    simp only [v5HeaderSize]
    omega

/-- The number of records of a V5 datagram is below the bound, the observation id if there are
records, and every field of them if the observation id is known. -/
structure V5Within (bound : Nat) (the5Record : Mem) (known : Bool) : Prop where
  count : 4 ≤ bound
  id : 0 < v5NumFlows the5Record → 22 ≤ bound
  records : known = true → ∀ flowIdx < v5NumFlows the5Record,
    v5HeaderSize + v5RecordSize * flowIdx + 40 ≤ bound

section V5

variable {left right : Mem} {bound : Nat} (agree : Mem.AgreeBelow bound left right)
  (globals : ReadOnlyGlobals)

include agree in
theorem dissectNetFlowV5Fields_congr {flowIdx : Nat}
    (inside : v5HeaderSize + v5RecordSize * flowIdx + 40 ≤ bound) (elements : List Element)
    (line : Bytes) (cache : FlowCache) :
    dissectNetFlowV5Fields globals left flowIdx elements line cache =
      dissectNetFlowV5Fields globals right flowIdx elements line cache := by
  induction elements generalizing line cache with
  | nil => rfl
  | cons element rest ih =>
      have own : dissectNetFlowV5Field globals left flowIdx line element cache =
          dissectNetFlowV5Field globals right flowIdx line element cache := by
        rw [dissectNetFlowV5Field, dissectNetFlowV5Field]
        cases found : v5Place flowIdx element.templateElementId.toNat with
        | none => rfl
        | some extent =>
            obtain ⟨place, length⟩ := extent
            have reach := Element.reach_le length element
            have end_le := v5Place_le found
            have part : Mem.AgreeBelow (element.reach length) (left.shift place)
                (right.shift place) := by
              apply Mem.AgreeBelow.shift
              exact agree.mono (by omega)
            simp only [printNetflowRecordWithTemplate_congr globals element line cache part]
      rw [dissectNetFlowV5Fields, dissectNetFlowV5Fields, own]
      congr 1
      funext printed
      exact ih printed.line printed.cache

include agree in
theorem dissectNetFlowV5Record_congr {flowIdx : Nat}
    (inside : v5HeaderSize + v5RecordSize * flowIdx + 40 ≤ bound)
    (observationId : ObservationID) :
    dissectNetFlowV5Record globals left flowIdx observationId =
      dissectNetFlowV5Record globals right flowIdx observationId := by
  have header : 24 ≤ bound := by
    rw [v5HeaderSize] at inside
    omega
  have version := headerNumber_congr agree (show 0 + 2 ≤ bound by omega)
  have sequence := headerNumber_congr agree (show 16 + 4 ≤ bound by omega)
  have times : ∀ cache, withHeaderTimes false left cache = withHeaderTimes false right cache := by
    intro cache
    have uptime := headerNumber_congr agree (show 4 + 4 ≤ bound by omega)
    have exported := headerNumber_congr agree (show 8 + 4 ≤ bound by omega)
    simp only [withHeaderTimes, Bool.false_eq_true, if_false, uptime, exported]
  rw [dissectNetFlowV5Record, dissectNetFlowV5Record, version, sequence]
  simp only [times, dissectNetFlowV5Fields_congr agree globals inside]

include agree in
theorem dissectNetFlowV5Records_congr (observationId : ObservationID) (count : Nat)
    {flowIdx : Nat}
    (inside : ∀ index < flowIdx + count, v5HeaderSize + v5RecordSize * index + 40 ≤ bound) :
    dissectNetFlowV5Records globals left observationId count flowIdx =
      dissectNetFlowV5Records globals right observationId count flowIdx := by
  induction count generalizing flowIdx with
  | zero => rfl
  | succ count ih =>
      have later : ∀ index < flowIdx + 1 + count,
          v5HeaderSize + v5RecordSize * index + 40 ≤ bound :=
        fun index small => inside index (by omega)
      rw [dissectNetFlowV5Records, dissectNetFlowV5Records,
        dissectNetFlowV5Record_congr agree globals (inside flowIdx (by omega)), ih later]

end V5

/-! Packets with sets -/

/-- The sets of a packet, each with the number of bytes that the datagram has from its start
on. -/
def placedSets (packet : SizedBuffer) (bufferLen : Nat) :
    Nat → Nat → List (SizedBuffer × Nat)
  | 0, _ => []
  | entries + 1, displ =>
      if displ < bufferLen then
        match setAt packet displ with
        | none => []
        | some set =>
            (set, bufferLen - displ) :: placedSets packet bufferLen entries (displ + set.size)
      else []

theorem packetSets_eq (packet : SizedBuffer) (bufferLen entries displ : Nat) :
    packetSets packet bufferLen entries displ =
      (placedSets packet bufferLen entries displ).map Prod.fst := by
  induction entries generalizing displ with
  | zero => rfl
  | succ entries ih =>
      rw [packetSets, placedSets]
      split
      · cases setAt packet displ with
        | none => rfl
        | some set => simp only [List.map_cons, ih]
      · rfl

/-- A set of two buffers that is the same as far as the datagram goes. -/
structure SameSet (first second : SizedBuffer × Nat) : Prop where
  size : first.1.size = second.1.size
  agree : Mem.AgreeBelow first.2 first.1.buffer second.1.buffer
  header : 4 ≤ first.2
  short : first.1.size ≤ first.2
  sized : first.1.u16 2 = first.1.size

theorem placedSets_same {left right : Mem} {size bufferLen : Nat}
    (agree : Mem.AgreeBelow bufferLen left right) (within : size ≤ bufferLen)
    (entries displ : Nat) :
    List.Forall₂ SameSet (placedSets { buffer := left, size } bufferLen entries displ)
      (placedSets { buffer := right, size } bufferLen entries displ) := by
  induction entries generalizing displ with
  | zero => exact .nil
  | succ entries ih =>
      rw [placedSets, placedSets]
      split
      · cases found : setAt { buffer := left, size } displ with
        | none =>
            have missing : setAt { buffer := right, size } displ = none := by
              rw [setAt] at found ⊢
              by_cases cut : size < displ + 4
              · exact if_pos cut
              · have length := u16_congr size agree (show displ + 2 + 2 ≤ bufferLen by omega)
                simp only [if_neg cut, ← length] at found ⊢
                split at found
                · next long => exact if_pos long
                · contradiction
            rw [missing]
            exact .nil
        | some set =>
            obtain ⟨buffer, length, header, inside⟩ := setAt_eq_some found
            simp only at buffer header inside
            have lengths := u16_congr size agree (show displ + 2 + 2 ≤ bufferLen by omega)
            have found' : setAt { buffer := right, size } displ =
                some { buffer := right.shift displ, size := set.size } := by
              rw [setAt] at found ⊢
              have long : ¬size < displ + 4 := by omega
              simp only [if_neg long, ← lengths] at found ⊢
              split at found
              · contradiction
              · next fits =>
                  rw [if_neg fits]
                  cases found
                  rfl
            rw [found']
            refine .cons ?_ (ih _)
            constructor
            · rfl
            · rw [buffer]
              apply Mem.AgreeBelow.shift
              exact agree.mono (by simp only; omega)
            · simp only
              omega
            · simp only
              omega
            · exact length.symm
      · exact .nil

namespace Received

/-- The sets of a V9 or IPFIX datagram, with the bytes from the start of each. -/
def placedSets (received : Received) : List (SizedBuffer × Nat) :=
  let handleIpfix := packetHandleIpfix received.buffer
  let numEntries := headerNumber received.buffer 2 2
  let size := if handleIpfix then min received.bufferLen numEntries else received.bufferLen
  F2k.placedSets { buffer := received.buffer, size } received.bufferLen numEntries
    (headerLayout handleIpfix).size

theorem setsOf_eq (received : Received) :
    setsOf received.buffer received.bufferLen = received.placedSets.map Prod.fst :=
  packetSets_eq _ _ _ _

/-- Everything that is read of the datagram is below its end. -/
structure Within (received : Received) (sensor : Sensor) : Prop where
  version : received.globals.sensorsInfo = true → 2 ≤ received.bufferLen
  sets : received.hasSets = true → ∀ observationId,
    sensor.getObservationId (packetObservationId received.buffer) = some observationId →
    AlongRun (fun observationId placed => received.dissectSet observationId placed.1)
      (fun observationId placed =>
        SetWithin placed.2 received.context observationId placed.1)
      observationId received.placedSets
  v5 : received.globals.sensorsInfo = true → headerNumber received.buffer 0 2 = 5 →
    V5Within received.bufferLen received.buffer
      (sensor.getObservationId received.v5ObservationId).isSome

end Received

theorem updateObservationId_self {sensor : Sensor} {id : UInt32} {observationId : ObservationID}
    (found : sensor.getObservationId id = some observationId) :
    sensor.updateObservationId id observationId = sensor := by
  rw [Sensor.getObservationId] at found
  rw [Sensor.updateObservationId]
  cases own : sensor.observationId.lookup id with
  | none =>
      rw [own] at found
      simp only at found
      simp only [← found]
  | some other =>
      rw [own] at found
      obtain rfl := Option.some.inj found
      have same : sensor.observationId.replace id other = sensor.observationId := by
        apply AList.ext
        exact List.kreplace_self sensor.observationId.nodupKeys (AList.mem_lookup_iff.mp own)
      simp only [same]

/-! Datagrams -/

section Datagrams

variable {left right : Mem} {bufferLen : Nat} (agree : Mem.AgreeBelow bufferLen left right)
  (globals : ReadOnlyGlobals) {sensor : Sensor}

/-- A packet that ends with its header has no sets. -/
theorem dissectReceived_onlyHeader {received : Received} (hasSets : received.hasSets = true)
    (short : received.bufferLen ≤ (headerLayout (packetHandleIpfix received.buffer)).size)
    (sensor : Sensor) : dissectReceived sensor received = .ok (sensor, []) := by
  have none : setsOf received.buffer received.bufferLen = [] := by
    rw [setsOf]
    cases headerNumber received.buffer 2 2 with
    | zero => rfl
    | succ entries => exact if_neg (Nat.not_lt.mpr short)
  rw [dissectReceived_sets hasSets, none]
  cases found : sensor.getObservationId (packetObservationId received.buffer) with
  | none => rfl
  | some observationId =>
      simp only [runSteps, Except.map, updateObservationId_self found, List.flatten_nil]

include agree in
theorem packetContext_alike (header : 16 ≤ bufferLen) :
    (packetContext globals left).Alike (packetContext globals right) := by
  have version := headerNumber_congr agree (show 0 + 2 ≤ bufferLen by omega)
  constructor
  · rfl
  · exact version
  · intro cache
    have first := headerNumber_congr agree (show 4 + 4 ≤ bufferLen by omega)
    have second := headerNumber_congr agree (show 8 + 4 ≤ bufferLen by omega)
    change withHeaderTimes _ left cache = withHeaderTimes _ right cache
    simp only [withHeaderTimes]
    split
    · rw [first]
    · rw [first, second]

theorem headerLayout_bounds (handleIpfix : Bool) :
    16 ≤ (headerLayout handleIpfix).size ∧
      (headerLayout handleIpfix).flowSequence + 4 ≤ (headerLayout handleIpfix).size ∧
      (headerLayout handleIpfix).observationId + 4 ≤ (headerLayout handleIpfix).size := by
  cases handleIpfix <;> decide

include agree in
theorem dissectReceived_sets_isolated (version : 2 ≤ bufferLen)
    (hasSets : Received.hasSets { globals, buffer := left, bufferLen } = true)
    (within : Received.Within { globals, buffer := left, bufferLen } sensor) :
    dissectReceived sensor { globals, buffer := left, bufferLen } =
      dissectReceived sensor { globals, buffer := right, bufferLen } := by
  have versions := headerNumber_congr agree (show 0 + 2 ≤ bufferLen by omega)
  have hasSets' : Received.hasSets { globals, buffer := right, bufferLen } = true := by
    rw [Received.hasSets] at hasSets ⊢
    rwa [← versions]
  have kind : packetHandleIpfix left = packetHandleIpfix right := by
    rw [packetHandleIpfix, packetHandleIpfix, versions]
  by_cases short : bufferLen ≤ (headerLayout (packetHandleIpfix left)).size
  · rw [dissectReceived_onlyHeader hasSets short]
    rw [kind] at short
    rw [dissectReceived_onlyHeader hasSets' short]
  · obtain ⟨header, sequenceFits, idFits⟩ := headerLayout_bounds (packetHandleIpfix left)
    have entries := headerNumber_congr agree (show 2 + 2 ≤ bufferLen by omega)
    have sequence : packetSequence left = packetSequence right := by
      rw [packetSequence, packetSequence, ← kind, headerNumber_congr agree (by omega)]
    have id : packetObservationId left = packetObservationId right := by
      rw [packetObservationId, packetObservationId, ← kind,
        headerNumber_congr agree (by omega)]
    have alike := packetContext_alike agree globals (by omega)
    rw [dissectReceived_sets hasSets, dissectReceived_sets hasSets', ← id]
    cases known : sensor.getObservationId (packetObservationId left) with
    | none => rfl
    | some observationId =>
        have along := within.sets hasSets observationId known
        have pairs : List.Forall₂ SameSet
            (Received.placedSets { globals, buffer := left, bufferLen })
            (Received.placedSets { globals, buffer := right, bufferLen }) := by
          simp only [Received.placedSets, ← kind, ← entries]
          apply placedSets_same agree
          split
          · exact Nat.min_le_left _ _
          · exact Nat.le_refl _
        have each : ∀ (state : ObservationID) (first second : SizedBuffer × Nat),
            SameSet first second →
            SetWithin first.2 (packetContext globals left) state first.1 →
            dissectSet (packetContext globals left) (packetSequence left).toUInt16 state
                first.1 =
              dissectSet (packetContext globals right) (packetSequence right).toUInt16 state
                second.1 := by
          rintro state ⟨⟨first, size⟩, bound⟩ ⟨⟨second, _⟩, _⟩ same inside
          obtain ⟨rfl, agree, header, short, sized⟩ := same
          rw [← sequence]
          have small : size < 2 ^ 16 := by
            have bounded := u16_lt { buffer := first, size } 2
            rw [sized] at bounded
            exact bounded
          exact dissectSet_congr agree header short small alike _ state sized inside
        have runs := runSteps_congr each pairs along
        simp only [Received.setsOf_eq { globals, buffer := left, bufferLen },
          Received.setsOf_eq { globals, buffer := right, bufferLen }, runSteps_map]
        exact congrArg (Except.map _) runs

include agree in
theorem dissectReceived_v5_isolated
    (active : globals.sensorsInfo = true) (version : headerNumber left 0 2 = 5)
    (within : V5Within bufferLen left (sensor.getObservationId
      (Received.v5ObservationId { globals, buffer := left, bufferLen })).isSome) :
    dissectReceived sensor { globals, buffer := left, bufferLen } =
      dissectReceived sensor { globals, buffer := right, bufferLen } := by
  obtain ⟨four, idFits, records⟩ := within
  have versions := headerNumber_congr agree (show 0 + 2 ≤ bufferLen by omega)
  have count : v5NumFlows left = v5NumFlows right := by
    rw [v5NumFlows, v5NumFlows, headerNumber_congr agree (show 2 + 2 ≤ bufferLen by omega)]
  rw [@dissectReceived_v5 { globals, buffer := left, bufferLen } active version,
    @dissectReceived_v5 { globals, buffer := right, bufferLen } active
      (versions.symm.trans version)]
  simp only
  by_cases none : v5NumFlows left = 0
  · have empty : ∀ buffer observationId, v5NumFlows buffer = 0 →
        dissectNetFlowV5 globals buffer observationId = .ok [] := by
      intro buffer observationId noFlows
      cases observationId with
      | none => rw [dissectNetFlowV5, if_pos noFlows]; rfl
      | some observationId => rw [dissectNetFlowV5, noFlows]; rfl
    rw [empty left _ none, empty right _ (count ▸ none)]
  · have header := idFits (Nat.pos_of_ne_zero none)
    have id : Received.v5ObservationId { globals, buffer := left, bufferLen } =
        Received.v5ObservationId { globals, buffer := right, bufferLen } := by
      simp only [Received.v5ObservationId, agree 20 (by omega), agree 21 (by omega)]
    rw [← id]
    cases known : sensor.getObservationId
        (Received.v5ObservationId { globals, buffer := left, bufferLen }) with
    | none => rw [dissectNetFlowV5, dissectNetFlowV5, count]
    | some observationId =>
        rw [known] at records
        rw [dissectNetFlowV5, dissectNetFlowV5, ← count,
          dissectNetFlowV5Records_congr agree globals observationId (v5NumFlows left)]
        intro index small
        exact records rfl index (by omega)

include agree in
theorem dissectReceived_isolated
    (within : Received.Within { globals, buffer := left, bufferLen } sensor) :
    dissectReceived sensor { globals, buffer := left, bufferLen } =
      dissectReceived sensor { globals, buffer := right, bufferLen } := by
  cases active : globals.sensorsInfo with
  | false =>
      have noSets : ∀ buffer, Received.hasSets { globals, buffer, bufferLen } = false := by
        intro buffer
        rw [Received.hasSets, active]
        rfl
      rw [dissectReceived_other (noSets left) (by simp [active]),
        dissectReceived_other (noSets right) (by simp [active])]
  | true =>
      have version := within.version active
      have versions := headerNumber_congr agree (show 0 + 2 ≤ bufferLen by exact version)
      cases hasSets : Received.hasSets { globals, buffer := left, bufferLen } with
      | true => exact dissectReceived_sets_isolated agree globals version hasSets within
      | false =>
          by_cases v5 : headerNumber left 0 2 = 5
          · exact dissectReceived_v5_isolated agree globals active v5 (within.v5 active v5)
          · have noSets : Received.hasSets { globals, buffer := right, bufferLen } = false := by
              rw [Received.hasSets] at hasSets ⊢
              rwa [← versions]
            rw [dissectReceived_other hasSets (fun _ => v5),
              dissectReceived_other noSets (fun _ same => v5 (versions.trans same))]

end Datagrams

def decidableRecordsWithin (bound : Nat) (handleIpfix : Bool) (fields : List TemplateField)
    (buffer : Mem) (endFlow : Nat) : ∀ turns displ,
      Decidable (RecordsWithin bound handleIpfix fields buffer endFlow turns displ)
  | 0, _ => .isTrue trivial
  | turns + 1, displ =>
      have := decidableRecordsWithin bound handleIpfix fields buffer endFlow turns
        (fieldPlaces handleIpfix buffer endFlow fields displ).2
      inferInstanceAs (Decidable (displ + 4 ≤ endFlow →
        (∀ place ∈ (fieldPlaces handleIpfix buffer endFlow fields displ).1,
          place.place + place.reach ≤ bound) ∧ _))

/-- A packet of NetFlow V9 with one record, for a sensor that has its template. -/
theorem dissectReceived_isolated_oneRecord :
    let bytes := v9PacketBytes 1 [setBytes 256 (toBe 4 7)]
    let sensor := sensorOf ((ObservationID.new 7).addTemplate 256 (flowTemplate [plainField 4]))
    dissectReceived sensor
        { globals := splittingGlobals, buffer := .ofBytes bytes, bufferLen := bytes.length } =
      dissectReceived sensor
        { globals := splittingGlobals, buffer := .ofBytes (bytes ++ [1, 2, 3]),
          bufferLen := bytes.length } := by
  intro bytes sensor
  apply dissectReceived_isolated
  · change ∀ index < 28, _
    decide +kernel
  · constructor
    · intro _
      decide
    · intro _ observationId found
      have named : packetObservationId (.ofBytes bytes) = 7 := by decide +kernel
      change sensor.getObservationId (packetObservationId (.ofBytes bytes)) = _ at found
      rw [named] at found
      obtain rfl := Option.some.inj found
      let set : SizedBuffer := { buffer := (Mem.ofBytes bytes).shift 20, size := 8 }
      have id : set.u16 0 = 256 := by decide +kernel
      have entries : headerNumber (.ofBytes bytes) 2 2 = 1 := by decide +kernel
      have handleIpfix : packetHandleIpfix (.ofBytes bytes) = false := by decide +kernel
      have first : setAt { buffer := .ofBytes bytes, size := 28 } 20 = some set := by
        have length : SizedBuffer.u16 { buffer := .ofBytes bytes, size := 28 } (20 + 2) = 8 := by
          decide +kernel
        simp only [setAt, length]
        rfl
      have placed : Received.placedSets
          { globals := splittingGlobals, buffer := .ofBytes bytes, bufferLen := bytes.length } =
          [(set, 8)] := by
        simp only [Received.placedSets, entries, handleIpfix]
        change placedSets { buffer := .ofBytes bytes, size := 28 } 28 1 20 = _
        rw [placedSets, if_pos (by decide), first]
        rfl
      rw [placed]
      refine ⟨?_, fun _ _ _ => trivial⟩
      change SetWithin 8 _ _ set
      rw [SetWithin, if_neg (by decide +kernel), id]
      intro template usable
      obtain rfl := Option.some.inj usable
      exact @of_decide_eq_true _ (decidableRecordsWithin _ _ _ _ _ _ _) (by decide +kernel)
    · intro _ five
      exact absurd five (by decide +kernel)

/-- A datagram of version 5 that announces one record and ends with its header, in a receive
buffer that goes on. -/
def v5HeaderAlone (behind : Bytes) : Mem :=
  .ofBytes ([0, 5, 0, 1] ++ toBe 4 5000000 ++ toBe 4 1000000 ++ toBe 4 0 ++ toBe 4 1 ++
    [0, 7, 0, 0] ++ behind)

theorem dissectReceived_leaks :
    Mem.AgreeBelow 24 (v5HeaderAlone []) (v5HeaderAlone [10, 0, 0, 1]) ∧
      dissectReceived (sensorOf (.new 7))
          { globals := splittingGlobals, buffer := v5HeaderAlone [], bufferLen := 24 } ≠
        dissectReceived (sensorOf (.new 7))
          { globals := splittingGlobals, buffer := v5HeaderAlone [10, 0, 0, 1],
            bufferLen := 24 } := by
  constructor
  · change ∀ index < 24, _
    decide +kernel
  · let strings := fun (result : Sensor × List FlowRecord) =>
      result.2.flatMap fun record => record.messages.map Message.string
    have differ : (dissectReceived (sensorOf (.new 7))
          { globals := splittingGlobals, buffer := v5HeaderAlone [], bufferLen := 24 }).map strings ≠
        (dissectReceived (sensorOf (.new 7))
          { globals := splittingGlobals, buffer := v5HeaderAlone [10, 0, 0, 1],
            bufferLen := 24 }).map strings := by
      decide +kernel
    intro same
    exact differ (congrArg (Except.map strings) same)

end F2k
