import F2k.DatagramIsolation

namespace F2k

open Lib

/-! A packet and the sets in it, each dissected from its own bytes. -/

def aloneSet (bytes : Bytes) : SizedBuffer where
  buffer := .ofBytes bytes
  size := bytes.length

structure WellFormedSet (bytes : Bytes) : Prop where
  header : 4 ≤ bytes.length
  length : (aloneSet bytes).u16 2 = bytes.length

instance (bytes : Bytes) : Decidable (WellFormedSet bytes) :=
  decidable_of_iff (4 ≤ bytes.length ∧ (aloneSet bytes).u16 2 = bytes.length)
    ⟨fun ⟨header, length⟩ => ⟨header, length⟩, fun ⟨header, length⟩ => ⟨header, length⟩⟩

/-- A set of a packet that has these bytes. -/
structure PlacedSet (bytes : Bytes) (set : SizedBuffer) : Prop where
  wellFormed : WellFormedSet bytes
  size : set.size = bytes.length
  starts : set.buffer.StartsWith bytes

theorem PlacedSet.agree {bytes : Bytes} {set : SizedBuffer} (placed : PlacedSet bytes set) :
    Mem.AgreeBelow bytes.length (Mem.ofBytes bytes) set.buffer := by
  apply Mem.agreeBelow_of_slice_eq
  rw [Mem.slice_ofBytes]
  exact placed.starts.symm

section Sets

variable {packet : SizedBuffer}

theorem setAt_startsWith {bytes : Bytes} {displ : Nat} (wellFormed : WellFormedSet bytes)
    (starts : (packet.buffer.shift displ).StartsWith bytes)
    (inside : displ + bytes.length ≤ packet.size) :
    setAt packet displ =
      some { buffer := packet.buffer.shift displ, size := bytes.length } := by
  obtain ⟨header, length⟩ := wellFormed
  have placed : PlacedSet bytes { buffer := packet.buffer.shift displ, size := bytes.length } :=
    ⟨⟨header, length⟩, rfl, starts⟩
  have named := u16_congr bytes.length placed.agree (show 2 + 2 ≤ bytes.length from header)
  have same : packet.u16 (displ + 2) = bytes.length := by
    rw [← length, aloneSet, named]
    simp only [SizedBuffer.u16, Mem.shift_shift]
  rw [setAt, same, if_neg (by omega), if_neg (by omega)]

/-- The sets that are found in a packet are the ones that were put into it. -/
theorem packetSets_startsWith {bufferLen : Nat} (fits : packet.size ≤ bufferLen)
    {sets : List Bytes} (wellFormed : ∀ bytes ∈ sets, WellFormedSet bytes) {entries displ : Nat}
    (starts : (packet.buffer.shift displ).StartsWith sets.flatten)
    (inside : displ + sets.flatten.length ≤ packet.size) (counted : sets.length ≤ entries)
    (ends : entries = sets.length ∨ setAt packet (displ + sets.flatten.length) = none) :
    List.Forall₂ PlacedSet sets (packetSets packet bufferLen entries displ) := by
  induction sets generalizing entries displ with
  | nil =>
      cases entries with
      | zero => exact .nil
      | succ entries =>
          have last : setAt packet displ = none := by
            simpa using ends
          rw [packetSets, last]
          split <;> exact .nil
  | cons bytes rest ih =>
      obtain ⟨own, others⟩ := List.forall_mem_cons.mp wellFormed
      obtain ⟨first, later⟩ := Mem.startsWith_append.mp starts
      rw [Mem.shift_shift] at later
      rw [List.flatten_cons, List.length_append] at inside ends
      have header := own.header
      cases entries with
      | zero => exact absurd counted (by simp)
      | succ entries =>
          rw [packetSets, if_pos (by omega), setAt_startsWith own first (by omega)]
          refine .cons ⟨own, rfl, first⟩ ?_
          apply ih others later
          · omega
          · exact Nat.le_of_succ_le_succ counted
          · simp only [Nat.add_assoc]
            rwa [List.length_cons, Nat.add_right_cancel_iff] at ends

end Sets

namespace Received

/-- The packet in a datagram: IPFIX says itself how long it is. -/
def packet (received : Received) : SizedBuffer where
  buffer := received.buffer
  size :=
    if packetHandleIpfix received.buffer then
      min received.bufferLen (headerNumber received.buffer 2 2)
    else received.bufferLen

def bodyStart (received : Received) : Nat :=
  (headerLayout (packetHandleIpfix received.buffer)).size

/-- A V9 or IPFIX packet that consists of these sets. Behind them may be a set that is cut off,
or what the header of the packet does not count. -/
structure Consists (received : Received) (sets : List Bytes) : Prop where
  hasSets : received.hasSets = true
  wellFormed : ∀ bytes ∈ sets, WellFormedSet bytes
  starts : (received.buffer.shift received.bodyStart).StartsWith sets.flatten
  inside : received.bodyStart + sets.flatten.length ≤ received.packet.size
  counted : sets.length ≤ headerNumber received.buffer 2 2
  ends : headerNumber received.buffer 2 2 = sets.length ∨
    setAt received.packet (received.bodyStart + sets.flatten.length) = none

def dissectAlone (received : Received) (observationId : ObservationID) (bytes : Bytes) :
    Run (ObservationID × List FlowRecord) :=
  received.dissectSet observationId (aloneSet bytes)

/-- The packet is dissected as its sets are, one after another and each from its own bytes. -/
def FoldsSets (received : Received) (sensor : Sensor) (sets : List Bytes) : Prop :=
  dissectReceived sensor received =
    match sensor.getObservationId (packetObservationId received.buffer) with
    | none => .ok (sensor, [])
    | some observationId =>
        (runSteps received.dissectAlone observationId sets).map fun result =>
          (sensor.updateObservationId (packetObservationId received.buffer) result.1,
            result.2.flatten)

end Received

theorem setsOf_placed {received : Received} {sets : List Bytes}
    (consists : received.Consists sets) :
    List.Forall₂ PlacedSet sets (setsOf received.buffer received.bufferLen) := by
  have fits : received.packet.size ≤ received.bufferLen := by
    simp only [Received.packet]
    split
    · exact Nat.min_le_left _ _
    · exact Nat.le_refl _
  exact packetSets_startsWith fits consists.wellFormed consists.starts consists.inside
    consists.counted consists.ends

theorem dissectReceived_folds {received : Received} {sets : List Bytes}
    (consists : received.Consists sets) {sensor : Sensor}
    (within : ∀ observationId,
      sensor.getObservationId (packetObservationId received.buffer) = some observationId →
      AlongRun received.dissectAlone
        (fun observationId bytes =>
          SetWithin bytes.length received.context observationId (aloneSet bytes))
        observationId sets) :
    received.FoldsSets sensor sets := by
  rw [Received.FoldsSets, dissectReceived_sets consists.hasSets]
  cases known : sensor.getObservationId (packetObservationId received.buffer) with
  | none => rfl
  | some observationId =>
      have same : ∀ (state : ObservationID) (bytes : Bytes) (set : SizedBuffer),
          PlacedSet bytes set →
          SetWithin bytes.length received.context state (aloneSet bytes) →
          received.dissectAlone state bytes = received.dissectSet state set := by
        rintro state bytes ⟨buffer, size⟩ placed inside
        obtain ⟨header, length⟩ := placed.wellFormed
        obtain rfl : size = bytes.length := placed.size
        have small : bytes.length < 2 ^ 16 := by
          rw [← length]
          exact u16_lt _ _
        exact dissectSet_congr placed.agree header (Nat.le_refl _) small
          (PacketContext.Alike.refl _) _ state length inside
      have runs := runSteps_congr same (setsOf_placed consists) (within observationId known)
      simp only [runs]

/-- A packet of NetFlow V9, and the bytes behind its sets. -/
def v9Received (sets : List Bytes) (behind : Bytes) : Received where
  globals := splittingGlobals
  buffer := .ofBytes (v9PacketBytes 1 sets ++ behind)
  bufferLen := (v9PacketBytes 1 sets ++ behind).length

theorem dissectReceived_folds_cutSet :
    (v9Received [setBytes 256 (toBe 4 7)] [1, 0, 0]).FoldsSets
      (sensorOf ((ObservationID.new 7).addTemplate 256 (flowTemplate [plainField 4])))
      [setBytes 256 (toBe 4 7)] := by
  apply dissectReceived_folds
  · exact ⟨by decide +kernel, by decide +kernel, by decide +kernel, by decide +kernel,
      by decide +kernel, .inl (by decide +kernel)⟩
  · intro observationId found
    have named : packetObservationId
        (v9Received [setBytes 256 (toBe 4 7)] [1, 0, 0]).buffer = 7 := by decide +kernel
    rw [named] at found
    obtain rfl := Option.some.inj found
    refine ⟨?_, fun _ _ _ => trivial⟩
    have id : (aloneSet (setBytes 256 (toBe 4 7))).u16 0 = 256 := by decide +kernel
    change SetWithin 8 _ _ (aloneSet (setBytes 256 (toBe 4 7)))
    rw [SetWithin, if_neg (by decide +kernel), id]
    intro template usable
    obtain rfl := Option.some.inj usable
    exact @of_decide_eq_true _ (decidableRecordsWithin _ _ _ _ _ _ _) (by decide +kernel)

/-- The record of the second set is two bytes short of its last field, the protocol. -/
def overrunSets : List Bytes :=
  [setBytes 0 (templateBytes 257 [(500, 4), (4, 4)]), setBytes 257 (toBe 6 0), setBytes 300 []]

/-- The protocol is read from the set behind it. -/
theorem not_foldsSets_overrun :
    (v9Received overrunSets []).Consists overrunSets ∧
      ¬(v9Received overrunSets []).FoldsSets (sensorOf (.new 7)) overrunSets := by
  refine ⟨⟨by decide +kernel, by decide +kernel, by decide +kernel, by decide +kernel,
    by decide +kernel, .inl (by decide +kernel)⟩, ?_⟩
  let strings := fun (records : List FlowRecord) =>
    records.flatMap fun record => record.messages.map Message.string
  have whole : (dissectReceived (sensorOf (.new 7)) (v9Received overrunSets [])).map
        (fun result => strings result.2) ≠
      (runSteps (v9Received overrunSets []).dissectAlone (.new 7) overrunSets).map
        (fun result => strings result.2.flatten) := by
    decide +kernel
  have named : packetObservationId (v9Received overrunSets []).buffer = 7 := by decide +kernel
  have known : (sensorOf (.new 7)).getObservationId 7 = some (.new 7) := rfl
  intro folds
  rw [Received.FoldsSets, named, known] at folds
  simp only at folds
  apply whole
  rw [folds]
  cases runSteps (v9Received overrunSets []).dissectAlone (.new 7) overrunSets with
  | error fault => simp only [Except.map]
  | ok result => simp only [Except.map]

end F2k
