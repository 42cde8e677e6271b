import F2k.LongFlow

namespace F2k

open Lib

/-! When a flow keeps its order in time and is sent at all. -/

/-- Whether a timestamp is taken as it is: it is within ten minutes of now, or far timestamps
are not made present. -/
def Kept (globals : ReadOnlyGlobals) (timestamp : UInt64) : Prop :=
  globals.dontReforgeFarTimestamp = true ∨
    (globals.now - 60 * 10 ≤ timestamp ∧ timestamp ≤ globals.now + 60 * 10)

instance (globals : ReadOnlyGlobals) (timestamp : UInt64) :
    Decidable (Kept globals timestamp) :=
  inferInstanceAs (Decidable (_ ∨ _))

theorem sanitizeTimestamp_eq (globals : ReadOnlyGlobals) (timestamp last : UInt64)
    (fallback : Int64) :
    sanitizeTimestamp globals.dontReforgeFarTimestamp
        { timestamp
          now := globals.now
          lowLimit := globals.now - 60 * 10
          upperLimit := globals.now + 60 * 10
          fallbackLastTimestampS := last
          fallbackFirstSwitchedS := fallback } =
      if Kept globals timestamp then
        if fallback ≠ 0 ∧ timestamp = last then timestamp + fallback.toUInt64 else timestamp
      else globals.now := by
  have far : (timestamp > globals.now + 60 * 10 ∨ timestamp < globals.now - 60 * 10) ∧
      globals.dontReforgeFarTimestamp = false ↔ ¬Kept globals timestamp := by
    rw [Kept, not_or, not_and_or, UInt64.not_le, UInt64.not_le, Bool.not_eq_true, and_comm,
      or_comm]
  simp only [sanitizeTimestamp, far]
  by_cases kept : Kept globals timestamp
  · rw [if_neg (not_not.mpr kept), if_pos kept]
  · rw [if_pos kept, if_neg kept]

/-- How many seconds a fallback that is not positive takes a first timestamp back. -/
def stepBack (fallback : Int64) : Nat :=
  fallback.toInt.natAbs

theorem toNat_toUInt64_of_neg {fallback : Int64} (neg : fallback.toInt < 0) :
    fallback.toUInt64.toNat = 2 ^ 64 - stepBack fallback ∧ stepBack fallback ≤ 2 ^ 63 := by
  have signed : fallback.toInt =
      if 2 * fallback.toUInt64.toNat < 2 ^ 64 then (fallback.toUInt64.toNat : Int)
      else (fallback.toUInt64.toNat : Int) - (2 ^ 64 : Nat) :=
    BitVec.toInt_eq_toNat_cond fallback.toBitVec
  have bound := fallback.toUInt64.toNat_lt
  rw [stepBack]
  split at signed <;> omega

theorem add_fallback_le_iff {timestamp : UInt64} {fallback : Int64} (nonpos : fallback ≤ 0)
    (set : fallback ≠ 0) :
    timestamp + fallback.toUInt64 ≤ timestamp ↔ stepBack fallback ≤ timestamp.toNat := by
  have neg : fallback.toInt < 0 := by
    have le := Int64.le_iff_toInt_le.mp nonpos
    have ne : fallback.toInt ≠ 0 := fun zero => set (Int64.toInt_inj.mp zero)
    have zero : (0 : Int64).toInt = 0 := rfl
    omega
  obtain ⟨value, small⟩ := toNat_toUInt64_of_neg neg
  have some : 0 < stepBack fallback := by
    rw [stepBack]
    omega
  have bound := timestamp.toNat_lt
  rw [UInt64.le_iff_toNat_le, UInt64.toNat_add, value]
  omega

/-! Order -/

def takenLast (globals : ReadOnlyGlobals) (time : FlowCacheTime) : UInt64 :=
  if Kept globals (actualLastTimestampS time) then actualLastTimestampS time else globals.now

theorem lastTimestampS_eq (globals : ReadOnlyGlobals) (time : FlowCacheTime) :
    lastTimestampS globals time = takenLast globals time := by
  rw [lastTimestampS, sanitizeTimestamp_eq, takenLast]
  simp

/-- The first timestamp that is taken, after the fallback. -/
def takenFirst (globals : ReadOnlyGlobals) (fallback : Int64) (time : FlowCacheTime) : UInt64 :=
  if Kept globals (actualFirstTimestampS time) then
    if fallback ≠ 0 ∧ actualFirstTimestampS time = takenLast globals time then
      actualFirstTimestampS time + fallback.toUInt64
    else actualFirstTimestampS time
  else globals.now

theorem firstTimestampS_eq (globals : ReadOnlyGlobals) (fallback : Int64)
    (time : FlowCacheTime) :
    firstTimestampS globals fallback time = takenFirst globals fallback time := by
  rw [firstTimestampS, sanitizeTimestamp_eq, lastTimestampS_eq, takenFirst]

/-- The first timestamp is not after a last one, and stepping back from it does not wrap. -/
def Precedes (fallback : Int64) (first last : UInt64) : Prop :=
  first ≤ last ∧ (first = last → stepBack fallback ≤ first.toNat)

/-- The order of the two timestamps an exporter reports, as far as they are taken. -/
structure OrderKept (globals : ReadOnlyGlobals) (fallback : Int64) (first last : UInt64) :
    Prop where
  both : Kept globals first → Kept globals last → Precedes fallback first last
  firstOnly : Kept globals first → ¬Kept globals last → Precedes fallback first globals.now
  lastOnly : ¬Kept globals first → Kept globals last → globals.now ≤ last

theorem stepped_le_iff {first last : UInt64} {fallback : Int64} (nonpos : fallback ≤ 0) :
    (if fallback ≠ 0 ∧ first = last then first + fallback.toUInt64 else first) ≤ last ↔
      Precedes fallback first last := by
  by_cases same : first = last
  · by_cases set : fallback = 0
    · simp [Precedes, same, set, stepBack]
    · rw [if_pos ⟨set, same⟩, ← same, add_fallback_le_iff nonpos set, Precedes]
      simp
  · simp [Precedes, same]

theorem taken_le_iff (globals : ReadOnlyGlobals) {fallback : Int64} (nonpos : fallback ≤ 0)
    (time : FlowCacheTime) :
    takenFirst globals fallback time ≤ takenLast globals time ↔
      OrderKept globals fallback (actualFirstTimestampS time) (actualLastTimestampS time) := by
  by_cases first : Kept globals (actualFirstTimestampS time)
  · rw [takenFirst, if_pos first, stepped_le_iff nonpos]
    by_cases last : Kept globals (actualLastTimestampS time)
    · rw [takenLast, if_pos last]
      constructor
      · intro precedes
        exact ⟨fun _ _ => precedes, fun _ no => absurd last no, fun no => absurd first no⟩
      · intro kept
        exact kept.both first last
    · rw [takenLast, if_neg last]
      constructor
      · intro precedes
        exact ⟨fun _ yes => absurd yes last, fun _ _ => precedes, fun no => absurd first no⟩
      · intro kept
        exact kept.firstOnly first last
  · rw [takenFirst, if_neg first]
    by_cases last : Kept globals (actualLastTimestampS time)
    · rw [takenLast, if_pos last]
      constructor
      · intro le
        exact ⟨fun yes => absurd yes first, fun yes => absurd yes first, fun _ _ => le⟩
      · intro kept
        exact kept.lastOnly first last
    · rw [takenLast, if_neg last]
      constructor
      · intro _
        exact ⟨fun yes => absurd yes first, fun yes => absurd yes first,
          fun _ yes => absurd yes last⟩
      · intro _
        exact UInt64.le_refl _

/-! The loop over the intervals, whatever wraps. -/

section Loop

variable (globals : ReadOnlyGlobals) (counts : IntervalCounts) (firstTimestamp : UInt64)

theorem splitInterval_ok (current : UInt64) (state : SplitState) :
    ∃ next, splitInterval globals counts firstTimestamp 60 current state = .ok next ∧
      next.nodes ≠ [] := by
  rw [splitInterval]
  split
  · simp only [printCounts_eq, printTimestamp_eq, Run.ok_bind]
    exact ⟨_, rfl, List.cons_ne_nil _ _⟩
  · split
    · simp only [printCounts_eq, printTimestamp_eq, Run.ok_bind]
      exact ⟨_, rfl, List.cons_ne_nil _ _⟩
    · simp only [printTimestamp_eq, Run.ok_bind]
      exact ⟨_, rfl, List.cons_ne_nil _ _⟩

theorem later_eq (current : UInt64) (turn : Nat) :
    current + 60 * UInt64.ofNat (turn + 1) = current + 60 + 60 * UInt64.ofNat turn := by
  rw [UInt64.ofNat_add]
  grind

theorem splitIntervals_ok_iff (turns : Nat) (current : UInt64) (state : SplitState) :
    (∃ final, splitIntervals globals counts firstTimestamp 60 turns current state = .ok final) ↔
      ∃ turn < turns, firstTimestamp + counts.dSwitched < current + 60 * UInt64.ofNat turn := by
  induction turns generalizing current state with
  | zero => simp [splitIntervals]
  | succ turns ih =>
      rw [splitIntervals]
      split
      · next goesOn =>
          obtain ⟨next, ran, _⟩ := splitInterval_ok globals counts firstTimestamp current state
          rw [ran, Run.ok_bind, ih]
          constructor
          · intro both
            obtain ⟨turn, less, later⟩ := both
            exact ⟨turn + 1, by omega, by rwa [later_eq]⟩
          · intro both
            obtain ⟨turn, less, later⟩ := both
            cases turn with
            | zero =>
                have here : current + 60 * UInt64.ofNat 0 = current := by
                  grind
                rw [here] at later
                exact absurd goesOn (UInt64.not_le.mpr later)
            | succ turn =>
                rw [later_eq] at later
                exact ⟨turn, by omega, later⟩
      · next stops =>
          constructor
          · intro _
            refine ⟨0, by omega, ?_⟩
            simpa using stops
          · intro _
            exact ⟨state, rfl⟩

theorem splitIntervals_nodes_ne_nil (turns : Nat) (current : UInt64) {state final : SplitState}
    (ran : splitIntervals globals counts firstTimestamp 60 turns current state = .ok final)
    (some : state.nodes ≠ [] ∨ current ≤ firstTimestamp + counts.dSwitched) :
    final.nodes ≠ [] := by
  induction turns generalizing current state with
  | zero => contradiction
  | succ turns ih =>
      rw [splitIntervals] at ran
      split at ran
      · obtain ⟨next, stepped, nodes⟩ :=
          splitInterval_ok globals counts firstTimestamp current state
        rw [stepped, Run.ok_bind] at ran
        exact ih (current + 60) ran (.inl nodes)
      · next stops =>
          rcases some with nodes | goesOn
          · rw [← Except.ok.inj ran]
            exact nodes
          · exact absurd goesOn stops

end Loop

/-- Adding minutes in 64 bits reaches every timestamp that is a multiple of four seconds away,
the latest of them included. -/
theorem exists_later_iff (limit start : UInt64) :
    (∃ turn < 2 ^ 64, limit < start + 60 * UInt64.ofNat turn) ↔
      limit.toNat < 2 ^ 64 - 4 + start.toNat % 4 := by
  have value : ∀ turn : Nat,
      (start + 60 * UInt64.ofNat turn).toNat = (start.toNat + 60 * turn) % 2 ^ 64 := by
    intro turn
    have sixty : UInt64.toNat 60 = 60 := rfl
    rw [UInt64.toNat_add, UInt64.toNat_mul, UInt64.toNat_ofNat', sixty, Nat.add_mod_mod,
      Nat.add_mod, Nat.mul_mod_mod, ← Nat.add_mod]
  simp only [UInt64.lt_iff_toNat_lt, value]
  have bound := start.toNat_lt
  constructor
  · intro both
    obtain ⟨turn, _, later⟩ := both
    omega
  · intro room
    -- 3381903080180084463 is the inverse of 15 modulo 2 ^ 62
    let fours := (2 ^ 64 - 4 + start.toNat % 4 - start.toNat) / 4
    refine ⟨fours * 3381903080180084463 % 2 ^ 62, by omega, ?_⟩
    have reached : start.toNat + 4 * fours = 2 ^ 64 - 4 + start.toNat % 4 := by omega
    generalize fours = count at reached ⊢
    omega

/-- There is a timestamp after the last one that is some multiples of four seconds after the
first one, or a whole number of minutes is split. -/
def LeavesRoom (first last : UInt64) : Prop :=
  last.toNat < 2 ^ 64 - 4 + first.toNat % 4 ∨
    (first.toNat < last.toNat ∧ (last.toNat - first.toNat) % 60 = 0)

theorem room_after_trimmed_iff {first last : UInt64} (ordered : first ≤ last) :
    (first + trimmedDuration (last - first)).toNat < 2 ^ 64 - 4 + first.toNat % 4 ↔
      LeavesRoom first last := by
  have le := UInt64.le_iff_toNat_le.mp ordered
  have bound := last.toNat_lt
  rw [UInt64.toNat_add, trimmedDuration_toNat, UInt64.toNat_sub_of_le _ _ ordered, LeavesRoom]
  split <;> omega

theorem rbSeparateLongTimeFlow_sends_iff (globals : ReadOnlyGlobals) (line : Bytes)
    {first last : UInt64} (ordered : first ≤ last) (bytes pkts : UInt64) :
    (∃ message rest, rbSeparateLongTimeFlow globals line first (last - first) 60 60 bytes pkts =
        .ok (message :: rest)) ↔ LeavesRoom first last := by
  let counts := intervalCounts globals.firstShare (last - first) 60 60 bytes pkts
  let start : SplitState := { line, lastSentmsg := none, nodes := [] }
  have ends := (splitIntervals_ok_iff globals counts first (2 ^ 64) first start).trans
    ((exists_later_iff _ _).trans (room_after_trimmed_iff ordered))
  have goesOn : first ≤ first + counts.dSwitched := by
    have le := UInt64.le_iff_toNat_le.mp ordered
    have bound := last.toNat_lt
    have duration : counts.dSwitched.toNat = _ := trimmedDuration_toNat (last - first)
    rw [UInt64.toNat_sub_of_le _ _ ordered] at duration
    rw [UInt64.le_iff_toNat_le, UInt64.toNat_add, duration]
    split <;> omega
  rw [← ends, rbSeparateLongTimeFlow]
  constructor
  · intro both
    obtain ⟨message, rest, sent⟩ := both
    obtain ⟨final, ran, _⟩ := Run.bind_eq_ok.mp sent
    exact ⟨final, ran⟩
  · intro both
    obtain ⟨final, ran⟩ := both
    have some := splitIntervals_nodes_ne_nil globals counts first _ first ran (.inr goesOn)
    obtain ⟨node, nodes, nodesEq⟩ := List.exists_cons_of_ne_nil some
    rw [ran, Run.ok_bind, nodesEq]
    exact ⟨_, _, rfl⟩

/-- A flow that starts after it ends is split into no intervals, or into intervals without
end. -/
theorem splitIntervals_misordered (globals : ReadOnlyGlobals) {counts : IntervalCounts}
    {first last : UInt64} {start final : SplitState} (misordered : last < first)
    (duration : counts.dSwitched = trimmedDuration (last - first))
    (ran : splitIntervals globals counts first 60 (2 ^ 64) first start = .ok final) :
    final = start := by
  have room := (exists_later_iff _ _).mp
    ((splitIntervals_ok_iff globals counts first (2 ^ 64) first start).mp ⟨final, ran⟩)
  have ends : ¬first ≤ first + counts.dSwitched := by
    rw [UInt64.le_iff_toNat_le]
    have less := UInt64.lt_iff_toNat_lt.mp misordered
    have bound := first.toNat_lt
    have trimmed := trimmedDuration_toNat (last - first)
    rw [UInt64.toNat_sub] at trimmed
    rw [duration, UInt64.toNat_add] at room ⊢
    split at trimmed <;> omega
  obtain ⟨more, turns⟩ : ∃ more, 2 ^ 64 = more + 1 := ⟨2 ^ 64 - 1, by omega⟩
  rw [turns, splitIntervals, if_neg ends] at ran
  exact (Except.ok.inj ran).symm

/-- A flow that is split is sent when it does not start after it ends and there is room to
count its minutes. -/
theorem rbSeparateLongTimeFlow_sends_iff_ordered (globals : ReadOnlyGlobals) (line : Bytes)
    (first last bytes pkts : UInt64) :
    (∃ message rest, rbSeparateLongTimeFlow globals line first (last - first) 60 60 bytes pkts =
        .ok (message :: rest)) ↔ first ≤ last ∧ LeavesRoom first last := by
  constructor
  · intro sends
    have ordered : first ≤ last := by
      obtain ⟨message, rest, sent⟩ := sends
      obtain ⟨final, ran, messages⟩ := Run.bind_eq_ok.mp sent
      apply UInt64.not_lt.mp
      intro misordered
      rw [splitIntervals_misordered globals misordered rfl ran] at messages
      cases messages
    exact ⟨ordered, (rbSeparateLongTimeFlow_sends_iff globals line ordered bytes pkts).mp sends⟩
  · intro both
    obtain ⟨ordered, room⟩ := both
    exact (rbSeparateLongTimeFlow_sends_iff globals line ordered bytes pkts).mpr room

theorem printWholeFlow_sends (globals : ReadOnlyGlobals) (line : Bytes)
    (first dSwitched bytes pkts clientMac : UInt64) :
    ∃ message rest, printWholeFlow globals line first dSwitched bytes pkts clientMac =
      .ok (message :: rest) := by
  rw [printWholeFlow_eq]
  exact ⟨_, _, rfl⟩

/-! The flow as a whole -/

def flowTimes (globals : ReadOnlyGlobals) (cache : FlowCache) : FlowCacheTime :=
  cache.time.withExport globals.now

/-- Whether a flow of these times is sent at all: unless long flows are split it is. -/
def Sends (globals : ReadOnlyGlobals) (observationId : ObservationID) (time : FlowCacheTime) :
    Prop :=
  let time := time.withExport globals.now
  let last := lastTimestampS globals time
  let first := firstTimestampS globals observationId.getFallbackFirstSwitch time
  globals.separateLongFlows = true → first ≤ last ∧ LeavesRoom first last

theorem timeSplitFlow_sends_iff (globals : ReadOnlyGlobals) (line : Bytes) (cache : FlowCache) :
    (∃ message rest, timeSplitFlow globals line cache = .ok (message :: rest)) ↔
      Sends globals cache.observationId cache.time := by
  rw [timeSplitFlow, Sends]
  cases globals.separateLongFlows with
  | true =>
      simp only [if_true, true_implies]
      exact rbSeparateLongTimeFlow_sends_iff_ordered globals line _ _ _ _
  | false =>
      simp only [Bool.false_eq_true, if_false, false_implies, iff_true]
      exact printWholeFlow_sends globals line _ _ _ _ _

/-- The first timestamp is not after the last one, and messages are sent, whether or not long
flows are split. -/
def FlowKept (globals : ReadOnlyGlobals) (line : Bytes) (cache : FlowCache) : Prop :=
  firstTimestampS globals cache.observationId.getFallbackFirstSwitch
      (flowTimes globals cache) ≤ lastTimestampS globals (flowTimes globals cache) ∧
    ∀ separateLongFlows, ∃ message rest,
      timeSplitFlow { globals with separateLongFlows } line cache = .ok (message :: rest)

/-- The reported timestamps keep their order as far as they are taken, and leave room to count
minutes after them. -/
structure TimesFit (globals : ReadOnlyGlobals) (fallback : Int64) (time : FlowCacheTime) :
    Prop where
  order : OrderKept globals fallback (actualFirstTimestampS time) (actualLastTimestampS time)
  room : LeavesRoom (takenFirst globals fallback time) (takenLast globals time)

theorem timeSplitFlow_keeps_iff (globals : ReadOnlyGlobals) (line : Bytes) (cache : FlowCache)
    (nonpos : cache.observationId.getFallbackFirstSwitch ≤ 0) :
    FlowKept globals line cache ↔
      TimesFit globals cache.observationId.getFallbackFirstSwitch (flowTimes globals cache) := by
  let fallback := cache.observationId.getFallbackFirstSwitch
  have ordered := taken_le_iff globals nonpos (flowTimes globals cache)
  rw [FlowKept, firstTimestampS_eq, lastTimestampS_eq, ordered]
  constructor
  · intro both
    obtain ⟨order, sends⟩ := both
    refine ⟨order, ?_⟩
    obtain ⟨message, rest, sent⟩ := sends true
    apply (rbSeparateLongTimeFlow_sends_iff { globals with separateLongFlows := true } line
      (ordered.mpr order) cache.bytes cache.packets).mp
    refine ⟨message, rest, ?_⟩
    rw [← sent, timeSplitFlow]
    simp only [firstTimestampS_eq, lastTimestampS_eq, if_true]
    rfl
  · intro both
    obtain ⟨order, room⟩ := both
    refine ⟨order, ?_⟩
    intro separateLongFlows
    cases separateLongFlows with
    | false =>
        rw [timeSplitFlow]
        exact printWholeFlow_sends _ _ _ _ _ _ _
    | true =>
        obtain ⟨message, rest, sent⟩ := (rbSeparateLongTimeFlow_sends_iff
          { globals with separateLongFlows := true } line (ordered.mpr order) cache.bytes
          cache.packets).mpr room
        refine ⟨message, rest, ?_⟩
        rw [← sent, timeSplitFlow]
        simp only [firstTimestampS_eq, lastTimestampS_eq, if_true]
        rfl

/-- A flow that started a thousand seconds ago and ended a hundred seconds ago. -/
def longAgoCache : FlowCache where
  observationId := .new 0
  time := { exportTimestampS := 1000000, firstTimestampS := 999000, lastTimestampS := 999900 }
  bytes := 100
  packets := 10

theorem timeSplitFlow_keeps_longAgo :
    FlowKept splittingGlobals [] longAgoCache ↔
      TimesFit splittingGlobals longAgoCache.observationId.getFallbackFirstSwitch
        (flowTimes splittingGlobals longAgoCache) :=
  timeSplitFlow_keeps_iff splittingGlobals [] longAgoCache (by decide)

/-- Its first timestamp alone is made present, and it is sent nowhere. -/
theorem timeSplitFlow_loses_longAgo :
    lastTimestampS splittingGlobals (flowTimes splittingGlobals longAgoCache) <
        firstTimestampS splittingGlobals longAgoCache.observationId.getFallbackFirstSwitch
          (flowTimes splittingGlobals longAgoCache) ∧
      timeSplitFlow splittingGlobals [] longAgoCache = .ok [] :=
  ⟨by decide, rfl⟩

end F2k
