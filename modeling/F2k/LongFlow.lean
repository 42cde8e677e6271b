import F2k.TimeSplit

namespace F2k

open Lib

/-! Splitting a long flow into intervals: which counts the messages carry. -/

theorem net2number_toBe_eight (value : UInt64) : net2number (toBe 8 value.toNat) = value := by
  have whole : (toBe 8 value.toNat).take 8 = toBe 8 value.toNat := by
    rw [List.take_of_length_le (by simp)]
  have fits : value.toNat % 256 ^ 8 = value.toNat := by
    have bound := value.toNat_lt
    omega
  simp only [net2number, length_toBe, whole, beNat_toBe, fits]
  exact UInt64.ofNat_toNat

theorem itoa10From_length (digits : Nat) (value : Int) (text : Bytes) :
    text.length ≤ (itoa10From digits value text).length := by
  induction digits generalizing value text with
  | zero => simp [itoa10From]
  | succ digits ih =>
      simp only [itoa10From]
      split
      · have longer := ih (value.tdiv 10) (itoaDigit (value - value.tdiv 10 * 10) :: text)
        simp only [List.length_cons] at longer
        omega
      · split
        · simp only [List.length_cons]
          omega
        · simp

theorem n10_length_pos (value : UInt64) : 0 < (n10 value).length := by
  rw [n10, itoa10, itoa10From]
  split
  · have longer := itoa10From_length 62 (value.toInt64.toInt.tdiv 10)
      [itoaDigit (value.toInt64.toInt - value.toInt64.toInt.tdiv 10 * 10)]
    simp only [List.length_singleton] at longer
    omega
  · split <;> simp

def appendNumber (line : Bytes) (name : String) (value : UInt64) : Bytes :=
  elementPrefix line (ascii name) false ++ n10 value

theorem printUInt64_eq (globals : ReadOnlyGlobals) (line : Bytes) (id : UInt16) {name : String}
    (value : UInt64) (noZero : cString (ascii name) = ascii name) :
    printUInt64 globals line (entity id false (some name) (some .printNumber) []) value =
      .ok (appendNumber line name value) := by
  have contents : (Mem.ofBytes (toBe 8 value.toNat)).slice 8 = toBe 8 value.toNat := by
    have sliced := Mem.slice_ofBytes (toBe 8 value.toNat)
    rwa [length_toBe] at sliced
  have printed := n10_length_pos value
  simp only [printUInt64, entity, printNetflowRecordWithTemplate, printPostTemplate, printElement,
    Element.jsonElementName, Element.exportFn, Element.quote, Option.map_some, exportField,
    exporterOf, contents, printNumber, net2number_toBe_eight, FlowCache.printed, Run.ok_bind,
    Run.pure_eq_ok, noZero, printed, if_pos, appendNumber]
  rfl

def countedText (line : Bytes) (bytes packets : UInt64) : Bytes :=
  appendNumber (appendNumber line "bytes" bytes) "pkts" packets

theorem printCounts_eq (globals : ReadOnlyGlobals) (line : Bytes) (bytes pkts : UInt64) :
    printCounts globals line bytes pkts = .ok (countedText line bytes pkts) := by
  rw [printCounts, printInBytes, printUInt64_eq _ _ _ _ (by decide), Run.ok_bind, printInPkts,
    printUInt64_eq _ _ _ _ (by decide), countedText]

def stampedText (line : Bytes) (timestamp : UInt64) : Bytes :=
  appendNumber line "timestamp" timestamp ++ ascii "\x7d"

theorem printTimestamp_eq (globals : ReadOnlyGlobals) (line : Bytes) (timestamp : UInt64) :
    printTimestamp globals line timestamp = .ok (stampedText line timestamp) := by
  rw [printTimestamp, printLastSwitched, printUInt64_eq _ _ _ _ (by decide), Run.ok_bind]
  rfl

theorem printWholeFlow_eq (globals : ReadOnlyGlobals) (line : Bytes)
    (firstTimestamp dSwitched bytes pkts clientMac : UInt64) :
    printWholeFlow globals line firstTimestamp dSwitched bytes pkts clientMac =
      .ok [{
        string :=
          countedText
            (appendNumber (appendNumber line "first_switched" firstTimestamp) "timestamp"
              (firstTimestamp + dSwitched)) bytes pkts ++ ascii "\x7d"
        clientMac }] := by
  rw [printWholeFlow, printFirstSwitched, printUInt64_eq _ _ _ _ (by decide), Run.ok_bind,
    printLastSwitched, printUInt64_eq _ _ _ _ (by decide), Run.ok_bind, printCounts_eq,
    Run.ok_bind]
  rfl

/-! What the loop makes, apart from its buffers. -/

/-- What the message of one interval says of it. -/
structure Interval where
  timestamp : UInt64
  bytes : UInt64
  packets : UInt64

def Interval.text (line : Bytes) (interval : Interval) : Bytes :=
  stampedText (countedText line interval.bytes interval.packets) interval.timestamp

/-- The intervals from a timestamp on before the ones that are done, latest first: so many
more with the share of every interval, then the one with the first interval's share. -/
def flowIntervals (counts : IntervalCounts) : Nat → UInt64 → List Interval → List Interval
  | 0, current, done =>
      { timestamp := current
        bytes := counts.firstIntervalBytes
        packets := counts.firstIntervalPkts } :: done
  | more + 1, current, done =>
      flowIntervals counts more (current + 60)
        ({ timestamp := current
           bytes := counts.bytesPerInterval
           packets := counts.packetsPerInterval } :: done)

section Sums

variable (counts : IntervalCounts) (done : List Interval)

theorem flowIntervals_sum (weight : Interval → Nat) (first each : Nat)
    (firstWeight : ∀ timestamp, weight
      { timestamp, bytes := counts.firstIntervalBytes, packets := counts.firstIntervalPkts } =
        first)
    (eachWeight : ∀ timestamp, weight
      { timestamp, bytes := counts.bytesPerInterval, packets := counts.packetsPerInterval } =
        each)
    (more : Nat) (current : UInt64) :
    ((flowIntervals counts more current done).map weight).sum =
      first + more * each + (done.map weight).sum := by
  induction more generalizing current done with
  | zero => simp [flowIntervals, firstWeight]
  | succ more ih =>
      rw [flowIntervals, ih, List.map_cons, List.sum_cons, eachWeight, Nat.succ_mul]
      omega

end Sums

/-- The buffer the earlier intervals are cloned from is the one that was passed, or is the
cached one. -/
structure SplitState.Shares (counts : IntervalCounts) (line : Bytes) (done : List Interval)
    (state : SplitState) : Prop where
  line_eq : state.line = line
  cached : state.lastSentmsg = none ∨
    state.lastSentmsg = some (countedText line counts.bytesPerInterval counts.packetsPerInterval)
  nodes_eq : state.nodes = done.map fun interval => some (interval.text line)

section Loop

variable (globals : ReadOnlyGlobals) {counts : IntervalCounts} {line : Bytes}
  {firstTimestamp : UInt64}

theorem splitInterval_earlier {current : UInt64} {state : SplitState} {done : List Interval}
    (earlier : ¬current + 60 > firstTimestamp + counts.dSwitched)
    (shares : state.Shares counts line done) :
    ∃ next, splitInterval globals counts firstTimestamp 60 current state = .ok next ∧
      next.Shares counts line
        ({ timestamp := current
           bytes := counts.bytesPerInterval
           packets := counts.packetsPerInterval } :: done) := by
  obtain ⟨lineEq, cached, nodesEq⟩ := shares
  rw [splitInterval, if_neg earlier]
  rcases cached with first | useful
  · simp only [first, lineEq, printCounts_eq, printTimestamp_eq, Run.ok_bind]
    refine ⟨_, rfl, rfl, .inr rfl, ?_⟩
    rw [nodesEq]
    rfl
  · simp only [useful, printTimestamp_eq, Run.ok_bind]
    refine ⟨_, rfl, lineEq, .inr rfl, ?_⟩
    rw [nodesEq]
    rfl

theorem splitInterval_last {current : UInt64} {state : SplitState} {done : List Interval}
    (last : current + 60 > firstTimestamp + counts.dSwitched)
    (shares : state.Shares counts line done) :
    ∃ next, splitInterval globals counts firstTimestamp 60 current state = .ok next ∧
      next.nodes.map (fun string => string.getD next.line) =
        (flowIntervals counts 0 current done).map (Interval.text line) := by
  obtain ⟨lineEq, _, nodesEq⟩ := shares
  rw [splitInterval, if_pos last]
  simp only [lineEq, printCounts_eq, printTimestamp_eq, Run.ok_bind]
  refine ⟨_, rfl, ?_⟩
  simp only [nodesEq, List.map_cons, List.map_map, flowIntervals]
  rfl

/-- How the tests of one turn read when nothing wraps. -/
theorem turn_tests {current : UInt64} (noWrap : current.toNat + 60 < 2 ^ 64)
    (endFits : firstTimestamp.toNat + counts.dSwitched.toNat < 2 ^ 64)
    (within : current.toNat ≤ firstTimestamp.toNat + counts.dSwitched.toNat) :
    (current + 60).toNat = current.toNat + 60 ∧
      current ≤ firstTimestamp + counts.dSwitched ∧
      (current + 60 ≤ firstTimestamp + counts.dSwitched ↔
        current.toNat + 60 ≤ firstTimestamp.toNat + counts.dSwitched.toNat) := by
  have last : (firstTimestamp + counts.dSwitched).toNat =
      firstTimestamp.toNat + counts.dSwitched.toNat := by
    rw [UInt64.toNat_add, Nat.mod_eq_of_lt endFits]
  have next : (current + 60).toNat = current.toNat + 60 := by
    rw [UInt64.toNat_add]
    exact Nat.mod_eq_of_lt noWrap
  simp only [UInt64.le_iff_toNat_le, last, next]
  exact ⟨trivial, within, trivial⟩

theorem splitIntervals_run (more turns : Nat) (enough : more + 2 ≤ turns) (current : UInt64)
    {state : SplitState} {done : List Interval} (shares : state.Shares counts line done)
    (noWrap : current.toNat + 60 * (more + 1) < 2 ^ 64)
    (reaches : current.toNat + 60 * more ≤ firstTimestamp.toNat + counts.dSwitched.toNat)
    (ends : firstTimestamp.toNat + counts.dSwitched.toNat < current.toNat + 60 * (more + 1)) :
    ∃ final, splitIntervals globals counts firstTimestamp 60 turns current state = .ok final ∧
      final.nodes.map (fun string => string.getD final.line) =
        (flowIntervals counts more current done).map (Interval.text line) := by
  induction more generalizing turns current state done with
  | zero =>
      obtain ⟨left, rfl⟩ : ∃ left, turns = left + 2 := ⟨turns - 2, by omega⟩
      obtain ⟨_, goesOn, another⟩ :=
        @turn_tests counts firstTimestamp current (by omega) (by omega) (by omega)
      have stops : ¬current + 60 ≤ firstTimestamp + counts.dSwitched := by
        rw [another]
        omega
      obtain ⟨final, ran, texts⟩ :=
        splitInterval_last globals (UInt64.not_le.mp stops) shares
      refine ⟨final, ?_, texts⟩
      rw [splitIntervals, if_pos goesOn, ran, Run.ok_bind, splitIntervals, if_neg stops]
      rfl
  | succ more ih =>
      obtain ⟨left, rfl⟩ : ∃ left, turns = left + 1 := ⟨turns - 1, by omega⟩
      obtain ⟨next, goesOn, another⟩ :=
        @turn_tests counts firstTimestamp current (by omega) (by omega) (by omega)
      have earlier : ¬current + 60 > firstTimestamp + counts.dSwitched := by
        rw [gt_iff_lt, UInt64.not_lt, another]
        omega
      obtain ⟨after, ran, afterShares⟩ := splitInterval_earlier globals earlier shares
      obtain ⟨final, ranRest, texts⟩ := ih left (by omega) (current + 60) afterShares
        (by rw [next]; omega) (by rw [next]; omega) (by rw [next]; omega)
      refine ⟨final, ?_, texts⟩
      rw [splitIntervals, if_pos goesOn, ran, Run.ok_bind, ranRest]

end Loop

/-! When the counts of the messages add up to the ones of the flow. -/

theorem n_intervals_toNat (dSwitched : UInt64) :
    (nIntervalsExceptFirst dSwitched 60 60).toUInt64.toNat =
      if 60 < dSwitched.toNat / 60 % 2 ^ 32 then 59 else dSwitched.toNat / 60 % 2 ^ 32 := by
  have counted : (dSwitched / 60).toUInt32.toUInt64.toNat = dSwitched.toNat / 60 % 2 ^ 32 := by
    simp [UInt64.toNat_div]
  have sixty : UInt64.toNat 60 = 60 := rfl
  simp only [nIntervalsExceptFirst, gt_iff_lt, UInt64.lt_iff_toNat_lt, counted, sixty]
  split
  · rfl
  · exact counted

/-- The duration the intervals are cut from. -/
def trimmedDuration (dSwitched : UInt64) : UInt64 :=
  if dSwitched > 0 ∧ dSwitched % 60 = 0 then dSwitched - 1 else dSwitched

theorem trimmedDuration_toNat (dSwitched : UInt64) :
    (trimmedDuration dSwitched).toNat =
      if dSwitched.toNat % 60 = 0 then dSwitched.toNat - 1 else dSwitched.toNat := by
  have positive : dSwitched > 0 ↔ 0 < dSwitched.toNat := UInt64.lt_iff_toNat_lt
  have multiple : dSwitched % 60 = 0 ↔ dSwitched.toNat % 60 = 0 := by
    rw [← UInt64.toNat_inj, UInt64.toNat_mod]
    rfl
  simp only [trimmedDuration, positive, multiple]
  split
  · next both =>
      rw [if_pos both.2, UInt64.toNat_sub_of_le]
      · rfl
      · rw [UInt64.le_iff_toNat_le]
        exact both.1
  · next notBoth =>
      split
      · omega
      · rfl

/-- What one share for every interval and the rest for the first one add up to. -/
theorem shared_total {total first n : UInt64} (le : first ≤ total) :
    let each := if n > 0 then (total - first) / n else 0
    (first + (total - first - each * n)).toNat + n.toNat * each.toNat = total.toNat := by
  intro each
  have left : (total - first).toNat = total.toNat - first.toNat := UInt64.toNat_sub_of_le _ _ le
  have leNat : first.toNat ≤ total.toNat := UInt64.le_iff_toNat_le.mp le
  have bound := total.toNat_lt
  have spread : each.toNat * n.toNat ≤ total.toNat - first.toNat := by
    by_cases positive : n > 0
    · rw [← left]
      simp only [each, if_pos positive, UInt64.toNat_div]
      exact Nat.div_mul_le_self _ _
    · simp [each, positive]
  have product : (each * n).toNat = each.toNat * n.toNat := by
    rw [UInt64.toNat_mul, Nat.mod_eq_of_lt (by omega)]
  have rest : (total - first - each * n).toNat =
      total.toNat - first.toNat - each.toNat * n.toNat := by
    rw [UInt64.toNat_sub_of_le, left, product]
    rw [UInt64.le_iff_toNat_le, left, product]
    exact spread
  rw [UInt64.toNat_add, rest, Nat.mod_eq_of_lt (by omega), Nat.mul_comm n.toNat]
  omega

def countedIntervals (dSwitched : UInt64) : Nat :=
  let whole := dSwitched.toNat / 60 % 2 ^ 32
  if 60 < whole then 59 else whole

/-- What the first interval's share leaves of a total for the other intervals. -/
def leftForOthers (share : FirstShare) (dSwitched total : UInt64) : Nat :=
  let duration := trimmedDuration dSwitched
  total.toNat - (share.share total (duration % 60) duration).toNat

/-- The flow lasts less than 61 minutes and no whole number of them, or no other interval is
counted, or the other intervals get nothing. -/
def SplitsEvenly (share : FirstShare) (dSwitched bytes pkts : UInt64) : Prop :=
  (dSwitched.toNat % 60 ≠ 0 ∧ dSwitched.toNat / 60 ≤ 60) ∨ countedIntervals dSwitched = 0 ∨
    (leftForOthers share dSwitched bytes < countedIntervals dSwitched ∧
      leftForOthers share dSwitched pkts < countedIntervals dSwitched)

section Counts

variable (share : FirstShare) (dSwitched bytes pkts : UInt64)

theorem intervalCounts_bytes :
    let counts := intervalCounts share dSwitched 60 60 bytes pkts
    counts.firstIntervalBytes.toNat + countedIntervals dSwitched * counts.bytesPerInterval.toNat =
      bytes.toNat := by
  have total := shared_total (n := (nIntervalsExceptFirst dSwitched 60 60).toUInt64)
    (share.share_le bytes (trimmedDuration dSwitched % 60) (trimmedDuration dSwitched))
  rw [n_intervals_toNat] at total
  exact total

theorem intervalCounts_packets :
    let counts := intervalCounts share dSwitched 60 60 bytes pkts
    counts.firstIntervalPkts.toNat +
        countedIntervals dSwitched * counts.packetsPerInterval.toNat = pkts.toNat := by
  have total := shared_total (n := (nIntervalsExceptFirst dSwitched 60 60).toUInt64)
    (share.share_le pkts (trimmedDuration dSwitched % 60) (trimmedDuration dSwitched))
  rw [n_intervals_toNat] at total
  exact total

theorem each_eq_zero_iff (total : UInt64) :
    let n := (nIntervalsExceptFirst dSwitched 60 60).toUInt64
    let first := share.share total (trimmedDuration dSwitched % 60) (trimmedDuration dSwitched)
    (if n > 0 then (total - first) / n else 0).toNat = 0 ↔
      countedIntervals dSwitched = 0 ∨
        leftForOthers share dSwitched total < countedIntervals dSwitched := by
  intro n first
  have nNat : n.toNat = countedIntervals dSwitched := n_intervals_toNat dSwitched
  have left : (total - first).toNat = leftForOthers share dSwitched total :=
    UInt64.toNat_sub_of_le _ _ (share.share_le _ _ _)
  by_cases positive : n > 0
  · have some : 0 < countedIntervals dSwitched := by
      rw [← nNat]
      exact UInt64.lt_iff_toNat_lt.mp positive
    rw [if_pos positive, UInt64.toNat_div, left, nNat, Nat.div_eq_zero_iff]
  · have zero : countedIntervals dSwitched = 0 := by
      rw [← nNat]
      exact Nat.eq_zero_of_not_pos fun more => positive (UInt64.lt_iff_toNat_lt.mpr more)
    rw [if_neg positive, zero]
    simp

/-- The loop makes as many intervals with an equal share as the trimmed duration holds. -/
theorem countedIntervals_eq_iff (more : countedIntervals dSwitched ≠ 0) :
    (trimmedDuration dSwitched).toNat / 60 = countedIntervals dSwitched ↔
      dSwitched.toNat % 60 ≠ 0 ∧ dSwitched.toNat / 60 ≤ 60 := by
  rw [trimmedDuration_toNat]
  simp only [countedIntervals] at more ⊢
  split at more
  · next many =>
      rw [if_pos many]
      split <;> omega
  · next few =>
      rw [if_neg few]
      split <;> omega

theorem splitsEvenly_iff :
    let counts := intervalCounts share dSwitched 60 60 bytes pkts
    SplitsEvenly share dSwitched bytes pkts ↔
      (trimmedDuration dSwitched).toNat / 60 = countedIntervals dSwitched ∨
        (counts.bytesPerInterval.toNat = 0 ∧ counts.packetsPerInterval.toNat = 0) := by
  intro counts
  have bytesZero : counts.bytesPerInterval.toNat = 0 ↔ _ :=
    each_eq_zero_iff share dSwitched bytes
  have packetsZero : counts.packetsPerInterval.toNat = 0 ↔ _ :=
    each_eq_zero_iff share dSwitched pkts
  rw [bytesZero, packetsZero, SplitsEvenly]
  by_cases none : countedIntervals dSwitched = 0
  · simp [none]
  · rw [countedIntervals_eq_iff dSwitched none]
    simp [none]

end Counts

theorem scaled_total_iff {first counted emitted each total : Nat}
    (shared : first + counted * each = total) :
    first + emitted * each = total ↔ emitted = counted ∨ each = 0 := by
  rw [← shared, Nat.add_left_cancel_iff]
  constructor
  · intro same
    rcases Nat.eq_zero_or_pos each with zero | positive
    · exact .inr zero
    · exact .inl (Nat.eq_of_mul_eq_mul_right positive same)
  · intro
    | .inl same => rw [same]
    | .inr zero => rw [zero, Nat.mul_zero, Nat.mul_zero]

/-- The intervals a flow is split into, latest first. -/
def splitFlow (share : FirstShare) (firstTimestamp dSwitched bytes pkts : UInt64) :
    List Interval :=
  flowIntervals (intervalCounts share dSwitched 60 60 bytes pkts)
    ((trimmedDuration dSwitched).toNat / 60) firstTimestamp []

def Interval.message (line : Bytes) (interval : Interval) : Message where
  string := interval.text line
  clientMac := 0

/-- The timestamps are taken up to the first one behind the end of the flow, so that one has to
fit too. -/
theorem rbSeparateLongTimeFlow_split (globals : ReadOnlyGlobals) (line : Bytes)
    {firstTimestamp dSwitched : UInt64} (bytes pkts : UInt64)
    (noWrap : firstTimestamp.toNat + 60 * ((trimmedDuration dSwitched).toNat / 60 + 1) < 2 ^ 64) :
    rbSeparateLongTimeFlow globals line firstTimestamp dSwitched 60 60 bytes pkts =
      .ok ((splitFlow globals.firstShare firstTimestamp dSwitched bytes pkts).map
        (Interval.message line)) := by
  let counts := intervalCounts globals.firstShare dSwitched 60 60 bytes pkts
  have duration : counts.dSwitched = trimmedDuration dSwitched := rfl
  have start : SplitState.Shares counts line [] { line, lastSentmsg := none, nodes := [] } :=
    ⟨rfl, .inl rfl, rfl⟩
  obtain ⟨final, ran, texts⟩ := @splitIntervals_run globals counts line firstTimestamp
    ((trimmedDuration dSwitched).toNat / 60) (2 ^ 64) (by omega) firstTimestamp _ _ start noWrap
    (by rw [duration]; omega) (by rw [duration]; omega)
  have messages := congrArg
    (List.map fun string => ({ string, clientMac := 0 } : Message)) texts
  simp only [List.map_map] at messages
  simp only [rbSeparateLongTimeFlow]
  rw [ran, Run.ok_bind]
  exact congrArg Except.ok messages

theorem rbSeparateLongTimeFlow_eq (globals : ReadOnlyGlobals) (line : Bytes)
    {firstTimestamp dSwitched : UInt64} (bytes pkts : UInt64)
    (noWrap : firstTimestamp.toNat + dSwitched.toNat + 60 < 2 ^ 64) :
    rbSeparateLongTimeFlow globals line firstTimestamp dSwitched 60 60 bytes pkts =
      .ok ((splitFlow globals.firstShare firstTimestamp dSwitched bytes pkts).map
        (Interval.message line)) := by
  apply rbSeparateLongTimeFlow_split
  rw [trimmedDuration_toNat]
  split <;> omega

/-- The messages of a flow that is split into minutes, and when their counts add up. -/
theorem separateLongTimeFlow_conserves_iff (globals : ReadOnlyGlobals) (line : Bytes)
    (firstTimestamp dSwitched bytes pkts : UInt64)
    (noWrap : firstTimestamp.toNat + dSwitched.toNat + 60 < 2 ^ 64) :
    ∃ intervals : List Interval,
      rbSeparateLongTimeFlow globals line firstTimestamp dSwitched 60 60 bytes pkts =
          .ok (intervals.map (Interval.message line)) ∧
        ((intervals.map fun interval => interval.bytes.toNat).sum = bytes.toNat ∧
            (intervals.map fun interval => interval.packets.toNat).sum = pkts.toNat ↔
          SplitsEvenly globals.firstShare dSwitched bytes pkts) := by
  let counts := intervalCounts globals.firstShare dSwitched 60 60 bytes pkts
  refine ⟨_, rbSeparateLongTimeFlow_eq globals line bytes pkts noWrap, ?_⟩
  rw [splitFlow,
    flowIntervals_sum counts [] (fun interval => interval.bytes.toNat)
      counts.firstIntervalBytes.toNat counts.bytesPerInterval.toNat (fun _ => rfl)
      (fun _ => rfl),
    flowIntervals_sum counts [] (fun interval => interval.packets.toNat)
      counts.firstIntervalPkts.toNat counts.packetsPerInterval.toNat (fun _ => rfl)
      (fun _ => rfl)]
  have even : SplitsEvenly globals.firstShare dSwitched bytes pkts ↔ _ :=
    splitsEvenly_iff globals.firstShare dSwitched bytes pkts
  simp only [List.map_nil, List.sum_nil, Nat.add_zero]
  rw [scaled_total_iff (intervalCounts_bytes globals.firstShare dSwitched bytes pkts),
    scaled_total_iff (intervalCounts_packets globals.firstShare dSwitched bytes pkts), even]
  exact or_and_left.symm

/-- The share in whole numbers, which is what the floating point one comes to while the totals
are exact in it. -/
def FirstShare.rounded : FirstShare where
  share := fun total interval duration =>
    if interval < duration then
      UInt64.ofNat (total.toNat * interval.toNat / duration.toNat)
    else total
  share_le := by
    intro total interval duration
    split
    · next shorter =>
        have less := UInt64.lt_iff_toNat_lt.mp shorter
        have part : total.toNat * interval.toNat / duration.toNat ≤ total.toNat := by
          apply Nat.div_le_of_le_mul
          rw [Nat.mul_comm duration.toNat]
          exact Nat.mul_le_mul_left _ (Nat.le_of_lt less)
        rw [UInt64.le_iff_toNat_le, UInt64.toNat_ofNat']
        exact Nat.le_trans (Nat.mod_le _ _) part
    · exact UInt64.le_refl _
  share_whole := by simp

def splittingGlobals : ReadOnlyGlobals where
  normalizeDirections := false
  separateLongFlows := true
  dontReforgeFarTimestamp := false
  sensorsInfo := true
  rbDatabases :=
    { netsNameAsList := []
      enginesNameAsList := []
      appsNameAsList := none
      macVendorDatabase := none
      macNameDatabase := [] }
  geoIpCountryDb := { loaded := false, lookup := fun _ => none }
  geoIpCountryDbV6 := { loaded := false, lookup := fun _ => none }
  geoIpAsnDb := { loaded := false, lookup := fun _ => none }
  geoIpAsnDbV6 := { loaded := false, lookup := fun _ => none }
  inetPton := fun _ => false
  now := 1000000
  firstShare := .rounded

theorem separateLongTimeFlow_conserves_90 :
    ∃ intervals : List Interval,
      rbSeparateLongTimeFlow splittingGlobals [] 1000 90 60 60 100 10 =
          .ok (intervals.map (Interval.message [])) ∧
        ((intervals.map fun interval => interval.bytes.toNat).sum = 100 ∧
            (intervals.map fun interval => interval.packets.toNat).sum = 10 ↔
          SplitsEvenly splittingGlobals.firstShare 90 100 10) :=
  separateLongTimeFlow_conserves_iff splittingGlobals [] 1000 90 100 10 (by decide)

/-- Two minutes: 51 bytes and 6 packets are shared between two intervals, and one of them is
sent. -/
theorem separateLongTimeFlow_loses_120 :
    ∃ intervals : List Interval,
      rbSeparateLongTimeFlow splittingGlobals [] 1000 120 60 60 100 10 =
          .ok (intervals.map (Interval.message [])) ∧
        (intervals.map fun interval => interval.bytes.toNat).sum = 75 ∧
        (intervals.map fun interval => interval.packets.toNat).sum = 7 :=
  ⟨splitFlow splittingGlobals.firstShare 1000 120 100 10,
    rbSeparateLongTimeFlow_eq splittingGlobals [] 100 10 (by decide), by decide, by decide⟩

end F2k
