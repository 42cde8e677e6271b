import F2k.SplitBuffers

namespace F2k

open Lib

/-! The messages a long flow is split into, as they come out of their buffers: when they are those
that printing every one of them anew gives, and what they look like then. -/

/-- The loop ends like the one that prints every message anew. -/
def regenerated (run : Run (List Message)) : Except SplitFault (List Message) :=
  run.mapError fun _ => .endlessLoop

def SplitState.messages (state : SplitState) : List Message :=
  state.nodes.map fun string => { string := string.getD state.line, clientMac := 0 }

def BufferState.handedOn (state : BufferState) : Except SplitFault (List Message) :=
  state.messages.mapError .storage

/-- Three timestamps of the loop are within the flow, so it clones a second message. -/
def ClonesTwice (firstTimestamp last : UInt64) : Prop :=
  firstTimestamp ≤ last ∧ firstTimestamp + 60 ≤ last ∧ firstTimestamp + 60 + 60 ≤ last

instance (firstTimestamp last : UInt64) : Decidable (ClonesTwice firstTimestamp last) :=
  inferInstanceAs (Decidable (_ ∧ _))

section Refinement

variable (globals : ReadOnlyGlobals) {counts : IntervalCounts} {firstTimestamp : UInt64}
  {line : Bytes}

/-- No turn from here on copies from where nothing is any more. -/
def BufferState.Safe (state : BufferState) (line : Bytes) (counts : IntervalCounts)
    (last current : UInt64) : Prop :=
  state.Cached (counts.useful line) ∨ current + 60 > last ∨
    (state.lastSentmsg = none ∧
      (¬Outgrows (counts.useful line).length
          (stampedText (counts.useful line) current).length ∨
        current + 60 + 60 > last))

theorem SplitState.messages_of_texts {text : SplitState} {intervals : List Interval}
    (texts : text.nodes.map (fun string => string.getD text.line) =
      intervals.map (Interval.text line)) :
    text.messages = intervals.map (Interval.message line) := by
  have messages := congrArg
    (List.map fun string => ({ string, clientMac := 0 } : Message)) texts
  rw [List.map_map, List.map_map] at messages
  exact messages

theorem SplitState.Shares.messages {text : SplitState} {done : List Interval}
    (shares : text.Shares counts line done) :
    text.messages = done.map (Interval.message line) := by
  apply SplitState.messages_of_texts
  rw [shares.nodes_eq, List.map_map]
  rfl

/-- Both loops have ended, or both have run out of turns. -/
theorem splitIntoAll_ends (turns : Nat) {current : UInt64} {state : BufferState}
    {text : SplitState} (beyond : ¬current ≤ firstTimestamp + counts.dSwitched)
    (same : state.messages = .ok text.messages) :
    (splitIntoAll counts firstTimestamp 60 turns current state >>= BufferState.handedOn) =
      regenerated
        ((splitIntervals globals counts firstTimestamp 60 turns current text).map
          SplitState.messages) := by
  cases turns with
  | zero => rfl
  | succ turns =>
      rw [splitIntoAll, splitIntervals, if_neg beyond, if_neg beyond]
      unfold BufferState.handedOn
      rw [ok_bind, same]
      rfl

/-- A cloned message leaves the next turn something to copy from, unless that turn is the last. -/
theorem splitInto_safe {current : UInt64} {state : BufferState} {done : List Interval}
    (earlier : ¬current + 60 > firstTimestamp + counts.dSwitched)
    (ready : state.Done line done)
    (safe : state.Safe line counts (firstTimestamp + counts.dSwitched) current) :
    ∃ next, splitInto counts firstTimestamp 60 current state = .ok next ∧
      next.Done line (counts.earlier current :: done) ∧
      next.Safe line counts (firstTimestamp + counts.dSwitched) (current + 60) := by
  rcases safe with cached | last | ⟨first, safe⟩
  · obtain ⟨next, ran, nextReady, nextCached⟩ := splitInto_cached earlier ready cached
    exact ⟨next, ran, nextReady, .inl nextCached⟩
  · exact absurd last earlier
  · obtain ⟨next, ran, nextReady, nextCached, _⟩ := splitInto_first earlier ready first
    refine ⟨next, ran, nextReady, ?_⟩
    rcases safe with stays | last
    · exact .inl (nextCached stays)
    · exact .inr (.inl last)

theorem splitIntoAll_refines (turns : Nat) {current : UInt64} {state : BufferState}
    {text : SplitState} {done : List Interval} (ready : state.Done line done)
    (shares : text.Shares counts line done)
    (safe : current ≤ firstTimestamp + counts.dSwitched →
      state.Safe line counts (firstTimestamp + counts.dSwitched) current) :
    (splitIntoAll counts firstTimestamp 60 turns current state >>= BufferState.handedOn) =
      regenerated
        ((splitIntervals globals counts firstTimestamp 60 turns current text).map
          SplitState.messages) := by
  induction turns generalizing current state text done with
  | zero => rfl
  | succ turns ih =>
      by_cases goesOn : current ≤ firstTimestamp + counts.dSwitched
      · rw [splitIntoAll, splitIntervals, if_pos goesOn, if_pos goesOn]
        by_cases last : current + 60 > firstTimestamp + counts.dSwitched
        · obtain ⟨final, ran, messages⟩ := splitInto_last last ready
          obtain ⟨textFinal, ranText, texts⟩ := splitInterval_last globals last shares
          rw [ran, ranText, Run.ok_bind]
          apply splitIntoAll_ends globals turns (UInt64.not_le.mpr last)
          rw [messages, SplitState.messages_of_texts texts]
          rfl
        · obtain ⟨next, ran, nextReady, nextSafe⟩ := splitInto_safe last ready (safe goesOn)
          obtain ⟨textNext, ranText, nextShares⟩ := splitInterval_earlier globals last shares
          rw [ran, ranText, Run.ok_bind]
          exact ih nextReady nextShares fun _ => nextSafe
      · apply splitIntoAll_ends globals (turns + 1) goesOn
        rw [ready.messages, shares.messages]

/-- The second message is cloned from where the first one was before it grew. -/
theorem splitIntoAll_stale (turns : Nat) (enough : 2 ≤ turns) {state : BufferState}
    (ready : state.Done line []) (first : state.lastSentmsg = none)
    (twice : ClonesTwice firstTimestamp (firstTimestamp + counts.dSwitched))
    (outgrows : Outgrows (counts.useful line).length
      (stampedText (counts.useful line) firstTimestamp).length) :
    ∃ fault, splitIntoAll counts firstTimestamp 60 turns firstTimestamp state =
      .error (.storage fault) := by
  obtain ⟨left, rfl⟩ : ∃ left, turns = left + 2 := ⟨turns - 2, by omega⟩
  obtain ⟨goesOn, another, third⟩ := twice
  obtain ⟨next, ran, _, _, stale⟩ :=
    splitInto_first (UInt64.not_lt.mpr another) ready first
  obtain ⟨fault, fails⟩ :=
    @splitInto_stale counts firstTimestamp (firstTimestamp + 60) line next
      (UInt64.not_lt.mpr third) (stale outgrows)
  refine ⟨fault, ?_⟩
  rw [splitIntoAll, if_pos goesOn, ran]
  simp only [splitIntoAll, if_pos another, fails]

end Refinement

/-- The first cloned message outgrows its buffer between its counts and its end. -/
def FirstCloneOutgrows (share : FirstShare) (line : Bytes)
    (firstTimestamp dSwitched bytes pkts : UInt64) : Prop :=
  let useful := (intervalCounts share dSwitched 60 60 bytes pkts).useful line
  Outgrows useful.length (stampedText useful firstTimestamp).length

instance (share : FirstShare) (line : Bytes) (firstTimestamp dSwitched bytes pkts : UInt64) :
    Decidable (FirstCloneOutgrows share line firstTimestamp dSwitched bytes pkts) :=
  inferInstanceAs (Decidable (Outgrows _ _))

section Separation

variable (globals : ReadOnlyGlobals) {storage : Storage} {p : Printbuf} {line : Bytes}
  (firstTimestamp dSwitched bytes pkts : UInt64)

theorem rbSeparateIntoBuffers_stale (passed : p.Holds storage line)
    (twice : ClonesTwice firstTimestamp (firstTimestamp + trimmedDuration dSwitched))
    (outgrows :
      FirstCloneOutgrows globals.firstShare line firstTimestamp dSwitched bytes pkts) :
    ∃ fault, rbSeparateIntoBuffers globals.firstShare storage p firstTimestamp dSwitched 60 60
      bytes pkts = .error (.storage fault) := by
  let counts := intervalCounts globals.firstShare dSwitched 60 60 bytes pkts
  obtain ⟨fault, fails⟩ := @splitIntoAll_stale counts firstTimestamp line (2 ^ 64) (by decide)
    { storage, line := p, lastSentmsg := none, nodes := [] } ⟨passed, .nil⟩ rfl twice outgrows
  refine ⟨fault, ?_⟩
  simp only [rbSeparateIntoBuffers]
  rw [fails]
  rfl

theorem rbSeparateIntoBuffers_regenerates (passed : p.Holds storage line)
    (stays : ¬(ClonesTwice firstTimestamp (firstTimestamp + trimmedDuration dSwitched) ∧
      FirstCloneOutgrows globals.firstShare line firstTimestamp dSwitched bytes pkts)) :
    rbSeparateIntoBuffers globals.firstShare storage p firstTimestamp dSwitched 60 60 bytes pkts =
      regenerated
        (rbSeparateLongTimeFlow globals line firstTimestamp dSwitched 60 60 bytes pkts) := by
  let counts := intervalCounts globals.firstShare dSwitched 60 60 bytes pkts
  let state : BufferState := { storage, line := p, lastSentmsg := none, nodes := [] }
  have ready : state.Done line [] := ⟨passed, .nil⟩
  have shares : SplitState.Shares counts line [] { line, lastSentmsg := none, nodes := [] } :=
    ⟨rfl, .inl rfl, rfl⟩
  have safe (goesOn : firstTimestamp ≤ firstTimestamp + counts.dSwitched) :
      state.Safe line counts (firstTimestamp + counts.dSwitched) firstTimestamp := by
    by_cases another : firstTimestamp + 60 ≤ firstTimestamp + counts.dSwitched
    · refine .inr (.inr ⟨rfl, ?_⟩)
      by_cases third : firstTimestamp + 60 + 60 ≤ firstTimestamp + counts.dSwitched
      · exact .inl fun outgrows => stays ⟨⟨goesOn, another, third⟩, outgrows⟩
      · exact .inr (UInt64.not_le.mp third)
    · exact .inr (.inl (UInt64.not_le.mp another))
  have refines := splitIntoAll_refines globals (2 ^ 64) ready shares safe
  simp only [rbSeparateIntoBuffers, rbSeparateLongTimeFlow]
  refine refines.trans (congrArg regenerated ?_)
  cases splitIntervals globals counts firstTimestamp 60 (2 ^ 64) firstTimestamp
      { line, lastSentmsg := none, nodes := [] } with
  | error fault => rfl
  | ok state => rfl

theorem regenerated_ne_storage (run : Run (List Message)) (fault : NotLive) :
    .error (.storage fault) ≠ regenerated run := by
  cases run with
  | error _ => simp [regenerated, Except.mapError]
  | ok _ => simp [regenerated, Except.mapError]

/-- Every message is the one that printing it anew gives, unless a second message is cloned after
the first one has outgrown its buffer. -/
theorem rbSeparateIntoBuffers_regenerates_iff (passed : p.Holds storage line) :
    rbSeparateIntoBuffers globals.firstShare storage p firstTimestamp dSwitched 60 60 bytes pkts =
        regenerated
          (rbSeparateLongTimeFlow globals line firstTimestamp dSwitched 60 60 bytes pkts) ↔
      ¬(ClonesTwice firstTimestamp (firstTimestamp + trimmedDuration dSwitched) ∧
        FirstCloneOutgrows globals.firstShare line firstTimestamp dSwitched bytes pkts) := by
  constructor
  · intro same both
    obtain ⟨fault, stale⟩ :=
      rbSeparateIntoBuffers_stale globals _ _ bytes pkts passed both.1 both.2
    rw [stale] at same
    exact regenerated_ne_storage _ _ same
  · exact rbSeparateIntoBuffers_regenerates globals _ _ bytes pkts passed

end Separation

/-- A line with a member of so many characters in the storage the message is printed to. -/
def longLine (characters : Nat) : Bytes :=
  ascii "\x7b\"http_url\":\"" ++ List.replicate characters 0x61 ++ ascii "\""

def longStorage (characters : Nat) : Storage :=
  Heap.empty.alloc (longLine characters)

def longBuffer (characters : Nat) : Printbuf where
  buf := 0
  bpos := (longLine characters).length
  size := 2048

theorem longBuffer_holds (characters : Nat) (room : (longLine characters).length < 2048) :
    (longBuffer characters).Holds (longStorage characters) (longLine characters) where
  contents := Heap.alloc_self
  bpos := rfl
  room := room

theorem rbSeparateIntoBuffers_regenerates_181 :
    rbSeparateIntoBuffers splittingGlobals.firstShare (longStorage 10) (longBuffer 10) 1000 181 60
        60 100 10 =
      regenerated (rbSeparateLongTimeFlow splittingGlobals (longLine 10) 1000 181 60 60 100 10) :=
  (rbSeparateIntoBuffers_regenerates_iff splittingGlobals 1000 181 100 10
    (longBuffer_holds 10 (by decide +kernel))).mpr (by decide +kernel)

/-- The first message has room for its counts in the 2048 bytes it starts with, and not for its
timestamp. -/
theorem rbSeparateIntoBuffers_not_regenerated :
    rbSeparateIntoBuffers splittingGlobals.firstShare (longStorage 2000) (longBuffer 2000) 1000 181
        60 60 100 10 ≠
      regenerated
        (rbSeparateLongTimeFlow splittingGlobals (longLine 2000) 1000 181 60 60 100 10) := by
  intro same
  obtain ⟨fault, stale⟩ := rbSeparateIntoBuffers_stale splittingGlobals 1000 181 100 10
    (longBuffer_holds 2000 (by decide +kernel)) (by decide +kernel) (by decide +kernel)
  rw [stale] at same
  exact regenerated_ne_storage _ _ same

/-! The shape of a split flow -/

/-- As many messages as minutes the flow lasts, newest first, one for every minute from the first
timestamp on: the newest has the first interval's share, and all repeat what was passed. -/
structure FlowShape (counts : IntervalCounts) (line : Bytes) (firstTimestamp dSwitched : UInt64)
    (messages : List Message) : Prop where
  count : messages.length = max 1 ((dSwitched.toNat + 59) / 60)
  message : ∀ i (inside : i < messages.length), ∃ timestamp : UInt64,
    timestamp.toNat = firstTimestamp.toNat + 60 * (messages.length - 1 - i) ∧
      timestamp.toNat ≤ firstTimestamp.toNat + dSwitched.toNat ∧
      messages[i] =
        Interval.message line (if i = 0 then counts.last timestamp else counts.earlier timestamp)
  repeats : ∀ message ∈ messages, line <+: message.string

theorem Interval.prefix_text (line : Bytes) (interval : Interval) :
    line <+: interval.text line := by
  obtain ⟨more, stamped⟩ := exists_stampedText
    (countedText line interval.bytes interval.packets) interval.timestamp
  rw [Interval.text, stamped]
  unfold countedText appendNumber elementPrefix
  simp only [List.append_assoc]
  exact List.prefix_append _ _

section Shape

variable (counts : IntervalCounts) (first : UInt64)

/-- The timestamp of an interval. -/
def intervalStamp (i : Nat) : UInt64 := first + 60 * UInt64.ofNat i

theorem intervalStamp_toNat {i : Nat} (fits : first.toNat + 60 * i < 2 ^ 64) :
    (intervalStamp first i).toNat = first.toNat + 60 * i := by
  have sixty : UInt64.toNat 60 = 60 := rfl
  have inner : (60 * UInt64.ofNat i).toNat = 60 * i := by
    rw [UInt64.toNat_mul, UInt64.toNat_ofNat', sixty, Nat.mod_eq_of_lt (a := i) (by omega)]
    exact Nat.mod_eq_of_lt (by omega)
  rw [intervalStamp, UInt64.toNat_add, inner, Nat.mod_eq_of_lt fits]

theorem intervalStamp_succ (i : Nat) :
    intervalStamp (first + 60) i = intervalStamp first (i + 1) := by
  have next : UInt64.ofNat (i + 1) = UInt64.ofNat i + 1 := by simp
  rw [intervalStamp, intervalStamp, next, UInt64.mul_add, UInt64.add_assoc, UInt64.mul_one,
    UInt64.add_comm 60]

theorem flowIntervals_eq (more : Nat) (done : List Interval) :
    flowIntervals counts more first done =
      counts.last (intervalStamp first more) ::
        ((List.range more).map fun i => counts.earlier (intervalStamp first i)).reverse ++
          done := by
  induction more generalizing first done with
  | zero =>
      have start : intervalStamp first 0 = first := by simp [intervalStamp]
      rw [start]
      rfl
  | succ more ih =>
      have start : intervalStamp first 0 = first := by simp [intervalStamp]
      rw [flowIntervals, ih, List.range_succ_eq_map, List.map_cons, List.reverse_cons,
        List.map_map, intervalStamp_succ]
      simp only [intervalStamp_succ, start, List.append_assoc, List.cons_append, List.nil_append,
        Function.comp_def]
      rfl

end Shape

theorem splitFlow_shape (share : FirstShare) (line : Bytes) (firstTimestamp dSwitched : UInt64)
    (bytes pkts : UInt64)
    (noWrap : firstTimestamp.toNat + 60 * ((trimmedDuration dSwitched).toNat / 60 + 1) < 2 ^ 64) :
    FlowShape (intervalCounts share dSwitched 60 60 bytes pkts) line firstTimestamp dSwitched
      ((splitFlow share firstTimestamp dSwitched bytes pkts).map (Interval.message line)) := by
  have duration := trimmedDuration_toNat dSwitched
  let more := (trimmedDuration dSwitched).toNat / 60
  have within : 60 * more ≤ dSwitched.toNat := by
    have whole := Nat.div_mul_le_self (trimmedDuration dSwitched).toNat 60
    split at duration <;> omega
  have length : ((splitFlow share firstTimestamp dSwitched bytes pkts).map
      (Interval.message line)).length = more + 1 := by
    simp [splitFlow, flowIntervals_eq, more]
  constructor
  case count =>
    rw [length]
    split at duration <;> omega
  case message =>
    intro i inside
    refine ⟨intervalStamp firstTimestamp (more - i), ?_⟩
    rw [intervalStamp_toNat _ (by omega), length]
    refine ⟨by omega, by omega, ?_⟩
    simp only [splitFlow, flowIntervals_eq, List.append_nil]
    cases i with
    | zero => rfl
    | succ i =>
        rw [length] at inside
        simp only [List.map_cons, List.getElem_cons_succ, List.getElem_map,
          List.getElem_reverse, List.length_map, List.length_range, List.getElem_range]
        rw [if_neg (by simp), Nat.sub_sub, Nat.add_comm 1]
  case repeats =>
    intro message member
    obtain ⟨interval, _, rfl⟩ := List.mem_map.mp member
    exact interval.prefix_text line

theorem clonesTwice_iff {firstTimestamp dSwitched : UInt64}
    (noWrap : firstTimestamp.toNat + 60 * ((trimmedDuration dSwitched).toNat / 60 + 1) < 2 ^ 64) :
    ClonesTwice firstTimestamp (firstTimestamp + trimmedDuration dSwitched) ↔
      120 < dSwitched.toNat := by
  have duration := trimmedDuration_toNat dSwitched
  have whole := Nat.div_add_mod (trimmedDuration dSwitched).toNat 60
  have minute : UInt64.toNat 60 = 60 := rfl
  have fits : (firstTimestamp + trimmedDuration dSwitched).toNat =
      firstTimestamp.toNat + (trimmedDuration dSwitched).toNat := by
    rw [UInt64.toNat_add]
    exact Nat.mod_eq_of_lt (by omega)
  have one : (firstTimestamp + 60).toNat = firstTimestamp.toNat + 60 := by
    rw [UInt64.toNat_add]
    exact Nat.mod_eq_of_lt (by omega)
  have two (another : 60 ≤ (trimmedDuration dSwitched).toNat) :
      (firstTimestamp + 60 + 60).toNat = firstTimestamp.toNat + 120 := by
    rw [UInt64.toNat_add, one]
    exact Nat.mod_eq_of_lt (by omega)
  have many : 120 < dSwitched.toNat ↔ 120 ≤ (trimmedDuration dSwitched).toNat := by
    split at duration <;> omega
  simp only [ClonesTwice, UInt64.le_iff_toNat_le, fits, one, many]
  constructor
  · rintro ⟨_, another, third⟩
    rw [two (by omega)] at third
    omega
  · intro enough
    rw [two (by omega)]
    omega

section Shape

variable (globals : ReadOnlyGlobals) {storage : Storage} {p : Printbuf} {line : Bytes}
  {firstTimestamp dSwitched : UInt64} (bytes pkts : UInt64)

/-- A flow is split into the messages it should be, unless it lasts more than two minutes and the
first cloned message outgrows its buffer between its counts and its end. -/
theorem rbSeparateIntoBuffers_shape_iff (passed : p.Holds storage line)
    (noWrap : firstTimestamp.toNat + 60 * ((trimmedDuration dSwitched).toNat / 60 + 1) < 2 ^ 64) :
    (∃ messages,
        rbSeparateIntoBuffers globals.firstShare storage p firstTimestamp dSwitched 60 60 bytes
            pkts = .ok messages ∧
          FlowShape (intervalCounts globals.firstShare dSwitched 60 60 bytes pkts) line
            firstTimestamp dSwitched messages) ↔
      ¬(120 < dSwitched.toNat ∧
        FirstCloneOutgrows globals.firstShare line firstTimestamp dSwitched bytes pkts) := by
  rw [← clonesTwice_iff noWrap]
  constructor
  · rintro ⟨messages, ran, _⟩ ⟨twice, outgrows⟩
    obtain ⟨fault, stale⟩ :=
      rbSeparateIntoBuffers_stale globals _ _ bytes pkts passed twice outgrows
    rw [stale] at ran
    cases ran
  · intro stays
    have regenerates := rbSeparateIntoBuffers_regenerates globals _ _ bytes pkts passed stays
    rw [rbSeparateLongTimeFlow_split globals line bytes pkts noWrap] at regenerates
    exact ⟨_, regenerates, splitFlow_shape _ _ _ _ _ _ noWrap⟩

end Shape

theorem rbSeparateIntoBuffers_shape_181 :
    ∃ messages,
      rbSeparateIntoBuffers splittingGlobals.firstShare (longStorage 10) (longBuffer 10) 1000 181
          60 60 100 10 = .ok messages ∧
        FlowShape (intervalCounts splittingGlobals.firstShare 181 60 60 100 10) (longLine 10) 1000
          181 messages :=
  (rbSeparateIntoBuffers_shape_iff splittingGlobals 100 10
    (longBuffer_holds 10 (by decide +kernel)) (by decide +kernel)).mpr (by decide +kernel)

/-- Three minutes and a second, and a line that is just short enough for the counts: nothing is
handed on. -/
theorem rbSeparateIntoBuffers_not_shape :
    ¬∃ messages,
      rbSeparateIntoBuffers splittingGlobals.firstShare (longStorage 2000) (longBuffer 2000) 1000
          181 60 60 100 10 = .ok messages ∧
        FlowShape (intervalCounts splittingGlobals.firstShare 181 60 60 100 10) (longLine 2000)
          1000 181 messages := by
  rintro ⟨messages, ran, _⟩
  obtain ⟨fault, stale⟩ := rbSeparateIntoBuffers_stale splittingGlobals 1000 181 100 10
    (longBuffer_holds 2000 (by decide +kernel)) (by decide +kernel) (by decide +kernel)
  rw [stale] at ran
  cases ran

end F2k
