import F2k.Lib.Systems
import F2k.TemplateRuns

namespace F2k

open Lib

/-! The queue of a worker from the packets that listeners put into it to the end of the loop
that takes them out. -/

def isSflow (buffer : Mem) : Bool :=
  buffer 0 == 0 && buffer 1 == 0 && buffer 2 == 0 && (buffer 3 == 2 || buffer 3 == 5)

/-- Packets of NetFlow are dissected, others are only freed. -/
def Packet.isNetFlow (packet : Packet) : Bool :=
  !isSflow packet.received.buffer

/-- Where a worker is in `netFlowConsumerLoop`. -/
inductive ConsumerPhase
  | waiting
  | holding (packet : Packet)
  | nothingPopped
  | left

structure WorkerQueue where
  packetsQueue : List Packet
  run : Bool
  phase : ConsumerPhase
  dissected : List Packet
  /-- What was put into the queue as long as the worker was to run, and since. -/
  addedRunning : List Packet
  addedStopped : List Packet

def WorkerQueue.new : WorkerQueue where
  packetsQueue := []
  run := true
  phase := .waiting
  dissected := []
  addedRunning := []
  addedStopped := []

inductive QueueAction
  | addPacketToWorker (packet : Packet)
  | popPacket
  | popTimeout
  | consumePacket
  | checkRun
  | collectWorkerDone

namespace WorkerQueue

/-- Any number of listeners add packets. The timed pop of the worker, which finds an empty
queue, and its look at `run` are two steps. -/
def step (state : WorkerQueue) : QueueAction → Option WorkerQueue
  | .addPacketToWorker packet =>
      some
        { state with
          packetsQueue := state.packetsQueue ++ [packet]
          addedRunning :=
            if state.run then state.addedRunning ++ [packet] else state.addedRunning
          addedStopped :=
            if state.run then state.addedStopped else state.addedStopped ++ [packet] }
  | .popPacket =>
      match state.phase, state.packetsQueue with
      | .waiting, packet :: rest =>
          some { state with packetsQueue := rest, phase := .holding packet }
      | _, _ => none
  | .popTimeout =>
      match state.phase, state.packetsQueue with
      | .waiting, [] => some { state with phase := .nothingPopped }
      | _, _ => none
  | .consumePacket =>
      match state.phase with
      | .holding packet =>
          some
            { state with
              phase := .waiting
              dissected :=
                if packet.isNetFlow then state.dissected ++ [packet] else state.dissected }
      | _ => none
  | .checkRun =>
      match state.phase with
      | .nothingPopped =>
          some { state with phase := if state.run then .waiting else .left }
      | _ => none
  | .collectWorkerDone => some { state with run := false }

def held (state : WorkerQueue) : List Packet :=
  match state.phase with
  | .holding packet => [packet]
  | _ => []

/-- Every NetFlow packet that was added before `run` was cleared is dissected once and in order,
and after them at most some that were added later. -/
def DissectsAll (state : WorkerQueue) : Prop :=
  ∃ later, state.dissected = state.addedRunning.filter Packet.isNetFlow ++ later ∧
    later <+: state.addedStopped.filter Packet.isNetFlow

/-- `run` is not cleared while packets wait that were added since the timed pop gave up. -/
def ClearsInTime (state : WorkerQueue) (action : QueueAction) : Prop :=
  action = .collectWorkerDone → state.run = true → state.phase = .nothingPopped →
    state.packetsQueue.filter Packet.isNetFlow = []

/-- What is not dissected waits in the order it came in. -/
structure Valid (state : WorkerQueue) : Prop where
  inOrder : state.dissected ++ (state.held ++ state.packetsQueue).filter Packet.isNetFlow =
    (state.addedRunning ++ state.addedStopped).filter Packet.isNetFlow
  running : state.run = true → state.addedStopped = []
  left : state.phase = .left → state.run = false

/-- A packet is left behind: the worker will not look into the queue again. -/
structure Misses (state : WorkerQueue) : Prop where
  stopped : state.run = false
  givenUp : state.phase = .nothingPopped ∨ state.phase = .left
  behind : state.dissected.length < (state.addedRunning.filter Packet.isNetFlow).length

theorem valid_new : Valid .new :=
  ⟨rfl, fun _ => rfl, fun left => nomatch left⟩

theorem not_misses_new : ¬Misses .new := by
  intro misses
  cases misses.stopped

variable {state after : WorkerQueue} {action : QueueAction}

theorem step_valid (valid : Valid state) (stepped : state.step action = some after) :
    Valid after := by
  obtain ⟨inOrder, running, left⟩ := valid
  obtain ⟨queue, run, phase, dissected, before, since⟩ := state
  simp only [held] at inOrder
  cases action with
  | addPacketToWorker packet =>
      cases stepped
      cases run with
      | true =>
          obtain rfl : since = [] := running rfl
          refine ⟨?_, fun _ => rfl, left⟩
          have more := congrArg (· ++ [packet].filter Packet.isNetFlow) inOrder
          simpa only [held, List.filter_append, List.append_assoc, List.append_nil, if_true,
            List.filter_nil] using more
      | false =>
          refine ⟨?_, fun set => (nomatch set), fun _ => rfl⟩
          have more := congrArg (· ++ [packet].filter Packet.isNetFlow) inOrder
          simpa only [held, List.filter_append, List.append_assoc, Bool.false_eq_true,
            if_false] using more
  | popPacket =>
      cases phase with
      | waiting =>
          cases queue with
          | nil => cases stepped
          | cons packet rest =>
              cases stepped
              exact ⟨inOrder, running, fun left => nomatch left⟩
      | holding packet => cases stepped
      | nothingPopped => cases stepped
      | left => cases stepped
  | popTimeout =>
      cases phase with
      | waiting =>
          cases queue with
          | nil =>
              cases stepped
              exact ⟨inOrder, running, fun left => nomatch left⟩
          | cons packet rest => cases stepped
      | holding packet => cases stepped
      | nothingPopped => cases stepped
      | left => cases stepped
  | consumePacket =>
      cases phase with
      | waiting => cases stepped
      | holding packet =>
          cases stepped
          refine ⟨?_, running, fun left => nomatch left⟩
          simp only [held, List.singleton_append, List.filter_cons, List.nil_append]
            at inOrder ⊢
          rw [← inOrder]
          cases packet.isNetFlow with
          | true => simp only [if_true, List.append_assoc, List.singleton_append]
          | false => simp only [Bool.false_eq_true, if_false]
      | nothingPopped => cases stepped
      | left => cases stepped
  | checkRun =>
      cases phase with
      | waiting => cases stepped
      | holding packet => cases stepped
      | nothingPopped =>
          cases stepped
          cases run with
          | true => exact ⟨inOrder, running, fun left => nomatch left⟩
          | false => exact ⟨inOrder, running, fun _ => rfl⟩
      | left => cases stepped
  | collectWorkerDone =>
      cases stepped
      exact ⟨inOrder, fun set => (nomatch set), fun _ => rfl⟩

theorem step_misses (misses : Misses state) (stepped : state.step action = some after) :
    Misses after := by
  obtain ⟨stopped, givenUp, behind⟩ := misses
  obtain ⟨queue, run, phase, dissected, before, since⟩ := state
  obtain rfl : run = false := stopped
  cases action with
  | addPacketToWorker packet =>
      cases stepped
      exact ⟨rfl, givenUp, behind⟩
  | popPacket =>
      rcases givenUp with rfl | rfl <;> cases stepped
  | popTimeout =>
      rcases givenUp with rfl | rfl <;> cases stepped
  | consumePacket =>
      rcases givenUp with rfl | rfl <;> cases stepped
  | checkRun =>
      rcases givenUp with rfl | rfl
      · cases stepped
        exact ⟨rfl, .inr rfl, behind⟩
      · cases stepped
  | collectWorkerDone =>
      cases stepped
      exact ⟨rfl, givenUp, behind⟩

/-- With nothing popped and nothing held, what is missing of the packets waits. -/
theorem Valid.lengths (valid : Valid state) (nothing : state.held = []) :
    state.dissected.length + (state.packetsQueue.filter Packet.isNetFlow).length =
      (state.addedRunning.filter Packet.isNetFlow).length +
        (state.addedStopped.filter Packet.isNetFlow).length := by
  have lengths := congrArg List.length valid.inOrder
  rw [nothing, List.nil_append, List.filter_append, List.length_append,
    List.length_append] at lengths
  exact lengths

/-- The only step that leaves a packet behind is the one that clears `run` too early. -/
theorem step_misses_iff (valid : Valid state) (free : ¬Misses state)
    (stepped : state.step action = some after) :
    Misses after ↔ ¬state.ClearsInTime action := by
  have otherwise : action ≠ .collectWorkerDone → (Misses after → Misses state) →
      (Misses after ↔ ¬state.ClearsInTime action) := fun other same =>
    ⟨fun misses => absurd (same misses) free,
      fun late => absurd (fun done => absurd done other) late⟩
  have lengths := valid.lengths
  obtain ⟨queue, run, phase, dissected, before, since⟩ := state
  cases action with
  | addPacketToWorker packet =>
      apply otherwise (fun done => nomatch done)
      cases stepped
      rintro ⟨stopped, givenUp, behind⟩
      obtain rfl : run = false := stopped
      exact ⟨rfl, givenUp, behind⟩
  | popPacket =>
      apply otherwise (fun done => nomatch done)
      rintro ⟨stopped, givenUp, behind⟩
      cases phase <;> cases queue <;> cases stepped
      rcases givenUp with waits | left
      · cases waits
      · cases left
  | popTimeout =>
      apply otherwise (fun done => nomatch done)
      rintro ⟨stopped, givenUp, behind⟩
      cases phase <;> cases queue <;> cases stepped
      have all := lengths rfl
      simp only [List.filter_nil, List.length_nil] at all
      exact absurd behind (by simp only; omega)
  | consumePacket =>
      apply otherwise (fun done => nomatch done)
      rintro ⟨stopped, givenUp, behind⟩
      cases phase <;> cases stepped
      rcases givenUp with waits | left
      · cases waits
      · cases left
  | checkRun =>
      apply otherwise (fun done => nomatch done)
      rintro ⟨stopped, givenUp, behind⟩
      cases phase <;> cases stepped
      exact ⟨stopped, .inl rfl, behind⟩
  | collectWorkerDone =>
      cases stepped
      constructor
      · rintro ⟨-, givenUp, behind⟩ inTime
        cases run with
        | false => exact free ⟨rfl, givenUp, behind⟩
        | true =>
            rcases givenUp with rfl | rfl
            · have all := lengths rfl
              rw [inTime rfl rfl rfl, List.length_nil] at all
              exact absurd behind (by simp only at all ⊢; omega)
            · exact nomatch valid.left rfl
      · intro late
        have waiting : run = true ∧ phase = .nothingPopped ∧
            queue.filter Packet.isNetFlow ≠ [] := by
          simpa [ClearsInTime] using late
        obtain ⟨rfl, rfl, some⟩ := waiting
        have all := lengths rfl
        obtain rfl : since = [] := valid.running rfl
        have positive := List.length_pos_of_ne_nil some
        simp only [List.filter_nil, List.length_nil] at all
        exact ⟨rfl, .inl rfl, by simp only; omega⟩

/-- At the end nothing is left behind exactly if everything was dissected. -/
theorem Valid.dissectsAll_iff (valid : Valid state) (left : state.phase = .left) :
    state.DissectsAll ↔ ¬Misses state := by
  have nothing : state.held = [] := by rw [held, left]
  have order := valid.inOrder
  rw [nothing, List.nil_append, List.filter_append] at order
  constructor
  · rintro ⟨later, dissected, -⟩ misses
    have behind := misses.behind
    rw [dissected, List.length_append] at behind
    omega
  · intro free
    have all : (state.addedRunning.filter Packet.isNetFlow).length ≤ state.dissected.length := by
      by_contra short
      exact free ⟨valid.left left, .inr left, Nat.lt_of_not_le short⟩
    obtain ⟨later, dissected⟩ := List.prefix_of_prefix_length_le
      (List.prefix_append _ _) ⟨_, order⟩ all
    refine ⟨later, dissected.symm, ?_⟩
    rw [← dissected, List.append_assoc] at order
    exact ⟨_, List.append_cancel_left order⟩

end WorkerQueue

/-- Once the worker has left its loop, it has dissected what was added in time exactly if `run`
was not cleared behind a timed pop that no longer saw a packet. -/
theorem netFlowConsumerLoop_dissectsAll_iff {actions : List QueueAction} {state : WorkerQueue}
    (ran : Takes WorkerQueue.step .new actions state) (left : state.phase = .left) :
    state.DissectsAll ↔
      EveryStep WorkerQueue.step WorkerQueue.ClearsInTime .new actions := by
  have valid := ran.keeps (fun _ _ _ => WorkerQueue.step_valid) WorkerQueue.valid_new
  rw [valid.dissectsAll_iff left]
  exact ran.caught_iff (fun _ _ _ => WorkerQueue.step_valid)
    (fun _ _ _ => WorkerQueue.step_misses) (fun _ _ _ => WorkerQueue.step_misses_iff)
    WorkerQueue.valid_new WorkerQueue.not_misses_new

theorem netFlowConsumerLoop_dissectsAll_one :
    ∃ state, Takes WorkerQueue.step .new
        [.addPacketToWorker (packetOf []), .popPacket, .consumePacket, .popTimeout,
          .collectWorkerDone, .checkRun] state ∧
      state.DissectsAll := by
  obtain ⟨state, ran, left⟩ : ∃ state, Takes WorkerQueue.step .new
      [.addPacketToWorker (packetOf []), .popPacket, .consumePacket, .popTimeout,
        .collectWorkerDone, .checkRun] state ∧ state.phase = .left :=
    ⟨_, .next rfl (.next rfl (.next rfl (.next rfl (.next rfl (.next rfl (.refl _)))))), rfl⟩
  refine ⟨state, ran, (netFlowConsumerLoop_dissectsAll_iff ran left).mpr ?_⟩
  refine ⟨fun done => (nomatch done), ?_⟩
  rintro _ ⟨⟩
  refine ⟨fun done => (nomatch done), ?_⟩
  rintro _ ⟨⟩
  refine ⟨fun done => (nomatch done), ?_⟩
  rintro _ ⟨⟩
  refine ⟨fun done => (nomatch done), ?_⟩
  rintro _ ⟨⟩
  refine ⟨fun _ _ _ => rfl, ?_⟩
  rintro _ ⟨⟩
  exact ⟨fun done => (nomatch done), fun _ _ => trivial⟩

/-- The packet comes after the timed pop has given up, and `run` is cleared before the worker
looks at it. -/
theorem netFlowConsumerLoop_loses :
    ∃ state, Takes WorkerQueue.step .new
        [.popTimeout, .addPacketToWorker (packetOf []), .collectWorkerDone, .checkRun] state ∧
      state.phase = .left ∧ ¬state.DissectsAll := by
  have isNetFlow : (packetOf []).isNetFlow = true := by decide +kernel
  refine ⟨_, .next rfl (.next rfl (.next rfl (.next rfl (.refl _)))), rfl, ?_⟩
  rintro ⟨later, dissected, -⟩
  have lengths := congrArg List.length dissected
  simp [WorkerQueue.new, isNetFlow] at lengths

end F2k
