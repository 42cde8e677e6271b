import F2k.Lib.Runs
import F2k.Lib.Systems

namespace F2k.Lib

/-! Workers that share out states among them. Every input is for one key, the state of a key has
one owner, and the owner works on an input piece by piece before it sends what came of it. -/

theorem runSteps_concat {State Input Output : Type}
    {step : State → Input → Except ε (State × Output)} {state middle final : State}
    {inputs : List Input} {input : Input} {outputs : List Output} {output : Output}
    (ran : runSteps step state inputs = .ok (middle, outputs))
    (last : step middle input = .ok (final, output)) :
    runSteps step state (inputs ++ [input]) = .ok (final, outputs ++ [output]) := by
  induction inputs generalizing state outputs with
  | nil =>
      cases ran
      rw [List.nil_append, runSteps, last]
      rfl
  | cons head rest ih =>
      rw [runSteps] at ran
      rw [List.cons_append, runSteps]
      cases stepped : step state head with
      | error failure =>
          rw [stepped] at ran
          cases ran
      | ok result =>
          obtain ⟨next, first⟩ := result
          rw [stepped, ok_bind] at ran
          dsimp only at ran
          cases later : runSteps step next rest with
          | error failure =>
              rw [later] at ran
              cases ran
          | ok reached =>
              rw [later, ok_bind] at ran
              cases ran
              rw [ok_bind]
              dsimp only
              rw [ih later]
              rfl

theorem update_eq_some {At Value : Type} [DecidableEq At] {values : At → Option Value}
    {changed place : At} {put : Option Value} {value : Value}
    (found : Function.update values changed put place = some value) :
    place = changed ∧ put = some value ∨ place ≠ changed ∧ values place = some value := by
  by_cases same : place = changed
  · subst same
    rw [Function.update_self] at found
    exact .inl ⟨rfl, found⟩
  · rw [Function.update_of_ne same] at found
    exact .inr ⟨same, found⟩

theorem mem_update_cases {At Value : Type} [DecidableEq At] {values : At → List Value}
    {changed place : At} {put : List Value} {value : Value}
    (member : value ∈ Function.update values changed put place) :
    place = changed ∧ value ∈ put ∨ place ≠ changed ∧ value ∈ values place := by
  by_cases same : place = changed
  · subst same
    rw [Function.update_self] at member
    exact .inl ⟨rfl, member⟩
  · rw [Function.update_of_ne same] at member
    exact .inr ⟨same, member⟩

/-- What is done with an input. -/
structure Sharing (Key Worker Input Piece State Message ε : Type) where
  key : Input → Key
  owner : State → Option Worker
  pieces : Input → List Piece
  work : Input → State → Piece → Except ε (State × List Message)

/-- An input that a worker has taken: the pieces that are left of it, and what it has not sent of
the ones before. -/
structure SharedTask (Input Piece Message : Type) where
  input : Input
  pieces : List Piece
  messages : List Message

structure Shared (Key Worker Input Piece State Message : Type) where
  states : Key → Option State
  queue : Worker → List Input
  task : Worker → Option (SharedTask Input Piece Message)
  arrived : List Input
  sent : List (Key × Message)

inductive SharedAction (Worker Input : Type)
  | arrive (input : Input)
  | take (worker : Worker)
  | work (worker : Worker)
  | send (worker : Worker)
  | finish (worker : Worker)

variable {Key Worker Input Piece State Message ε : Type}

def Shared.start (states : Key → Option State) :
    Shared Key Worker Input Piece State Message where
  states
  queue := fun _ => []
  task := fun _ => none
  arrived := []
  sent := []

/-- A worker has nothing to do. -/
def Shared.Idle (system : Shared Key Worker Input Piece State Message) (worker : Worker) : Prop :=
  system.queue worker = [] ∧ system.task worker = none

/-- The messages that were sent for a key, in their order. -/
def Shared.sentFor [DecidableEq Key] (system : Shared Key Worker Input Piece State Message)
    (key : Key) : List Message :=
  (system.sent.filter fun sent => sent.1 = key).map Prod.snd

namespace Sharing

variable [DecidableEq Key] (sharing : Sharing Key Worker Input Piece State Message ε)

/-- An input on its own. -/
def whole (state : State) (input : Input) : Except ε (State × List Message) :=
  (runSteps (sharing.work input) state (sharing.pieces input)).map fun result =>
    (result.1, result.2.flatten)

/-- No work gives a state to another owner. -/
def KeepsOwner : Prop :=
  ∀ input state piece next made, sharing.work input state piece = .ok (next, made) →
    sharing.owner next = sharing.owner state

/-- The inputs of a key that have arrived. -/
def arrivedFor (system : Shared Key Worker Input Piece State Message) (key : Key) : List Input :=
  system.arrived.filter fun input => sharing.key input = key

/-- Those of them that the worker has not taken. -/
def waitingFor (system : Shared Key Worker Input Piece State Message) (worker : Worker)
    (key : Key) : List Input :=
  (system.queue worker).filter fun input => sharing.key input = key

/-! What the owner of a key has done of its inputs -/

variable (first : State) (worker : Worker) (key : Key)

/-- The inputs that are done are the first ones of the key, one after another. -/
structure Done (system : Shared Key Worker Input Piece State Message) (done : List Input)
    (reached : State) (outputs : List (List Message)) : Prop where
  ran : runSteps sharing.whole first done = .ok (reached, outputs)
  states : system.states key = some reached
  arrived : sharing.arrivedFor system key = done ++ sharing.waitingFor system worker key
  sent : system.sentFor key = outputs.flatten

/-- Besides, the worker has taken the next one. Nothing is sent while pieces of it are left. -/
structure Doing (system : Shared Key Worker Input Piece State Message)
    (task : SharedTask Input Piece Message) (done : List Input) (worked : List Piece)
    (reached state : State) (outputs made : List (List Message)) : Prop where
  own : sharing.key task.input = key
  ran : runSteps sharing.whole first done = .ok (reached, outputs)
  split : sharing.pieces task.input = worked ++ task.pieces
  worked : runSteps (sharing.work task.input) reached worked = .ok (state, made)
  states : system.states key = some state
  arrived : sharing.arrivedFor system key =
    done ++ task.input :: sharing.waitingFor system worker key
  sent : system.sentFor key ++ task.messages = outputs.flatten ++ made.flatten
  unsent : task.pieces ≠ [] → system.sentFor key = outputs.flatten

/-- The task of the owner is for another key, or it is the next one of this key. -/
def Progress (system : Shared Key Worker Input Piece State Message) : Prop :=
  (∃ done reached outputs, sharing.Done first worker key system done reached outputs ∧
    ∀ task, system.task worker = some task → sharing.key task.input ≠ key) ∨
  ∃ task done worked reached state outputs made,
    system.task worker = some task ∧
      sharing.Doing first worker key system task done worked reached state outputs made

/-- Inputs of the key are with its owner only. -/
structure Owned (system : Shared Key Worker Input Piece State Message) : Prop where
  owner : ∀ state, system.states key = some state → sharing.owner state = some worker
  queue : ∀ other input, input ∈ system.queue other → sharing.key input = key → other = worker
  task : ∀ other task, system.task other = some task → sharing.key task.input = key →
    other = worker

/-! What is not about a key leaves it as it is -/

variable {sharing} {system after : Shared Key Worker Input Piece State Message} {first : State}
  {worker : Worker} {key : Key}

/-- What two states of the system have in common about a key and its owner. -/
structure Alike (sharing : Sharing Key Worker Input Piece State Message ε) (worker : Worker)
    (key : Key) (system after : Shared Key Worker Input Piece State Message) : Prop where
  states : after.states key = system.states key
  arrived : sharing.arrivedFor after key = sharing.arrivedFor system key
  waiting : sharing.waitingFor after worker key = sharing.waitingFor system worker key
  sent : after.sentFor key = system.sentFor key

theorem Done.alike {done : List Input} {reached : State} {outputs : List (List Message)}
    (doneAll : sharing.Done first worker key system done reached outputs)
    (alike : Alike sharing worker key system after) :
    sharing.Done first worker key after done reached outputs where
  ran := doneAll.ran
  states := alike.states.trans doneAll.states
  arrived := by rw [alike.arrived, alike.waiting, doneAll.arrived]
  sent := alike.sent.trans doneAll.sent

theorem Doing.alike {task : SharedTask Input Piece Message} {done : List Input}
    {worked : List Piece} {reached state : State} {outputs made : List (List Message)}
    (doing : sharing.Doing first worker key system task done worked reached state outputs made)
    (alike : Alike sharing worker key system after) :
    sharing.Doing first worker key after task done worked reached state outputs made where
  own := doing.own
  ran := doing.ran
  split := doing.split
  worked := doing.worked
  states := alike.states.trans doing.states
  arrived := by rw [alike.arrived, alike.waiting, doing.arrived]
  sent := by rw [alike.sent, doing.sent]
  unsent := fun left => alike.sent.trans (doing.unsent left)

theorem Progress.alike (progress : sharing.Progress first worker key system)
    (alike : Alike sharing worker key system after)
    (task : after.task worker = system.task worker) :
    sharing.Progress first worker key after := by
  rcases progress with ⟨done, reached, outputs, doneAll, apart⟩ |
    ⟨current, done, worked, reached, state, outputs, made, busy, doing⟩
  · exact .inl ⟨done, reached, outputs, doneAll.alike alike, task ▸ apart⟩
  · exact .inr ⟨current, done, worked, reached, state, outputs, made, task.trans busy,
      doing.alike alike⟩

/-- A worker has another task, which is for another key like the one before. -/
theorem Progress.elsewhere (progress : sharing.Progress first worker key system)
    (alike : Alike sharing worker key system after)
    (before : ∀ task, system.task worker = some task → sharing.key task.input ≠ key)
    (now : ∀ task, after.task worker = some task → sharing.key task.input ≠ key) :
    sharing.Progress first worker key after := by
  rcases progress with ⟨done, reached, outputs, doneAll, _⟩ |
    ⟨current, done, worked, reached, state, outputs, made, busy, doing⟩
  · exact .inl ⟨done, reached, outputs, doneAll.alike alike, now⟩
  · exact absurd doing.own (before current busy)

/-! What has been done and sent -/

structure InOrder (sharing : Sharing Key Worker Input Piece State Message ε) (first : State)
    (worker : Worker) (key : Key) (system : Shared Key Worker Input Piece State Message) :
    Prop where
  owned : sharing.Owned worker key system
  progress : sharing.Progress first worker key system

theorem InOrder.start {states : Key → Option State} (known : states key = some first)
    (owner : sharing.owner first = some worker) :
    sharing.InOrder first worker key (.start states) := by
  constructor
  · refine ⟨?_, fun _ _ member => absurd member List.not_mem_nil, fun _ _ busy => nomatch busy⟩
    intro state found
    obtain rfl := Option.some.inj (known.symm.trans found)
    exact owner
  · exact .inl ⟨[], first, [], ⟨rfl, known, rfl, rfl⟩, fun _ busy => nomatch busy⟩

/-- In whatever order the workers act, each state is worked on and what is sent for it comes as
if its inputs were done one after another: some of the first ones as long as work is left, and
all of them when the owner has nothing to do. -/
structure Sequential (sharing : Sharing Key Worker Input Piece State Message ε) (first : State)
    (worker : Worker) (key : Key) (system : Shared Key Worker Input Piece State Message) :
    Prop where
  sent : ∃ done reached outputs, done <+: sharing.arrivedFor system key ∧
    runSteps sharing.whole first done = .ok (reached, outputs) ∧
    system.sentFor key <+: outputs.flatten
  all : system.Idle worker → ∃ reached outputs,
    runSteps sharing.whole first (sharing.arrivedFor system key) = .ok (reached, outputs) ∧
      system.states key = some reached ∧ system.sentFor key = outputs.flatten

theorem InOrder.sequential (inOrder : sharing.InOrder first worker key system) :
    sharing.Sequential first worker key system := by
  rcases inOrder.progress with ⟨done, reached, outputs, doneAll, _⟩ |
    ⟨task, done, worked, reached, state, outputs, made, busy, doing⟩
  · constructor
    · refine ⟨done, reached, outputs, ?_, doneAll.ran, ?_⟩
      · rw [doneAll.arrived]
        exact List.prefix_append _ _
      · exact doneAll.sent ▸ List.prefix_rfl
    · rintro ⟨empty, _⟩
      refine ⟨reached, outputs, ?_, doneAll.states, doneAll.sent⟩
      rw [doneAll.arrived, waitingFor, empty]
      simpa using doneAll.ran
  · constructor
    · by_cases left : task.pieces = []
      · have ended : sharing.whole reached task.input = .ok (state, made.flatten) := by
          have split := doing.split
          rw [left, List.append_nil] at split
          rw [whole, split, doing.worked]
          rfl
        refine ⟨done ++ [task.input], state, outputs ++ [made.flatten], ?_,
          runSteps_concat doing.ran ended, ?_⟩
        · refine ⟨sharing.waitingFor system worker key, ?_⟩
          rw [doing.arrived, List.append_assoc]
          rfl
        · rw [List.flatten_append, List.flatten_singleton, ← doing.sent]
          exact List.prefix_append _ _
      · refine ⟨done, reached, outputs, ?_, doing.ran, ?_⟩
        · rw [doing.arrived]
          exact List.prefix_append _ _
        · exact doing.unsent left ▸ List.prefix_rfl
    · rintro ⟨_, free⟩
      exact absurd (free.symm.trans busy) (by simp)

/-! What a step does -/

variable (sharing) [DecidableEq Worker]

/-- Inputs for states that nobody owns do not come in, and a failure ends everything. -/
def step (system : Shared Key Worker Input Piece State Message) :
    SharedAction Worker Input → Option (Shared Key Worker Input Piece State Message)
  | .arrive input =>
      ((system.states (sharing.key input)).bind sharing.owner).map fun worker =>
        { system with
          queue := Function.update system.queue worker (system.queue worker ++ [input])
          arrived := system.arrived ++ [input] }
  | .take worker =>
      match system.task worker, system.queue worker with
      | none, input :: rest =>
          some
            { system with
              queue := Function.update system.queue worker rest
              task := Function.update system.task worker
                (some { input, pieces := sharing.pieces input, messages := [] }) }
      | _, _ => none
  | .work worker =>
      match system.task worker with
      | some { input, pieces := piece :: rest, messages } =>
          (system.states (sharing.key input)).bind fun state =>
            match sharing.work input state piece with
            | .error _ => none
            | .ok (next, made) =>
                some
                  { system with
                    states := Function.update system.states (sharing.key input) (some next)
                    task := Function.update system.task worker
                      (some { input, pieces := rest, messages := messages ++ made }) }
      | _ => none
  | .send worker =>
      match system.task worker with
      | some { input, pieces := [], messages := message :: rest } =>
          some
            { system with
              task := Function.update system.task worker
                (some { input, pieces := [], messages := rest })
              sent := system.sent ++ [(sharing.key input, message)] }
      | _ => none
  | .finish worker =>
      match system.task worker with
      | some { input := _, pieces := [], messages := [] } =>
          some { system with task := Function.update system.task worker none }
      | _ => none

variable {sharing} {input : Input} {other : Worker}

theorem step_arrive (stepped : sharing.step system (.arrive input) = some after) :
    ∃ state owner, system.states (sharing.key input) = some state ∧
      sharing.owner state = some owner ∧
      after =
        { system with
          queue := Function.update system.queue owner (system.queue owner ++ [input])
          arrived := system.arrived ++ [input] } := by
  obtain ⟨owner, found, rfl⟩ := Option.map_eq_some_iff.mp stepped
  obtain ⟨state, known, owned⟩ := Option.bind_eq_some_iff.mp found
  exact ⟨state, owner, known, owned, rfl⟩

theorem step_take (stepped : sharing.step system (.take other) = some after) :
    ∃ input rest, system.task other = none ∧ system.queue other = input :: rest ∧
      after =
        { system with
          queue := Function.update system.queue other rest
          task := Function.update system.task other
            (some { input, pieces := sharing.pieces input, messages := [] }) } := by
  rw [step] at stepped
  split at stepped
  · next input rest free waiting =>
      cases stepped
      exact ⟨input, rest, free, waiting, rfl⟩
  · cases stepped

theorem step_work (stepped : sharing.step system (.work other) = some after) :
    ∃ input piece rest messages state next made,
      system.task other = some { input, pieces := piece :: rest, messages } ∧
      system.states (sharing.key input) = some state ∧
      sharing.work input state piece = .ok (next, made) ∧
      after =
        { system with
          states := Function.update system.states (sharing.key input) (some next)
          task := Function.update system.task other
            (some { input, pieces := rest, messages := messages ++ made }) } := by
  rw [step] at stepped
  split at stepped
  · next input piece rest messages busy =>
      obtain ⟨state, known, worked⟩ := Option.bind_eq_some_iff.mp stepped
      split at worked
      · cases worked
      · next next made done =>
          cases worked
          exact ⟨input, piece, rest, messages, state, next, made, busy, known, done, rfl⟩
  · cases stepped

theorem step_send (stepped : sharing.step system (.send other) = some after) :
    ∃ input message rest,
      system.task other = some { input, pieces := [], messages := message :: rest } ∧
      after =
        { system with
          task := Function.update system.task other
            (some { input, pieces := [], messages := rest })
          sent := system.sent ++ [(sharing.key input, message)] } := by
  rw [step] at stepped
  split at stepped
  · next input message rest busy =>
      cases stepped
      exact ⟨input, message, rest, busy, rfl⟩
  · cases stepped

theorem step_finish (stepped : sharing.step system (.finish other) = some after) :
    ∃ input, system.task other = some { input, pieces := [], messages := [] } ∧
      after = { system with task := Function.update system.task other none } := by
  rw [step] at stepped
  split at stepped
  · next input busy =>
      cases stepped
      exact ⟨input, busy, rfl⟩
  · cases stepped

/-! Inputs stay with their owner -/

theorem Owned.step (owned : sharing.Owned worker key system) (keeps : sharing.KeepsOwner)
    {action : SharedAction Worker Input} (stepped : sharing.step system action = some after) :
    sharing.Owned worker key after := by
  cases action with
  | arrive input =>
      obtain ⟨state, owner, known, owns, rfl⟩ := step_arrive stepped
      refine ⟨owned.owner, ?_, owned.task⟩
      intro other waiting member own
      rcases mem_update_cases member with ⟨rfl, queued⟩ | ⟨_, queued⟩
      · rcases List.mem_append.mp queued with before | last
        · exact owned.queue other waiting before own
        · obtain rfl := List.mem_singleton.mp last
          rw [own] at known
          exact Option.some.inj (owns.symm.trans (owned.owner state known))
      · exact owned.queue other waiting queued own
  | take other =>
      obtain ⟨input, rest, free, waiting, rfl⟩ := step_take stepped
      refine ⟨owned.owner, ?_, ?_⟩
      · intro queue waited member own
        rcases mem_update_cases member with ⟨rfl, queued⟩ | ⟨_, queued⟩
        · apply owned.queue queue waited _ own
          rw [waiting]
          exact List.mem_cons_of_mem input queued
        · exact owned.queue queue waited queued own
      · intro busy task taken own
        rcases update_eq_some taken with ⟨rfl, task⟩ | ⟨_, before⟩
        · cases task
          apply owned.queue busy input _ own
          rw [waiting]
          exact List.mem_cons_self
        · exact owned.task busy task before own
  | work other =>
      obtain ⟨input, piece, rest, messages, state, next, made, busy, known, worked, rfl⟩ :=
        step_work stepped
      refine ⟨?_, owned.queue, ?_⟩
      · intro reached found
        rcases update_eq_some found with ⟨rfl, put⟩ | ⟨_, before⟩
        · cases put
          rw [keeps _ _ _ _ _ worked]
          exact owned.owner state known
        · exact owned.owner reached before
      · intro doing task taken own
        rcases update_eq_some taken with ⟨rfl, put⟩ | ⟨_, before⟩
        · cases put
          exact owned.task doing _ busy own
        · exact owned.task doing task before own
  | send other =>
      obtain ⟨input, message, rest, busy, rfl⟩ := step_send stepped
      refine ⟨owned.owner, owned.queue, ?_⟩
      intro sending task taken own
      rcases update_eq_some taken with ⟨rfl, put⟩ | ⟨_, before⟩
      · cases put
        exact owned.task sending _ busy own
      · exact owned.task sending task before own
  | finish other =>
      obtain ⟨input, busy, rfl⟩ := step_finish stepped
      refine ⟨owned.owner, owned.queue, ?_⟩
      intro doing task taken own
      rcases update_eq_some taken with ⟨rfl, put⟩ | ⟨_, before⟩
      · cases put
      · exact owned.task doing task before own

/-! What a step makes of the progress with a key -/

theorem sentFor_other {message : Message} {sent : Key} (apart : sent ≠ key)
    (before : List (Key × Message)) :
    ((before ++ [(sent, message)]).filter fun sent => sent.1 = key).map Prod.snd =
      (before.filter fun sent => sent.1 = key).map Prod.snd := by
  simp [apart]

/-- A worker goes on with a task that is for another key. -/
theorem Progress.apart (progress : sharing.Progress first worker key system)
    (alike : Alike sharing worker key system after) {task : SharedTask Input Piece Message}
    {put : Option (SharedTask Input Piece Message)} (busy : system.task other = some task)
    (own : sharing.key task.input ≠ key)
    (tasks : after.task = Function.update system.task other put)
    (stays : ∀ task, put = some task → sharing.key task.input ≠ key) :
    sharing.Progress first worker key after := by
  by_cases same : other = worker
  · subst same
    refine progress.elsewhere alike ?_ ?_
    · intro current taken
      obtain rfl := Option.some.inj (busy.symm.trans taken)
      exact own
    · intro current taken
      rw [tasks, Function.update_self] at taken
      exact stays current taken
  · apply progress.alike alike
    rw [tasks, Function.update_of_ne (Ne.symm same)]

theorem Progress.arrive (progress : sharing.Progress first worker key system)
    (owned : sharing.Owned worker key system)
    (stepped : sharing.step system (.arrive input) = some after) :
    sharing.Progress first worker key after := by
  obtain ⟨state, owner, known, owns, rfl⟩ := step_arrive stepped
  by_cases own : sharing.key input = key
  · have same : owner = worker := by
      rw [own] at known
      exact Option.some.inj (owns.symm.trans (owned.owner state known))
    subst same
    rcases progress with ⟨done, reached, outputs, doneAll, apart⟩ |
      ⟨task, done, worked, reached, state, outputs, made, busy, doing⟩
    · refine .inl ⟨done, reached, outputs, ⟨doneAll.ran, doneAll.states, ?_, doneAll.sent⟩, apart⟩
      have arrived := doneAll.arrived
      simp only [arrivedFor, waitingFor] at arrived
      simp [arrivedFor, waitingFor, arrived, own]
    · refine .inr ⟨task, done, worked, reached, state, outputs, made, busy, ?_⟩
      refine ⟨doing.own, doing.ran, doing.split, doing.worked, doing.states, ?_, doing.sent,
        doing.unsent⟩
      have arrived := doing.arrived
      simp only [arrivedFor, waitingFor] at arrived
      simp [arrivedFor, waitingFor, arrived, own]
  · refine progress.alike ⟨rfl, ?_, ?_, rfl⟩ rfl
    · simp [arrivedFor, own]
    · simp only [waitingFor]
      by_cases same : worker = owner
      · subst same
        simp [own]
      · rw [Function.update_of_ne same]

theorem Progress.take (progress : sharing.Progress first worker key system)
    (owned : sharing.Owned worker key system)
    (stepped : sharing.step system (.take other) = some after) :
    sharing.Progress first worker key after := by
  obtain ⟨input, rest, free, waiting, rfl⟩ := step_take stepped
  by_cases same : other = worker
  · subst same
    rcases progress with ⟨done, reached, outputs, doneAll, _⟩ |
      ⟨task, done, worked, reached, state, outputs, made, busy, _⟩
    · by_cases own : sharing.key input = key
      · refine .inr ⟨_, done, [], reached, reached, outputs, [], Function.update_self _ _ _, ?_⟩
        refine ⟨own, doneAll.ran, rfl, rfl, doneAll.states, ?_, ?_, fun _ => doneAll.sent⟩
        · have arrived := doneAll.arrived
          simp only [arrivedFor, waitingFor, waiting] at arrived
          simp [arrivedFor, waitingFor, arrived, own]
        · simpa [Shared.sentFor] using doneAll.sent
      · refine .inl ⟨done, reached, outputs, ⟨doneAll.ran, doneAll.states, ?_, doneAll.sent⟩, ?_⟩
        · have arrived := doneAll.arrived
          simp only [arrivedFor, waitingFor, waiting] at arrived
          simp [arrivedFor, waitingFor, arrived, own]
        · intro task taken
          rcases update_eq_some taken with ⟨_, put⟩ | ⟨apart, _⟩
          · cases put
            exact own
          · exact absurd rfl apart
    · exact absurd (free.symm.trans busy) (by simp)
  · refine progress.alike ⟨rfl, rfl, ?_, rfl⟩ (Function.update_of_ne (Ne.symm same) _ _)
    simp only [waitingFor, Function.update_of_ne (Ne.symm same)]

theorem Progress.work (progress : sharing.Progress first worker key system)
    (owned : sharing.Owned worker key system)
    (stepped : sharing.step system (.work other) = some after) :
    sharing.Progress first worker key after := by
  obtain ⟨input, piece, rest, messages, state, next, made, busy, known, worked, rfl⟩ :=
    step_work stepped
  by_cases own : sharing.key input = key
  · subst own
    obtain rfl := owned.task other _ busy rfl
    rcases progress with ⟨done, reached, outputs, _, apart⟩ |
      ⟨task, done, before, reached, started, outputs, parts, taken, doing⟩
    · exact absurd rfl (apart _ busy)
    · obtain rfl := Option.some.inj (busy.symm.trans taken)
      obtain rfl := Option.some.inj (doing.states.symm.trans known)
      refine .inr ⟨_, done, before ++ [piece], reached, next, outputs, parts ++ [made],
        Function.update_self _ _ _, ?_⟩
      refine ⟨rfl, doing.ran, ?_, runSteps_concat doing.worked worked,
        Function.update_self _ _ _, doing.arrived, ?_, ?_⟩
      · rw [doing.split, List.append_assoc]
        rfl
      · have sent := doing.sent
        simp only [Shared.sentFor] at sent
        simp [Shared.sentFor, ← sent, ← List.append_assoc]
      · exact fun _ => doing.unsent (List.cons_ne_nil _ _)
  · refine progress.apart ?_ busy own rfl ?_
    · exact ⟨Function.update_of_ne (Ne.symm own) _ _, rfl, rfl, rfl⟩
    · intro task put
      cases put
      exact own

theorem Progress.send (progress : sharing.Progress first worker key system)
    (owned : sharing.Owned worker key system)
    (stepped : sharing.step system (.send other) = some after) :
    sharing.Progress first worker key after := by
  obtain ⟨input, message, rest, busy, rfl⟩ := step_send stepped
  by_cases own : sharing.key input = key
  · subst own
    obtain rfl := owned.task other _ busy rfl
    rcases progress with ⟨done, reached, outputs, _, apart⟩ |
      ⟨task, done, worked, reached, state, outputs, made, taken, doing⟩
    · exact absurd rfl (apart _ busy)
    · obtain rfl := Option.some.inj (busy.symm.trans taken)
      refine .inr ⟨_, done, worked, reached, state, outputs, made, Function.update_self _ _ _, ?_⟩
      refine ⟨rfl, doing.ran, doing.split, doing.worked, doing.states, doing.arrived, ?_,
        fun left => absurd rfl left⟩
      have sent := doing.sent
      simp only [Shared.sentFor] at sent
      simp [Shared.sentFor, ← sent]
  · refine progress.apart ⟨rfl, rfl, rfl, sentFor_other own _⟩ busy own rfl ?_
    intro task put
    cases put
    exact own

theorem Progress.finish (progress : sharing.Progress first worker key system)
    (owned : sharing.Owned worker key system)
    (stepped : sharing.step system (.finish other) = some after) :
    sharing.Progress first worker key after := by
  obtain ⟨input, busy, rfl⟩ := step_finish stepped
  by_cases own : sharing.key input = key
  · subst own
    obtain rfl := owned.task other _ busy rfl
    rcases progress with ⟨done, reached, outputs, _, apart⟩ |
      ⟨task, done, worked, reached, state, outputs, made, taken, doing⟩
    · exact absurd rfl (apart _ busy)
    · obtain rfl := Option.some.inj (busy.symm.trans taken)
      have ended : sharing.whole reached input = .ok (state, made.flatten) := by
        have split := doing.split
        simp only [List.append_nil] at split
        rw [whole, split, doing.worked]
        rfl
      refine .inl ⟨done ++ [input], state, outputs ++ [made.flatten],
        ⟨runSteps_concat doing.ran ended, doing.states, ?_, ?_⟩, ?_⟩
      · rw [List.append_assoc]
        exact doing.arrived
      · have sent := doing.sent
        simp only [List.append_nil] at sent
        rw [List.flatten_append, List.flatten_singleton, ← sent]
        rfl
      · intro task put
        rcases update_eq_some put with ⟨_, gone⟩ | ⟨apart, _⟩
        · cases gone
        · exact absurd rfl apart
  · refine progress.apart ⟨rfl, rfl, rfl, rfl⟩ busy own rfl ?_
    intro task put
    cases put

/-! Runs -/

theorem InOrder.step (inOrder : sharing.InOrder first worker key system)
    (keeps : sharing.KeepsOwner) {action : SharedAction Worker Input}
    (stepped : sharing.step system action = some after) :
    sharing.InOrder first worker key after := by
  obtain ⟨owned, progress⟩ := inOrder
  refine ⟨owned.step keeps stepped, ?_⟩
  cases action with
  | arrive input => exact progress.arrive owned stepped
  | take other => exact progress.take owned stepped
  | work other => exact progress.work owned stepped
  | send other => exact progress.send owned stepped
  | finish other => exact progress.finish owned stepped

theorem sequential_of_takes {states : Key → Option State} (keeps : sharing.KeepsOwner)
    (known : states key = some first) (owner : sharing.owner first = some worker)
    {actions : List (SharedAction Worker Input)}
    (ran : Takes sharing.step (.start states) actions system) :
    sharing.Sequential first worker key system :=
  (ran.keeps (fun _ _ _ inOrder stepped => inOrder.step keeps stepped)
    (InOrder.start known owner)).sequential

end Sharing

end F2k.Lib
