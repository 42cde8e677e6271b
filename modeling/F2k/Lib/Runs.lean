import F2k.Lib.Outcome
import Mathlib.Data.List.Forall2

namespace F2k.Lib

/-! Runs of a machine over a list of inputs: every step may fail, and hands out an output. -/

section Runs

variable {State Input Output : Type} (step : State → Input → Except ε (State × Output))

def runSteps : State → List Input → Except ε (State × List Output)
  | state, [] => .ok (state, [])
  | state, input :: rest => do
      let (next, output) ← step state input
      let (final, outputs) ← runSteps next rest
      pure (final, output :: outputs)

/-- Every step that the run takes meets a condition on the state it starts from. -/
def AlongRun (holds : State → Input → Prop) : State → List Input → Prop
  | _, [] => True
  | state, input :: rest =>
      holds state input ∧
        ∀ next output, step state input = .ok (next, output) → AlongRun holds next rest

variable {step} {holds : State → Input → Prop}

theorem AlongRun.mono {weaker : State → Input → Prop} {inputs : List Input} {state : State}
    (along : AlongRun step holds state inputs)
    (implies : ∀ state input, holds state input → weaker state input) :
    AlongRun step weaker state inputs := by
  induction inputs generalizing state with
  | nil => exact trivial
  | cons input rest ih =>
      obtain ⟨now, later⟩ := along
      exact ⟨implies state input now, fun next output stepped => ih (later next output stepped)⟩

theorem AlongRun.of_forall (all : ∀ state input, holds state input) (state : State)
    (inputs : List Input) : AlongRun step holds state inputs := by
  induction inputs generalizing state with
  | nil => exact trivial
  | cons input rest ih => exact ⟨all state input, fun next _ _ => ih next⟩

/-- What one step keeps and promises, a run keeps and promises. -/
theorem runSteps_outcome {fails : ε → Prop} (invariant : State → Prop) (good : Output → Prop)
    (each : ∀ state input, invariant state → holds state input →
      Outcome fails (fun result => invariant result.1 ∧ good result.2) (step state input))
    {inputs : List Input} {state : State} (start : invariant state)
    (along : AlongRun step holds state inputs) :
    Outcome fails (fun result => invariant result.1 ∧ ∀ output ∈ result.2, good output)
      (runSteps step state inputs) := by
  induction inputs generalizing state with
  | nil => exact ⟨start, by simp⟩
  | cons input rest ih =>
      obtain ⟨now, later⟩ := along
      refine (each state input start now).bind ?_
      rintro ⟨next, output⟩ stepped ⟨kept, promised⟩
      refine (ih kept (later next output stepped)).bind ?_
      rintro ⟨final, outputs⟩ _ ⟨finallyKept, rest⟩
      exact ⟨finallyKept, by simpa [promised] using rest⟩

/-- A run does not end in a failure exactly when none of the steps it takes does. -/
theorem runSteps_ne_error_iff {failure : ε}
    (each : ∀ state input, step state input ≠ .error failure ↔ holds state input)
    (state : State) (inputs : List Input) :
    runSteps step state inputs ≠ .error failure ↔ AlongRun step holds state inputs := by
  induction inputs generalizing state with
  | nil => simp [runSteps, AlongRun]
  | cons input rest ih =>
      rw [runSteps, AlongRun, ← each state input]
      cases step state input with
      | error other =>
          change Except.error other ≠ Except.error failure ↔ _
          simp
      | ok result =>
          obtain ⟨next, output⟩ := result
          have later : AlongRun step holds next rest ↔
              ∀ last printed, (Except.ok (next, output) : Except ε _) = .ok (last, printed) →
                AlongRun step holds last rest := by
            constructor
            · intro along last printed same
              cases same
              exact along
            · intro along
              exact along next output rfl
          rw [← later, ← ih next]
          change (runSteps step next rest >>= _) ≠ _ ↔ _
          cases runSteps step next rest with
          | error other => simp [Bind.bind, Except.bind]
          | ok final => simp [Bind.bind, Except.bind, pure, Except.pure]

theorem runSteps_map {Other : Type} (convert : Other → Input) (state : State)
    (inputs : List Other) :
    runSteps step state (inputs.map convert) =
      runSteps (fun state input => step state (convert input)) state inputs := by
  induction inputs generalizing state with
  | nil => rfl
  | cons input rest ih =>
      rw [List.map_cons, runSteps, runSteps]
      cases step state (convert input) with
      | error failure => rfl
      | ok result =>
          change (runSteps step result.1 _ >>= _) = (runSteps _ result.1 _ >>= _)
          rw [ih]

/-- Two machines that take the same steps on inputs that are related make the same runs. -/
theorem runSteps_congr {Other : Type} {otherStep : State → Other → Except ε (State × Output)}
    {related : Input → Other → Prop}
    (each : ∀ state input other, related input other → holds state input →
      step state input = otherStep state other)
    {inputs : List Input} {others : List Other} (pairs : List.Forall₂ related inputs others)
    {state : State} (along : AlongRun step holds state inputs) :
    runSteps step state inputs = runSteps otherStep state others := by
  induction pairs generalizing state with
  | nil => rfl
  | @cons input other _ _ pair _ ih =>
      obtain ⟨now, later⟩ := along
      rw [runSteps, runSteps, ← each state input other pair now]
      cases stepped : step state input with
      | error failure => rfl
      | ok result =>
          have rest := ih (later result.1 result.2 stepped)
          change (runSteps step result.1 _ >>= _) = (runSteps otherStep result.1 _ >>= _)
          rw [rest]

theorem runSteps_append (state : State) (inputs more : List Input) :
    runSteps step state (inputs ++ more) =
      runSteps step state inputs >>= fun reached =>
        (runSteps step reached.1 more).map fun result => (result.1, reached.2 ++ result.2) := by
  induction inputs generalizing state with
  | nil =>
      rw [List.nil_append]
      change _ = (runSteps step state more).map _
      cases runSteps step state more with
      | error failure => rfl
      | ok result => rfl
  | cons input rest ih =>
      rw [List.cons_append, runSteps, runSteps]
      cases step state input with
      | error failure => rfl
      | ok result =>
          change (runSteps step result.1 (rest ++ more) >>= _) =
            (runSteps step result.1 rest >>= _) >>= _
          rw [ih]
          cases runSteps step result.1 rest with
          | error failure => rfl
          | ok reached =>
              change ((runSteps step reached.1 more).map _ >>= _) =
                (runSteps step reached.1 more).map _
              cases runSteps step reached.1 more with
              | error failure => rfl
              | ok final => rfl

/-- Two machines whose states stay related, with the outputs of each step. -/
theorem runSteps_together {Companion OtherOutput : Type}
    {otherStep : Companion → Input → Except ε (Companion × OtherOutput)}
    {related : State → Companion → Prop} {outputs : Output → OtherOutput → Prop}
    (each : ∀ state companion input, related state companion →
      Together (fun left right => related left.1 right.1 ∧ outputs left.2 right.2)
        (step state input) (otherStep companion input))
    (inputs : List Input) {state : State} {companion : Companion}
    (start : related state companion) :
    Together (fun left right => related left.1 right.1 ∧ List.Forall₂ outputs left.2 right.2)
      (runSteps step state inputs) (runSteps otherStep companion inputs) := by
  induction inputs generalizing state companion with
  | nil => exact .ok ⟨start, .nil⟩
  | cons input rest ih =>
      rw [runSteps, runSteps]
      refine (each state companion input start).bind ?_
      intro left right afterOne
      refine (ih afterOne.1).bind ?_
      intro final otherFinal afterAll
      exact .ok ⟨afterAll.1, .cons afterOne.2 afterAll.2⟩

end Runs

end F2k.Lib
