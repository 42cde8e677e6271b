import Mathlib.Data.List.Basic
import Mathlib.Logic.Function.Basic

namespace F2k.Lib

/-! Systems whose parties act in any order. A run lists the actions in the order in which they
happen; an action that is not possible in a state has no next state. -/

section Systems

variable {State Action : Type} (step : State → Action → Option State)

inductive Takes : State → List Action → State → Prop
  | refl (state : State) : Takes state [] state
  | next {state after final : State} {action : Action} {rest : List Action}
      (first : step state action = some after) (later : Takes after rest final) :
      Takes state (action :: rest) final

/-- Every action of a run meets a condition on the state before it. -/
def EveryStep (holds : State → Action → Prop) : State → List Action → Prop
  | _, [] => True
  | state, action :: rest =>
      holds state action ∧
        ∀ after, step state action = some after → EveryStep holds after rest

/-- Every state that a run passes has a property, the first and the last one too. -/
def EveryState (good : State → Prop) : State → List Action → Prop
  | state, [] => good state
  | state, action :: rest =>
      good state ∧ ∀ after, step state action = some after → EveryState good after rest

variable {step} {invariant : State → Prop} {holds : State → Action → Prop}

theorem Takes.keeps {state final : State} {actions : List Action}
    (ran : Takes step state actions final)
    (each : ∀ state action after, invariant state → step state action = some after →
      invariant after)
    (start : invariant state) : invariant final := by
  induction ran with
  | refl state => exact start
  | next first later ih => exact ih (each _ _ _ start first)

theorem Takes.of_foldlM {state final : State} {actions : List Action}
    (ran : actions.foldlM step state = some final) : Takes step state actions final := by
  induction actions generalizing state with
  | nil =>
      cases ran
      exact .refl _
  | cons action rest ih =>
      obtain ⟨after, first, later⟩ := Option.bind_eq_some_iff.mp ran
      exact .next first (ih later)

/-- A run of given actions can be computed. -/
theorem Takes.exists_of_any {state : State} {actions : List Action} {good : State → Bool}
    (ends : (actions.foldlM step state).any good = true) :
    ∃ final, Takes step state actions final ∧ good final = true := by
  obtain ⟨final, ran, reached⟩ := (Option.any_eq_true good _).mp ends
  exact ⟨final, .of_foldlM ran, reached⟩

/-- What every step that meets the condition keeps is true of every state of the run. -/
theorem EveryStep.everyState {state : State} {actions : List Action}
    (every : EveryStep step holds state actions)
    (each : ∀ state action after, invariant state → holds state action →
      step state action = some after → invariant after)
    (start : invariant state) : EveryState step invariant state actions := by
  induction actions generalizing state with
  | nil => exact start
  | cons action rest ih =>
      obtain ⟨now, later⟩ := every
      refine ⟨start, fun after first => ?_⟩
      exact ih (later after first) (each state action after start now first)

theorem EveryState.mono {good better : State → Prop} {state : State} {actions : List Action}
    (every : EveryState step better state actions)
    (implies : ∀ state, better state → good state) :
    EveryState step good state actions := by
  induction actions generalizing state with
  | nil => exact implies state every
  | cons action rest ih =>
      obtain ⟨now, later⟩ := every
      exact ⟨implies state now, fun after first => ih (later after first)⟩

theorem Takes.last {good : State → Prop} {state final : State} {actions : List Action}
    (ran : Takes step state actions final) (every : EveryState step good state actions) :
    good final := by
  induction ran with
  | refl state => exact every
  | next first later ih => exact ih (every.2 _ first)

/-- What every step that meets the condition keeps of the actions done so far and the state they
lead to holds at the end, of all of them. -/
theorem Takes.history {tracks : List Action → State → Prop} {state final : State}
    {done actions : List Action} (ran : Takes step state actions final)
    (every : EveryStep step holds state actions)
    (each : ∀ done state action after, tracks done state → holds state action →
      step state action = some after → tracks (done ++ [action]) after)
    (start : tracks done state) : tracks (done ++ actions) final := by
  induction ran generalizing done with
  | refl state =>
      rw [List.append_nil]
      exact start
  | @next state after final action rest first later ih =>
      obtain ⟨now, others⟩ := every
      have whole := ih (others after first) (each done state action after start now first)
      rwa [List.append_assoc] at whole

/-- A property that is never lost holds at the end exactly if it held at the start or some step
that fails the condition brought it about. -/
theorem Takes.caught_iff {caught : State → Prop} {state final : State} {actions : List Action}
    (ran : Takes step state actions final)
    (valid : ∀ state action after, invariant state → step state action = some after →
      invariant after)
    (stays : ∀ state action after, caught state → step state action = some after → caught after)
    (comes : ∀ state action after, invariant state → ¬caught state →
      step state action = some after → (caught after ↔ ¬holds state action))
    (start : invariant state) (free : ¬caught state) :
    ¬caught final ↔ EveryStep step holds state actions := by
  induction ran with
  | refl state => exact ⟨fun _ => trivial, fun _ => free⟩
  | @next state after final action rest first later ih =>
      have change := comes state action after start free first
      by_cases now : holds state action
      · have stillFree : ¬caught after := fun lost => (change.mp lost) now
        have whole := ih (valid state action after start first) stillFree
        refine ⟨fun freed => ⟨now, fun other same => ?_⟩, fun every => ?_⟩
        · obtain rfl := Option.some.inj (first.symm.trans same)
          exact whole.mp freed
        · exact whole.mpr (every.2 after first)
      · have lost := change.mpr now
        refine ⟨fun freed => ?_, fun every => absurd every.1 now⟩
        exact absurd (later.keeps stays lost) freed

end Systems

/-! Runs whose steps may fail, and in which every step is to end in a certain way. -/

section Promises

variable {State Event : Type} (step : State → Event → Except ε State)

/-- No step of a run fails, and every one ends as it should. -/
def EndsRight (right : State → Event → State → Prop) : State → List Event → Prop
  | _, [] => True
  | state, event :: rest =>
      ∃ after, step state event = .ok after ∧ right state event after ∧ EndsRight right after rest

/-- Every step that is taken meets a condition on the state before it. -/
def MeetsAll (holds : State → Event → Prop) : State → List Event → Prop
  | _, [] => True
  | state, event :: rest =>
      holds state event ∧ ∀ after, step state event = .ok after → MeetsAll holds after rest

variable {step} {right : State → Event → State → Prop} {holds : State → Event → Prop}

theorem EndsRight.exists_foldlM {state : State} {events : List Event}
    (ends : EndsRight step right state events) :
    ∃ final, events.foldlM step state = .ok final := by
  induction events generalizing state with
  | nil => exact ⟨state, rfl⟩
  | cons event rest ih =>
      obtain ⟨after, ran, _, later⟩ := ends
      obtain ⟨final, ranRest⟩ := ih later
      refine ⟨final, ?_⟩
      rw [List.foldlM_cons, ran]
      exact ranRest

/-- Where a step ends right exactly when it meets a condition, so does a run. -/
theorem endsRight_iff (invariant : State → Prop)
    (each : ∀ state event, invariant state →
      ((∃ after, step state event = .ok after ∧ right state event after) ↔ holds state event))
    (keeps : ∀ state event after, invariant state → holds state event →
      step state event = .ok after → invariant after)
    {state : State} (start : invariant state) (events : List Event) :
    EndsRight step right state events ↔ MeetsAll step holds state events := by
  induction events generalizing state with
  | nil => exact Iff.rfl
  | cons event rest ih =>
      constructor
      · rintro ⟨after, ran, ended, later⟩
        have now := (each state event start).mp ⟨after, ran, ended⟩
        refine ⟨now, ?_⟩
        intro other same
        obtain rfl := Except.ok.inj (ran.symm.trans same)
        exact (ih (keeps state event after start now ran)).mp later
      · rintro ⟨now, later⟩
        obtain ⟨after, ran, ended⟩ := (each state event start).mpr now
        refine ⟨after, ran, ended, ?_⟩
        exact (ih (keeps state event after start now ran)).mpr (later after ran)

end Promises

end F2k.Lib
