import F2k.Lib.Runs

namespace F2k.Lib

/-! Two machines over the same states: one finds out from its inputs what the other is told. They
make the same runs as long as an account of the inputs, kept beside the run, fits the state. -/

section Accounts

variable {ε Account State Input Other Output : Type}

/-- Each input is one that may come after those before it. -/
def EachMay (may : Account → Input → Prop) (advance : Account → Input → Account) :
    Account → List Input → Prop
  | _, [] => True
  | account, input :: rest =>
      may account input ∧ EachMay may advance (advance account input) rest

variable {may : Account → Input → Prop} {advance : Account → Input → Account}
  {fits : Account → State → Prop} {related : Input → Other → Prop}
  {told : State → Input → Except ε (State × Output)}
  {finds : State → Other → Except ε (State × Output)}

/-- What one step keeps of the account, the run keeps, and both machines end alike. -/
theorem runSteps_eq_of_account
    (each : ∀ account state input other, fits account state → may account input →
      related input other →
      finds state other = told state input ∧
        ∀ next output, told state input = .ok (next, output) → fits (advance account input) next)
    {inputs : List Input} {others : List Other} (pairs : List.Forall₂ related inputs others)
    {account : Account} (allowed : EachMay may advance account inputs) {state : State}
    (start : fits account state) :
    runSteps finds state others = runSteps told state inputs ∧
      ∀ final outputs, runSteps told state inputs = .ok (final, outputs) →
        fits (inputs.foldl advance account) final := by
  induction pairs generalizing account state with
  | nil =>
      refine ⟨rfl, ?_⟩
      intro final outputs ran
      cases ran
      exact start
  | @cons input other inputs others pair _ ih =>
      obtain ⟨now, later⟩ := allowed
      obtain ⟨same, keeps⟩ := each account state input other start now pair
      rw [runSteps, runSteps, same]
      cases stepped : told state input with
      | error failure =>
          refine ⟨rfl, ?_⟩
          intro final outputs ran
          cases ran
      | ok result =>
          obtain ⟨next, output⟩ := result
          obtain ⟨sameRest, keepsRest⟩ := ih later (keeps next output stepped)
          simp only [ok_bind, sameRest, true_and]
          intro final outputs ran
          obtain ⟨reached, ranRest, ends⟩ := exists_of_bind_eq_ok ran
          cases ends
          exact keepsRest reached.1 reached.2 ranRest

end Accounts

end F2k.Lib
