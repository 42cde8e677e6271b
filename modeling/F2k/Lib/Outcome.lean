namespace F2k.Lib

/-! What a computation that may fail leaves: a value or a failure, each with its promise. -/

theorem ok_bind (value : α) (next : α → Except ε β) :
    ((Except.ok value : Except ε α) >>= next) = next value := rfl

theorem error_bind (failure : ε) (next : α → Except ε β) :
    ((Except.error failure : Except ε α) >>= next) = .error failure := rfl

theorem eq_error_of_map {run : Except ε α} {convert : α → β} {failure : ε}
    (failed : run.map convert = .error failure) : run = .error failure := by
  cases run with
  | error other => exact congrArg Except.error (Except.error.inj failed)
  | ok value => contradiction

theorem exists_of_bind_eq_ok {Error Value Result : Type} {first : Except Error Value}
    {next : Value → Except Error Result} {result : Result}
    (ran : first >>= next = .ok result) : ∃ value, first = .ok value ∧ next value = .ok result := by
  cases first with
  | error fault => cases ran
  | ok value => exact ⟨value, rfl, ran⟩

theorem exists_of_map_eq_ok {run : Except ε α} {convert : α → β} {result : β}
    (ended : run.map convert = .ok result) : ∃ value, run = .ok value ∧ convert value = result := by
  cases run with
  | error failure => contradiction
  | ok value => exact ⟨value, rfl, Except.ok.inj ended⟩

def Outcome (fails : ε → Prop) (post : α → Prop) : Except ε α → Prop
  | .ok value => post value
  | .error failure => fails failure

namespace Outcome

variable {fails : ε → Prop} {post : α → Prop}

@[simp] theorem ok_iff {value : α} : Outcome fails post (.ok value) ↔ post value := Iff.rfl

@[simp] theorem pure_iff {value : α} :
    Outcome fails post (pure value : Except ε α) ↔ post value := Iff.rfl

@[simp] theorem error_iff {failure : ε} :
    Outcome fails post (.error failure) ↔ fails failure := Iff.rfl

theorem bind {run : Except ε α} {next : α → Except ε β} {after : β → Prop}
    (first : Outcome fails post run)
    (second : ∀ value, run = .ok value → post value → Outcome fails after (next value)) :
    Outcome fails after (run >>= next) := by
  cases run with
  | error failure => exact first
  | ok value => exact second value rfl first

theorem mono {run : Except ε α} {weaker : α → Prop} (outcome : Outcome fails post run)
    (implies : ∀ value, post value → weaker value) : Outcome fails weaker run := by
  cases run with
  | error failure => exact outcome
  | ok value => exact implies value outcome

theorem mono_fails {run : Except ε α} {weaker : ε → Prop} (outcome : Outcome fails post run)
    (implies : ∀ failure, fails failure → weaker failure) : Outcome weaker post run := by
  cases run with
  | error failure => exact implies failure outcome
  | ok value => exact outcome

theorem map_iff {run : Except ε α} {convert : α → β} {after : β → Prop} :
    Outcome fails after (run.map convert) ↔
      Outcome fails (fun value => after (convert value)) run := by
  cases run with
  | error failure => exact Iff.rfl
  | ok value => exact Iff.rfl

theorem of_ok {run : Except ε α} {value : α} (outcome : Outcome fails post run)
    (ran : run = .ok value) : post value := by
  rwa [ran] at outcome

theorem of_error {run : Except ε α} {failure : ε} (outcome : Outcome fails post run)
    (failed : run = .error failure) : fails failure := by
  rwa [failed] at outcome

theorem and {run : Except ε α} {otherFails : ε → Prop} {otherPost : α → Prop}
    (outcome : Outcome fails post run) (other : Outcome otherFails otherPost run) :
    Outcome (fun failure => fails failure ∧ otherFails failure)
      (fun value => post value ∧ otherPost value) run := by
  cases run with
  | error failure => exact ⟨outcome, other⟩
  | ok value => exact ⟨outcome, other⟩

theorem exists_ok {run : Except ε α} (outcome : Outcome (fun _ => False) post run) :
    ∃ value, run = .ok value ∧ post value := by
  cases run with
  | error failure => exact outcome.elim
  | ok value => exact ⟨value, rfl, outcome⟩

end Outcome

/-- It is the condition that decides whether the computation ends well. -/
structure EndsWhen (run : Except ε α) (condition : Prop) (post : α → Prop) : Prop where
  ends : condition → ∃ value, run = .ok value ∧ post value
  fails : ¬ condition → ∃ failure, run = .error failure

namespace EndsWhen

variable {condition other : Prop} {post : α → Prop} {run : Except ε α}

theorem ok {value : α} (always : condition) (holds : post value) :
    EndsWhen (.ok value : Except ε α) condition post where
  ends := fun _ => ⟨value, rfl, holds⟩
  fails := fun never => absurd always never

theorem congr (ends : EndsWhen run condition post) (same : other ↔ condition) :
    EndsWhen run other post := by
  rwa [propext same]

theorem mono {weaker : α → Prop} (ends : EndsWhen run condition post)
    (implies : ∀ value, post value → weaker value) : EndsWhen run condition weaker where
  ends := by
    intro holds
    obtain ⟨value, ran, posted⟩ := ends.ends holds
    exact ⟨value, ran, implies value posted⟩
  fails := ends.fails

theorem bind {after : β → Prop} {next : α → Except ε β} (first : EndsWhen run condition post)
    (second : ∀ value, post value → EndsWhen (next value) other after) :
    EndsWhen (run >>= next) (condition ∧ other) after where
  ends := by
    rintro ⟨holds, goesOn⟩
    obtain ⟨value, rfl, posted⟩ := first.ends holds
    exact (second value posted).ends goesOn
  fails := by
    intro stops
    cases Classical.em condition with
    | inr never =>
        obtain ⟨failure, rfl⟩ := first.fails never
        exact ⟨failure, rfl⟩
    | inl holds =>
        obtain ⟨value, rfl, posted⟩ := first.ends holds
        exact (second value posted).fails fun goesOn => stops ⟨holds, goesOn⟩

theorem bind_always {after : β → Prop} {next : α → Except ε β}
    (first : EndsWhen run condition post)
    (second : ∀ value, post value → EndsWhen (next value) True after) :
    EndsWhen (run >>= next) condition after :=
  (first.bind second).congr (and_true condition).symm.to_iff

theorem always_bind {after : β → Prop} {next : α → Except ε β} (first : EndsWhen run True post)
    (second : ∀ value, post value → EndsWhen (next value) condition after) :
    EndsWhen (run >>= next) condition after :=
  (first.bind second).congr (true_and condition).symm.to_iff

theorem map {after : β → Prop} {convert : α → β} (ends : EndsWhen run condition post)
    (converts : ∀ value, post value → after (convert value)) :
    EndsWhen (run.map convert) condition after where
  ends := by
    intro holds
    obtain ⟨value, rfl, posted⟩ := ends.ends holds
    exact ⟨convert value, rfl, converts value posted⟩
  fails := by
    intro never
    obtain ⟨failure, rfl⟩ := ends.fails never
    exact ⟨failure, rfl⟩

theorem holds_of_ok {value : α} (ends : EndsWhen run condition post) (ran : run = .ok value) :
    condition ∧ post value := by
  cases Classical.em condition with
  | inl holds =>
      obtain ⟨_, again, posted⟩ := ends.ends holds
      cases ran.symm.trans again
      exact ⟨holds, posted⟩
  | inr never =>
      obtain ⟨failure, failed⟩ := ends.fails never
      rw [ran] at failed
      contradiction

end EndsWhen

/-! Two computations side by side: they leave related values, or the same failure. -/

inductive Together (related : α → β → Prop) : Except ε α → Except ε β → Prop
  | ok {left : α} {right : β} (values : related left right) :
      Together related (.ok left) (.ok right)
  | error (failure : ε) : Together related (.error failure) (.error failure)

namespace Together

variable {related : α → β → Prop} {left : Except ε α} {right : Except ε β}

theorem refl (run : Except ε α) : Together Eq run run := by
  cases run with
  | ok value => exact .ok rfl
  | error failure => exact .error failure

theorem bind {after : α' → β' → Prop} {next : α → Except ε α'} {other : β → Except ε β'}
    (first : Together related left right)
    (second : ∀ value companion, related value companion →
      Together after (next value) (other companion)) :
    Together after (left >>= next) (right >>= other) := by
  cases first with
  | ok values => exact second _ _ values
  | error failure => exact .error failure

theorem map {after : α' → β' → Prop} {convert : α → α'} {otherConvert : β → β'}
    (first : Together related left right)
    (second : ∀ value companion, related value companion →
      after (convert value) (otherConvert companion)) :
    Together after (left.map convert) (right.map otherConvert) := by
  cases first with
  | ok values => exact .ok (second _ _ values)
  | error failure => exact .error failure

theorem mono {weaker : α → β → Prop} (together : Together related left right)
    (implies : ∀ value companion, related value companion → weaker value companion) :
    Together weaker left right := by
  cases together with
  | ok values => exact .ok (implies _ _ values)
  | error failure => exact .error failure

theorem eq {left right : Except ε α} (together : Together Eq left right) : left = right := by
  cases together with
  | ok values => rw [values]
  | error failure => rfl

theorem exists_left {companion : β} (together : Together related left (.ok companion)) :
    ∃ value, left = .ok value ∧ related value companion := by
  cases together with
  | ok values => exact ⟨_, rfl, values⟩

@[simp] theorem ok_iff {value : α} {companion : β} :
    Together related (.ok value : Except ε α) (.ok companion) ↔ related value companion := by
  constructor
  · intro together
    cases together with
    | ok values => exact values
  · exact .ok

end Together

end F2k.Lib
