import Mathlib.Data.List.Basic

namespace F2k.Lib

/-! What a sequence of calls has written last. -/

section

variable {State Call Value : Type}

def lastWritten (writes : Call → Option Value) (calls : List Call) : Option Value :=
  (calls.filterMap writes).getLast?

theorem lastWritten_cons (writes : Call → Option Value) (call : Call) (calls : List Call) :
    lastWritten writes (call :: calls) = (lastWritten writes calls).or (writes call) := by
  unfold lastWritten
  rw [List.filterMap_cons]
  cases writes call with
  | none => exact (Option.or_none).symm
  | some value =>
      rw [List.getLast?_cons]
      cases (calls.filterMap writes).getLast? <;> rfl

theorem lastWritten_append (writes : Call → Option Value) (calls others : List Call) :
    lastWritten writes (calls ++ others) =
      (lastWritten writes others).or (lastWritten writes calls) := by
  unfold lastWritten
  rw [List.filterMap_append, List.getLast?_append]

/-- A part of the state that every call leaves alone or writes is what was written last. -/
theorem foldl_reads {step : State → Call → State} {read : State → Value}
    {writes : Call → Option Value}
    (own : ∀ state call, read (step state call) = (writes call).getD (read state))
    (start : State) (calls : List Call) :
    read (calls.foldl step start) = (lastWritten writes calls).getD (read start) := by
  induction calls generalizing start with
  | nil => rfl
  | cons call calls ih =>
      rw [List.foldl_cons, ih, own, lastWritten_cons]
      cases lastWritten writes calls <;> rfl

theorem exists_of_lastWritten {writes : Call → Option Value} {calls : List Call} {value : Value}
    (last : lastWritten writes calls = some value) : ∃ call ∈ calls, writes call = some value :=
  List.mem_filterMap.mp (List.mem_of_getLast? last)

theorem lastWritten_eq_none_iff {writes : Call → Option Value} {calls : List Call} :
    lastWritten writes calls = none ↔ ∀ call ∈ calls, writes call = none := by
  unfold lastWritten
  rw [List.getLast?_eq_none_iff, List.filterMap_eq_nil_iff]

theorem lastWritten_filterMap {Other : Type} (select : Call → Option Other)
    (writes : Other → Option Value) (calls : List Call) :
    lastWritten writes (calls.filterMap select) =
      lastWritten (fun call => (select call).bind writes) calls := by
  unfold lastWritten
  rw [List.filterMap_filterMap]

theorem lastWritten_bind {Result : Type} {writes : Call → Option Value}
    {read : Value → Option Result}
    (readable : ∀ call value, writes call = some value → (read value).isSome)
    (calls : List Call) :
    (lastWritten writes calls).bind read =
      lastWritten (fun call => (writes call).bind read) calls := by
  induction calls with
  | nil => rfl
  | cons call calls ih =>
      rw [lastWritten_cons, lastWritten_cons, ← ih]
      cases last : lastWritten writes calls with
      | none => rfl
      | some value =>
          obtain ⟨other, _, written⟩ := exists_of_lastWritten last
          obtain ⟨result, known⟩ := Option.isSome_iff_exists.mp (readable other value written)
          rw [Option.some_or, Option.bind_some, known]
          rfl

/-- A flag that is only ever set is set if it was set once. -/
theorem lastWritten_flag {writes : Call → Option Bool}
    (sets : ∀ call, writes call ≠ some false) (calls : List Call) :
    (lastWritten writes calls).getD false = true ↔ ∃ call ∈ calls, writes call = some true := by
  constructor
  · intro isSet
    cases last : lastWritten writes calls with
    | none =>
        rw [last] at isSet
        cases isSet
    | some value =>
        rw [last] at isSet
        obtain rfl : value = true := isSet
        exact exists_of_lastWritten last
  · intro called
    obtain ⟨call, member, isSet⟩ := called
    cases last : lastWritten writes calls with
    | none => cases isSet.symm.trans (lastWritten_eq_none_iff.mp last call member)
    | some value =>
        obtain ⟨other, _, value_eq⟩ := exists_of_lastWritten last
        cases value with
        | true => rfl
        | false => exact absurd value_eq (sets other)

end

end F2k.Lib
