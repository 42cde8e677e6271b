namespace F2k.Lib

/-! Programs that ask for memory, which can be refused at every call. -/

/-- A block has a number. A refused one has none, so that there is nothing to use in its place. -/
inductive Allocating (κ ε α : Type)
  | result (value : α)
  | stops (stop : ε)
  | asks (call : κ) (next : Bool → Allocating κ ε α)
  | allocates (call : κ) (next : Option Nat → Allocating κ ε α)
  | frees (block : Nat) (next : Allocating κ ε α)

/-- The calls with their answers, how many blocks there have been, and those that were freed. -/
structure Allocations (κ : Type) where
  calls : List (κ × Bool) := []
  allocated : Nat := 0
  freed : List Nat := []

namespace Allocations

variable {κ : Type}

def answered (memory : Allocations κ) (call : κ) (served : Bool) : Allocations κ :=
  { memory with calls := memory.calls ++ [(call, served)] }

def withBlock (memory : Allocations κ) : Allocations κ :=
  { memory with allocated := memory.allocated + 1 }

def without (memory : Allocations κ) (block : Nat) : Allocations κ :=
  { memory with freed := block :: memory.freed }

/-- No call of this kind has been refused. -/
def Serves (memory : Allocations κ) (kind : κ → Prop) : Prop :=
  ∀ call ∈ memory.calls, kind call.1 → call.2 = true

/-- Every block that there has been has one owner or was freed once, and not both. -/
def Tally (memory : Allocations κ) (owned : List Nat) : Prop :=
  ∀ block, owned.count block + memory.freed.count block = if block < memory.allocated then 1 else 0

section

variable {memory : Allocations κ} {owned other : List Nat} {kind narrower : κ → Prop}

theorem Serves.mono (serves : memory.Serves kind) (narrow : ∀ call, narrower call → kind call) :
    memory.Serves narrower :=
  fun call asked kind => serves call asked (narrow _ kind)

theorem serves_answered {call : κ} {served : Bool} :
    (memory.answered call served).Serves kind ↔
      memory.Serves kind ∧ (kind call → served = true) := by
  simp only [Serves, answered, List.mem_append, List.mem_singleton]
  constructor
  · intro serves
    exact ⟨fun asked before => serves asked (.inl before), fun kind => serves _ (.inr rfl) kind⟩
  · intro ⟨serves, last⟩ asked before
    rcases before with before | rfl
    · exact serves asked before
    · exact last

theorem serves_served {call : κ} : (memory.answered call true).Serves kind ↔ memory.Serves kind :=
  serves_answered.trans (and_iff_left fun _ => rfl)

theorem serves_refused {call : κ} :
    (memory.answered call false).Serves kind ↔ memory.Serves kind ∧ ¬kind call :=
  serves_answered.trans
    (and_congr_right fun _ => imp_congr_right fun _ => Bool.false_eq_true.to_iff)

theorem serves_withBlock : memory.withBlock.Serves kind ↔ memory.Serves kind :=
  Iff.rfl

theorem tally_start : ({} : Allocations κ).Tally [] :=
  fun _ => rfl

theorem Tally.perm (tally : memory.Tally owned) (same : owned.Perm other) :
    memory.Tally other := by
  intro block
  rw [← same.count_eq]
  exact tally block

theorem Tally.withBlock (tally : memory.Tally owned) (call : κ) :
    (memory.answered call true).withBlock.Tally (memory.allocated :: owned) := by
  intro block
  have before := tally block
  change (memory.allocated :: owned).count block + memory.freed.count block =
    if block < memory.allocated + 1 then 1 else 0
  simp only [List.count_cons, beq_iff_eq]
  rcases Nat.lt_trichotomy block memory.allocated with old | rfl | never
  · rw [if_pos old] at before
    rw [if_neg (Nat.ne_of_gt old), if_pos (Nat.lt_add_one_of_lt old)]
    omega
  · rw [if_neg (Nat.lt_irrefl _)] at before
    rw [if_pos rfl, if_pos (Nat.lt_add_one _)]
    omega
  · rw [if_neg (Nat.not_lt_of_gt never)] at before
    rw [if_neg (Nat.ne_of_lt never), if_neg (by omega)]
    omega

theorem Tally.without {block : Nat} (tally : memory.Tally (block :: owned)) :
    (memory.without block).Tally owned := by
  intro other
  have before := tally other
  rw [List.count_cons] at before
  rw [Allocations.without, List.count_cons, ← before]
  omega

/-- A block that is owned has no other owner, and nobody who would not know of it. -/
theorem Tally.lost {block : Nat} (tally : memory.Tally (block :: owned)) :
    ¬memory.Tally owned := by
  intro without
  have one := tally block
  have same := without block
  rw [List.count_cons_self] at one
  omega

end

end Allocations

namespace Allocating

variable {κ ε α β : Type}

def andThen : Allocating κ ε α → (α → Allocating κ ε β) → Allocating κ ε β
  | .result value, then_ => then_ value
  | .stops stop, _ => .stops stop
  | .asks call next, then_ => .asks call fun served => (next served).andThen then_
  | .allocates call next, then_ => .allocates call fun block => (next block).andThen then_
  | .frees block next, then_ => .frees block (next.andThen then_)

instance : Monad (Allocating κ ε) where
  pure := .result
  bind := andThen

def ask (call : κ) : Allocating κ ε Bool :=
  .asks call .result

def allocate (call : κ) : Allocating κ ε (Option Nat) :=
  .allocates call .result

def free (block : Nat) : Allocating κ ε Unit :=
  .frees block (.result ())

/-- The schedule says which calls are served, by how many calls there have been before. -/
def run (schedule : Nat → Bool) :
    Allocating κ ε α → Allocations κ → Except ε (α × Allocations κ)
  | .result value, memory => .ok (value, memory)
  | .stops stop, _ => .error stop
  | .asks call next, memory =>
      let served := schedule memory.calls.length
      (next served).run schedule (memory.answered call served)
  | .allocates call next, memory =>
      if schedule memory.calls.length then
        (next (some memory.allocated)).run schedule (memory.answered call true).withBlock
      else (next none).run schedule (memory.answered call false)
  | .frees block next, memory => next.run schedule (memory.without block)

def Ends (program : Allocating κ ε α) (schedule : Nat → Bool) (before : Allocations κ)
    (value : α) (after : Allocations κ) : Prop :=
  program.run schedule before = .ok (value, after)

section

variable {program : Allocating κ ε α} {next : α → Allocating κ ε β} {schedule : Nat → Bool}
variable {before after : Allocations κ} {value : α} {last : β}

theorem ends_pure {expected : α}
    (ends : (pure expected : Allocating κ ε α).Ends schedule before value after) :
    value = expected ∧ after = before := by
  cases ends
  exact ⟨rfl, rfl⟩

theorem Ends.asks {call : κ} {turn : Bool → Allocating κ ε α}
    (ends : (Allocating.asks call turn).Ends schedule before value after) :
    (turn (schedule before.calls.length)).Ends schedule
      (before.answered call (schedule before.calls.length)) value after :=
  ends

theorem Ends.allocates {call : κ} {turn : Option Nat → Allocating κ ε α}
    (ends : (Allocating.allocates call turn).Ends schedule before value after) :
    (schedule before.calls.length = true ∧
        (turn (some before.allocated)).Ends schedule (before.answered call true).withBlock value
          after) ∨
      schedule before.calls.length = false ∧
        (turn none).Ends schedule (before.answered call false) value after := by
  simp only [Ends, run] at ends
  split at ends
  · next served => exact .inl ⟨served, ends⟩
  · next refused => exact .inr ⟨Bool.eq_false_iff.mpr refused, ends⟩

theorem Ends.frees {block : Nat} {turn : Allocating κ ε α}
    (ends : (Allocating.frees block turn).Ends schedule before value after) :
    turn.Ends schedule (before.without block) value after :=
  ends

/-- The parts of a run. -/
theorem Ends.bind (ends : (program >>= next).Ends schedule before last after) :
    ∃ value middle, program.Ends schedule before value middle ∧
      (next value).Ends schedule middle last after := by
  change (program.andThen next).run schedule before = .ok (last, after) at ends
  induction program generalizing before with
  | result value => exact ⟨value, before, rfl, ends⟩
  | stops => cases ends
  | asks call turn ih => exact ih _ ends
  | allocates call turn ih =>
      simp only [andThen, run] at ends
      simp only [Ends, run]
      split at ends
      · next served =>
          simp only [if_pos served]
          exact ih _ ends
      · next refused =>
          simp only [if_neg refused]
          exact ih _ ends
  | frees block turn ih => exact ih ends

theorem ends_ask {call : κ} {served : Bool}
    (ends : (ask call : Allocating κ ε Bool).Ends schedule before served after) :
    schedule before.calls.length = served ∧ after = before.answered call served := by
  cases ends
  exact ⟨rfl, rfl⟩

theorem ends_allocate {call : κ} {block : Option Nat}
    (ends : (allocate call : Allocating κ ε (Option Nat)).Ends schedule before block after) :
    (schedule before.calls.length = true ∧ block = some before.allocated ∧
        after = (before.answered call true).withBlock) ∨
      schedule before.calls.length = false ∧ block = none ∧
        after = before.answered call false := by
  rcases Ends.allocates ends with ⟨served, ends⟩ | ⟨refused, ends⟩
  · cases ends
    exact .inl ⟨served, rfl, rfl⟩
  · cases ends
    exact .inr ⟨refused, rfl, rfl⟩

theorem ends_free {block : Nat} {done : Unit}
    (ends : (free block : Allocating κ ε Unit).Ends schedule before done after) :
    after = before.without block := by
  cases ends
  rfl

/-- Calls are not forgotten. -/
theorem Ends.calls (ends : program.Ends schedule before value after) :
    before.calls <+: after.calls := by
  induction program generalizing before with
  | result =>
      cases ends
      exact List.prefix_refl _
  | stops => cases ends
  | asks call turn ih => exact (List.prefix_append _ _).trans (ih _ ends.asks)
  | allocates call turn ih =>
      rcases ends.allocates with ⟨_, ends⟩ | ⟨_, ends⟩
      · exact (List.prefix_append _ _).trans (ih _ ends)
      · exact (List.prefix_append _ _).trans (ih _ ends)
  | frees block turn ih =>
      have rest := ih ends.frees
      exact rest

theorem Ends.serves {kind : κ → Prop} (ends : program.Ends schedule before value after)
    (serves : after.Serves kind) : before.Serves kind :=
  fun call asked => serves call (ends.calls.subset asked)

/-- Where no call is ever refused all of them are served. -/
theorem Ends.all_served (ends : program.Ends (fun _ => true) before value after)
    (serves : before.Serves fun _ => True) : after.Serves fun _ => True := by
  induction program generalizing before with
  | result =>
      cases ends
      exact serves
  | stops => cases ends
  | asks call turn ih => exact ih true ends.asks (Allocations.serves_served.mpr serves)
  | allocates call turn ih =>
      rcases ends.allocates with ⟨_, ends⟩ | ⟨refused, _⟩
      · exact ih _ ends (Allocations.serves_withBlock.mpr (Allocations.serves_served.mpr serves))
      · cases refused
  | frees block turn ih => exact ih ends.frees serves

/-- A run whose calls are all served is the one in which no call is ever refused. -/
theorem Ends.undisturbed (ends : program.Ends schedule before value after)
    (serves : after.Serves fun _ => True) : program.Ends (fun _ => true) before value after := by
  induction program generalizing before with
  | result => exact ends
  | stops => cases ends
  | asks call turn ih =>
      have rest := ends.asks
      have served := (Allocations.serves_answered.mp (rest.serves serves)).2 trivial
      rw [served] at rest
      exact ih true rest
  | allocates call turn ih =>
      rcases ends.allocates with ⟨_, ends⟩ | ⟨_, ends⟩
      · exact ih _ ends
      · exact absurd trivial (Allocations.serves_refused.mp (ends.serves serves)).2
  | frees block turn ih => exact ih ends.frees

end

end Allocating

end F2k.Lib
