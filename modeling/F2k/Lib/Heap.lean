import Mathlib.Logic.Function.Basic

namespace F2k.Lib

/-! Blocks of memory by their addresses. A block is live from its allocation until it is freed, and
an address is not given away twice. -/

/-- A block was used or freed while it was not live. -/
structure NotLive where
  address : Nat
deriving DecidableEq, Repr

structure Heap (Value : Type) where
  next : Nat
  cells : Nat → Option Value
  beyond : ∀ address, next ≤ address → cells address = none

namespace Heap

variable {Value : Type} {heap other : Heap Value} {address : Nat} {value : Value}

def empty : Heap Value where
  next := 0
  cells := fun _ => none
  beyond := fun _ _ => rfl

/-- The new block is at the address that was next. -/
def alloc (heap : Heap Value) (value : Value) : Heap Value where
  next := heap.next + 1
  cells := Function.update heap.cells heap.next (some value)
  beyond := by
    intro address le
    rw [Function.update_of_ne (Nat.ne_of_gt le)]
    exact heap.beyond address (Nat.le_of_succ_le le)

def read (heap : Heap Value) (address : Nat) : Except NotLive Value :=
  match heap.cells address with
  | some value => .ok value
  | none => .error { address }

/-- The heap with something else at an address that is live. -/
def set (heap : Heap Value) (address : Nat) (contents : Option Value)
    (live : heap.cells address ≠ none) : Heap Value where
  next := heap.next
  cells := Function.update heap.cells address contents
  beyond := by
    intro other le
    have apart : other ≠ address := by
      rintro rfl
      exact live (heap.beyond other le)
    rw [Function.update_of_ne apart]
    exact heap.beyond other le

def write (heap : Heap Value) (address : Nat) (value : Value) : Except NotLive (Heap Value) :=
  if live : heap.cells address ≠ none then .ok (heap.set address (some value) live)
  else .error { address }

def free (heap : Heap Value) (address : Nat) : Except NotLive (Heap Value) :=
  if live : heap.cells address ≠ none then .ok (heap.set address none live)
  else .error { address }

def freeAll : Heap Value → List Nat → Except NotLive (Heap Value)
  | heap, [] => .ok heap
  | heap, address :: rest => heap.free address >>= fun heap => heap.freeAll rest

theorem lt_next (live : heap.cells address = some value) : address < heap.next := by
  apply Nat.lt_of_not_le
  intro le
  rw [heap.beyond address le] at live
  contradiction

@[simp] theorem alloc_next : (heap.alloc value).next = heap.next + 1 := rfl

@[simp] theorem alloc_self : (heap.alloc value).cells heap.next = some value :=
  Function.update_self _ _ _

theorem alloc_other (apart : address ≠ heap.next) :
    (heap.alloc value).cells address = heap.cells address :=
  Function.update_of_ne apart _ _

theorem read_live (live : heap.cells address = some value) : heap.read address = .ok value := by
  unfold read
  rw [live]

theorem read_dead (dead : heap.cells address = none) :
    heap.read address = .error { address } := by
  unfold read
  rw [dead]

theorem write_live {old : Value} (live : heap.cells address = some old) :
    ∃ after, heap.write address value = .ok after ∧ after.next = heap.next ∧
      after.cells = Function.update heap.cells address (some value) := by
  have known : heap.cells address ≠ none := by
    rw [live]
    exact Option.some_ne_none old
  exact ⟨_, dif_pos known, rfl, rfl⟩

theorem free_live {old : Value} (live : heap.cells address = some old) :
    ∃ after, heap.free address = .ok after ∧ after.next = heap.next ∧
      after.cells = Function.update heap.cells address none := by
  have known : heap.cells address ≠ none := by
    rw [live]
    exact Option.some_ne_none old
  exact ⟨_, dif_pos known, rfl, rfl⟩

theorem free_dead (dead : heap.cells address = none) :
    heap.free address = .error { address } := by
  unfold free
  rw [dif_neg (not_not.mpr dead)]

/-- What is freed leaves nothing and is freed once exactly when it is what is live, listed
once. -/
theorem freeAll_empties_iff {addresses : List Nat} :
    (∃ after, heap.freeAll addresses = .ok after ∧ ∀ address, after.cells address = none) ↔
      addresses.Nodup ∧ ∀ address, heap.cells address ≠ none ↔ address ∈ addresses := by
  induction addresses generalizing heap with
  | nil =>
      constructor
      · rintro ⟨after, ran, empty⟩
        cases ran
        simp [empty]
      · rintro ⟨_, live⟩
        exact ⟨heap, rfl, by simpa using live⟩
  | cons first rest ih =>
      cases known : heap.cells first with
      | none =>
          constructor
          · rintro ⟨after, ran, _⟩
            rw [freeAll, free_dead known] at ran
            cases ran
          · rintro ⟨_, live⟩
            exact absurd known ((live first).mpr List.mem_cons_self)
      | some value =>
          obtain ⟨freed, ran, _, cells⟩ := free_live known
          have goesOn : heap.freeAll (first :: rest) = freed.freeAll rest := by
            rw [freeAll, ran]
            rfl
          rw [goesOn, ih, cells, List.nodup_cons]
          constructor
          · rintro ⟨once, live⟩
            refine ⟨⟨?_, once⟩, ?_⟩
            · rw [← live first, Function.update_self]
              simp
            · intro address
              by_cases same : address = first
              · simp [same, known]
              · rw [List.mem_cons, ← live address, Function.update_of_ne same]
                simp [same]
          · rintro ⟨⟨absent, once⟩, live⟩
            refine ⟨once, ?_⟩
            intro address
            by_cases same : address = first
            · subst same
              rw [Function.update_self]
              simp [absent]
            · rw [Function.update_of_ne same, live address, List.mem_cons]
              simp [same]

end Heap

end F2k.Lib
