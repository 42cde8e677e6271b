import F2k.Lib.Heap
import Mathlib.Data.List.Nodup

namespace F2k.Lib

/-! Who has which blocks of memory: every live block is held once, by one owner. -/

section

variable {Owner Value : Type}

structure Owned (heap : Heap Value) (holds : Owner → List Nat) : Prop where
  once : ∀ owner, (holds owner).Nodup
  apart : ∀ {one other address}, address ∈ holds one → address ∈ holds other → one = other
  live : ∀ address, heap.cells address ≠ none ↔ ∃ owner, address ∈ holds owner

namespace Owned

variable {heap after : Heap Value} {holds : Owner → List Nat}

theorem empty : Owned (Heap.empty : Heap Value) fun _ : Owner => [] where
  once := fun _ => .nil
  apart := nofun
  live := fun _ =>
    ⟨fun known => absurd rfl known, fun ⟨_, member⟩ => absurd member List.not_mem_nil⟩

theorem exists_cell (owned : Owned heap holds) {owner : Owner} {address : Nat}
    (member : address ∈ holds owner) : ∃ value, heap.cells address = some value :=
  Option.ne_none_iff_exists'.mp ((owned.live address).mpr ⟨owner, member⟩)

/-- Whoever writes into a block goes on holding it. -/
theorem write (owned : Owned heap holds) {address : Nat} {old value : Value}
    (known : heap.cells address = some old)
    (cells : after.cells = Function.update heap.cells address (some value)) :
    Owned after holds where
  once := owned.once
  apart := owned.apart
  live := by
    intro other
    rw [cells, ← owned.live other]
    by_cases same : other = address
    · subst same
      simp [known]
    · rw [Function.update_of_ne same]

variable [DecidableEq Owner]

theorem alloc (owned : Owned heap holds) (owner : Owner) (value : Value) :
    Owned (heap.alloc value) (Function.update holds owner (heap.next :: holds owner)) := by
  have fresh : ∀ other, heap.next ∉ holds other := by
    intro other member
    obtain ⟨value, known⟩ := owned.exists_cell member
    exact Nat.lt_irrefl _ (Heap.lt_next known)
  have member_iff : ∀ other address,
      address ∈ Function.update holds owner (heap.next :: holds owner) other ↔
        other = owner ∧ address = heap.next ∨ address ∈ holds other := by
    intro other address
    by_cases same : other = owner
    · subst same
      simp
    · simp [same]
  constructor
  · intro other
    by_cases same : other = owner
    · subst same
      rw [Function.update_self]
      exact List.nodup_cons.mpr ⟨fresh _, owned.once _⟩
    · rw [Function.update_of_ne same]
      exact owned.once other
  · intro one other address inOne inOther
    rcases (member_iff one address).mp inOne with ⟨rfl, new⟩ | old
    · rcases (member_iff other address).mp inOther with ⟨rfl, _⟩ | oldOther
      · rfl
      · exact absurd (new ▸ oldOther) (fresh other)
    · rcases (member_iff other address).mp inOther with ⟨rfl, new⟩ | oldOther
      · exact absurd (new ▸ old) (fresh one)
      · exact owned.apart old oldOther
  · intro address
    by_cases new : address = heap.next
    · subst new
      rw [Heap.alloc_self]
      exact ⟨fun _ => ⟨owner, (member_iff _ _).mpr (.inl ⟨rfl, rfl⟩)⟩,
        fun _ => Option.some_ne_none _⟩
    · rw [Heap.alloc_other new, owned.live address]
      constructor
      · rintro ⟨other, member⟩
        exact ⟨other, (member_iff _ _).mpr (.inr member)⟩
      · rintro ⟨other, member⟩
        rcases (member_iff _ _).mp member with ⟨_, same⟩ | old
        · exact absurd same new
        · exact ⟨other, old⟩

theorem free (owned : Owned heap holds) {owner : Owner} {address : Nat} {rest : List Nat}
    (first : holds owner = address :: rest)
    (cells : after.cells = Function.update heap.cells address none) :
    Owned after (Function.update holds owner rest) := by
  have once := owned.once owner
  rw [first] at once
  obtain ⟨absent, restOnce⟩ := List.nodup_cons.mp once
  have member_iff : ∀ other found,
      found ∈ Function.update holds owner rest other ↔
        found ∈ holds other ∧ found ≠ address := by
    intro other found
    by_cases same : other = owner
    · subst same
      rw [Function.update_self, first, List.mem_cons]
      constructor
      · intro member
        exact ⟨.inr member, fun eq => absent (eq ▸ member)⟩
      · rintro ⟨rfl | member, other⟩
        · contradiction
        · exact member
    · rw [Function.update_of_ne same]
      constructor
      · intro member
        refine ⟨member, ?_⟩
        rintro rfl
        exact same (owned.apart member (first ▸ List.mem_cons_self))
      · exact And.left
  constructor
  · intro other
    by_cases same : other = owner
    · subst same
      rw [Function.update_self]
      exact restOnce
    · rw [Function.update_of_ne same]
      exact owned.once other
  · intro one other found inOne inOther
    exact owned.apart ((member_iff _ _).mp inOne).1 ((member_iff _ _).mp inOther).1
  · intro found
    rw [cells]
    by_cases same : found = address
    · subst same
      rw [Function.update_self]
      refine ⟨fun live => absurd rfl live, ?_⟩
      rintro ⟨other, member⟩
      exact absurd rfl ((member_iff _ _).mp member).2
    · rw [Function.update_of_ne same, owned.live found]
      constructor
      · rintro ⟨other, member⟩
        exact ⟨other, (member_iff _ _).mpr ⟨member, same⟩⟩
      · rintro ⟨other, member⟩
        exact ⟨other, ((member_iff _ _).mp member).1⟩

/-- A block is handed over, behind what the other holds already. -/
theorem hand (owned : Owned heap holds) {giver taker : Owner} (others : giver ≠ taker)
    {address : Nat} {rest : List Nat} (first : holds giver = address :: rest) :
    Owned heap
      (Function.update (Function.update holds giver rest) taker (holds taker ++ [address])) := by
  have once := owned.once giver
  rw [first] at once
  obtain ⟨absent, restOnce⟩ := List.nodup_cons.mp once
  have inGiver : address ∈ holds giver := first ▸ List.mem_cons_self
  have member_iff : ∀ other found,
      found ∈ Function.update (Function.update holds giver rest) taker
          (holds taker ++ [address]) other ↔
        if found = address then other = taker else found ∈ holds other := by
    intro other found
    by_cases toTaker : other = taker
    · subst toTaker
      rw [Function.update_self, List.mem_append, List.mem_singleton]
      split
      · next same => simp [same]
      · next apart => simp [apart]
    · rw [Function.update_of_ne toTaker]
      by_cases fromGiver : other = giver
      · subst fromGiver
        rw [Function.update_self, first, List.mem_cons]
        split
        · next same =>
            subst same
            simp [absent, toTaker]
        · next apart => simp [apart]
      · rw [Function.update_of_ne fromGiver]
        split
        · next same =>
            subst same
            simp only [toTaker, iff_false]
            intro member
            exact fromGiver (owned.apart member inGiver)
        · exact Iff.rfl
  constructor
  · intro other
    by_cases toTaker : other = taker
    · subst toTaker
      rw [Function.update_self]
      refine List.Nodup.append (owned.once other) (List.nodup_singleton address) ?_
      intro found inTaker inOne
      rw [List.mem_singleton.mp inOne] at inTaker
      exact others (owned.apart inGiver inTaker)
    · rw [Function.update_of_ne toTaker]
      by_cases fromGiver : other = giver
      · subst fromGiver
        rw [Function.update_self]
        exact restOnce
      · rw [Function.update_of_ne fromGiver]
        exact owned.once other
  · intro one other found inOne inOther
    have inOne := (member_iff _ _).mp inOne
    have inOther := (member_iff _ _).mp inOther
    by_cases same : found = address
    · rw [if_pos same] at inOne inOther
      rw [inOne, inOther]
    · rw [if_neg same] at inOne inOther
      exact owned.apart inOne inOther
  · intro found
    rw [owned.live found]
    by_cases same : found = address
    · subst same
      exact ⟨fun _ => ⟨taker, (member_iff _ _).mpr (by rw [if_pos rfl])⟩,
        fun _ => ⟨giver, inGiver⟩⟩
    · constructor
      · rintro ⟨other, member⟩
        exact ⟨other, (member_iff _ _).mpr (by rw [if_neg same]; exact member)⟩
      · rintro ⟨other, member⟩
        have member := (member_iff _ _).mp member
        rw [if_neg same] at member
        exact ⟨other, member⟩

end Owned

end

end F2k.Lib
