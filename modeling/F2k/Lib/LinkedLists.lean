import F2k.Lib.Heap
import F2k.Lib.Outcome
import Mathlib.Data.List.Perm.Subperm

namespace F2k.Lib

/-! Singly linked lists whose cells share a heap. Each list is found from a head of its own. -/

structure Cell (Value : Type) where
  value : Value
  next : Option Nat

inductive Misuse
  | notLive (address : Nat)
  | nullPointer
  | pastEnd
deriving DecidableEq, Repr

def orMisuse : Except NotLive α → Except Misuse α
  | .ok result => .ok result
  | .error failure => .error (.notLive failure.address)

/-- Where a pointer to a cell stands: in a head, or in the cell that its owner points to. -/
inductive Link (Head : Type)
  | head (list : Head)
  | next (owner : Option Nat)

structure LinkedLists (Head Value : Type) where
  heap : Heap (Cell Value)
  heads : Head → Option Nat

variable {Head Value : Type}

namespace LinkedLists

def empty : LinkedLists Head Value where
  heap := .empty
  heads := fun _ => none

def setHead [DecidableEq Head] (lists : LinkedLists Head Value) (list : Head)
    (pointer : Option Nat) : LinkedLists Head Value :=
  { lists with heads := Function.update lists.heads list pointer }

def single [DecidableEq Head] (list : Head) (value : Value) : LinkedLists Head Value where
  heap := Heap.empty.alloc { value, next := none }
  heads := Function.update (fun _ => none) list (some 0)

def readCell (lists : LinkedLists Head Value) : Option Nat → Except Misuse (Cell Value)
  | none => .error .nullPointer
  | some address => orMisuse (lists.heap.read address)

def freeCell (lists : LinkedLists Head Value) (address : Nat) :
    Except Misuse (LinkedLists Head Value) :=
  (orMisuse (lists.heap.free address)).map fun heap => { lists with heap }

def follow (lists : LinkedLists Head Value) : Link Head → Except Misuse (Option Nat)
  | .head list => .ok (lists.heads list)
  | .next owner => (lists.readCell owner).map Cell.next

def store [DecidableEq Head] (lists : LinkedLists Head Value) (link : Link Head)
    (pointer : Option Nat) : Except Misuse (LinkedLists Head Value) :=
  match link with
  | .head list => .ok (lists.setHead list pointer)
  | .next none => .error .nullPointer
  | .next (some owner) =>
      lists.readCell (some owner) >>= fun cell =>
        (orMisuse (lists.heap.write owner { cell with next := pointer })).map fun heap =>
          { lists with heap }

/-- Every turn frees a cell, so that none is live any more when the turns are used up. -/
def freeCells : Nat → Option Nat → LinkedLists Head Value → Except Misuse (LinkedLists Head Value)
  | _, none, lists => .ok lists
  | 0, some address, _ => .error (.notLive address)
  | turns + 1, some address, lists =>
      lists.readCell (some address) >>= fun cell =>
        lists.freeCell address >>= freeCells turns cell.next

/-- The cells in front of the last one are freed. -/
def freeCellsButLast : Nat → Option Nat → LinkedLists Head Value →
    Except Misuse (LinkedLists Head Value)
  | _, none, lists => .ok lists
  | 0, some address, _ => .error (.notLive address)
  | turns + 1, some address, lists =>
      lists.readCell (some address) >>= fun cell =>
        match cell.next with
        | none => .ok lists
        | some next => lists.freeCell address >>= freeCellsButLast turns (some next)

def freeList (lists : LinkedLists Head Value) (list : Head) :
    Except Misuse (LinkedLists Head Value) :=
  freeCells lists.heap.next (lists.heads list) lists

def freeListButLast (lists : LinkedLists Head Value) (list : Head) :
    Except Misuse (LinkedLists Head Value) :=
  freeCellsButLast lists.heap.next (lists.heads list) lists

end LinkedLists

/-! The cells on the way from one pointer to another -/

def Segment (cells : Nat → Option (Cell Value)) :
    Option Nat → List (Nat × Value) → Option Nat → Prop
  | start, [], stop => start = stop
  | start, node :: rest, stop =>
      start = some node.1 ∧
        ∃ next, cells node.1 = some { value := node.2, next } ∧ Segment cells next rest stop

def addresses (nodes : List (Nat × Value)) : List Nat := nodes.map Prod.fst

@[simp] theorem addresses_nil : addresses ([] : List (Nat × Value)) = [] := rfl

@[simp] theorem addresses_cons (node : Nat × Value) (nodes : List (Nat × Value)) :
    addresses (node :: nodes) = node.1 :: addresses nodes := rfl

@[simp] theorem addresses_append (nodes rest : List (Nat × Value)) :
    addresses (nodes ++ rest) = addresses nodes ++ addresses rest :=
  List.map_append

theorem ne_last {front : List (Nat × Value)} {node : Nat × Value} {address : Nat}
    (once : (addresses (front ++ [node])).Nodup) (member : address ∈ addresses front) :
    address ≠ node.1 := by
  rw [addresses_append] at once
  exact (List.nodup_append.mp once).2.2 address member node.1 List.mem_cons_self

namespace Segment

variable {cells other : Nat → Option (Cell Value)} {start stop : Option Nat}
  {nodes rest : List (Nat × Value)}

theorem append_iff :
    Segment cells start (nodes ++ rest) stop ↔
      ∃ middle, Segment cells start nodes middle ∧ Segment cells middle rest stop := by
  induction nodes generalizing start with
  | nil => simp [Segment]
  | cons node nodes ih =>
      simp only [List.cons_append, Segment, ih]
      constructor
      · rintro ⟨first, next, live, middle, front, back⟩
        exact ⟨middle, ⟨first, next, live, front⟩, back⟩
      · rintro ⟨middle, ⟨first, next, live, front⟩, back⟩
        exact ⟨first, next, live, middle, front, back⟩

theorem live (segment : Segment cells start nodes stop) {address : Nat}
    (member : address ∈ addresses nodes) : cells address ≠ none := by
  induction nodes generalizing start with
  | nil => contradiction
  | cons node nodes ih =>
      obtain ⟨_, next, live, back⟩ := segment
      cases List.mem_cons.mp member with
      | inl same => simp [same, live]
      | inr later => exact ih back later

theorem congr (segment : Segment cells start nodes stop)
    (same : ∀ address ∈ addresses nodes, other address = cells address) :
    Segment other start nodes stop := by
  induction nodes generalizing start with
  | nil => exact segment
  | cons node nodes ih =>
      obtain ⟨first, next, live, back⟩ := segment
      refine ⟨first, next, ?_, ih back ?_⟩
      · rw [same node.1 List.mem_cons_self, live]
      · intro address member
        exact same address (List.mem_cons_of_mem _ member)

theorem unique (segment : Segment cells start nodes none)
    (again : Segment cells start rest none) : nodes = rest := by
  induction nodes generalizing start rest with
  | nil =>
      cases rest with
      | nil => rfl
      | cons node rest => simp_all [Segment]
  | cons node nodes ih =>
      cases rest with
      | nil => simp_all [Segment]
      | cons twin rest =>
          obtain ⟨address, value⟩ := node
          obtain ⟨rfl, next, live, back⟩ := segment
          obtain ⟨first, other, lives, backs⟩ := again
          obtain ⟨_, _⟩ := twin
          cases first
          cases live.symm.trans lives
          rw [ih back backs]

end Segment

namespace LinkedLists

variable {lists after : LinkedLists Head Value} {address turns : Nat} {cell : Cell Value}
  {start : Option Nat} {nodes : List (Nat × Value)}

theorem readCell_live (live : lists.heap.cells address = some cell) :
    lists.readCell (some address) = .ok cell := by
  rw [readCell, Heap.read_live live]
  rfl

theorem freeCell_live (live : lists.heap.cells address = some cell) :
    ∃ after, lists.freeCell address = .ok after ∧ after.heads = lists.heads ∧
      after.heap.next = lists.heap.next ∧
      after.heap.cells = Function.update lists.heap.cells address none := by
  obtain ⟨heap, ran, next, cells⟩ := Heap.free_live live
  unfold freeCell
  rw [ran]
  exact ⟨_, rfl, rfl, next, cells⟩

theorem store_next_live [DecidableEq Head] (live : lists.heap.cells address = some cell) (pointer : Option Nat) :
    ∃ after, lists.store (.next (some address)) pointer = .ok after ∧ after.heads = lists.heads ∧
      after.heap.next = lists.heap.next ∧
      after.heap.cells =
        Function.update lists.heap.cells address (some { cell with next := pointer }) := by
  obtain ⟨heap, ran, next, cells⟩ := @Heap.write_live _ _ _ { cell with next := pointer } _ live
  rw [store, readCell_live live, ok_bind, ran]
  exact ⟨_, rfl, rfl, next, cells⟩

theorem addresses_length_le (segment : Segment lists.heap.cells start nodes none)
    (once : (addresses nodes).Nodup) : nodes.length ≤ lists.heap.next := by
  have within : addresses nodes ⊆ List.range lists.heap.next := by
    intro address member
    obtain ⟨cell, live⟩ := Option.ne_none_iff_exists'.mp (segment.live member)
    exact List.mem_range.mpr (Heap.lt_next live)
  simpa [addresses] using (List.subperm_of_subset once within).length_le

theorem freeCells_segment (segment : Segment lists.heap.cells start nodes none)
    (once : (addresses nodes).Nodup) (enough : nodes.length ≤ turns) :
    ∃ after, freeCells turns start lists = .ok after ∧ after.heads = lists.heads ∧
      after.heap.next = lists.heap.next ∧
      ∀ address, after.heap.cells address =
        if address ∈ addresses nodes then none else lists.heap.cells address := by
  induction nodes generalizing start lists turns with
  | nil =>
      cases segment
      exact ⟨lists, by cases turns <;> rfl, rfl, rfl, by simp⟩
  | cons node nodes ih =>
      obtain ⟨rfl, next, live, back⟩ := segment
      obtain ⟨absent, once⟩ := List.nodup_cons.mp once
      obtain ⟨freed, ran, heads, sameNext, cells⟩ := freeCell_live live
      have rest : Segment freed.heap.cells next nodes none := by
        apply back.congr
        intro address member
        rw [cells, Function.update_of_ne]
        rintro rfl
        exact absent member
      cases turns with
      | zero => simp at enough
      | succ turns =>
          obtain ⟨after, ranAll, allHeads, allNext, allCells⟩ :=
            ih rest once (Nat.le_of_succ_le_succ enough)
          refine ⟨after, ?_, allHeads.trans heads, allNext.trans sameNext, ?_⟩
          · rw [freeCells, readCell_live live, ok_bind, ran, ok_bind, ranAll]
          · intro address
            rw [allCells, cells]
            by_cases same : address = node.1 <;> simp [same]

theorem freeCellsButLast_segment (segment : Segment lists.heap.cells start nodes none)
    (once : (addresses nodes).Nodup) (enough : nodes.length ≤ turns) :
    ∃ after, freeCellsButLast turns start lists = .ok after ∧ after.heads = lists.heads ∧
      after.heap.next = lists.heap.next ∧
      ∀ address, after.heap.cells address =
        if address ∈ addresses nodes.dropLast then none else lists.heap.cells address := by
  induction nodes generalizing start lists turns with
  | nil =>
      cases segment
      exact ⟨lists, by cases turns <;> rfl, rfl, rfl, by simp⟩
  | cons node nodes ih =>
      obtain ⟨rfl, next, live, back⟩ := segment
      obtain ⟨absent, once⟩ := List.nodup_cons.mp once
      cases turns with
      | zero => simp at enough
      | succ turns =>
          cases nodes with
          | nil =>
              cases back
              refine ⟨lists, ?_, rfl, rfl, by simp⟩
              rw [freeCellsButLast, readCell_live live, ok_bind]
          | cons second nodes =>
              obtain ⟨freed, ran, heads, sameNext, cells⟩ := freeCell_live live
              have rest : Segment freed.heap.cells next (second :: nodes) none := by
                apply back.congr
                intro address member
                rw [cells, Function.update_of_ne]
                rintro rfl
                exact absent member
              obtain ⟨after, ranAll, allHeads, allNext, allCells⟩ :=
                ih rest once (Nat.le_of_succ_le_succ enough)
              obtain ⟨rfl, _⟩ := back
              refine ⟨after, ?_, allHeads.trans heads, allNext.trans sameNext, ?_⟩
              · rw [freeCellsButLast, readCell_live live, ok_bind]
                dsimp only
                rw [ran, ok_bind, ranAll]
              · intro address
                rw [allCells, cells]
                by_cases same : address = node.1 <;> simp [same]

end LinkedLists

end F2k.Lib
