import F2k.Lib.LinkedLists

namespace F2k.Lib

/-! Singly linked chains that are put one behind another. -/

variable {Value : Type}

namespace Heap

def readNext (heap : Heap (Cell Value)) (address : Nat) : Except Misuse (Option Nat) :=
  (orMisuse (heap.read address)).map Cell.next

def writeNext (heap : Heap (Cell Value)) (address : Nat) (next : Option Nat) :
    Except Misuse (Heap (Cell Value)) :=
  orMisuse (heap.read address) >>= fun cell =>
    orMisuse (heap.write address { cell with next })

/-- The last cell of a chain. A chain has no more cells than there are turns. -/
def lastCell (heap : Heap (Cell Value)) : Nat → Nat → Except Misuse Nat
  | 0, address => .error (.notLive address)
  | turns + 1, address =>
      heap.readNext address >>= fun next =>
        match next with
        | none => .ok address
        | some next => heap.lastCell turns next

/-- The second chain is put behind the first one. -/
def concat (heap : Heap (Cell Value)) (first second : Option Nat) :
    Except Misuse (Heap (Cell Value) × Option Nat) :=
  match second, first with
  | none, _ => .ok (heap, first)
  | some _, none => .ok (heap, second)
  | some _, some address =>
      heap.lastCell heap.next address >>= fun last =>
        (heap.writeNext last second).map fun heap => (heap, first)

def concatAll : Heap (Cell Value) → Option Nat → List (Option Nat) →
    Except Misuse (Heap (Cell Value) × Option Nat)
  | heap, first, [] => .ok (heap, first)
  | heap, first, second :: rest =>
      heap.concat first second >>= fun joined => joined.1.concatAll joined.2 rest

end Heap

section Chains

variable {heap : Heap (Cell Value)} {start : Option Nat} {address : Nat} {cell : Cell Value}
  {nodes more : List (Nat × Value)}

theorem Segment.length_le (segment : Segment heap.cells start nodes none)
    (once : (addresses nodes).Nodup) : nodes.length ≤ heap.next := by
  have within : addresses nodes ⊆ List.range heap.next := by
    intro address member
    obtain ⟨cell, live⟩ := Option.ne_none_iff_exists'.mp (segment.live member)
    exact List.mem_range.mpr (Heap.lt_next live)
  simpa [addresses] using (List.subperm_of_subset once within).length_le

theorem Heap.readNext_live (live : heap.cells address = some cell) :
    heap.readNext address = .ok cell.next := by
  rw [readNext, read_live live]
  rfl

theorem Heap.writeNext_live (live : heap.cells address = some cell) (next : Option Nat) :
    ∃ after, heap.writeNext address next = .ok after ∧ after.next = heap.next ∧
      after.cells = Function.update heap.cells address (some { cell with next }) := by
  obtain ⟨after, ran, same, cells⟩ := @Heap.write_live _ heap address { cell with next } _ live
  refine ⟨after, ?_, same, cells⟩
  rw [writeNext, read_live live]
  change orMisuse (heap.write address { cell with next }) = _
  rw [ran]
  rfl

theorem Heap.lastCell_segment {last : Nat × Value} {turns : Nat}
    (segment : Segment heap.cells start (nodes ++ [last]) none) (begins : start = some address)
    (enough : nodes.length < turns) : heap.lastCell turns address = .ok last.1 := by
  induction nodes generalizing start address turns with
  | nil =>
      obtain ⟨first, next, live, ends⟩ := segment
      obtain rfl := Option.some.inj (begins.symm.trans first)
      obtain rfl : next = none := ends
      cases turns with
      | zero => simp at enough
      | succ turns =>
          rw [lastCell, readNext_live live]
          rfl
  | cons node nodes ih =>
      obtain ⟨first, next, live, back⟩ := segment
      obtain rfl := Option.some.inj (begins.symm.trans first)
      cases turns with
      | zero => simp at enough
      | succ turns =>
          obtain ⟨second, follows⟩ : ∃ second, next = some second := by
            cases nodes with
            | nil => exact ⟨last.1, back.1⟩
            | cons node nodes => exact ⟨node.1, back.1⟩
          subst follows
          rw [lastCell, readNext_live live]
          exact ih back rfl (Nat.lt_of_succ_lt_succ enough)

/-- Only the last cell of the first chain is written to. -/
theorem Heap.concat_segment {first second : Option Nat}
    (front : Segment heap.cells first nodes none) (back : Segment heap.cells second more none)
    (once : (addresses (nodes ++ more)).Nodup) :
    ∃ after start, heap.concat first second = .ok (after, start) ∧
      Segment after.cells start (nodes ++ more) none ∧ after.next = heap.next ∧
      ∀ address, address ∉ addresses nodes → after.cells address = heap.cells address := by
  cases more with
  | nil =>
      obtain rfl : second = none := back
      refine ⟨heap, first, ?_, by simpa using front, rfl, fun _ _ => rfl⟩
      rw [concat]
  | cons head more =>
      obtain ⟨begins, rest⟩ := back
      subst begins
      rcases List.eq_nil_or_concat nodes with rfl | ⟨before, last, rfl⟩
      · obtain rfl : first = none := front
        exact ⟨heap, some head.1, rfl, ⟨rfl, rest⟩, rfl, fun _ _ => rfl⟩
      · rw [List.concat_eq_append] at front once ⊢
        have bound := front.length_le (List.Nodup.sublist
          (by simp [addresses]) once)
        obtain ⟨address, begins⟩ : ∃ address, first = some address := by
          cases before with
          | nil => exact ⟨last.1, front.1⟩
          | cons node before => exact ⟨node.1, front.1⟩
        have found := lastCell_segment front begins
          (Nat.lt_of_succ_le (by simpa using bound))
        obtain ⟨middle, toLast, ends⟩ := Segment.append_iff.mp front
        obtain ⟨atLast, next, live, _⟩ := ends
        obtain ⟨after, wrote, same, cells⟩ := writeNext_live live (some head.1)
        have apart : ∀ other ∈ addresses before ++ addresses (head :: more), other ≠ last.1 := by
          intro other member
          rintro rfl
          rw [addresses_append, addresses_append, List.append_assoc] at once
          have split := List.nodup_append.mp once
          rcases List.mem_append.mp member with inFront | inBack
          · exact split.2.2 _ inFront _ (List.mem_cons_self) rfl
          · exact (List.nodup_cons.mp split.2.1).1 inBack
        refine ⟨after, first, ?_, ?_, same, ?_⟩
        · subst begins
          rw [concat, found, ok_bind, wrote]
          rfl
        · rw [List.append_assoc]
          apply Segment.append_iff.mpr
          refine ⟨middle, toLast.congr ?_, atLast, some head.1, ?_, ?_⟩
          · intro other member
            rw [cells, Function.update_of_ne (apart other (List.mem_append_left _ member))]
          · rw [cells, Function.update_self]
          · have whole : Segment heap.cells (some head.1) (head :: more) none := ⟨rfl, rest⟩
            apply whole.congr
            intro other member
            rw [cells, Function.update_of_ne (apart other (List.mem_append_right _ member))]
        · intro other absent
          rw [cells, Function.update_of_ne]
          rintro rfl
          exact absent (by simp)

theorem forall₂_imp_mem {Left Right : Type} {related other : Left → Right → Prop}
    {lefts : List Left} {rights : List Right} (pairs : List.Forall₂ related lefts rights)
    (implies : ∀ left, ∀ right ∈ rights, related left right → other left right) :
    List.Forall₂ other lefts rights := by
  induction pairs with
  | nil => exact .nil
  | cons pair _ ih =>
      refine .cons (implies _ _ List.mem_cons_self pair) (ih ?_)
      exact fun left right member => implies left right (List.mem_cons_of_mem _ member)

/-- All chains become one, in their order, and no other cell is written to. -/
theorem Heap.concatAll_segment {first : Option Nat} {starts : List (Option Nat)}
    {chains : List (List (Nat × Value))} (front : Segment heap.cells first nodes none)
    (backs : List.Forall₂ (fun start nodes => Segment heap.cells start nodes none) starts chains)
    (once : (addresses (nodes ++ chains.flatten)).Nodup) :
    ∃ after start, heap.concatAll first starts = .ok (after, start) ∧
      Segment after.cells start (nodes ++ chains.flatten) none ∧ after.next = heap.next ∧
      ∀ address, address ∉ addresses (nodes ++ chains.flatten) →
        after.cells address = heap.cells address := by
  induction chains generalizing heap first nodes starts with
  | nil =>
      cases backs
      exact ⟨heap, first, rfl, by simpa using front, rfl, fun _ _ => rfl⟩
  | cons chain chains ih =>
      obtain ⟨start, others, back, rest, rfl⟩ := List.forall₂_cons_right_iff.mp backs
      rw [List.flatten_cons, ← List.append_assoc] at once ⊢
      have split := List.nodup_append.mp (addresses_append (nodes ++ chain) _ ▸ once)
      obtain ⟨joined, begins, ran, segment, same, frame⟩ := concat_segment front back split.1
      have kept : List.Forall₂ (fun start nodes => Segment joined.cells start nodes none)
          others chains := by
        apply forall₂_imp_mem rest
        intro start nodes member segment
        apply segment.congr
        intro address inside
        apply frame
        intro inFront
        refine split.2.2 address (by simp [inFront]) address ?_ rfl
        obtain ⟨node, isNode, rfl⟩ := List.mem_map.mp inside
        exact List.mem_map_of_mem (List.mem_flatten_of_mem member isNode)
      obtain ⟨after, ends, ranAll, whole, sameAll, frameAll⟩ := ih segment kept once
      refine ⟨after, ends, ?_, whole, sameAll.trans same, ?_⟩
      · rw [concatAll, ran]
        exact ranAll
      · intro address absent
        rw [frameAll address absent, frame]
        intro inside
        exact absent (by simp [inside])

end Chains

end F2k.Lib
