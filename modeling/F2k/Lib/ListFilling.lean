import F2k.Lib.ListViews

namespace F2k.Lib

/-! Lists that are filled through a pointer to the pointer that is to be written next. -/

variable {Head Value : Type}

/-- Lists that are being filled, with the pointer to the pointer that is to be written next. -/
structure Loading (Head Value : Type) where
  lists : LinkedLists Head Value
  iter : Link Head

namespace Loading

variable [DecidableEq Head]

/-- `*iter` points to a new cell. -/
def append (loading : Loading Head Value) (value : Value) : Except Misuse (Loading Head Value) :=
  let heap := loading.lists.heap.alloc { value, next := none }
  ({ loading.lists with heap }.store loading.iter (some loading.lists.heap.next)).map fun lists =>
    { loading with lists }

/-- `iter = &(*iter)->next` -/
def advance (loading : Loading Head Value) : Except Misuse (Loading Head Value) :=
  (loading.lists.follow loading.iter).map fun pointer => { loading with iter := .next pointer }

/-- `free(*iter)`, and `*iter` is null. -/
def drop (loading : Loading Head Value) : Except Misuse (Loading Head Value) :=
  loading.lists.follow loading.iter >>= fun pointer =>
    (match pointer with
      | none => .ok loading.lists
      | some address => loading.lists.freeCell address) >>= fun lists =>
        (lists.store loading.iter none).map fun lists => { loading with lists }

end Loading

/-! What filling a list leaves -/

namespace Loading

open LinkedLists

variable [DecidableEq Head] {loading : Loading Head Value} {view : View Head Value} {list : Head}
  {nodes : List (Nat × Value)} {node : Nat × Value}

omit [DecidableEq Head] in
theorem advance_eq {pointer : Option Nat}
    (followed : loading.lists.follow loading.iter = .ok pointer) :
    loading.advance = .ok { loading with iter := .next pointer } := by
  unfold advance
  rw [followed]
  rfl

/-- The new cell is linked from where the list ended. -/
theorem append_shows (shows : loading.lists.Shows view)
    (atEnd : loading.iter = (view.found list).endLink list) (value : Value) :
    ∃ after, loading.append value = .ok after ∧ after.iter = loading.iter ∧
      after.lists.follow after.iter = .ok (some loading.lists.heap.next) ∧
      after.lists.Shows
        { view with
          found := Function.update view.found list
            ((view.found list).add (loading.lists.heap.next, value)) } := by
  obtain ⟨lists, iter⟩ := loading
  dsimp only at shows atEnd ⊢
  rcases (view.found list).endLink_cases list with
    ⟨_, isHead, added⟩ | ⟨front, last, known, isNext⟩
  · rw [isHead] at atEnd
    subst atEnd
    refine ⟨_, rfl, rfl, ?_, shows.added ?_ rfl ?_ ?_⟩
    · exact congrArg Except.ok (Function.update_self _ _ _)
    · intro other apart
      exact Function.update_of_ne apart _ _
    · intro address below _
      exact Heap.alloc_other (Nat.ne_of_lt below)
    · rw [added]
      exact ⟨Function.update_self _ _ _, none, Heap.alloc_self, rfl⟩
  · rw [isNext] at atEnd
    subst atEnd
    obtain ⟨middle, path, rfl, next, live, rfl⟩ := Segment.append_iff.mp (shows.segment known)
    have lastBelow := Heap.lt_next live
    have stays : (lists.heap.alloc { value, next := none }).cells last.1 =
        some { value := last.2, next := none } :=
      (Heap.alloc_other (Nat.ne_of_lt lastBelow)).trans live
    obtain ⟨after, ran, heads, sameNext, cells⟩ :=
      @store_next_live _ _ { lists with heap := lists.heap.alloc { value, next := none } }
        _ _ _ stays (some lists.heap.next)
    have linked : after.heap.cells last.1 =
        some { value := last.2, next := some lists.heap.next } := by
      rw [cells, Function.update_self]
    refine ⟨{ lists := after, iter := .next (some last.1) }, ?_, rfl, ?_,
      shows.added ?_ sameNext ?_ ?_⟩
    · unfold append
      dsimp only
      rw [ran]
      rfl
    · rw [follow, readCell_live linked]
      rfl
    · intro other _
      rw [heads]
    · intro address below absent
      rw [cells, Function.update_of_ne, Heap.alloc_other (Nat.ne_of_lt below)]
      rintro rfl
      simp [known, Found.addresses] at absent
    · rw [known]
      refine Segment.append_iff.mpr ⟨some lists.heap.next, ?_, rfl, none, ?_, rfl⟩
      · refine Segment.append_iff.mpr ⟨some last.1, ?_, rfl, _, linked, rfl⟩
        rw [heads]
        apply path.congr
        intro address member
        have listed : address ∈ (view.found list).addresses := by
          simp [known, Found.addresses, member]
        rw [cells, Function.update_of_ne (ne_last (shows.nodup known) member),
          Heap.alloc_other (Nat.ne_of_lt (shows.lt_next listed))]
      · rw [cells, Function.update_of_ne (Nat.ne_of_gt lastBelow)]
        exact Heap.alloc_self

theorem drop_segment (segment : Segment loading.lists.heap.cells (loading.lists.heads list)
      (nodes ++ [node]) none) (once : (addresses (nodes ++ [node])).Nodup)
    (atEnd : loading.iter = (Found.cells nodes).endLink list) :
    ∃ after, loading.drop = .ok { loading with lists := after } ∧
      (∀ other, other ≠ list → after.heads other = loading.lists.heads other) ∧
      after.heap.next = loading.lists.heap.next ∧
      (∀ address, address ∉ addresses (nodes ++ [node]) →
        after.heap.cells address = loading.lists.heap.cells address) ∧
      Segment after.heap.cells (after.heads list) nodes none := by
  obtain ⟨lists, iter⟩ := loading
  dsimp only at segment atEnd ⊢
  obtain ⟨middle, path, rfl, next, live, rfl⟩ := Segment.append_iff.mp segment
  obtain ⟨freed, ranFree, heads, sameNext, cells⟩ := freeCell_live live
  rcases List.eq_nil_or_concat' nodes with rfl | ⟨front, last, rfl⟩
  · have isHead : iter = .head list := atEnd
    subst isHead
    refine ⟨freed.setHead list none, ?_, ?_, sameNext, ?_, Function.update_self _ _ _⟩
    · have first : lists.heads list = some node.1 := path
      unfold drop
      simp only [follow, first, ok_bind, ranFree]
      rfl
    · intro other apart
      exact (Function.update_of_ne apart _ _).trans (congrFun heads other)
    · intro address absent
      refine (congrFun cells address).trans (Function.update_of_ne ?_ _ _)
      rintro rfl
      simp at absent
  · have isNext : iter = .next (some last.1) := by simp [atEnd, Found.endLink]
    subst isNext
    obtain ⟨_, pathLast, rfl, _, liveLast, rfl⟩ := Segment.append_iff.mp path
    have apart : last.1 ≠ node.1 := ne_last once (by simp)
    have stays : freed.heap.cells last.1 =
        some { value := last.2, next := some node.1 } := by
      rw [cells, Function.update_of_ne apart, liveLast]
    obtain ⟨after, ran, headsAfter, nextAfter, cellsAfter⟩ := store_next_live stays none
    refine ⟨after, ?_, ?_, nextAfter.trans sameNext, ?_, ?_⟩
    · unfold drop
      simp only [follow, readCell_live liveLast]
      rw [Except.map, ok_bind]
      dsimp only
      rw [ranFree, ok_bind, ran]
      rfl
    · intro other _
      rw [headsAfter, heads]
    · intro address absent
      rw [addresses_append, addresses_append] at absent
      rw [cellsAfter, Function.update_of_ne, cells, Function.update_of_ne]
      · rintro rfl
        simp at absent
      · rintro rfl
        simp at absent
    · rw [headsAfter, heads]
      refine Segment.append_iff.mpr ⟨some last.1, ?_, rfl, none, ?_, rfl⟩
      · apply pathLast.congr
        intro address member
        have notNode := @ne_last _ _ _ address once (by simp [member])
        rw [addresses_append] at once
        have notLast := ne_last (List.nodup_append.mp once).1 member
        rw [cellsAfter, Function.update_of_ne notLast, cells, Function.update_of_ne notNode]
      · rw [cellsAfter, Function.update_self]

/-- The last cell is freed, and the list ends where it ended before the cell was appended. -/
theorem drop_shows (shows : loading.lists.Shows view)
    (known : view.found list = .cells (nodes ++ [node]))
    (atEnd : loading.iter = (Found.cells nodes).endLink list) :
    ∃ after, loading.drop = .ok after ∧ after.iter = loading.iter ∧
      after.lists.Shows
        { view with found := Function.update view.found list (.cells nodes) } := by
  have own : (view.found list).addresses = addresses (nodes ++ [node]) := by rw [known]; rfl
  have once := shows.nodup known
  obtain ⟨after, ran, heads, next, cells, segment⟩ :=
    drop_segment (shows.segment known) once atEnd
  refine ⟨_, ran, rfl, shows.replace heads (Nat.le_of_eq next.symm) ?_ segment ?_ ?_ ?_ ?_⟩
  · intro address _ absent
    exact cells address (own ▸ absent)
  · rw [addresses_append] at once
    exact (List.nodup_append.mp once).1
  · intro address member
    left
    rw [own, addresses_append]
    exact List.mem_append_left _ member
  · intro address member
    refine ⟨?_, .inl member⟩
    intro listed
    apply (shows.lost address member).2 list
    rw [own, addresses_append]
    exact List.mem_append_left _ listed
  · intro address member
    exact .inl member

/-- The lists are as shown, and the pointer is at the end of the one that is filled. -/
structure Fills (loading : Loading Head Value) (view : View Head Value) (list : Head) : Prop where
  shows : loading.lists.Shows view
  atEnd : loading.iter = (view.found list).endLink list

namespace Fills

theorem append (fills : loading.Fills view list) (value : Value) :
    ∃ after address, loading.append value >>= advance = .ok after ∧
      after.Fills (view.extend list [(address, value)]) list := by
  obtain ⟨after, ran, _, followed, shows⟩ := append_shows fills.shows fills.atEnd value
  refine ⟨{ after with iter := .next (some loading.lists.heap.next) }, _, ?_, shows, ?_⟩
  · rw [ran, ok_bind, advance_eq followed]
  · rw [View.extend_found_self, List.foldl_cons, List.foldl_nil, Found.endLink_add]

theorem append_drop (fills : loading.Fills view list) (sound : view.found list ≠ .dangling)
    (value : Value) :
    ∃ after, loading.append value >>= drop = .ok after ∧ after.Fills view list := by
  obtain ⟨appended, ran, sameIter, _, shown⟩ := append_shows fills.shows fills.atEnd value
  have atEnd := fills.atEnd
  cases known : view.found list with
  | dangling => contradiction
  | cells nodes =>
      rw [known] at atEnd shown
      obtain ⟨after, dropped, stays, shownAfter⟩ :=
        drop_shows shown (Function.update_self _ _ _) (sameIter.trans atEnd)
      rw [Function.update_idem, ← known, Function.update_eq_self] at shownAfter
      refine ⟨after, ?_, shownAfter, ?_⟩
      · rw [ran, ok_bind, dropped]
      · rw [known, stays, sameIter, atEnd]

end Fills

omit [DecidableEq Head] in
/-- At the end of a list there is a null pointer. -/
theorem follow_end (shows : loading.lists.Shows view) (known : view.found list = .cells nodes)
    (atEnd : loading.iter = (view.found list).endLink list) :
    loading.lists.follow loading.iter = .ok none := by
  have segment := shows.segment known
  rw [known] at atEnd
  rcases List.eq_nil_or_concat' nodes with rfl | ⟨front, node, rfl⟩
  · rw [atEnd]
    exact congrArg Except.ok segment
  · obtain ⟨middle, _, rfl, next, live, rfl⟩ := Segment.append_iff.mp segment
    rw [atEnd]
    simp only [Found.endLink, List.getLast?_append, List.getLast?_singleton, Option.some_or]
    rw [follow, readCell_live live]
    rfl

end Loading

end F2k.Lib
