import F2k.Lib.LinkedLists

namespace F2k.Lib

/-! All lists of a heap at once, with the cells that no list has. -/

variable {Head Value : Type}

/-- What a head leads to: the cells of a list, or a cell that was freed. -/
inductive Found (Value : Type)
  | cells (nodes : List (Nat × Value))
  | dangling

namespace Found

def addresses : Found Value → List Nat
  | .cells nodes => Lib.addresses nodes
  | .dangling => []

/-- What a head leads to once the cells are freed. -/
def freed : List (Nat × Value) → Found Value
  | [] => .cells []
  | _ :: _ => .dangling

def add : Found Value → Nat × Value → Found Value
  | .cells nodes, node => .cells (nodes ++ [node])
  | .dangling, node => .cells [node]

/-- Where the pointer stands that the next cell is to be linked from. -/
def endLink (found : Found Value) (list : Head) : Link Head :=
  match found with
  | .cells nodes =>
      match nodes.getLast? with
      | none => .head list
      | some node => .next (some node.1)
  | .dangling => .head list

@[simp] theorem addresses_freed (nodes : List (Nat × Value)) :
    (freed nodes).addresses = [] := by
  cases nodes <;> rfl

@[simp] theorem addresses_add (found : Found Value) (node : Nat × Value) :
    (found.add node).addresses = found.addresses ++ [node.1] := by
  cases found <;> simp [add, addresses]

theorem endLink_cases (found : Found Value) (list : Head) :
    (found.addresses = [] ∧ found.endLink list = .head list ∧
        ∀ node, found.add node = .cells [node]) ∨
      ∃ front node, found = .cells (front ++ [node]) ∧
        found.endLink list = .next (some node.1) := by
  cases found with
  | dangling => exact .inl ⟨rfl, rfl, fun _ => rfl⟩
  | cells nodes =>
      rcases List.eq_nil_or_concat' nodes with rfl | ⟨front, node, rfl⟩
      · exact .inl ⟨rfl, rfl, fun _ => rfl⟩
      · exact .inr ⟨front, node, rfl, by simp [endLink]⟩

@[simp] theorem endLink_add (found : Found Value) (node : Nat × Value) (list : Head) :
    (found.add node).endLink list = .next (some node.1) := by
  cases found <;> simp [add, endLink]

theorem extend_ne_dangling {found : Found Value} (sound : found ≠ .dangling)
    (added : List (Nat × Value)) : added.foldl add found ≠ .dangling := by
  induction added generalizing found with
  | nil => exact sound
  | cons node added ih =>
      apply ih
      cases found <;> simp [add]

@[simp] theorem extend_cells (nodes added : List (Nat × Value)) :
    added.foldl add (.cells nodes) = .cells (nodes ++ added) := by
  induction added generalizing nodes with
  | nil => simp
  | cons node added ih => simp [add, ih]

end Found

/-- The lists, the live cells that none of them has, and cells that were freed. -/
structure View (Head Value : Type) where
  found : Head → Found Value
  lost : List Nat
  freed : List Nat

namespace View

section Extend

variable [DecidableEq Head] (view : View Head Value) (list : Head)

/-- More nodes behind what was found. -/
def extend (added : List (Nat × Value)) : View Head Value :=
  { view with
    found := Function.update view.found list (added.foldl Found.add (view.found list)) }

@[simp] theorem extend_found_self (added : List (Nat × Value)) :
    (view.extend list added).found list = added.foldl Found.add (view.found list) :=
  Function.update_self _ _ _

@[simp] theorem extend_nil : view.extend list [] = view := by
  unfold extend
  rw [List.foldl_nil, Function.update_eq_self]

theorem extend_extend (added more : List (Nat × Value)) :
    (view.extend list added).extend list more = view.extend list (added ++ more) := by
  simp only [extend, Function.update_self, Function.update_idem, List.foldl_append]

end Extend

/-- Every list has its cells, and nothing is known of cells beside them. -/
def sound (contents : Head → List (Nat × Value)) : View Head Value where
  found := fun list => .cells (contents list)
  lost := []
  freed := []

/-- Only some of the lists have changed. -/
structure Keeps (own : List Head) (before after : View Head Value) : Prop where
  others : ∀ list, list ∉ own → after.found list = before.found list
  lost : before.lost ⊆ after.lost
  freed : before.freed ⊆ after.freed

theorem keeps_update [DecidableEq Head] {view : View Head Value} {list : Head}
    {found : Found Value} {lost freed : List Nat} (lostKept : view.lost ⊆ lost)
    (freedKept : view.freed ⊆ freed) :
    view.Keeps [list] { found := Function.update view.found list found, lost, freed } where
  others := by
    intro other absent
    exact Function.update_of_ne (fun same => absent (List.mem_singleton.mpr same)) _ _
  lost := lostKept
  freed := freedKept

theorem keeps_extend [DecidableEq Head] (view : View Head Value) (list : Head)
    (added : List (Nat × Value)) : view.Keeps [list] (view.extend list added) :=
  keeps_update (List.Subset.refl _) (List.Subset.refl _)

theorem Keeps.refl {own : List Head} {view : View Head Value} : Keeps own view view where
  others := fun _ _ => rfl
  lost := List.Subset.refl _
  freed := List.Subset.refl _

theorem Keeps.trans {own : List Head} {first second third : View Head Value}
    (keeps : Keeps own first second) (onwards : Keeps own second third) :
    Keeps own first third where
  others := by
    intro list absent
    rw [onwards.others list absent, keeps.others list absent]
  lost := List.Subset.trans keeps.lost onwards.lost
  freed := List.Subset.trans keeps.freed onwards.freed

theorem Keeps.mono {own more : List Head} {first second : View Head Value}
    (keeps : Keeps own first second) (subset : own ⊆ more) : Keeps more first second where
  others := by
    intro list absent
    exact keeps.others list fun member => absent (subset member)
  lost := keeps.lost
  freed := keeps.freed

end View

namespace LinkedLists

def FoundAs (lists : LinkedLists Head Value) (list : Head) : Found Value → Prop
  | .cells nodes => Segment lists.heap.cells (lists.heads list) nodes none
  | .dangling =>
      ∃ address, lists.heads list = some address ∧ address < lists.heap.next ∧
        lists.heap.cells address = none

structure Shows (lists : LinkedLists Head Value) (view : View Head Value) : Prop where
  found : ∀ list, lists.FoundAs list (view.found list)
  once : ∀ list, (view.found list).addresses.Nodup
  apart : ∀ list other, list ≠ other →
    (view.found list).addresses.Disjoint (view.found other).addresses
  lost : ∀ address ∈ view.lost, lists.heap.cells address ≠ none ∧
    ∀ list, address ∉ (view.found list).addresses
  freed : ∀ address ∈ view.freed, address < lists.heap.next ∧ lists.heap.cells address = none

namespace Shows

variable {lists after : LinkedLists Head Value} {view : View Head Value} {list : Head}
  {nodes : List (Nat × Value)}

theorem live (shows : lists.Shows view) {address : Nat}
    (member : address ∈ (view.found list).addresses) : lists.heap.cells address ≠ none := by
  have found := shows.found list
  cases known : view.found list with
  | dangling =>
      rw [known] at member
      contradiction
  | cells nodes =>
      rw [known] at member found
      exact Segment.live found member

theorem lt_next (shows : lists.Shows view) {address : Nat}
    (member : address ∈ (view.found list).addresses) : address < lists.heap.next := by
  obtain ⟨cell, live⟩ := Option.ne_none_iff_exists'.mp (shows.live member)
  exact Heap.lt_next live

theorem segment (shows : lists.Shows view) (known : view.found list = .cells nodes) :
    Segment lists.heap.cells (lists.heads list) nodes none := by
  have found := shows.found list
  rwa [known] at found

theorem nodup (shows : lists.Shows view) (known : view.found list = .cells nodes) :
    (addresses nodes).Nodup := by
  have once := shows.once list
  rwa [known] at once

theorem found_eq {contents : Head → List (Nat × Value)} (shows : lists.Shows view)
    (sound : lists.Shows (View.sound contents)) (list : Head) :
    view.found list = .cells (contents list) := by
  have segment : Segment lists.heap.cells (lists.heads list) (contents list) none :=
    sound.segment rfl
  have found := shows.found list
  cases known : view.found list with
  | cells nodes => rw [Segment.unique (shows.segment known) segment]
  | dangling =>
      rw [known] at found
      obtain ⟨address, head, _, dead⟩ := found
      cases listed : contents list with
      | nil => simp [listed, Segment, head] at segment
      | cons node nodes =>
          rw [listed, head] at segment
          obtain ⟨same, next, live, _⟩ := segment
          rw [← Option.some.inj same, dead] at live
          contradiction

theorem sound {contents : Head → List (Nat × Value)} (shows : lists.Shows view)
    (found : ∀ list, view.found list = .cells (contents list)) :
    lists.Shows (View.sound contents) where
  found := by
    intro list
    exact shows.segment (found list)
  once := by
    intro list
    exact shows.nodup (found list)
  apart := by
    intro list other apart
    have disjoint := shows.apart list other apart
    rw [found, found] at disjoint
    exact disjoint
  lost := fun _ member => absurd member List.not_mem_nil
  freed := fun _ member => absurd member List.not_mem_nil

theorem exists_sound (shows : lists.Shows view) (led : ∀ list, view.found list ≠ .dangling) :
    ∃ contents, lists.Shows (.sound contents) ∧ ∀ list, view.found list = .cells (contents list) := by
  have known : ∀ list, ∃ nodes, view.found list = .cells nodes := by
    intro list
    cases known : view.found list with
    | cells nodes => exact ⟨nodes, rfl⟩
    | dangling => exact absurd known (led list)
  choose contents found using known
  exact ⟨contents, shows.sound found, found⟩

theorem empty : (LinkedLists.empty : LinkedLists Head Value).Shows (.sound fun _ => []) where
  found := fun _ => rfl
  once := fun _ => List.nodup_nil
  apart := fun _ _ _ _ member => absurd member List.not_mem_nil
  lost := fun _ member => absurd member List.not_mem_nil
  freed := fun _ member => absurd member List.not_mem_nil

variable [DecidableEq Head]

theorem replace (shows : lists.Shows view) {found : Found Value} {lost freed : List Nat}
    (heads : ∀ other, other ≠ list → after.heads other = lists.heads other)
    (next : lists.heap.next ≤ after.heap.next)
    (cells : ∀ address < lists.heap.next, address ∉ (view.found list).addresses →
      after.heap.cells address = lists.heap.cells address)
    (foundAs : after.FoundAs list found) (once : found.addresses.Nodup)
    (own : ∀ address ∈ found.addresses,
      address ∈ (view.found list).addresses ∨ lists.heap.next ≤ address)
    (lostNow : ∀ address ∈ lost, address ∉ found.addresses ∧ (address ∈ view.lost ∨
      address ∈ (view.found list).addresses ∧ after.heap.cells address ≠ none))
    (freedNow : ∀ address ∈ freed, address ∈ view.freed ∨
      address ∈ (view.found list).addresses ∧ after.heap.cells address = none) :
    after.Shows { found := Function.update view.found list found, lost, freed } where
  found := by
    intro other
    dsimp only
    by_cases same : other = list
    · subst same
      rw [Function.update_self]
      exact foundAs
    · rw [Function.update_of_ne same]
      have before := shows.found other
      cases known : view.found other with
      | cells nodes =>
          rw [known] at before
          unfold FoundAs at before ⊢
          rw [heads other same]
          apply before.congr
          intro address member
          have listed : address ∈ (view.found other).addresses := by
            rw [known]
            exact member
          exact cells address (shows.lt_next listed) (shows.apart other list same listed)
      | dangling =>
          rw [known] at before
          obtain ⟨address, head, below, dead⟩ := before
          refine ⟨address, (heads other same).trans head, Nat.lt_of_lt_of_le below next, ?_⟩
          rw [cells address below, dead]
          intro member
          exact shows.live member dead
  once := by
    intro other
    dsimp only
    by_cases same : other = list
    · subst same
      rw [Function.update_self]
      exact once
    · rw [Function.update_of_ne same]
      exact shows.once other
  apart := by
    have others : ∀ other, other ≠ list →
        found.addresses.Disjoint (view.found other).addresses := by
      intro other same address member listed
      cases own address member with
      | inl kept => exact shows.apart list other (Ne.symm same) kept listed
      | inr new => exact Nat.not_lt_of_le new (shows.lt_next listed)
    intro first second apart
    dsimp only
    by_cases isFirst : first = list
    · subst isFirst
      rw [Function.update_self, Function.update_of_ne (Ne.symm apart)]
      exact others second (Ne.symm apart)
    · rw [Function.update_of_ne isFirst]
      by_cases isSecond : second = list
      · subst isSecond
        rw [Function.update_self]
        exact fun _ listed own => others first isFirst own listed
      · rw [Function.update_of_ne isSecond]
        exact shows.apart first second apart
  lost := by
    intro address member
    obtain ⟨absent, origin⟩ := lostNow address member
    refine ⟨?_, ?_⟩
    · cases origin with
      | inr own => exact own.2
      | inl before =>
          obtain ⟨live, unlisted⟩ := shows.lost address before
          obtain ⟨cell, isCell⟩ := Option.ne_none_iff_exists'.mp live
          rw [cells address (Heap.lt_next isCell) (unlisted list)]
          exact live
    · intro other
      dsimp only
      by_cases same : other = list
      · subst same
        rw [Function.update_self]
        exact absent
      · rw [Function.update_of_ne same]
        cases origin with
        | inl before => exact (shows.lost address before).2 other
        | inr own => exact shows.apart list other (Ne.symm same) own.1
  freed := by
    intro address member
    cases freedNow address member with
    | inl before =>
        obtain ⟨below, dead⟩ := shows.freed address before
        refine ⟨Nat.lt_of_lt_of_le below next, ?_⟩
        rw [cells address below, dead]
        intro listed
        exact shows.live listed dead
    | inr own => exact ⟨Nat.lt_of_lt_of_le (shows.lt_next own.1) next, own.2⟩

theorem freeList (shows : lists.Shows view) (known : view.found list = .cells nodes) :
    ∃ after viewAfter, lists.freeList list = .ok after ∧ after.Shows viewAfter ∧
      view.Keeps [list] viewAfter ∧ viewAfter.found list = .freed nodes ∧
      addresses nodes ⊆ viewAfter.freed := by
  have segment := shows.segment known
  have own : (view.found list).addresses = addresses nodes := by rw [known]; rfl
  obtain ⟨after, ran, heads, next, cells⟩ :=
    freeCells_segment segment (shows.nodup known) (addresses_length_le segment (shows.nodup known))
  have shown : after.Shows
      { found := Function.update view.found list (.freed nodes)
        lost := view.lost
        freed := view.freed ++ addresses nodes } := by
    refine shows.replace ?_ (Nat.le_of_eq next.symm) ?_ ?_ ?_ ?_ ?_ ?_
    · intro other _
      rw [heads]
    · intro address _ absent
      rw [cells, if_neg (own ▸ absent)]
    · cases nodes with
      | nil =>
          show after.heads list = none
          rw [heads]
          exact segment
      | cons node nodes =>
          have member : node.1 ∈ (view.found list).addresses := by
            rw [own]
            exact List.mem_cons_self
          refine ⟨node.1, heads ▸ segment.1, next ▸ shows.lt_next member, ?_⟩
          rw [cells, if_pos (own ▸ member)]
    · rw [Found.addresses_freed]
      exact List.nodup_nil
    · intro address member
      rw [Found.addresses_freed] at member
      contradiction
    · intro address member
      exact ⟨by rw [Found.addresses_freed]; exact List.not_mem_nil, .inl member⟩
    · intro address member
      cases List.mem_append.mp member with
      | inl before => exact .inl before
      | inr freed =>
          refine .inr ⟨own ▸ freed, ?_⟩
          rw [cells, if_pos freed]
  exact ⟨after, _, ran, shown,
    View.keeps_update (List.Subset.refl _) (List.subset_append_left _ _),
    Function.update_self _ _ _, List.subset_append_right _ _⟩

theorem clear (shows : lists.Shows view) (list : Head) :
    ∃ viewAfter, (lists.setHead list none).Shows viewAfter ∧ view.Keeps [list] viewAfter ∧
      viewAfter.found list = .cells [] ∧ viewAfter.freed = view.freed := by
  have shown : (lists.setHead list none).Shows
      { view with found := Function.update view.found list (.cells []) } := by
    refine shows.replace ?_ (Nat.le_refl _) ?_ ?_ List.nodup_nil ?_ ?_ ?_
    · intro other apart
      exact Function.update_of_ne apart _ _
    · intro address _ _
      rfl
    · exact Function.update_self _ _ _
    · intro address member
      contradiction
    · intro address member
      exact ⟨List.not_mem_nil, .inl member⟩
    · intro address member
      exact .inl member
  exact ⟨_, shown, View.keeps_update (List.Subset.refl _) (List.Subset.refl _),
    Function.update_self _ _ _, rfl⟩

/-- The last cell is neither freed nor in the list any more. -/
theorem freeListButLast (shows : lists.Shows view) (known : view.found list = .cells nodes) :
    ∃ after viewAfter, lists.freeListButLast list = .ok after ∧
      (after.setHead list none).Shows viewAfter ∧ view.Keeps [list] viewAfter ∧
      viewAfter.found list = .cells [] ∧ addresses nodes.dropLast ⊆ viewAfter.freed ∧
      addresses nodes.getLast?.toList ⊆ viewAfter.lost := by
  have segment := shows.segment known
  have once := shows.nodup known
  have own : (view.found list).addresses = addresses nodes := by rw [known]; rfl
  obtain ⟨after, ran, heads, next, cells⟩ :=
    freeCellsButLast_segment segment once (addresses_length_le segment once)
  have shown : (after.setHead list none).Shows
      { found := Function.update view.found list (.cells [])
        lost := view.lost ++ addresses nodes.getLast?.toList
        freed := view.freed ++ addresses nodes.dropLast } := by
    refine shows.replace ?_ (Nat.le_of_eq next.symm) ?_ ?_ List.nodup_nil ?_ ?_ ?_
    · intro other apart
      exact (Function.update_of_ne apart _ _).trans (congrFun heads other)
    · intro address _ absent
      refine (cells address).trans (if_neg ?_)
      intro member
      rw [own] at absent
      exact absent (List.map_subset _ (List.dropLast_subset _) member)
    · exact Function.update_self _ _ _
    · intro address member
      contradiction
    · intro address member
      refine ⟨List.not_mem_nil, ?_⟩
      cases List.mem_append.mp member with
      | inl before => exact .inl before
      | inr last =>
          right
          rcases List.eq_nil_or_concat' nodes with rfl | ⟨front, node, rfl⟩
          · contradiction
          · simp only [List.getLast?_append, List.getLast?_singleton, Option.some_or,
              Option.toList_some, addresses_cons, addresses_nil, List.mem_singleton] at last
            subst last
            have member : node.1 ∈ (view.found list).addresses := by simp [own]
            refine ⟨member, ?_⟩
            have kept : node.1 ∉ addresses (front ++ [node]).dropLast := by
              rw [List.dropLast_concat]
              intro twice
              exact ne_last once twice rfl
            show after.heap.cells node.1 ≠ none
            rw [cells, if_neg kept]
            exact shows.live member
    · intro address member
      cases List.mem_append.mp member with
      | inl before => exact .inl before
      | inr freed =>
          refine .inr ⟨?_, (cells address).trans (if_pos freed)⟩
          rw [own]
          exact List.map_subset _ (List.dropLast_subset _) freed
  exact ⟨after, _, ran, shown,
    View.keeps_update (List.subset_append_left _ _) (List.subset_append_left _ _),
    Function.update_self _ _ _, List.subset_append_right _ _, List.subset_append_right _ _⟩

theorem added (shows : lists.Shows view) {value : Value}
    (heads : ∀ other, other ≠ list → after.heads other = lists.heads other)
    (next : after.heap.next = lists.heap.next + 1)
    (cells : ∀ address < lists.heap.next, address ∉ (view.found list).addresses →
      after.heap.cells address = lists.heap.cells address)
    (foundAs : after.FoundAs list ((view.found list).add (lists.heap.next, value))) :
    after.Shows
      { view with
        found := Function.update view.found list
          ((view.found list).add (lists.heap.next, value)) } := by
  have own : ((view.found list).add (lists.heap.next, value)).addresses =
      (view.found list).addresses ++ [lists.heap.next] :=
    Found.addresses_add _ _
  refine shows.replace heads ?_ cells foundAs ?_ ?_ ?_ ?_
  · rw [next]
    exact Nat.le_succ _
  · rw [own]
    refine List.nodup_append.mpr ⟨shows.once list, by simp, ?_⟩
    rintro address listed _ new rfl
    rw [List.mem_singleton.mp new] at listed
    exact Nat.lt_irrefl _ (shows.lt_next listed)
  · intro address member
    rw [own] at member
    cases List.mem_append.mp member with
    | inl kept => exact .inl kept
    | inr new => exact .inr (Nat.le_of_eq (List.mem_singleton.mp new).symm)
  · intro address member
    obtain ⟨live, unlisted⟩ := shows.lost address member
    refine ⟨?_, .inl member⟩
    rw [own]
    intro listed
    cases List.mem_append.mp listed with
    | inl kept => exact unlisted list kept
    | inr new =>
        obtain ⟨cell, isCell⟩ := Option.ne_none_iff_exists'.mp live
        exact Nat.ne_of_lt (Heap.lt_next isCell) (List.mem_singleton.mp new)
  · intro address member
    exact .inl member

theorem single (list : Head) (value : Value) :
    (LinkedLists.single list value).Shows
      (.sound (Function.update (fun _ => []) list [(0, value)])) := by
  have shown : (LinkedLists.single list value).Shows
      ((View.sound fun _ => []).extend list [(0, value)]) := by
    refine Shows.empty.added ?_ rfl ?_ ?_
    · intro other apart
      show Function.update (fun _ => none) list (some 0) other = none
      rw [Function.update_of_ne apart]
    · intro address below _
      exact absurd below (Nat.not_lt_zero address)
    · have head : (LinkedLists.single list value).heads list = some 0 := by
        show Function.update (fun _ => none) list (some 0) list = some 0
        rw [Function.update_self]
      exact ⟨head, none, Heap.alloc_self, rfl⟩
  apply shown.sound
  intro other
  cases Decidable.em (other = list) with
  | inl same =>
      subst same
      rw [View.extend_found_self, Function.update_self]
      rfl
  | inr apart =>
      rw [(View.keeps_extend _ list _).others other (by simpa using apart),
        Function.update_of_ne apart]
      rfl

end Shows

end LinkedLists

end F2k.Lib
