import F2k.Lib.LastWrites

namespace F2k.Lib

/-! Comparison functions that give an integer, and search trees that are built with them. -/

section

variable {Node : Type}

/-- The signs of the results put these nodes in an order, in which several may be equal. -/
structure TotalOn (compare : Node → Node → Int) (nodes : List Node) : Prop where
  opposite : ∀ first ∈ nodes, ∀ second ∈ nodes, compare first second < 0 ↔ 0 < compare second first
  transitive : ∀ first ∈ nodes, ∀ second ∈ nodes, ∀ third ∈ nodes,
    compare first second ≤ 0 → compare second third ≤ 0 → compare first third ≤ 0

namespace TotalOn

variable {compare : Node → Node → Int} {nodes : List Node}

theorem mono (total : TotalOn compare nodes) {fewer : List Node} (among : fewer ⊆ nodes) :
    TotalOn compare fewer where
  opposite first inFirst second inSecond :=
    total.opposite first (among inFirst) second (among inSecond)
  transitive first inFirst second inSecond third inThird :=
    total.transitive first (among inFirst) second (among inSecond) third (among inThird)

theorem self (total : TotalOn compare nodes) {node : Node} (inside : node ∈ nodes) :
    compare node node = 0 := by
  have opposite := total.opposite node inside node inside
  omega

theorem exists_least (total : TotalOn compare nodes) (some : nodes ≠ []) :
    ∃ least ∈ nodes, ∀ node ∈ nodes, compare least node ≤ 0 := by
  induction nodes with
  | nil => exact absurd rfl some
  | cons first rest ih =>
      have own := total.self List.mem_cons_self
      rcases List.eq_nil_or_concat rest with rfl | more
      · refine ⟨first, List.mem_cons_self, ?_⟩
        intro node inside
        rw [List.mem_singleton.mp inside]
        exact Int.le_of_eq own
      · have notEmpty : rest ≠ [] := by
          obtain ⟨front, last, rfl⟩ := more
          simp
        obtain ⟨least, inRest, below⟩ := ih (total.mono (List.subset_cons_self _ _)) notEmpty
        have among := List.mem_cons_of_mem first inRest
        have opposite := total.opposite least among first List.mem_cons_self
        obtain before | after := Int.lt_or_le 0 (compare least first)
        · refine ⟨first, List.mem_cons_self, ?_⟩
          intro node inside
          rcases List.mem_cons.mp inside with rfl | inside'
          · exact Int.le_of_eq own
          · have backwards := total.opposite first List.mem_cons_self least among
            exact total.transitive first List.mem_cons_self least among node inside
              (by omega) (below node inside')
        · refine ⟨least, among, ?_⟩
          intro node inside
          rcases List.mem_cons.mp inside with rfl | inside
          · exact after
          · exact below node inside

end TotalOn

/-- A library's search tree: it is made for a comparison function, and nodes are found in it by
nodes that compare equal to them. -/
structure SearchTree (Node : Type) where
  Tree : Type
  init : (Node → Node → Int) → Tree
  insert : Tree → Node → Tree
  find : Tree → Node → Option Node

/-- The last node that compares equal to a key. -/
def lastEqual (compare : Node → Node → Int) (inserted : List Node) (key : Node) : Option Node :=
  lastWritten (fun node => if compare node key = 0 then some node else none) inserted

/-- As long as the nodes at hand are in an order, the node that is found is the last one that was
inserted of those equal to the key. -/
def SearchTree.IsMap (searchTree : SearchTree Node) : Prop :=
  ∀ compare inserted key, TotalOn compare (key :: inserted) →
    searchTree.find (inserted.foldl searchTree.insert (searchTree.init compare)) key =
      lastEqual compare inserted key

/-- Trees that keep all of their nodes in a list. -/
def listInsert (tree : (Node → Node → Int) × List Node) (node : Node) :
    (Node → Node → Int) × List Node :=
  (tree.1, tree.2 ++ [node])

theorem foldl_listInsert (compare : Node → Node → Int) (before inserted : List Node) :
    inserted.foldl listInsert (compare, before) = (compare, before ++ inserted) := by
  induction inserted generalizing before with
  | nil =>
      rw [List.append_nil]
      rfl
  | cons node rest ih =>
      rw [List.foldl_cons, listInsert, ih, List.append_assoc]
      rfl

def listTree (Node : Type) : SearchTree Node where
  Tree := (Node → Node → Int) × List Node
  init compare := (compare, [])
  insert := listInsert
  find tree key := lastEqual tree.1 tree.2 key

theorem listTree_isMap : (listTree Node).IsMap := by
  intro compare inserted key _
  exact congrArg (fun tree => lastEqual tree.1 tree.2 key) (foldl_listInsert compare [] inserted)

open Classical in
/-- A tree that gives the right nodes only where it has to. -/
noncomputable def brittleTree (wrong : Option Node) : SearchTree Node where
  Tree := (Node → Node → Int) × List Node
  init compare := (compare, [])
  insert := listInsert
  find tree key := if TotalOn tree.1 (key :: tree.2) then lastEqual tree.1 tree.2 key else wrong

theorem brittleTree_find (wrong : Option Node) (compare : Node → Node → Int)
    (inserted : List Node) (key : Node) :
    (brittleTree wrong).find
        (inserted.foldl (brittleTree wrong).insert ((brittleTree wrong).init compare)) key =
      (brittleTree wrong).find (compare, inserted) key :=
  congrArg (fun tree => (brittleTree wrong).find tree key) (foldl_listInsert compare [] inserted)

theorem brittleTree_isMap (wrong : Option Node) : (brittleTree wrong).IsMap := by
  intro compare inserted key total
  rw [brittleTree_find]
  exact if_pos total

theorem brittleTree_wrong {wrong : Option Node} {compare : Node → Node → Int}
    {inserted : List Node} {key : Node} (unordered : ¬TotalOn compare (key :: inserted)) :
    (brittleTree wrong).find
      (inserted.foldl (brittleTree wrong).insert ((brittleTree wrong).init compare)) key =
        wrong := by
  rw [brittleTree_find]
  exact if_neg unordered

end

end F2k.Lib
