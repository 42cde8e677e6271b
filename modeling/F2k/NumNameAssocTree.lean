import F2k.Lib.Comparisons
import F2k.Lib.Text

namespace F2k

open Lib

/-! The tree of application names, by their ids. -/

/-- The node that is searched for has no string. -/
structure NumNameAssocNode where
  number : UInt64
  string : Option Bytes
deriving DecidableEq

/-- The difference is returned as an `int`. -/
def nodeCmp (node1 node2 : NumNameAssocNode) : Int :=
  (node1.number - node2.number).toUInt32.toInt32.toInt

/-- A call that adds a name, and what it is given: the lock, and memory for the node and for its
string. -/
structure AddNumNameAssoc where
  number : UInt64
  str : Bytes
  wrlock : Bool := true
  nodeMemory : Bool := true
  stringMemory : Bool := true

section Tree

variable (searchTree : SearchTree NumNameAssocNode)

def newNumNameAssocTree : searchTree.Tree :=
  searchTree.init nodeCmp

/-- The tree after the call, and whether it was a success. -/
def addNumNameAssocToTree (tree : searchTree.Tree) (call : AddNumNameAssoc) :
    searchTree.Tree × Bool :=
  if !call.wrlock then (tree, false)
  else if !call.nodeMemory then (tree, false)
  else if !call.stringMemory then (tree, false)
  else (searchTree.insert tree { number := call.number, string := some call.str }, true)

def searchNameAssociatedInTree (tree : searchTree.Tree) (searchedNumber : UInt64)
    (rdlock : Bool := true) : Option Bytes :=
  if !rdlock then none
  else
    (searchTree.find tree { number := searchedNumber, string := none }).bind fun node =>
      node.string

def numNameAssocTree (calls : List AddNumNameAssoc) : searchTree.Tree :=
  calls.foldl (fun tree call => (addNumNameAssocToTree searchTree tree call).1)
    (newNumNameAssocTree searchTree)

end Tree

/-! When ids are in an order -/

/-- Only the low 32 bits of two ids count, as places on a circle. -/
theorem nodeCmp_spec (node1 node2 : NumNameAssocNode) :
    -2 ^ 31 ≤ nodeCmp node1 node2 ∧ nodeCmp node1 node2 < 2 ^ 31 ∧
      ∃ turns : Int, nodeCmp node1 node2 =
        node1.number.toUInt32.toNat - node2.number.toUInt32.toNat + 2 ^ 32 * turns := by
  have difference : nodeCmp node1 node2 =
      (((node1.number.toUInt32 - node2.number.toUInt32).toNat : Int)).bmod (2 ^ 32) := by
    unfold nodeCmp
    rw [UInt64.toUInt32_sub]
    exact BitVec.toInt_eq_toNat_bmod _
  rw [UInt32.toNat_sub] at difference
  have first := node1.number.toUInt32.toNat_lt
  have second := node2.number.toUInt32.toNat_lt
  rw [Int.bmod_def] at difference
  refine ⟨by omega, by omega, ?_⟩
  exact ⟨(nodeCmp node1 node2 -
    (node1.number.toUInt32.toNat - node2.number.toUInt32.toNat)) / 2 ^ 32, by omega⟩

/-- How far an id is from another one on the circle. -/
def steps (base : UInt32) (node : NumNameAssocNode) : Nat :=
  (node.number.toUInt32 - base).toNat

theorem nodeCmp_of_near {base : UInt32} {node1 node2 : NumNameAssocNode}
    (near1 : steps base node1 < 2 ^ 31) (near2 : steps base node2 < 2 ^ 31) :
    nodeCmp node1 node2 = (steps base node1 : Int) - steps base node2 := by
  obtain ⟨low, high, turns, value⟩ := nodeCmp_spec node1 node2
  unfold steps at near1 near2 ⊢
  rw [UInt32.toNat_sub] at near1 near2 ⊢
  rw [UInt32.toNat_sub]
  have first := node1.number.toUInt32.toNat_lt
  have second := node2.number.toUInt32.toNat_lt
  have third := base.toNat_lt
  omega

theorem nodeCmp_eq_zero_iff (node1 node2 : NumNameAssocNode) :
    nodeCmp node1 node2 = 0 ↔ node1.number.toUInt32 = node2.number.toUInt32 := by
  obtain ⟨low, high, turns, value⟩ := nodeCmp_spec node1 node2
  rw [← UInt32.toNat_inj]
  have first := node1.number.toUInt32.toNat_lt
  have second := node2.number.toUInt32.toNat_lt
  omega

theorem nodeCmp_totalOn_iff (nodes : List NumNameAssocNode) :
    TotalOn nodeCmp nodes ↔ ∃ base, ∀ node ∈ nodes, steps base node < 2 ^ 31 := by
  constructor
  · intro total
    rcases List.eq_nil_or_concat nodes with rfl | some
    · exact ⟨0, fun _ inside => absurd inside List.not_mem_nil⟩
    · have notEmpty : nodes ≠ [] := by
        obtain ⟨front, last, rfl⟩ := some
        simp
      obtain ⟨least, among, below⟩ := total.exists_least notEmpty
      refine ⟨least.number.toUInt32, ?_⟩
      intro node inside
      have opposite := total.opposite least among node inside
      have le := below node inside
      obtain ⟨low, high, turns, value⟩ := nodeCmp_spec least node
      obtain ⟨low', high', turns', value'⟩ := nodeCmp_spec node least
      unfold steps
      rw [UInt32.toNat_sub]
      have first := least.number.toUInt32.toNat_lt
      have second := node.number.toUInt32.toNat_lt
      omega
  · intro near
    obtain ⟨base, near⟩ := near
    constructor
    · intro first inFirst second inSecond
      rw [nodeCmp_of_near (near first inFirst) (near second inSecond),
        nodeCmp_of_near (near second inSecond) (near first inFirst)]
      omega
    · intro first inFirst second inSecond third inThird
      rw [nodeCmp_of_near (near first inFirst) (near second inSecond),
        nodeCmp_of_near (near second inSecond) (near third inThird),
        nodeCmp_of_near (near first inFirst) (near third inThird)]
      omega

/-! Names that are found -/

/-- The node that a call adds, if nothing is missing. -/
def addedNode (call : AddNumNameAssoc) : Option NumNameAssocNode :=
  if call.wrlock ∧ call.nodeMemory ∧ call.stringMemory then
    some { number := call.number, string := some call.str }
  else none

/-- The name that a call adds under exactly this id. -/
def addedUnder (searched : UInt64) (call : AddNumNameAssoc) : Option Bytes :=
  (addedNode call).bind fun node => if node.number = searched then node.string else none

/-- The name that a call adds under an id with the same low 32 bits. -/
def addedAlike (searched : UInt64) (call : AddNumNameAssoc) : Option Bytes :=
  (addedNode call).bind fun node =>
    if node.number.toUInt32 = searched.toUInt32 then node.string else none

/-- With every library tree that is a map, what is found is the name that was added last under
exactly this id. -/
def FindsLatest (calls : List AddNumNameAssoc) (searched : UInt64) : Prop :=
  ∀ searchTree : SearchTree NumNameAssocNode, searchTree.IsMap →
    searchNameAssociatedInTree searchTree (numNameAssocTree searchTree calls) searched =
      lastWritten (addedUnder searched) calls

/-- The low 32 bits of all ids lie within half of the circle, and the last name that was added
under the low bits of the searched one was added under all of it. -/
structure IdsApart (calls : List AddNumNameAssoc) (searched : UInt64) : Prop where
  near : ∃ base, ∀ node ∈ { number := searched, string := none } :: calls.filterMap addedNode,
    steps base node < 2 ^ 31
  alike : lastWritten (addedAlike searched) calls = lastWritten (addedUnder searched) calls

section Calls

variable (searchTree : SearchTree NumNameAssocNode) {calls : List AddNumNameAssoc}
  {searched : UInt64}

theorem addNumNameAssocToTree_fst (tree : searchTree.Tree) (call : AddNumNameAssoc) :
    (addNumNameAssocToTree searchTree tree call).1 =
      (addedNode call).elim tree (searchTree.insert tree) := by
  unfold addNumNameAssocToTree addedNode
  cases call.wrlock <;> cases call.nodeMemory <;> cases call.stringMemory <;> rfl

theorem numNameAssocTree_eq (calls : List AddNumNameAssoc) :
    numNameAssocTree searchTree calls =
      (calls.filterMap addedNode).foldl searchTree.insert (searchTree.init nodeCmp) := by
  unfold numNameAssocTree newNumNameAssocTree
  generalize searchTree.init nodeCmp = tree
  induction calls generalizing tree with
  | nil => rfl
  | cons call calls ih =>
      rw [List.foldl_cons, addNumNameAssocToTree_fst, ih, List.filterMap_cons]
      cases addedNode call <;> rfl

theorem search_of_near (isMap : searchTree.IsMap)
    (total : TotalOn nodeCmp ({ number := searched, string := none } :: calls.filterMap addedNode)) :
    searchNameAssociatedInTree searchTree (numNameAssocTree searchTree calls) searched =
      lastWritten (addedAlike searched) calls := by
  rw [numNameAssocTree_eq]
  unfold searchNameAssociatedInTree
  rw [isMap _ _ _ total]
  have readable : ∀ call node,
      ((addedNode call).bind fun node =>
        if nodeCmp node { number := searched, string := none } = 0 then some node else none) =
          some node → node.string.isSome := by
    intro call node added
    unfold addedNode at added
    split at added
    · rw [Option.bind_some] at added
      split at added
      · rw [← Option.some.inj added]
        rfl
      · cases added
    · cases added
  refine Eq.trans (?_ : _ = (lastEqual nodeCmp (calls.filterMap addedNode)
    { number := searched, string := none }).bind fun node => node.string) ?_
  · rfl
  · unfold lastEqual
    rw [lastWritten_filterMap, lastWritten_bind readable]
    apply congrArg (fun writes => lastWritten writes calls)
    funext call
    unfold addedAlike
    rw [Option.bind_assoc]
    apply congrArg
    funext node
    simp only [nodeCmp_eq_zero_iff]
    split <;> rfl

theorem FindsLatest.near (finds : FindsLatest calls searched) :
    TotalOn nodeCmp ({ number := searched, string := none } :: calls.filterMap addedNode) := by
  apply Classical.byContradiction
  intro unordered
  have found : ∀ wrong : Option NumNameAssocNode,
      (wrong.bind fun node => node.string) = lastWritten (addedUnder searched) calls := by
    intro wrong
    have finds := finds (brittleTree wrong) (brittleTree_isMap wrong)
    rw [numNameAssocTree_eq] at finds
    unfold searchNameAssociatedInTree at finds
    rw [brittleTree_wrong unordered] at finds
    exact finds
  have nothing := (found none).trans (found (some { number := 0, string := some [] })).symm
  cases nothing

/-- Names are found as they were added as long as the ids are told apart. -/
theorem findsLatest_iff (calls : List AddNumNameAssoc) (searched : UInt64) :
    FindsLatest calls searched ↔ IdsApart calls searched := by
  constructor
  · intro finds
    have total := finds.near
    refine ⟨(nodeCmp_totalOn_iff _).mp total, ?_⟩
    rw [← search_of_near (listTree _) listTree_isMap total]
    exact finds (listTree _) listTree_isMap
  · intro apart searchTree isMap
    rw [search_of_near searchTree isMap ((nodeCmp_totalOn_iff _).mpr apart.near)]
    exact apart.alike

end Calls

/-- Two ids that are 2^32 apart are one to the tree, and two that are 2^31 apart come before each
other. -/
theorem not_findsLatest :
    ¬FindsLatest [{ number := 0, str := ascii "a" }, { number := 4294967296, str := ascii "b" }] 0 ∧
      ¬TotalOn nodeCmp
        [{ number := 0, string := none }, { number := 2147483648, string := none }] := by
  constructor
  · intro finds
    exact absurd (finds (listTree _) listTree_isMap) (by decide +kernel)
  · intro total
    have opposite := total.opposite _ List.mem_cons_self _
      (List.mem_cons_of_mem _ List.mem_cons_self)
    exact absurd opposite (by decide +kernel)

end F2k
