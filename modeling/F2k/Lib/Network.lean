import Mathlib.Data.Nat.Basic
import Mathlib.Data.List.Perm.Basic

namespace F2k.Lib

/-! Networks as a base and a mask over bit vectors, prefix masks, and tables of
networks that are searched by masking an address. -/

def prefixMask (width length : Nat) : BitVec width :=
  BitVec.allOnes width <<< (width - length)

theorem getLsbD_prefixMask {width length index : Nat} :
    (prefixMask width length).getLsbD index =
      (decide (index < width) && decide (width - length ≤ index)) := by
  simp only [prefixMask, BitVec.getLsbD_shiftLeft, BitVec.getLsbD_allOnes]
  by_cases inside : index < width
  · by_cases high : width - length ≤ index
    · have notLow : ¬index < width - length := by omega
      have moved : index - (width - length) < width := by omega
      simp [inside, high, notLow, moved]
    · have low : index < width - length := by omega
      simp [inside, high, low]
  · simp [inside]

theorem prefixMask_and_prefixMask {width short long : Nat} (le : short ≤ long) :
    prefixMask width short &&& prefixMask width long = prefixMask width short := by
  apply BitVec.eq_of_getLsbD_eq
  intro index inside
  simp only [BitVec.getLsbD_and, getLsbD_prefixMask, inside, decide_true, Bool.true_and]
  by_cases high : width - short ≤ index
  · have alsoHigh : width - long ≤ index := by omega
    simp [high, alsoHigh]
  · simp [high]

theorem prefixMask_injective {width first second : Nat} (firstLe : first ≤ width)
    (secondLe : second ≤ width)
    (equal : prefixMask width first = prefixMask width second) : first = second := by
  have bits : ∀ index, index < width →
      (width - first ≤ index ↔ width - second ≤ index) := by
    intro index inside
    have bit := congrArg (fun mask => mask.getLsbD index) equal
    simp only [getLsbD_prefixMask, inside, decide_true, Bool.true_and] at bit
    exact decide_eq_decide.mp bit
  rcases Nat.lt_trichotomy first second with less | same | greater
  · have := bits (width - second) (by omega)
    omega
  · exact same
  · have := bits (width - first) (by omega)
    omega

theorem and_prefixMask_and_prefixMask {width short long : Nat} (address : BitVec width)
    (le : short ≤ long) :
    (address &&& prefixMask width long) &&& prefixMask width short =
      address &&& prefixMask width short := by
  rw [BitVec.and_assoc, BitVec.and_comm (prefixMask width long),
    prefixMask_and_prefixMask le]

structure Masked (width : Nat) where
  base : BitVec width
  mask : BitVec width
deriving DecidableEq

namespace Masked

def Contains (net : Masked width) (address : BitVec width) : Prop :=
  address &&& net.mask = net.base

instance (net : Masked width) (address : BitVec width) : Decidable (net.Contains address) :=
  inferInstanceAs (Decidable (_ = _))

def ofPrefix {width : Nat} (address : BitVec width) (length : Nat) : Masked width where
  base := address &&& prefixMask width length
  mask := prefixMask width length

theorem ofPrefix_contains {width length : Nat} {network address : BitVec width} :
    (ofPrefix network length).Contains address ↔
      address &&& prefixMask width length = network &&& prefixMask width length := by
  rfl

theorem ofPrefix_contains_base {width : Nat} (network : BitVec width) (length : Nat) :
    (ofPrefix network length).Contains (ofPrefix network length).base := by
  simp [Contains, ofPrefix, BitVec.and_assoc]

theorem contains_of_longer_mask {width short long : Nat} {network address : BitVec width}
    (le : short ≤ long)
    (masked : address &&& prefixMask width long = (ofPrefix network short).base) :
    (ofPrefix network short).Contains address := by
  have again := congrArg (fun bits => bits &&& prefixMask width short) masked
  simp only [and_prefixMask_and_prefixMask address le] at again
  rw [ofPrefix_contains, again]
  exact ofPrefix_contains_base network short

theorem or_and_mask {width : Nat} {base difference mask : BitVec width}
    (kept : base &&& mask = base) (dropped : difference &&& mask = 0) :
    (base ||| difference) &&& mask = base := by
  apply BitVec.eq_of_getLsbD_eq
  intro index inside
  have keptBit := congrArg (fun bits => bits.getLsbD index) kept
  have droppedBit := congrArg (fun bits => bits.getLsbD index) dropped
  simp only [BitVec.getLsbD_and, BitVec.getLsbD_or] at *
  grind

theorem not_contains_of_bit {width long index : Nat} {network address : BitVec width}
    (inside : index < width) (masked : width - long ≤ index)
    (addressBit : address.getLsbD index = true)
    (baseBit : (ofPrefix network long).base.getLsbD index = false) :
    ¬(ofPrefix network long).Contains address := by
  intro contains
  have bit := congrArg (fun bits => bits.getLsbD index) contains
  rw [baseBit, ofPrefix, BitVec.getLsbD_and, getLsbD_prefixMask] at bit
  simp only [inside, masked, addressBit, decide_true, Bool.and_self] at bit
  contradiction

theorem getLsbD_base_of_kept {width short index : Nat} {base : BitVec width}
    (kept : base &&& prefixMask width short = base) (low : index < width - short) :
    base.getLsbD index = false := by
  have bit := congrArg (fun bits => bits.getLsbD index) kept
  have notHigh : ¬width - short ≤ index := by omega
  simp only [BitVec.getLsbD_and, getLsbD_prefixMask, notHigh, decide_false, Bool.and_false]
    at bit
  exact bit.symm

theorem twoPow_and_prefixMask {width short index : Nat} (low : index < width - short) :
    BitVec.twoPow width index &&& prefixMask width short = 0 := by
  apply BitVec.eq_of_getLsbD_eq
  intro other _
  simp only [BitVec.getLsbD_and, BitVec.getLsbD_twoPow, getLsbD_prefixMask]
  grind

/-- A mask takes an address outside a network to the network's base exactly when it is
shorter than the network's own and keeps the base. -/
theorem exists_taken_outside_iff {width short long : Nat} {network : BitVec width}
    (longLe : long ≤ width) :
    (∃ address, address &&& prefixMask width short = (ofPrefix network long).base ∧
        ¬(ofPrefix network long).Contains address) ↔
      short < long ∧
        (ofPrefix network long).base &&& prefixMask width short =
          (ofPrefix network long).base := by
  constructor
  · rintro ⟨address, taken, outside⟩
    constructor
    · by_contra notShorter
      exact outside (contains_of_longer_mask (Nat.le_of_not_lt notShorter) taken)
    · rw [← taken, BitVec.and_assoc, BitVec.and_self]
  · rintro ⟨shorter, kept⟩
    have low : width - long < width - short := by omega
    refine ⟨(ofPrefix network long).base ||| BitVec.twoPow width (width - long),
      or_and_mask kept (twoPow_and_prefixMask low), ?_⟩
    apply not_contains_of_bit (show width - long < width by omega) (Nat.le_refl _)
    · simp [show width - long < width by omega]
    · exact getLsbD_base_of_kept kept low

/-- Of two prefix networks the one with the shorter mask holds the other's base or nothing
of the other. -/
theorem exists_in_both_iff {width short long : Nat} {shortNetwork longNetwork : BitVec width}
    (le : short ≤ long) :
    (∃ address, (ofPrefix shortNetwork short).Contains address ∧
        (ofPrefix longNetwork long).Contains address) ↔
      (ofPrefix longNetwork long).base &&& prefixMask width short =
        (ofPrefix shortNetwork short).base := by
  constructor
  · intro both
    obtain ⟨address, inShort, inLong⟩ := both
    rw [← inLong, ← inShort]
    exact and_prefixMask_and_prefixMask address le
  · intro masked
    exact ⟨(ofPrefix longNetwork long).base, masked, ofPrefix_contains_base longNetwork long⟩

end Masked

structure PrefixNet (width : Nat) where
  network : BitVec width
  length : Nat
  length_le : length ≤ width

def PrefixNet.net (prefixNet : PrefixNet width) : Masked width :=
  .ofPrefix prefixNet.network prefixNet.length

/-! Searching a table in whatever order it yields its values. -/

section Search

variable {Error Value : Type}

/-- In every order of a table's values the search answers exactly when an answer is expected,
with a value that may be found, and the order does not matter. -/
structure SearchCorrect (table : List Value)
    (search : List Value → Except Error (Option Value)) (expected : Prop)
    (found : Value → Prop) : Prop where
  complete : ∀ order : List Value, order.Perm table →
    ((∃ value, search order = .ok (some value)) ↔ expected)
  sound : ∀ order : List Value, order.Perm table →
    ∀ value, search order = .ok (some value) → found value
  orderFree : ∀ first second : List Value, first.Perm table → second.Perm table →
    search first = search second

/-- The search tries the values in turn until one attempt finds something. -/
def TriesInTurn (table : List Value) (search : List Value → Except Error (Option Value))
    (attempt : Value → Option Value) : Prop :=
  ∀ order : List Value, order.Perm table → search order = .ok (order.findSome? attempt)

theorem exists_order_findSome? {table : List Value} {attempt : Value → Option Value}
    {tried value : Value} (member : tried ∈ table) (finds : attempt tried = some value) :
    ∃ order : List Value, order.Perm table ∧ order.findSome? attempt = some value := by
  obtain ⟨before, after, rfl⟩ := List.append_of_mem member
  refine ⟨tried :: (before ++ after), List.perm_middle.symm, ?_⟩
  rw [List.findSome?_cons, finds]

theorem exists_findSome?_iff {table : List Value} {attempt : Value → Option Value}
    {order : List Value} (perm : order.Perm table) :
    (∃ value, order.findSome? attempt = some value) ↔
      ∃ tried ∈ table, ∃ value, attempt tried = some value := by
  rw [← Option.isSome_iff_exists, List.findSome?_isSome_iff]
  simp only [Option.isSome_iff_exists, perm.mem_iff]

theorem searchCorrect_iff {table : List Value}
    {search : List Value → Except Error (Option Value)} {attempt : Value → Option Value}
    {expected : Prop} {found : Value → Prop} (runs : TriesInTurn table search attempt) :
    SearchCorrect table search expected found ↔
      ((∃ tried ∈ table, ∃ value, attempt tried = some value) ↔ expected) ∧
      (∀ tried ∈ table, ∀ value, attempt tried = some value → found value) ∧
      (∀ first ∈ table, ∀ second ∈ table, ∀ firstValue secondValue,
        attempt first = some firstValue → attempt second = some secondValue →
          firstValue = secondValue) := by
  have answers : ∀ order : List Value, order.Perm table →
      ((∃ value, search order = .ok (some value)) ↔
        ∃ tried ∈ table, ∃ value, attempt tried = some value) := by
    intro order perm
    rw [← exists_findSome?_iff perm, runs order perm]
    simp only [Except.ok.injEq]
  constructor
  · intro correct
    refine ⟨?_, ?_, ?_⟩
    · exact (answers table (.refl _)).symm.trans (correct.complete table (.refl _))
    · intro tried member value finds
      obtain ⟨order, perm, result⟩ := exists_order_findSome? member finds
      apply correct.sound order perm value
      rw [runs order perm, result]
    · intro first firstMember second secondMember firstValue secondValue finds findsToo
      obtain ⟨order, perm, result⟩ := exists_order_findSome? firstMember finds
      obtain ⟨other, otherPerm, otherResult⟩ := exists_order_findSome? secondMember findsToo
      have same := correct.orderFree order other perm otherPerm
      rw [runs order perm, runs other otherPerm, result, otherResult] at same
      exact Option.some.inj (Except.ok.inj same)
  · intro both
    obtain ⟨expects, sound, unique⟩ := both
    have drawn : ∀ order : List Value, order.Perm table → ∀ value,
        order.findSome? attempt = some value →
          ∃ tried ∈ table, attempt tried = some value := by
      intro order perm value result
      obtain ⟨tried, member, finds⟩ := List.exists_of_findSome?_eq_some result
      exact ⟨tried, perm.mem_iff.mp member, finds⟩
    refine ⟨fun order perm => (answers order perm).trans expects, ?_, ?_⟩
    · intro order perm value result
      rw [runs order perm] at result
      obtain ⟨tried, member, finds⟩ := drawn order perm value (Except.ok.inj result)
      exact sound tried member value finds
    · intro first second firstPerm secondPerm
      rw [runs first firstPerm, runs second secondPerm]
      apply congrArg
      cases firstResult : first.findSome? attempt with
      | none =>
          have noAttempt : ¬∃ tried ∈ table, ∃ value, attempt tried = some value :=
            (exists_findSome?_iff firstPerm).not.mp (by simp [firstResult])
          have noSecond := (exists_findSome?_iff secondPerm).not.mpr noAttempt
          rw [← Option.isSome_iff_exists, Option.not_isSome_iff_eq_none] at noSecond
          exact noSecond.symm
      | some value =>
          have answered := (exists_findSome?_iff firstPerm).mp ⟨value, firstResult⟩
          obtain ⟨other, secondResult⟩ := (exists_findSome?_iff secondPerm).mpr answered
          obtain ⟨tried, member, finds⟩ := drawn first firstPerm value firstResult
          obtain ⟨again, memberToo, findsToo⟩ := drawn second secondPerm other secondResult
          rw [secondResult, unique tried member again memberToo value other finds findsToo]

end Search

/-! Searching a table of networks: every value is tried in turn, its mask is applied to the
address, and the result is looked up among the bases of all the values. -/

section NetworkSearch

variable {width : Nat} {Error Value : Type} (net : Value → Option (Masked width))
  (table : List Value)

def FindsByBase (address : BitVec width) (attempt : Value → Option Value) : Prop :=
  ∀ tried ∈ table, ∀ value, attempt tried = some value ↔
    value ∈ table ∧ ∃ triedNet valueNet, net tried = some triedNet ∧
      net value = some valueNet ∧ valueNet.base = address &&& triedNet.mask

/-- An address lies in at most one network, and no mask takes it to the base of a network it
is not in. -/
structure SearchApart (address : BitVec width) : Prop where
  disjoint : ∀ first ∈ table, ∀ second ∈ table, ∀ firstNet secondNet,
    net first = some firstNet → net second = some secondNet →
      firstNet.Contains address → secondNet.Contains address → first = second
  takenInside : ∀ tried ∈ table, ∀ value ∈ table, ∀ triedNet valueNet,
    net tried = some triedNet → net value = some valueNet →
      valueNet.base = address &&& triedNet.mask → valueNet.Contains address

/-- What makes the search right at an address: networks that are apart there, a network it is
in may be found, and where an answer is expected it is in a network. -/
structure SearchSafe (address : BitVec width) (expected : Prop) (found : Value → Prop) :
    Prop extends SearchApart net table address where
  foundInside : ∀ value ∈ table, ∀ valueNet, net value = some valueNet →
    valueNet.Contains address → found value
  covered : expected →
    ∃ value ∈ table, ∃ valueNet, net value = some valueNet ∧ valueNet.Contains address

variable {net table}

theorem searchCorrect_iff_safe {address : BitVec width}
    {search : List Value → Except Error (Option Value)} {attempt : Value → Option Value}
    {expected : Prop} {found : Value → Prop} (runs : TriesInTurn table search attempt)
    (finds : FindsByBase net table address attempt)
    (foundExpected : ∀ value ∈ table, found value → expected)
    (foundContains : ∀ value ∈ table, ∀ valueNet, net value = some valueNet →
      found value → valueNet.Contains address) :
    SearchCorrect table search expected found ↔
      SearchSafe net table address expected found := by
  have findsItself : ∀ value ∈ table, ∀ valueNet, net value = some valueNet →
      valueNet.Contains address → attempt value = some value := by
    intro value member valueNet valueEq contains
    exact (finds value member value).mpr
      ⟨member, valueNet, valueNet, valueEq, valueEq, contains.symm⟩
  rw [searchCorrect_iff runs]
  constructor
  · rintro ⟨answers, sound, unique⟩
    refine ⟨⟨?_, ?_⟩, ?_, ?_⟩
    · intro first firstMember second secondMember firstNet secondNet firstEq secondEq
        inFirst inSecond
      exact unique first firstMember second secondMember first second
        (findsItself first firstMember firstNet firstEq inFirst)
        (findsItself second secondMember secondNet secondEq inSecond)
    · intro tried triedMember value member triedNet valueNet triedEq valueEq taken
      have result := (finds tried triedMember value).mpr
        ⟨member, triedNet, valueNet, triedEq, valueEq, taken⟩
      exact foundContains value member valueNet valueEq
        (sound tried triedMember value result)
    · intro value member valueNet valueEq contains
      exact sound value member value (findsItself value member valueNet valueEq contains)
    · intro isExpected
      obtain ⟨tried, triedMember, value, result⟩ := answers.mpr isExpected
      obtain ⟨member, triedNet, valueNet, triedEq, valueEq, taken⟩ :=
        (finds tried triedMember value).mp result
      exact ⟨value, member, valueNet, valueEq, foundContains value member valueNet valueEq
        (sound tried triedMember value result)⟩
  · intro safe
    have inside : ∀ tried ∈ table, ∀ value, attempt tried = some value →
        value ∈ table ∧ ∃ valueNet, net value = some valueNet ∧ valueNet.Contains address := by
      intro tried triedMember value result
      obtain ⟨member, triedNet, valueNet, triedEq, valueEq, taken⟩ :=
        (finds tried triedMember value).mp result
      exact ⟨member, valueNet, valueEq,
        safe.takenInside tried triedMember value member triedNet valueNet triedEq valueEq taken⟩
    have sound : ∀ tried ∈ table, ∀ value, attempt tried = some value → found value := by
      intro tried triedMember value result
      obtain ⟨member, valueNet, valueEq, contains⟩ := inside tried triedMember value result
      exact safe.foundInside value member valueNet valueEq contains
    refine ⟨⟨?_, ?_⟩, sound, ?_⟩
    · rintro ⟨tried, triedMember, value, result⟩
      exact foundExpected value (inside tried triedMember value result).1
        (sound tried triedMember value result)
    · intro isExpected
      obtain ⟨value, member, valueNet, valueEq, contains⟩ := safe.covered isExpected
      exact ⟨value, member, value, findsItself value member valueNet valueEq contains⟩
    · intro first firstMember second secondMember firstValue secondValue firstResult
        secondResult
      obtain ⟨member, firstNet, firstEq, inFirst⟩ :=
        inside first firstMember firstValue firstResult
      obtain ⟨memberToo, secondNet, secondEq, inSecond⟩ :=
        inside second secondMember secondValue secondResult
      exact safe.disjoint firstValue member secondValue memberToo firstNet secondNet
        firstEq secondEq inFirst inSecond

/-! When the networks come from prefixes, being apart everywhere is a matter of the pairs of
prefixes alone. -/

variable {Source : Type} {sources : List Source}
  {shape : Source → Option (PrefixNet width)}

/-- A shorter mask takes the base of a longer network neither to itself nor to the base of
the shorter network. -/
def PrefixesApart (shape : Source → Option (PrefixNet width)) (sources : List Source) : Prop :=
  ∀ short ∈ sources, ∀ long ∈ sources, ∀ shortPrefix longPrefix,
    shape short = some shortPrefix → shape long = some longPrefix →
      shortPrefix.length < longPrefix.length →
        longPrefix.net.base &&& shortPrefix.net.mask ≠ longPrefix.net.base ∧
        longPrefix.net.base &&& shortPrefix.net.mask ≠ shortPrefix.net.base

theorem prefixesApart_of_searchApart (value : Source → Value)
    (members : ∀ source ∈ sources, value source ∈ table)
    (nets : ∀ source ∈ sources, net (value source) = (shape source).map PrefixNet.net)
    (apart : ∀ address, SearchApart net table address) : PrefixesApart shape sources := by
  intro short shortMember long longMember shortPrefix longPrefix shortEq longEq shorter
  have shortNet : net (value short) = some shortPrefix.net := by
    rw [nets short shortMember, shortEq, Option.map_some]
  have longNet : net (value long) = some longPrefix.net := by
    rw [nets long longMember, longEq, Option.map_some]
  constructor
  · intro keepsBase
    obtain ⟨address, taken, outside⟩ :=
      (Masked.exists_taken_outside_iff longPrefix.length_le).mpr ⟨shorter, keepsBase⟩
    exact outside ((apart address).takenInside (value short) (members short shortMember)
      (value long) (members long longMember) _ _ shortNet longNet taken.symm)
  · intro inside
    obtain ⟨address, inShort, inLong⟩ :=
      (Masked.exists_in_both_iff (Nat.le_of_lt shorter)).mpr inside
    have same := (apart address).disjoint (value short) (members short shortMember)
      (value long) (members long longMember) _ _ shortNet longNet inShort inLong
    rw [same, longNet] at shortNet
    have masks := congrArg Masked.mask (Option.some.inj shortNet)
    have lengths := prefixMask_injective longPrefix.length_le shortPrefix.length_le masks
    omega

/-- Two networks that share an address are the same or one has the shorter mask. -/
theorem eq_or_shorter_of_contains {first second : PrefixNet width} {address : BitVec width}
    (inFirst : first.net.Contains address) (inSecond : second.net.Contains address) :
    first.net.base = second.net.base ∨
      (first.length < second.length ∧
        second.net.base &&& first.net.mask = first.net.base) ∨
      (second.length < first.length ∧
        first.net.base &&& second.net.mask = second.net.base) := by
  rcases Nat.lt_trichotomy first.length second.length with less | same | greater
  · exact .inr (.inl ⟨less,
      (Masked.exists_in_both_iff (Nat.le_of_lt less)).mp ⟨address, inFirst, inSecond⟩⟩)
  · left
    rw [← inFirst, ← inSecond]
    simp only [PrefixNet.net, Masked.ofPrefix, same]
  · exact .inr (.inr ⟨greater,
      (Masked.exists_in_both_iff (Nat.le_of_lt greater)).mp ⟨address, inSecond, inFirst⟩⟩)

theorem searchApart_of_prefixesApart (value : Source → Value)
    (members : ∀ found ∈ table, ∃ source ∈ sources, value source = found)
    (nets : ∀ source ∈ sources, net (value source) = (shape source).map PrefixNet.net)
    (distinct : ∀ first ∈ table, ∀ second ∈ table, ∀ firstNet secondNet,
      net first = some firstNet → net second = some secondNet →
        firstNet.base = secondNet.base → first = second)
    (apart : PrefixesApart shape sources) (address : BitVec width) :
    SearchApart net table address := by
  have shaped : ∀ found ∈ table, ∀ foundNet, net found = some foundNet →
      ∃ source ∈ sources, ∃ foundPrefix, shape source = some foundPrefix ∧
        foundPrefix.net = foundNet := by
    intro found member foundNet foundEq
    obtain ⟨source, sourceMember, same⟩ := members found member
    rw [← same, nets source sourceMember, Option.map_eq_some_iff] at foundEq
    obtain ⟨foundPrefix, shapeEq, netEq⟩ := foundEq
    exact ⟨source, sourceMember, foundPrefix, shapeEq, netEq⟩
  refine ⟨?_, ?_⟩
  · intro first firstMember second secondMember firstNet secondNet firstEq secondEq inFirst
      inSecond
    obtain ⟨one, oneMember, onePrefix, oneShape, oneNet⟩ :=
      shaped first firstMember firstNet firstEq
    obtain ⟨other, otherMember, otherPrefix, otherShape, otherNet⟩ :=
      shaped second secondMember secondNet secondEq
    rw [← oneNet] at inFirst
    rw [← otherNet] at inSecond
    rcases eq_or_shorter_of_contains inFirst inSecond with same | ⟨less, masked⟩ |
      ⟨greater, masked⟩
    · rw [oneNet, otherNet] at same
      exact distinct first firstMember second secondMember firstNet secondNet firstEq secondEq
        same
    · exact absurd masked (apart one oneMember other otherMember onePrefix otherPrefix oneShape
        otherShape less).2
    · exact absurd masked (apart other otherMember one oneMember otherPrefix onePrefix
        otherShape oneShape greater).2
  · intro tried triedMember found member triedNet foundNet triedEq foundEq taken
    obtain ⟨one, oneMember, onePrefix, oneShape, oneNet⟩ :=
      shaped tried triedMember triedNet triedEq
    obtain ⟨other, otherMember, otherPrefix, otherShape, otherNet⟩ :=
      shaped found member foundNet foundEq
    rw [← oneNet, ← otherNet] at taken
    rw [← otherNet]
    by_contra outside
    obtain ⟨shorter, keepsBase⟩ := (Masked.exists_taken_outside_iff otherPrefix.length_le).mp
      ⟨address, taken.symm, outside⟩
    exact (apart one oneMember other otherMember onePrefix otherPrefix oneShape otherShape
      shorter).1 keepsBase

end NetworkSearch

end F2k.Lib
