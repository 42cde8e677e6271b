import F2k.DnsCache
import Mathlib.Algebra.BigOperators.Group.List.Basic
import Mathlib.Data.List.Forall2

namespace F2k

open Lib Lib.CacheEvent

/-! What is in the DNS cache and who refers to it, and what one call does to that. -/

abbrev SavedName := Bytes × Int

section Pairs

variable {Slot Item Key : Type} {related : Slot → Item → Prop} {slots : List Slot}
  {items : List Item}

theorem forall₂_filter (keepSlot : Slot → Bool) (keepItem : Item → Bool)
    (pairs : List.Forall₂ related slots items)
    (same : ∀ slot item, related slot item → keepSlot slot = keepItem item) :
    List.Forall₂
      (fun slot item =>
        related slot item ∧ slot ∈ slots.filter keepSlot ∧ item ∈ items.filter keepItem)
      (slots.filter keepSlot) (items.filter keepItem) := by
  induction pairs with
  | nil => exact .nil
  | @cons slot item _ _ pair _ ih =>
      have kept := same slot item pair
      rw [List.filter_cons, List.filter_cons, ← kept]
      cases keepSlot slot with
      | false => exact ih
      | true =>
          refine .cons ⟨pair, List.mem_cons_self, List.mem_cons_self⟩ (ih.imp ?_)
          rintro other another ⟨found, slotInside, itemInside⟩
          exact ⟨found, List.mem_cons_of_mem _ slotInside, List.mem_cons_of_mem _ itemInside⟩

theorem forall₂_mem (pairs : List.Forall₂ related slots items) :
    List.Forall₂ (fun slot item => slot ∈ slots ∧ related slot item) slots items := by
  have whole := forall₂_filter (fun _ => true) (fun _ => true) pairs (fun _ _ _ => rfl)
  simp only [List.filter_true] at whole
  exact whole.imp fun _ _ ⟨pair, inside, _⟩ => ⟨inside, pair⟩

theorem forall₂_exists {slot : Slot} (pairs : List.Forall₂ related slots items)
    (member : slot ∈ slots) : ∃ item ∈ items, related slot item := by
  induction pairs with
  | nil => cases member
  | @cons _ item _ _ pair _ ih =>
      rcases List.mem_cons.mp member with rfl | later
      · exact ⟨item, List.mem_cons_self, pair⟩
      · obtain ⟨other, inside, found⟩ := ih later
        exact ⟨other, List.mem_cons_of_mem _ inside, found⟩

theorem forall₂_nodup (key : Item → Key) (pairs : List.Forall₂ related slots items)
    (keyed : ∀ slot item other, related slot item → related slot other → key item = key other)
    (distinct : (items.map key).Nodup) : slots.Nodup := by
  induction pairs with
  | nil => exact List.nodup_nil
  | @cons slot item _ _ pair rest ih =>
      rw [List.map_cons, List.nodup_cons] at distinct
      refine List.nodup_cons.mpr ⟨fun again => distinct.1 ?_, ih distinct.2⟩
      obtain ⟨other, inside, found⟩ := forall₂_exists rest again
      rw [keyed slot item other pair found]
      exact List.mem_map_of_mem inside

end Pairs

namespace DnsCache

/-- The entry of an item, which the tree finds by its address. -/
structure Stores (cache : DnsCache) (pointer : Pointer) (item : Bytes × SavedName) : Prop where
  allocated : ∃ refcnt, cache.memctx.lookup pointer =
    some { addr := item.1, name := item.2.1, lastChecked := item.2.2, refcnt }
  found : cache.avl.lookup item.1 = some pointer

/-- Every allocated entry counts the references to it, and entries without one are freed. -/
structure Counted (memctx : Table Pointer DnsCacheEntry) (references : List Pointer) : Prop where
  refcnt : ∀ pointer entry, memctx.lookup pointer = some entry →
    entry.refcnt.toNat = references.count pointer
  allocated : ∀ pointer, (memctx.lookup pointer).isSome ↔ pointer ∈ references

/-- A cache with these items in it, the one used last in front, and these outstanding
handles. -/
structure Holds (cache : DnsCache) (handles : List Pointer)
    (items : List (Bytes × SavedName)) : Prop where
  contents : List.Forall₂ cache.Stores cache.lru items
  distinct : (items.map Prod.fst).Nodup
  tree : ∀ addr, (cache.avl.lookup addr).isSome → addr ∈ items.map Prod.fst
  counted : Counted cache.memctx (cache.lru ++ handles)

variable {cache : DnsCache} {handles : List Pointer} {items : List (Bytes × SavedName)}
  {pointer : Pointer} {addr : Bytes} {entry : DnsCacheEntry}

theorem Stores.unique_item {item other : Bytes × SavedName} (first : cache.Stores pointer item)
    (second : cache.Stores pointer other) : item = other := by
  obtain ⟨refcnt, isFirst⟩ := first.allocated
  obtain ⟨_, isSecond⟩ := second.allocated
  have same := Option.some.inj (isFirst.symm.trans isSecond)
  simp only [DnsCacheEntry.mk.injEq] at same
  exact Prod.ext same.1 (Prod.ext same.2.1 same.2.2.1)

namespace Holds

theorem lru_nodup (holds : cache.Holds handles items) : cache.lru.Nodup :=
  forall₂_nodup Prod.fst holds.contents
    (fun _ _ _ first second => congrArg Prod.fst (first.unique_item second)) holds.distinct

theorem stores_of_mem (holds : cache.Holds handles items) (member : pointer ∈ cache.lru) :
    ∃ item ∈ items, cache.Stores pointer item :=
  forall₂_exists holds.contents member

/-- What the tree finds is in the list. -/
theorem stores_of_found (holds : cache.Holds handles items)
    (found : cache.avl.lookup addr = some pointer) :
    pointer ∈ cache.lru ∧ ∃ value, (addr, value) ∈ items ∧ cache.Stores pointer (addr, value) := by
  have isKey := holds.tree addr (by rw [found]; rfl)
  obtain ⟨⟨_, value⟩, inside, rfl⟩ := List.mem_map.mp isKey
  obtain ⟨other, member, stores⟩ := forall₂_exists holds.contents.flip inside
  obtain rfl := Option.some.inj (stores.found.symm.trans found)
  exact ⟨member, value, inside, stores⟩

theorem stores_first {item : Bytes × SavedName} (holds : cache.Holds handles (item :: items))
    (found : cache.avl.lookup item.1 = some pointer) : cache.Stores pointer item := by
  obtain ⟨-, value, inside, stores⟩ := holds.stores_of_found found
  have isItem : (item.1, value) = item := by
    rcases List.mem_cons.mp inside with same | later
    · exact same
    · exact absurd (List.mem_map_of_mem later) (List.nodup_cons.mp holds.distinct).1
  exact isItem ▸ stores

theorem missing (holds : cache.Holds handles items) (unknown : cache.avl.lookup addr = none) :
    addr ∉ items.map Prod.fst := by
  intro isKey
  obtain ⟨item, inside, rfl⟩ := List.mem_map.mp isKey
  obtain ⟨pointer, -, stores⟩ := forall₂_exists holds.contents.flip inside
  exact Option.some_ne_none pointer (stores.found.symm.trans unknown)

end Holds

/-! References -/

section References

variable {references : List Pointer}

theorem Counted.perm {others : List Pointer} (counted : Counted cache.memctx references)
    (perm : references.Perm others) : Counted cache.memctx others := by
  constructor
  · intro pointer entry found
    rw [← perm.count_eq]
    exact counted.refcnt pointer entry found
  · intro pointer
    rw [counted.allocated, perm.mem_iff]

theorem Counted.fresh (counted : Counted cache.memctx references)
    (free : cache.memctx.lookup pointer = none) : pointer ∉ references := by
  rw [← counted.allocated, free]
  simp

theorem Counted.decref (counted : Counted cache.memctx references)
    (member : pointer ∈ references) :
    ∃ memctx, cache.decrefElm pointer = .ok { cache with memctx } ∧
      Counted memctx (references.erase pointer) ∧
      (∀ other ∈ references.erase pointer, ∀ entry, cache.memctx.lookup other = some entry →
        ∃ refcnt, memctx.lookup other = some { entry with refcnt }) ∧
      ∀ other, cache.memctx.lookup other = none → memctx.lookup other = none := by
  obtain ⟨entry, found⟩ := Option.isSome_iff_exists.mp ((counted.allocated pointer).mpr member)
  have counts := counted.refcnt pointer entry found
  have positive := List.count_pos_iff.mpr member
  have less : (entry.refcnt - 1).toNat = (references.erase pointer).count pointer := by
    rw [List.count_erase_self, ← counts]
    exact UInt32.toNat_sub_of_le _ _ (UInt32.le_iff_toNat_le.mpr (counts ▸ positive))
  have last : entry.refcnt - 1 = 0 ↔ pointer ∉ references.erase pointer := by
    rw [← List.count_eq_zero, ← less, ← UInt32.toNat_inj]
    rfl
  have stays : ∀ other, other ≠ pointer →
      (other ∈ references.erase pointer ↔ other ∈ references) ∧
        (references.erase pointer).count other = references.count other :=
    fun other another => ⟨List.mem_erase_of_ne another, List.count_erase_of_ne another⟩
  rw [decrefElm, found]
  by_cases gone : entry.refcnt - 1 = 0
  · refine ⟨cache.memctx.erase pointer, by simp only [if_pos gone], ?_, ?_, ?_⟩
    · constructor
      · intro other entry' found'
        have another : other ≠ pointer := by
          rintro rfl
          simp [AList.lookup_erase] at found'
        rw [AList.lookup_erase_ne another] at found'
        rw [(stays other another).2]
        exact counted.refcnt other entry' found'
      · intro other
        by_cases this : other = pointer
        · subst this
          rw [AList.lookup_erase]
          exact iff_of_false (by simp) (last.mp gone)
        · rw [AList.lookup_erase_ne this, (stays other this).1]
          exact counted.allocated other
    · intro other referred entry' found'
      have another : other ≠ pointer := by
        rintro rfl
        exact last.mp gone referred
      exact ⟨entry'.refcnt, (AList.lookup_erase_ne another).trans found'⟩
    · intro other free
      by_cases this : other = pointer
      · rw [this, AList.lookup_erase]
      · rw [AList.lookup_erase_ne this, free]
  · refine ⟨cache.memctx.insert pointer { entry with refcnt := entry.refcnt - 1 },
      by simp only [if_neg gone], ?_, ?_, ?_⟩
    · constructor
      · intro other entry' found'
        by_cases this : other = pointer
        · subst this
          rw [AList.lookup_insert] at found'
          cases found'
          exact less
        · rw [AList.lookup_insert_ne this] at found'
          rw [(stays other this).2]
          exact counted.refcnt other entry' found'
      · intro other
        by_cases this : other = pointer
        · subst this
          rw [AList.lookup_insert]
          exact iff_of_true rfl (not_not.mp (mt last.mpr gone))
        · rw [AList.lookup_insert_ne this, (stays other this).1]
          exact counted.allocated other
    · intro other _ entry' found'
      by_cases this : other = pointer
      · subst this
        rw [found] at found'
        obtain rfl := Option.some.inj found'
        exact ⟨entry.refcnt - 1, AList.lookup_insert _⟩
      · exact ⟨entry'.refcnt, (AList.lookup_insert_ne this).trans found'⟩
    · intro other free
      have another : other ≠ pointer := by
        rintro rfl
        rw [free] at found
        cases found
      rw [AList.lookup_insert_ne another, free]

theorem Counted.incref (counted : Counted cache.memctx references)
    (found : cache.memctx.lookup pointer = some entry) (fits : entry.refcnt.toNat + 1 < 2 ^ 32) :
    Counted (cache.memctx.insert pointer { entry with refcnt := entry.refcnt + 1 })
      (pointer :: references) := by
  constructor
  · intro other entry' found'
    by_cases this : other = pointer
    · subst this
      rw [AList.lookup_insert] at found'
      cases found'
      rw [List.count_cons_self, ← counted.refcnt other entry found]
      simp only [UInt32.toNat_add, UInt32.toNat_one]
      exact Nat.mod_eq_of_lt fits
    · rw [AList.lookup_insert_ne this] at found'
      rw [List.count_cons_of_ne (Ne.symm this)]
      exact counted.refcnt other entry' found'
  · intro other
    by_cases this : other = pointer
    · subst this
      rw [AList.lookup_insert]
      exact iff_of_true rfl List.mem_cons_self
    · rw [AList.lookup_insert_ne this, counted.allocated, List.mem_cons, or_iff_right this]

theorem Counted.calloc (counted : Counted cache.memctx references) (entry : DnsCacheEntry)
    (free : cache.memctx.lookup pointer = none) (both : entry.refcnt = 2) :
    Counted (cache.memctx.insert pointer entry) (pointer :: pointer :: references) := by
  have none := counted.fresh free
  constructor
  · intro other entry' found'
    by_cases this : other = pointer
    · subst this
      rw [AList.lookup_insert] at found'
      cases found'
      rw [List.count_cons_self, List.count_cons_self, List.count_eq_zero.mpr none, both]
      rfl
    · rw [AList.lookup_insert_ne this] at found'
      rw [List.count_cons_of_ne (Ne.symm this), List.count_cons_of_ne (Ne.symm this)]
      exact counted.refcnt other entry' found'
  · intro other
    by_cases this : other = pointer
    · subst this
      rw [AList.lookup_insert]
      exact iff_of_true rfl List.mem_cons_self
    · rw [AList.lookup_insert_ne this, counted.allocated, List.mem_cons, List.mem_cons,
        or_iff_right this, or_iff_right this]

end References

/-! Operations -/

namespace Holds

/-- The slots and items behind one that goes are those that are left. -/
theorem contents_without (holds : cache.Holds handles items) {item : Bytes × SavedName}
    (stores : cache.Stores pointer item) {after : DnsCache}
    (keeps : ∀ slot other, slot ∈ cache.lru.erase pointer → other.1 ≠ item.1 →
      cache.Stores slot other → after.Stores slot other) :
    List.Forall₂ after.Stores (cache.lru.erase pointer) (without item.1 items) := by
  have same : ∀ slot other, cache.Stores slot other →
      (slot != pointer) = decide (other.1 ≠ item.1) := by
    intro slot other stored
    by_cases this : slot = pointer
    · subst this
      rw [stored.unique_item stores]
      simp
    · have another : other.1 ≠ item.1 := fun sameAddr =>
        this (Option.some.inj (stored.found.symm.trans (sameAddr ▸ stores.found)))
      simp [this, another]
  have rest := forall₂_filter _ _ holds.contents same
  rw [← holds.lru_nodup.erase_eq_filter] at rest
  refine rest.imp ?_
  rintro slot other ⟨stored, slotInside, itemInside⟩
  exact keeps slot other slotInside (by simpa using (List.mem_filter.mp itemInside).2) stored

theorem distinct_without (holds : cache.Holds handles items) (addr : Bytes) :
    ((without addr items).map Prod.fst).Nodup := by
  rw [map_fst_without]
  exact holds.distinct.filter _

/-- An entry that leaves the list and the tree loses the reference that they were. -/
theorem unlink (holds : cache.Holds handles items) {item : Bytes × SavedName}
    (member : pointer ∈ cache.lru) (stores : cache.Stores pointer item) :
    ∃ memctx,
      decrefElm
          { cache with lru := cache.lru.erase pointer, avl := cache.avl.erase item.1 } pointer =
        .ok
          { cache with
            memctx
            lru := cache.lru.erase pointer
            avl := cache.avl.erase item.1 } ∧
      Holds
        { cache with
          memctx
          lru := cache.lru.erase pointer
          avl := cache.avl.erase item.1 }
        handles (without item.1 items) ∧
      ∀ other, cache.memctx.lookup other = none → memctx.lookup other = none := by
  obtain ⟨memctx, ran, counted, keeps, frees⟩ := @Counted.decref
    { cache with lru := cache.lru.erase pointer, avl := cache.avl.erase item.1 } pointer _
    holds.counted (List.mem_append_left _ member)
  rw [List.erase_append_left _ member] at counted keeps
  refine ⟨memctx, ran, ⟨?_, holds.distinct_without _, ?_, counted⟩, frees⟩
  · apply holds.contents_without stores
    intro slot other inside another stored
    constructor
    · obtain ⟨references, allocated⟩ := stored.allocated
      obtain ⟨refcnt, kept⟩ := keeps slot (List.mem_append_left _ inside) _ allocated
      exact ⟨refcnt, kept⟩
    · exact (AList.lookup_erase_ne another).trans stored.found
  · intro addr found
    by_cases this : addr = item.1
    · subst this
      simp [AList.lookup_erase] at found
    · simp only [AList.lookup_erase_ne this] at found
      rw [map_fst_without]
      exact List.mem_filter.mpr ⟨holds.tree addr found, by simpa using this⟩

theorem release (holds : cache.Holds handles items) (member : pointer ∈ handles) :
    ∃ memctx, cache.decrefElm pointer = .ok { cache with memctx } ∧
      Holds { cache with memctx } (handles.erase pointer) items := by
  obtain ⟨memctx, ran, counted, keeps, -⟩ :=
    holds.counted.decref (List.mem_append_right _ member)
  have perm : ((cache.lru ++ handles).erase pointer).Perm
      (cache.lru ++ handles.erase pointer) := by
    refine (List.perm_append_comm.erase pointer).trans ?_
    rw [List.erase_append_left _ member]
    exact List.perm_append_comm
  refine ⟨memctx, ran, ⟨?_, holds.distinct, holds.tree, counted.perm perm⟩⟩
  refine (forall₂_mem holds.contents).imp ?_
  rintro slot item ⟨inside, stored⟩
  refine ⟨?_, stored.found⟩
  obtain ⟨references, allocated⟩ := stored.allocated
  obtain ⟨refcnt, kept⟩ := keeps slot (perm.mem_iff.mpr (List.mem_append_left _ inside)) _
    allocated
  exact ⟨refcnt, kept⟩

theorem use (holds : cache.Holds handles items) {item : Bytes × SavedName}
    (member : pointer ∈ cache.lru) (stores : cache.Stores pointer item)
    (found : cache.memctx.lookup pointer = some entry) (fits : entry.refcnt.toNat + 1 < 2 ^ 32) :
    Holds
      { cache with
        lru := pointer :: cache.lru.erase pointer
        memctx := cache.memctx.insert pointer { entry with refcnt := entry.refcnt + 1 } }
      (pointer :: handles) (item :: without item.1 items) := by
  obtain ⟨refcnt, allocated⟩ := stores.allocated
  obtain rfl := Option.some.inj (found.symm.trans allocated)
  constructor
  · refine .cons ⟨⟨_, AList.lookup_insert _⟩, stores.found⟩ (holds.contents_without stores ?_)
    intro slot other inside _ stored
    have another : slot ≠ pointer := (holds.lru_nodup.mem_erase_iff.mp inside).1
    refine ⟨?_, stored.found⟩
    obtain ⟨references, isThere⟩ := stored.allocated
    exact ⟨references, (AList.lookup_insert_ne another).trans isThere⟩
  · exact List.nodup_cons.mpr ⟨not_mem_map_fst_without _ _, holds.distinct_without _⟩
  · intro addr isFound
    by_cases this : addr = item.1
    · rw [this]
      exact List.mem_cons_self
    · apply List.mem_cons_of_mem
      rw [map_fst_without]
      exact List.mem_filter.mpr ⟨holds.tree addr isFound, by simpa using this⟩
  · refine (holds.counted.incref found fits).perm ?_
    have moved := List.perm_cons_erase member
    exact (List.Perm.cons pointer (moved.append_right handles)).trans
      (List.perm_middle.symm.trans (List.Perm.refl _))

theorem put (holds : cache.Holds handles items) (item : Bytes × SavedName)
    (missing : item.1 ∉ items.map Prod.fst) (free : cache.memctx.lookup pointer = none) :
    Holds
      { cache with
        memctx := cache.memctx.insert pointer
          { addr := item.1, name := item.2.1, lastChecked := item.2.2, refcnt := 2 }
        avl := cache.avl.insert item.1 pointer
        lru := pointer :: cache.lru }
      (pointer :: handles) (item :: items) := by
  have unused := holds.counted.fresh free
  constructor
  · refine .cons ⟨⟨2, AList.lookup_insert _⟩, AList.lookup_insert _⟩ ?_
    refine holds.contents.imp ?_
    intro slot other stored
    obtain ⟨references, allocated⟩ := stored.allocated
    have anotherSlot : slot ≠ pointer := by
      rintro rfl
      rw [free] at allocated
      cases allocated
    have another : other.1 ≠ item.1 := by
      intro same
      exact missing (same ▸ holds.tree other.1 (by rw [stored.found]; rfl))
    exact ⟨⟨references, (AList.lookup_insert_ne anotherSlot).trans allocated⟩,
      (AList.lookup_insert_ne another).trans stored.found⟩
  · exact List.nodup_cons.mpr ⟨missing, holds.distinct⟩
  · intro addr isFound
    by_cases this : addr = item.1
    · rw [this]
      exact List.mem_cons_self
    · simp only [AList.lookup_insert_ne this] at isFound
      exact List.mem_cons_of_mem _ (holds.tree addr isFound)
  · refine (holds.counted.calloc _ free rfl).perm ?_
    exact List.Perm.cons pointer List.perm_middle.symm

theorem replace (holds : cache.Holds handles items) (item : Bytes × SavedName) {old : SavedName}
    {oldentry : Pointer} (member : oldentry ∈ cache.lru)
    (stores : cache.Stores oldentry (item.1, old))
    (free : cache.memctx.lookup pointer = none) :
    ∃ memctx,
      decrefElm
          { cache with
            memctx := cache.memctx.insert pointer
              { addr := item.1, name := item.2.1, lastChecked := item.2.2, refcnt := 2 }
            avl := cache.avl.insert item.1 pointer
            lru := (pointer :: cache.lru).erase oldentry }
          oldentry =
        .ok
          { cache with
            memctx
            avl := cache.avl.insert item.1 pointer
            lru := (pointer :: cache.lru).erase oldentry } ∧
      Holds
        { cache with
          memctx
          avl := cache.avl.insert item.1 pointer
          lru := (pointer :: cache.lru).erase oldentry }
        (pointer :: handles) (item :: without item.1 items) := by
  have unused := holds.counted.fresh free
  have another : ∀ slot ∈ cache.lru, slot ≠ pointer := by
    rintro slot inside rfl
    exact unused (List.mem_append_left _ inside)
  have fromList : (pointer :: cache.lru).erase oldentry =
      pointer :: cache.lru.erase oldentry :=
    List.erase_cons_tail (by simpa using (another oldentry member).symm)
  have counted := holds.counted.calloc
    { addr := item.1, name := item.2.1, lastChecked := item.2.2, refcnt := 2 } free rfl
  obtain ⟨memctx, ran, counted, keeps, -⟩ := @Counted.decref
    { cache with
      memctx := cache.memctx.insert pointer
        { addr := item.1, name := item.2.1, lastChecked := item.2.2, refcnt := 2 }
      avl := cache.avl.insert item.1 pointer
      lru := (pointer :: cache.lru).erase oldentry }
    oldentry _ counted
    (List.mem_cons_of_mem _ (List.mem_cons_of_mem _ (List.mem_append_left _ member)))
  have perm : ((pointer :: pointer :: (cache.lru ++ handles)).erase oldentry).Perm
      ((pointer :: cache.lru.erase oldentry) ++ (pointer :: handles)) := by
    rw [List.erase_cons_tail (by simpa using (another oldentry member).symm),
      List.erase_cons_tail (by simpa using (another oldentry member).symm),
      List.erase_append_left _ member]
    exact List.Perm.cons pointer List.perm_middle.symm
  refine ⟨memctx, ran, ?_⟩
  simp only [fromList]
  refine ⟨.cons ?_ ?_, ?_, ?_, counted.perm perm⟩
  · refine ⟨?_, AList.lookup_insert _⟩
    exact keeps pointer (perm.mem_iff.mpr List.mem_cons_self) _ (AList.lookup_insert _)
  · apply holds.contents_without stores
    intro slot other inside different stored
    have isOther := another slot (List.mem_of_mem_erase inside)
    refine ⟨?_, (AList.lookup_insert_ne different).trans stored.found⟩
    obtain ⟨references, allocated⟩ := stored.allocated
    exact keeps slot (perm.mem_iff.mpr (List.mem_cons_of_mem _ (List.mem_append_left _ inside))) _
      ((AList.lookup_insert_ne isOther).trans allocated)
  · exact List.nodup_cons.mpr ⟨not_mem_map_fst_without _ _, holds.distinct_without _⟩
  · intro addr isFound
    by_cases this : addr = item.1
    · rw [this]
      exact List.mem_cons_self
    · simp only [AList.lookup_insert_ne this] at isFound
      apply List.mem_cons_of_mem
      rw [map_fst_without]
      exact List.mem_filter.mpr ⟨holds.tree addr isFound, by simpa using this⟩

end Holds

/-! Memory -/

def itemsSize (cache : DnsCache) (items : List (Bytes × SavedName)) : Nat :=
  (items.map fun item => cache.realEntrySize item.2.1).sum

theorem itemsSize_without_le (cache : DnsCache) (addr : Bytes)
    (items : List (Bytes × SavedName)) :
    cache.itemsSize (without addr items) ≤ cache.itemsSize items := by
  induction items with
  | nil => exact Nat.le_refl _
  | cons item rest ih =>
      simp only [itemsSize, without] at ih
      simp only [itemsSize, without, List.filter_cons]
      split
      · simp only [List.map_cons, List.sum_cons]
        omega
      · simp only [List.map_cons, List.sum_cons]
        omega

theorem itemsSize_cons_without (cache : DnsCache) {item : Bytes × SavedName}
    (distinct : (items.map Prod.fst).Nodup) (inside : item ∈ items) :
    cache.itemsSize (item :: without item.1 items) = cache.itemsSize items := by
  have once : without item.1 items = items.erase item := by
    rw [without, (List.Nodup.of_map Prod.fst distinct).erase_eq_filter]
    apply List.filter_congr
    intro other member
    have same : other.1 = item.1 ↔ other = item :=
      ⟨List.inj_on_of_nodup_map distinct member inside, congrArg Prod.fst⟩
    by_cases this : other = item
    · simp [this]
    · simp [this, same]
  rw [once, itemsSize, itemsSize]
  exact ((List.perm_cons_erase inside).map _).sum_eq.symm

/-- What is allocated is at least what different entries take. -/
theorem sum_le_of_forall₂ {memctx : Table Pointer DnsCacheEntry} {size : Bytes → Nat}
    {slots : List Pointer}
    (pairs : List.Forall₂ (fun pointer (item : Bytes × SavedName) =>
      ∃ entry, memctx.lookup pointer = some entry ∧ entry.name = item.2.1) slots items)
    (distinct : slots.Nodup) :
    (items.map fun item => size item.2.1).sum ≤
      (memctx.values.map fun entry => size entry.name).sum := by
  induction slots generalizing memctx items with
  | nil =>
      cases pairs
      exact Nat.zero_le _
  | cons pointer slots ih =>
      cases pairs with
      | @cons _ item _ items pair rest =>
      obtain ⟨entry, found, named⟩ := pair
      obtain ⟨once, others⟩ := List.nodup_cons.mp distinct
      have later : List.Forall₂ (fun slot (item : Bytes × SavedName) =>
          ∃ entry, (memctx.erase pointer).lookup slot = some entry ∧
            entry.name = item.2.1) slots items := by
        refine (forall₂_mem rest).imp ?_
        rintro other another ⟨inside, isThere⟩
        have different : other ≠ pointer := by
          rintro rfl
          exact once inside
        rwa [AList.lookup_erase_ne different]
      rw [Table.sum_values_erase found, List.map_cons, List.sum_cons, named]
      exact Nat.add_le_add_left (ih later others) _

theorem Holds.itemsSize_le_bytesOut (holds : cache.Holds handles items) :
    cache.itemsSize items ≤ cache.bytesOut := by
  refine sum_le_of_forall₂ (holds.contents.imp ?_) holds.lru_nodup
  intro pointer item stores
  obtain ⟨refcnt, allocated⟩ := stores.allocated
  exact ⟨_, allocated, rfl⟩

theorem Holds.sizes (holds : cache.Holds handles items) :
    ((cache.lru.filterMap fun pointer => cache.memctx.lookup pointer).map
      fun entry => cache.realEntrySize entry.name).sum = cache.itemsSize items := by
  have contents := holds.contents
  rw [itemsSize]
  clear holds
  generalize cache.lru = slots at contents
  induction contents with
  | nil => rfl
  | @cons pointer item _ _ stores _ ih =>
      obtain ⟨refcnt, allocated⟩ := stores.allocated
      simp only [List.filterMap_cons, allocated, List.map_cons, List.sum_cons, ih]

/-! What the calls do -/

/-- The cache is what its log says. -/
structure Sound (cache : DnsCache) (handles : List Pointer)
    (log : List (CacheEvent Bytes SavedName)) : Prop where
  holds : cache.Holds handles (replay log)
  fits : cache.itemsSize (replay log) ≤ cache.maxMemB
  evictsOldest : EvictsOldest log
  expiresOld : ExpiresOld Prod.snd cache.timeoutS log

variable {log : List (CacheEvent Bytes SavedName)}

theorem sound_new (entrySize maxmemM : Nat) (timeoutS : Int) :
    Sound (.new entrySize maxmemM timeoutS) [] [] := by
  refine ⟨⟨.nil, List.nodup_nil, ?_, ?_, ?_⟩, Nat.zero_le _, trivial, trivial⟩
  · intro addr found
    cases found
  · intro pointer entry found
    cases found
  · intro pointer
    exact iff_of_false (by simp [new]) (by simp [new])

theorem Holds.last (holds : cache.Holds handles items)
    (last : cache.lru.getLast? = some pointer) :
    ∃ front item, items = front ++ [item] ∧ cache.Stores pointer item ∧ pointer ∈ cache.lru ∧
      cache.lru.dropLast = cache.lru.erase pointer ∧ without item.1 items = front := by
  obtain ⟨slots, whole⟩ := List.getLast?_eq_some_iff.mp last
  have contents := holds.contents.flip
  rw [whole] at contents
  have split := (List.take_append_drop slots.length items).symm
  have tail := List.forall₂_drop_append items slots [pointer] contents
  generalize items.take slots.length = front at split
  generalize items.drop slots.length = rest at split tail
  cases tail with
  | @cons item _ _ _ stores none =>
      cases none
      refine ⟨front, item, split, stores, ?_, ?_, ?_⟩
      · rw [whole]
        exact List.mem_append_right _ List.mem_cons_self
      · have distinct := holds.lru_nodup
        rw [whole, List.nodup_append] at distinct
        have absent : pointer ∉ slots := fun member =>
          distinct.2.2 pointer member pointer List.mem_cons_self rfl
        rw [whole, List.dropLast_concat, List.erase_append_right _ absent, List.erase_cons_head,
          List.append_nil]
      · have distinct := holds.distinct
        rw [split, List.map_append, List.nodup_append] at distinct
        rw [split, without, List.filter_append]
        have kept : front.filter (fun other => other.1 ≠ item.1) = front := by
          apply List.filter_eq_self.mpr
          intro other member
          have different := distinct.2.2 other.1 (List.mem_map_of_mem member) item.1
            List.mem_cons_self
          simpa using different
        rw [kept]
        simp

/-- Room is made by evicting what was used the longest time ago. -/
theorem makeRoom_sound {bytesOut neededSize : Nat} (turns freedSize : Nat)
    (dropped : List Bytes) (sound : cache.Sound handles log)
    (enough : cache.lru.length < turns)
    (counted : cache.itemsSize (replay log) + freedSize ≤ bytesOut) :
    ∃ room evicted memctx avl lru,
      makeRoom bytesOut neededSize turns freedSize cache dropped =
        .ok (room, { cache with memctx, avl, lru }, evicted ++ dropped) ∧
      Sound { cache with memctx, avl, lru } handles (evicted.map .evicted ++ log) ∧
      (room = true →
        cache.itemsSize (replay (evicted.map .evicted ++ log)) + neededSize ≤ cache.maxMemB) ∧
      ∀ other, cache.memctx.lookup other = none → memctx.lookup other = none := by
  induction turns generalizing freedSize dropped cache log with
  | zero => exact absurd enough (Nat.not_lt_zero _)
  | succ turns ih =>
      rw [makeRoom]
      split
      · cases last : cache.lru.getLast? with
        | none =>
            exact ⟨false, [], cache.memctx, cache.avl, cache.lru, rfl, sound, by simp,
              fun _ free => free⟩
        | some oldEntry =>
            obtain ⟨front, item, ends, stores, member, dropLast, rest⟩ := sound.holds.last last
            obtain ⟨refcnt, allocated⟩ := stores.allocated
            obtain ⟨memctx, ran, holds, frees⟩ := sound.holds.unlink member stores
            have smaller : cache.itemsSize (replay (.evicted item.1 :: log)) +
                cache.realEntrySize item.2.1 = cache.itemsSize (replay log) := by
              rw [replay, rest, ends]
              simp [itemsSize]
            have next : Sound
                { cache with
                  memctx
                  lru := cache.lru.erase oldEntry
                  avl := cache.avl.erase item.1 }
                handles (.evicted item.1 :: log) := by
              refine ⟨holds, ?_, ⟨?_, sound.evictsOldest⟩, sound.expiresOld⟩
              · have fits := sound.fits
                change cache.itemsSize (replay (.evicted item.1 :: log)) ≤ cache.maxMemB
                omega
              · exact fun other cached => sinceUse_le_of_last ends cached
            obtain ⟨room, evicted, memctx', avl, lru, made, finally', fits, frees'⟩ :=
              ih (freedSize + cache.realEntrySize item.2.1) (item.1 :: dropped) next
                (by
                  have some := List.length_pos_of_mem member
                  rw [← dropLast, List.length_dropLast]
                  omega)
                (by
                  change cache.itemsSize (replay (.evicted item.1 :: log)) + _ ≤ bytesOut
                  omega)
            refine ⟨room, evicted ++ [item.1], memctx', avl, lru, ?_, ?_, ?_, ?_⟩
            · simp only [allocated, dropLast, ran]
              rw [List.append_assoc, List.singleton_append]
              exact made
            · rw [List.map_append, List.append_assoc]
              exact finally'
            · rw [List.map_append, List.append_assoc]
              exact fits
            · exact fun other free => frees' other (frees other free)
      · next enoughRoom =>
          refine ⟨true, [], cache.memctx, cache.avl, cache.lru, rfl, sound, ?_, fun _ free => free⟩
          intro _
          simp only [List.map_nil, List.nil_append]
          omega

/-- What `dns_cache_save_elm` does, and what it returns. -/
theorem saveElm_sound (sound : cache.Sound handles log) (addr name : Bytes) (now : Int)
    {calloc : Option Pointer} (fresh : ∀ pointer ∈ calloc, cache.memctx.lookup pointer = none) :
    ∃ memctx avl lru evicted result,
      cache.saveElm addr name now calloc =
        .ok ({ cache with memctx, avl, lru }, result, evicted) ∧
      match result with
      | .elm pointer =>
          calloc = some pointer ∧
          Stores { cache with memctx, avl, lru } pointer (addr, (name, now)) ∧
          Sound { cache with memctx, avl, lru } (pointer :: handles)
            (.saved addr (name, now) :: (evicted.map .evicted ++ log))
      | .elmOfNull =>
          calloc = none ∧
          Sound { cache with memctx, avl, lru } handles (evicted.map .evicted ++ log)
      | .null => Sound { cache with memctx, avl, lru } handles (evicted.map .evicted ++ log) := by
  obtain ⟨room, evicted, memctx, avl, lru, made, sound, fits, frees⟩ :=
    @makeRoom_sound cache handles log cache.bytesOut (cache.realEntrySize name)
      (cache.lru.length + 1) 0 [] sound (Nat.lt_succ_self _)
      sound.holds.itemsSize_le_bytesOut
  rw [List.append_nil] at made
  rw [saveElm, made]
  simp only [bind, Except.bind]
  cases room with
  | false => exact ⟨memctx, avl, lru, evicted, .null, rfl, sound⟩
  | true =>
      cases calloc with
      | none => exact ⟨memctx, avl, lru, evicted, .elmOfNull, rfl, rfl, sound⟩
      | some pointer =>
          have free := frees pointer (fresh pointer rfl)
          have size : cache.itemsSize
              (replay (.saved addr (name, now) :: (evicted.map .evicted ++ log))) ≤
                cache.maxMemB := by
            have rest := cache.itemsSize_without_le addr (replay (evicted.map .evicted ++ log))
            have enough := fits rfl
            simp only [replay, itemsSize, List.map_cons, List.sum_cons] at rest enough ⊢
            omega
          cases known : avl.lookup addr with
          | none =>
              have missing := sound.holds.missing known
              have nothing : without addr (replay (evicted.map .evicted ++ log)) =
                  replay (evicted.map .evicted ++ log) := by
                apply List.filter_eq_self.mpr
                intro item inside
                have another : item.1 ≠ addr := by
                  rintro rfl
                  exact missing (List.mem_map_of_mem inside)
                simpa using another
              have holds := sound.holds.put (addr, (name, now)) missing free
              rw [← nothing] at holds
              exact ⟨_, _, _, evicted, .elm pointer, by simp only [if_true], rfl,
                holds.stores_first (AList.lookup_insert _),
                ⟨holds, size, sound.evictsOldest, sound.expiresOld⟩⟩
          | some oldentry =>
              obtain ⟨member, value, -, stores⟩ := sound.holds.stores_of_found known
              obtain ⟨memctx, ran, holds⟩ :=
                sound.holds.replace (addr, (name, now)) member stores free
              refine ⟨memctx, _, _, evicted, .elm pointer, ?_, rfl,
                holds.stores_first (AList.lookup_insert _),
                ⟨holds, size, sound.evictsOldest, sound.expiresOld⟩⟩
              simp only at ran
              simp only [if_true, ran]

/-- What `dns_cache_get_elm` does: a hit, nothing that is known, or an entry that is too old. -/
inductive Gets (cache : DnsCache) (handles : List Pointer)
    (log : List (CacheEvent Bytes SavedName)) (addr : Bytes) (now : Int) :
    DnsCache × Option Pointer × Bool → Prop
  | hit {after : DnsCache} {pointer : Pointer} {value : SavedName}
      (known : latest addr log = some value) (young : now - value.2 ≤ after.timeoutS)
      (stores : after.Stores pointer (addr, value))
      (sound : after.Sound (pointer :: handles) (.used addr :: log)) :
      Gets cache handles log addr now (after, some pointer, false)
  | unknown (missing : latest addr log = none) :
      Gets cache handles log addr now (cache, none, false)
  | old {after : DnsCache} (sound : after.Sound handles (.expired addr now :: log)) :
      Gets cache handles log addr now (after, none, true)

theorem getElm_sound (sound : cache.Sound handles log) (addr : Bytes) (now : Int)
    (fits : ∀ pointer entry, cache.avl.lookup addr = some pointer →
      cache.memctx.lookup pointer = some entry → entry.refcnt.toNat + 1 < 2 ^ 32) :
    ∃ result, cache.getElm addr now = .ok result ∧ cache.Gets handles log addr now result := by
  rw [getElm]
  cases known : cache.avl.lookup addr with
  | none =>
      exact ⟨_, rfl, .unknown (latest_eq_none log (sound.holds.missing known))⟩
  | some pointer =>
      obtain ⟨member, value, inside, stores⟩ := sound.holds.stores_of_found known
      obtain ⟨refcnt, allocated⟩ := stores.allocated
      have latest := latest_eq_some log inside
      simp only [allocated]
      split
      · next tooOld =>
          obtain ⟨memctx, ran, holds, -⟩ := sound.holds.unlink member stores
          simp only at ran
          refine ⟨_, by rw [ran]; rfl, .old ⟨holds, ?_, sound.evictsOldest, ?_⟩⟩
          · exact Nat.le_trans (cache.itemsSize_without_le addr _) sound.fits
          · exact ⟨⟨value, latest, tooOld⟩, sound.expiresOld⟩
      · next young =>
          have used := replay_used log latest
          refine ⟨_, rfl, .hit latest (Int.not_lt.mp young)
            ⟨⟨_, AList.lookup_insert _⟩, stores.found⟩
            ⟨?_, ?_, sound.evictsOldest, sound.expiresOld⟩⟩
          · rw [used]
            exact sound.holds.use member stores allocated (fits pointer _ known allocated)
          · rw [used]
            exact (cache.itemsSize_cons_without (replay_nodup log) inside).symm ▸ sound.fits

theorem decrefElm_sound (sound : cache.Sound handles log) (member : pointer ∈ handles) :
    ∃ memctx, cache.decrefElm pointer = .ok { cache with memctx } ∧
      Sound { cache with memctx } (handles.erase pointer) log := by
  obtain ⟨memctx, ran, holds⟩ := sound.holds.release member
  exact ⟨memctx, ran, holds, sound.fits, sound.evictsOldest, sound.expiresOld⟩

end DnsCache

end F2k
