import Mathlib.Algebra.Ring.Nat
import Mathlib.Data.List.AList

namespace F2k.Lib

/-! Finite tables: what is inserted last under a key is what the key finds. -/

abbrev Table (Key Value : Type) := AList fun _ : Key => Value

namespace Table

variable {Key Value : Type} [DecidableEq Key]

def values (table : Table Key Value) : List Value :=
  table.entries.map fun entry => entry.2

theorem mem_values_iff {table : Table Key Value} {value : Value} :
    value ∈ table.values ↔ ∃ key, table.lookup key = some value := by
  simp only [values, List.mem_map]
  constructor
  · rintro ⟨⟨key, found⟩, member, rfl⟩
    exact ⟨key, AList.mem_lookup_iff.mpr member⟩
  · rintro ⟨key, found⟩
    exact ⟨⟨key, value⟩, AList.mem_lookup_iff.mp found, rfl⟩

theorem lookup_insert_congr {table other : Table Key Value}
    (same : ∀ key, table.lookup key = other.lookup key) (key : Key) (value : Value)
    (wanted : Key) :
    (table.insert key value).lookup wanted = (other.insert key value).lookup wanted := by
  by_cases here : wanted = key
  · rw [here, AList.lookup_insert, AList.lookup_insert]
  · rw [AList.lookup_insert_ne here, AList.lookup_insert_ne here, same]

def insertAll (key : Value → Key) (table : Table Key Value) (inserted : List Value) :
    Table Key Value :=
  inserted.foldl (fun table value => table.insert (key value) value) table

/-- The values that no later one of the list replaces. -/
def remaining (key : Value → Key) : List Value → List Value
  | [] => []
  | value :: later =>
      if later.any fun other => key other = key value then remaining key later
      else value :: remaining key later

theorem mem_of_mem_remaining {key : Value → Key} {inserted : List Value} {value : Value}
    (member : value ∈ remaining key inserted) : value ∈ inserted := by
  induction inserted with
  | nil => exact member
  | cons head later ih =>
      rw [remaining] at member
      split at member
      · exact List.mem_cons_of_mem head (ih member)
      · rcases List.mem_cons.mp member with rfl | inLater
        · exact List.mem_cons_self
        · exact List.mem_cons_of_mem head (ih inLater)

theorem exists_remaining_of_mem {key : Value → Key} {inserted : List Value} {value : Value}
    (member : value ∈ inserted) : ∃ kept ∈ remaining key inserted, key kept = key value := by
  induction inserted generalizing value with
  | nil => contradiction
  | cons head later ih =>
      rw [remaining]
      rcases List.mem_cons.mp member with rfl | inLater
      · split
        · next replaced =>
            obtain ⟨other, inLater, same⟩ := List.any_eq_true.mp replaced
            obtain ⟨kept, remains, keptSame⟩ := ih inLater
            exact ⟨kept, remains, keptSame.trans (of_decide_eq_true same)⟩
        · exact ⟨value, List.mem_cons_self, rfl⟩
      · obtain ⟨kept, remains, same⟩ := ih inLater
        split
        · exact ⟨kept, remains, same⟩
        · exact ⟨kept, List.mem_cons_of_mem _ remains, same⟩

theorem remaining_map {Other : Type} (key : Value → Key) (convert : Other → Value)
    (inserted : List Other) :
    remaining key (inserted.map convert) =
      (remaining (fun other => key (convert other)) inserted).map convert := by
  induction inserted with
  | nil => rfl
  | cons head later ih =>
      simp only [List.map_cons, remaining, List.any_map, ih]
      split
      · next replaced => rw [if_pos (by simpa using replaced)]
      · next kept => rw [if_neg (by simpa using kept), List.map_cons]

theorem lookup_insertAll_eq_some {key : Value → Key} {table : Table Key Value}
    {inserted : List Value} {wanted : Key} {value : Value} :
    (insertAll key table inserted).lookup wanted = some value ↔
      (value ∈ remaining key inserted ∧ key value = wanted) ∨
      ((∀ other ∈ inserted, key other ≠ wanted) ∧ table.lookup wanted = some value) := by
  induction inserted generalizing table with
  | nil => simp [insertAll, remaining]
  | cons head later ih =>
      have step : insertAll key table (head :: later) =
          insertAll key (table.insert (key head) head) later := rfl
      rw [step, ih, remaining]
      by_cases same : key head = wanted
      · subst same
        rw [AList.lookup_insert]
        by_cases replaced : ∃ other ∈ later, key other = key head
        · have anyTrue : (later.any fun other => key other = key head) = true := by
            simpa using replaced
          grind
        · have anyFalse : (later.any fun other => key other = key head) = false := by
            simpa using replaced
          grind
      · rw [AList.lookup_insert_ne (Ne.symm same)]
        grind

theorem lookup_insertAll_empty {key : Value → Key} {inserted : List Value} {wanted : Key}
    {value : Value} :
    (insertAll key ∅ inserted).lookup wanted = some value ↔
      value ∈ remaining key inserted ∧ key value = wanted := by
  rw [lookup_insertAll_eq_some]
  simp

theorem mem_values_insertAll_empty {key : Value → Key} {inserted : List Value}
    {value : Value} :
    value ∈ (insertAll key ∅ inserted).values ↔ value ∈ remaining key inserted := by
  rw [mem_values_iff]
  simp only [lookup_insertAll_empty]
  exact ⟨fun ⟨_, member, _⟩ => member, fun member => ⟨key value, member, rfl⟩⟩

theorem dlookup_kreplace (key wanted : Key) (value : Value)
    (entries : List (Sigma fun _ : Key => Value)) :
    List.dlookup wanted (List.kreplace key value entries) =
      if wanted = key then (List.dlookup key entries).map fun _ => value
      else List.dlookup wanted entries := by
  induction entries with
  | nil => simp [List.kreplace]
  | cons entry rest ih =>
      obtain ⟨found, old⟩ := entry
      by_cases here : key = found
      · subst here
        have replaced : List.kreplace key value (⟨key, old⟩ :: rest) = ⟨key, value⟩ :: rest := by
          simp [List.kreplace, List.lookmap_cons_some]
        rw [replaced]
        by_cases same : wanted = key
        · subst same
          simp
        · rw [if_neg same, List.dlookup_cons_ne _ _ same, List.dlookup_cons_ne _ _ same]
      · have kept : List.kreplace key value (⟨found, old⟩ :: rest) =
            ⟨found, old⟩ :: List.kreplace key value rest := by
          apply List.lookmap_cons_none
          simp [here]
        rw [kept]
        by_cases first : wanted = found
        · subst first
          rw [if_neg (Ne.symm here)]
          simp
        · rw [List.dlookup_cons_ne _ _ first, ih, List.dlookup_cons_ne _ _ here,
            List.dlookup_cons_ne _ _ first]

theorem lookup_replace (key wanted : Key) (value : Value) (table : Table Key Value) :
    (table.replace key value).lookup wanted =
      if wanted = key then (table.lookup key).map fun _ => value else table.lookup wanted :=
  dlookup_kreplace key wanted value table.entries

theorem sum_values_erase {table : Table Key Value} {key : Key} {value : Value}
    (found : table.lookup key = some value) (size : Value → Nat) :
    (table.values.map size).sum = size value + ((values (table.erase key)).map size).sum := by
  have member : key ∈ table.keys := AList.mem_keys.mp (AList.lookup_isSome.mp (by rw [found]; rfl))
  obtain ⟨other, before, after, _, whole, erased⟩ := List.exists_of_kerase member
  have same : other = value := by
    have inside : (⟨key, other⟩ : Sigma fun _ : Key => Value) ∈ table.entries := by
      rw [whole]
      exact List.mem_append_right _ List.mem_cons_self
    exact Option.some.inj ((AList.mem_lookup_iff.mpr inside).symm.trans found)
  subst same
  have rest : (table.erase key).entries = before ++ after := erased
  simp only [values, rest, whole, List.map_append, List.map_cons, List.sum_append,
    List.sum_cons]
  omega

theorem sum_dlookup {entries : List (Sigma fun _ : Key => Value)} (distinct : entries.NodupKeys)
    (key : Key) (size : Value → Nat) :
    (entries.map fun entry => if entry.1 = key then size entry.2 else 0).sum =
      (List.dlookup key entries).elim 0 size := by
  induction entries with
  | nil => rfl
  | cons entry rest ih =>
      obtain ⟨absent, others⟩ := List.nodupKeys_cons.mp distinct
      rw [List.map_cons, List.sum_cons, ih others]
      by_cases here : entry.1 = key
      · subst here
        rw [if_pos rfl, List.dlookup_eq_none.mpr absent, List.dlookup_cons_eq]
        rfl
      · rw [if_neg here, List.dlookup_cons_ne _ _ (Ne.symm here), Nat.zero_add]

/-- What counts under one key only is what the key finds. -/
theorem sum_entries_lookup (table : Table Key Value) (key : Key) (size : Value → Nat) :
    (table.entries.map fun entry => if entry.1 = key then size entry.2 else 0).sum =
      (table.lookup key).elim 0 size :=
  sum_dlookup table.nodupKeys key size

end Table

end F2k.Lib
