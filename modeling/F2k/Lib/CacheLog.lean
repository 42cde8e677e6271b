import Mathlib.Data.List.Nodup

namespace F2k.Lib

/-! What happens to the items of a cache, the latest event first, and what is then in it: the
value saved last under a key unless it was dropped since, the items used last in front. -/

inductive CacheEvent (Key Value : Type)
  | saved (key : Key) (value : Value)
  | used (key : Key)
  | expired (key : Key) (now : Int)
  | evicted (key : Key)

namespace CacheEvent

variable {Key Value : Type} [DecidableEq Key]

def without (key : Key) (items : List (Key × Value)) : List (Key × Value) :=
  items.filter fun item => item.1 ≠ key

def replay : List (CacheEvent Key Value) → List (Key × Value)
  | [] => []
  | .saved key value :: older => (key, value) :: without key (replay older)
  | .used key :: older =>
      match (replay older).lookup key with
      | none => replay older
      | some value => (key, value) :: without key (replay older)
  | .expired key _ :: older => without key (replay older)
  | .evicted key :: older => without key (replay older)

/-- The value saved last under a key, unless it expired or was evicted since. -/
def latest (key : Key) : List (CacheEvent Key Value) → Option Value
  | [] => none
  | .saved other value :: older => if other = key then some value else latest key older
  | .used _ :: older => latest key older
  | .expired other _ :: older => if other = key then none else latest key older
  | .evicted other :: older => if other = key then none else latest key older

/-- How many events ago a key was saved or used. -/
def sinceUse (key : Key) : List (CacheEvent Key Value) → Nat
  | [] => 0
  | .saved other _ :: older => if other = key then 0 else sinceUse key older + 1
  | .used other :: older => if other = key then 0 else sinceUse key older + 1
  | .expired _ _ :: older => sinceUse key older + 1
  | .evicted _ :: older => sinceUse key older + 1

/-- Whatever was evicted was, of all that was in the cache, used the longest time ago. -/
def EvictsOldest : List (CacheEvent Key Value) → Prop
  | [] => True
  | .evicted key :: older =>
      (∀ other, (latest other older).isSome → sinceUse other older ≤ sinceUse key older) ∧
        EvictsOldest older
  | _ :: older => EvictsOldest older

/-- Whatever expired had been saved before the time that is allowed. -/
def ExpiresOld (savedAt : Value → Int) (timeout : Int) : List (CacheEvent Key Value) → Prop
  | [] => True
  | .expired key now :: older =>
      (∃ value, latest key older = some value ∧ timeout < now - savedAt value) ∧
        ExpiresOld savedAt timeout older
  | _ :: older => ExpiresOld savedAt timeout older

section Items

variable {items : List (Key × Value)} {key other : Key}

theorem lookup_cons_if (item : Key × Value) :
    (item :: items).lookup key = if item.1 = key then some item.2 else items.lookup key := by
  rw [List.lookup_cons]
  by_cases same : item.1 = key
  · rw [if_pos same, same, beq_self_eq_true]
  · rw [if_neg same, beq_false_of_ne (Ne.symm same)]

theorem lookup_without :
    (without other items).lookup key = if other = key then none else items.lookup key := by
  induction items with
  | nil => simp [without]
  | cons item rest ih =>
      rw [without] at ih
      rw [without, List.filter_cons]
      by_cases gone : item.1 = other
      · have dropped : decide (item.1 ≠ other) = false := by simp [gone]
        rw [dropped, if_neg Bool.false_ne_true, ih, lookup_cons_if]
        by_cases same : other = key
        · rw [if_pos same, if_pos same]
        · rw [if_neg same, if_neg same, if_neg (gone ▸ same)]
      · have stays : decide (item.1 ≠ other) = true := by simp [gone]
        rw [stays, if_pos rfl, lookup_cons_if, ih, lookup_cons_if]
        by_cases same : other = key
        · rw [if_pos same, if_pos same, if_neg (same ▸ gone)]
        · rw [if_neg same, if_neg same]

theorem lookup_eq_some_iff_mem (distinct : (items.map Prod.fst).Nodup) {value : Value} :
    items.lookup key = some value ↔ (key, value) ∈ items := by
  induction items with
  | nil => simp
  | cons item rest ih =>
      rw [List.map_cons, List.nodup_cons] at distinct
      rw [lookup_cons_if, List.mem_cons]
      by_cases same : item.1 = key
      · have once : (key, value) ∉ rest := fun later =>
          distinct.1 (same ▸ List.mem_map_of_mem later)
        rw [if_pos same, Option.some.injEq, or_iff_left once, ← same]
        exact ⟨fun values => by rw [← values], fun items => (congrArg Prod.snd items).symm⟩
      · have another : (key, value) ≠ item := fun items => same (congrArg Prod.fst items).symm
        rw [if_neg same, ih distinct.2, or_iff_right another]

end Items

section Replay

variable (log : List (CacheEvent Key Value))

theorem lookup_replay (key : Key) : (replay log).lookup key = latest key log := by
  induction log with
  | nil => rfl
  | cons event older ih =>
      cases event with
      | saved other value =>
          rw [replay, latest, lookup_cons_if, lookup_without, ih]
          split <;> rfl
      | used other =>
          rw [replay, latest]
          cases found : (replay older).lookup other with
          | none => exact ih
          | some value =>
              simp only [lookup_cons_if, lookup_without, ih]
              split
              · next same => rw [← ih, ← same, found]
              · rfl
      | expired other now => rw [replay, latest, lookup_without, ih]
      | evicted other => rw [replay, latest, lookup_without, ih]

theorem map_fst_without (key : Key) (items : List (Key × Value)) :
    (without key items).map Prod.fst = (items.map Prod.fst).filter (· ≠ key) := by
  rw [without, List.filter_map]
  rfl

theorem not_mem_map_fst_without (key : Key) (items : List (Key × Value)) :
    key ∉ (without key items).map Prod.fst := by
  rw [map_fst_without]
  simp

theorem replay_nodup : ((replay log).map Prod.fst).Nodup := by
  induction log with
  | nil => exact List.nodup_nil
  | cons event older ih =>
      have fewer : ∀ key, ((without key (replay older)).map Prod.fst).Nodup := by
        intro key
        rw [map_fst_without]
        exact ih.filter _
      cases event with
      | saved key value =>
          exact List.nodup_cons.mpr ⟨not_mem_map_fst_without key _, fewer key⟩
      | used key =>
          rw [replay]
          split
          · exact ih
          · exact List.nodup_cons.mpr ⟨not_mem_map_fst_without key _, fewer key⟩
      | expired key now => exact fewer key
      | evicted key => exact fewer key

theorem latest_eq_none {key : Key} (missing : key ∉ (replay log).map Prod.fst) :
    latest key log = none := by
  rw [← lookup_replay, List.lookup_eq_none_iff]
  intro item inside
  have another : key ≠ item.1 := by
    rintro rfl
    exact missing (List.mem_map_of_mem inside)
  simpa using another

theorem latest_eq_some {key : Key} {value : Value} (inside : (key, value) ∈ replay log) :
    latest key log = some value := by
  rw [← lookup_replay, lookup_eq_some_iff_mem (replay_nodup log)]
  exact inside

theorem replay_used {key : Key} {value : Value} (known : latest key log = some value) :
    replay (.used key :: log) = (key, value) :: without key (replay log) := by
  rw [replay, lookup_replay, known]

/-- Items further back were used longer ago. -/
theorem replay_pairwise :
    (replay log).Pairwise fun item other => sinceUse item.1 log < sinceUse other.1 log := by
  induction log with
  | nil => exact .nil
  | cons event older ih =>
      have before : ∀ key, (without key (replay older)).Pairwise
          fun item other => sinceUse item.1 older + 1 < sinceUse other.1 older + 1 := by
        intro key
        apply List.Pairwise.filter
        exact ih.imp fun less => Nat.succ_lt_succ less
      have another : ∀ key, ∀ item ∈ without key (replay older), key ≠ item.1 := by
        rintro key item member rfl
        exact not_mem_map_fst_without item.1 _ (List.mem_map_of_mem member)
      have front : ∀ key, ∀ event : CacheEvent Key Value,
          (∀ other, sinceUse other (event :: older) =
            if key = other then 0 else sinceUse other older + 1) →
          ∀ value, ((key, value) :: without key (replay older)).Pairwise
            fun item other => sinceUse item.1 (event :: older) <
              sinceUse other.1 (event :: older) := by
        intro key event since value
        refine List.pairwise_cons.mpr ⟨?_, ?_⟩
        · intro item member
          rw [since, since, if_pos rfl, if_neg (another key item member)]
          exact Nat.succ_pos _
        · refine (before key).imp_of_mem ?_
          intro item other first second less
          rwa [since, since, if_neg (another key item first),
            if_neg (another key other second)]
      cases event with
      | saved key value => exact front key _ (fun _ => rfl) value
      | used key =>
          rw [replay]
          split
          · next missing =>
              refine ih.imp_of_mem ?_
              intro item other first second less
              have absent : ∀ item ∈ replay older, key ≠ item.1 := by
                rintro item member rfl
                rw [List.lookup_eq_none_iff] at missing
                simpa using missing item member
              rw [sinceUse, sinceUse, if_neg (absent item first),
                if_neg (absent other second)]
              exact Nat.succ_lt_succ less
          · next value found => exact front key _ (fun _ => rfl) value
      | expired key now => exact before key
      | evicted key => exact before key

variable {log}

/-- The last item is the one to evict. -/
theorem sinceUse_le_of_last {items : List (Key × Value)} {last : Key × Value}
    (ends : replay log = items ++ [last]) {key : Key} (cached : (latest key log).isSome) :
    sinceUse key log ≤ sinceUse last.1 log := by
  have ordered := replay_pairwise log
  rw [ends, List.pairwise_append] at ordered
  obtain ⟨value, found⟩ := Option.isSome_iff_exists.mp cached
  rw [← lookup_replay, lookup_eq_some_iff_mem (replay_nodup log), ends] at found
  rcases List.mem_append.mp found with before | same
  · exact Nat.le_of_lt (ordered.2.2 _ before last List.mem_cons_self)
  · cases List.mem_singleton.mp same
    exact Nat.le_refl _

end Replay

end CacheEvent

end F2k.Lib
