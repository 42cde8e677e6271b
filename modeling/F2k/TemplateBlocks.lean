import F2k.Lib.Heap
import F2k.TemplateStore
import Mathlib.Data.List.Count

namespace F2k

open Lib

/-! The memory blocks of the templates: which observation ids point to them, and what is freed with
the sensors database. -/

/-- The observation id of a sensor that `get_observation_id` finds. -/
inductive Holder
  | explicit (id : UInt32)
  | default
deriving DecidableEq

namespace Sensor

def holder (sensor : Sensor) (id : UInt32) : Option Holder :=
  if (sensor.observationId.lookup id).isSome then some (.explicit id)
  else sensor.defaultObservationId.map fun _ => .default

def held (sensor : Sensor) : Holder → Option ObservationID
  | .explicit id => sensor.observationId.lookup id
  | .default => sensor.defaultObservationId

theorem getObservationId_held (sensor : Sensor) (id : UInt32) :
    sensor.getObservationId id = (sensor.holder id).bind sensor.held := by
  unfold getObservationId holder
  cases known : sensor.observationId.lookup id with
  | some observationId => exact known.symm
  | none =>
      cases default : sensor.defaultObservationId with
      | none => rfl
      | some observationId => exact default.symm

def listObservationIds (sensor : Sensor) : List UInt32 :=
  sensor.observationId.keys ++ (sensor.defaultObservationId.map ObservationID.id).toList

end Sensor

/-- An observation id of a sensors database, by the network its sensor is filed under. -/
structure Place where
  network : IpAddr
  holder : Holder
deriving DecidableEq

/-- The database with the template pointers of its observation ids, and the blocks. -/
structure TemplateBlocks where
  database : SensorsDB
  templates : Place → Table UInt16 Nat
  heap : Heap FlowSetV9Ipfix

def SensorsDB.place (database : SensorsDB) (network : IpAddr) (id : UInt32) : Option Place :=
  (database.database.lookup network).bind fun sensor => (sensor.holder id).map (Place.mk network)

/-- A template that is to be stored: whose it is, and whether there is memory for it. -/
structure SaveCall where
  network : IpAddr
  observationId : UInt32
  template : FlowSetV9Ipfix
  allocated : Bool

namespace TemplateBlocks

def fresh (database : SensorsDB) : TemplateBlocks where
  database
  templates := fun _ => ∅
  heap := .empty

/-- `save_template`: what the observation id pointed to under the same id is forgotten. -/
def saveTemplate (blocks : TemplateBlocks) (place : Place) (template : FlowSetV9Ipfix)
    (allocated : Bool) : TemplateBlocks :=
  if allocated then
    { blocks with
      templates :=
        Function.update blocks.templates place
          ((blocks.templates place).insert template.templateId blocks.heap.next)
      heap := blocks.heap.alloc (storedTemplate template) }
  else blocks

def save (blocks : TemplateBlocks) (call : SaveCall) : TemplateBlocks :=
  match blocks.database.place call.network call.observationId with
  | none => blocks
  | some place => blocks.saveTemplate place call.template call.allocated

def releaseObservationsId (blocks : TemplateBlocks) (place : Place) : List Nat :=
  (blocks.templates place).keys.filterMap fun id => (blocks.templates place).lookup id

end TemplateBlocks

/-- The observation ids whose templates are released: every id that the sensor lists is looked up
again. -/
def Sensor.releasedHolders (sensor : Sensor) : List Holder :=
  sensor.listObservationIds.filterMap sensor.holder

def SensorsDB.releasedPlaces (database : SensorsDB) : List Place :=
  database.database.entries.flatMap fun entry =>
    entry.2.releasedHolders.map (Place.mk entry.1)

def deleteRbSensorsDb (blocks : TemplateBlocks) : Except NotLive (Heap FlowSetV9Ipfix) :=
  blocks.heap.freeAll (blocks.database.releasedPlaces.flatMap blocks.releaseObservationsId)

/-! Which block every pointer leads to -/

abbrev Slot := Place × UInt16

/-- Where a call puts its template, if it stores it. -/
def SaveCall.slot (database : SensorsDB) (call : SaveCall) : Option Slot :=
  if call.allocated then
    (database.place call.network call.observationId).map fun place =>
      (place, call.template.templateId)
  else none

def TemplateBlocks.pointer (blocks : TemplateBlocks) (slot : Slot) : Option Nat :=
  (blocks.templates slot.1).lookup slot.2

/-- Where a list has a value for the last time. -/
def LatestAt (values : List α) (value : α) (i : Nat) : Prop :=
  values[i]? = some value ∧ ∀ later, i < later → values[later]? ≠ some value

theorem latestAt_append [DecidableEq α] {values : List α} {new value : α} {i : Nat} :
    LatestAt (values ++ [new]) value i ↔
      if value = new then i = values.length else LatestAt values value i := by
  unfold LatestAt
  split
  · next same =>
      subst same
      constructor
      · rintro ⟨found, none⟩
        have last := none values.length
        grind
      · rintro rfl
        grind
  · next apart =>
      constructor
      · rintro ⟨found, none⟩
        refine ⟨by grind, ?_⟩
        intro later beyond
        have notLater := none later beyond
        grind
      · rintro ⟨found, none⟩
        refine ⟨by grind, ?_⟩
        intro later beyond
        have notLater := none later beyond
        grind

/-- The blocks are the ones of these slots in order, and a slot points to its latest one. -/
structure TemplateBlocks.Points (blocks : TemplateBlocks) (slots : List Slot) : Prop where
  next : blocks.heap.next = slots.length
  live : ∀ address, blocks.heap.cells address ≠ none ↔ address < slots.length
  pointer : ∀ slot address, blocks.pointer slot = some address ↔ LatestAt slots slot address

namespace TemplateBlocks

theorem points_fresh (database : SensorsDB) : (fresh database).Points [] where
  next := rfl
  live := by
    intro address
    constructor
    · intro live
      exact absurd rfl live
    · intro inside
      cases inside
  pointer := by
    intro slot address
    constructor
    · intro found
      cases found
    · rintro ⟨found, _⟩
      cases found

theorem pointer_saveTemplate (blocks : TemplateBlocks) (place : Place)
    (template : FlowSetV9Ipfix) (slot : Slot) :
    (blocks.saveTemplate place template true).pointer slot =
      if slot = (place, template.templateId) then some blocks.heap.next
      else blocks.pointer slot := by
  obtain ⟨other, id⟩ := slot
  simp only [pointer, saveTemplate, if_true, Prod.mk.injEq]
  by_cases here : other = place
  · subst here
    rw [Function.update_self]
    by_cases same : id = template.templateId
    · subst same
      rw [AList.lookup_insert, if_pos ⟨rfl, rfl⟩]
    · rw [AList.lookup_insert_ne same, if_neg fun both => same both.2]
  · rw [Function.update_of_ne here, if_neg fun both => here both.1]

theorem Points.saveTemplate {blocks : TemplateBlocks} {slots : List Slot}
    (points : blocks.Points slots) (place : Place) (template : FlowSetV9Ipfix) :
    (blocks.saveTemplate place template true).Points
      (slots ++ [(place, template.templateId)]) := by
  obtain ⟨next, live, pointer⟩ := points
  constructor
  case next =>
    rw [List.length_append, ← next]
    rfl
  case live =>
    intro address
    change (blocks.heap.alloc _).cells address ≠ none ↔ _
    rw [List.length_append, List.length_singleton, ← next]
    by_cases same : address = blocks.heap.next
    · subst same
      simp
    · rw [Heap.alloc_other same, live address, ← next]
      omega
  case pointer =>
    intro slot address
    rw [pointer_saveTemplate, latestAt_append]
    split
    · rw [next, Option.some.injEq, eq_comm]
    · exact pointer slot address

end TemplateBlocks

section Run

variable (database : SensorsDB) (calls : List SaveCall)

/-- What the calls store, in order. -/
def storedSlots : List Slot :=
  calls.filterMap (SaveCall.slot database)

def blocksAfter : TemplateBlocks :=
  calls.foldl TemplateBlocks.save (.fresh database)

variable {database}

theorem TemplateBlocks.Points.save {blocks : TemplateBlocks} {slots : List Slot}
    (points : blocks.Points slots) (call : SaveCall) :
    (blocks.save call).Points (slots ++ (call.slot blocks.database).toList) ∧
      (blocks.save call).database = blocks.database := by
  unfold TemplateBlocks.save SaveCall.slot
  cases found : blocks.database.place call.network call.observationId with
  | none =>
      simp only [Option.map_none, ite_self, Option.toList_none, List.append_nil]
      exact ⟨points, trivial⟩
  | some place =>
      cases allocated : call.allocated with
      | false =>
          simp only [TemplateBlocks.saveTemplate, Bool.false_eq_true, if_false,
            Option.toList_none, List.append_nil]
          exact ⟨points, trivial⟩
      | true => exact ⟨points.saveTemplate place call.template, rfl⟩

theorem TemplateBlocks.Points.run {blocks : TemplateBlocks} {slots : List Slot}
    (points : blocks.Points slots) (known : blocks.database = database) :
    (calls.foldl TemplateBlocks.save blocks).Points (slots ++ storedSlots database calls) ∧
      (calls.foldl TemplateBlocks.save blocks).database = database := by
  induction calls generalizing blocks slots with
  | nil =>
      rw [storedSlots, List.filterMap_nil, List.append_nil]
      exact ⟨points, known⟩
  | cons call rest ih =>
      obtain ⟨next, same⟩ := points.save call
      have later := ih next (same.trans known)
      rw [known, List.append_assoc] at later
      have split : storedSlots database (call :: rest) =
          (call.slot database).toList ++ storedSlots database rest := by
        unfold storedSlots
        rw [List.filterMap_cons]
        cases call.slot database <;> rfl
      rw [split]
      exact later

theorem blocksAfter_points (database : SensorsDB) :
    (blocksAfter database calls).Points (storedSlots database calls) ∧
      (blocksAfter database calls).database = database :=
  (TemplateBlocks.points_fresh database).run calls rfl

end Run

/-! How often a block is freed -/

theorem count_flatMap_of_owner {α β : Type} [DecidableEq α] [DecidableEq β]
    {blocks : α → List β} {block : β} {owner : α}
    (owned : ∀ place, (blocks place).count block = if place = owner then 1 else 0)
    (places : List α) : (places.flatMap blocks).count block = places.count owner := by
  induction places with
  | nil => rfl
  | cons place rest ih =>
      rw [List.flatMap_cons, List.count_append, ih, owned, List.count_cons, Nat.add_comm]
      simp only [beq_iff_eq]

section Counts

variable {blocks : TemplateBlocks} {slots : List Slot}

theorem LatestAt.unique {α : Type} {values : List α} {value other : α} {i : Nat}
    (latest : LatestAt values value i) (same : LatestAt values other i) : value = other :=
  Option.some.inj (latest.1.symm.trans same.1)

theorem mem_releaseObservationsId {place : Place} {address : Nat} :
    address ∈ blocks.releaseObservationsId place ↔
      ∃ id, blocks.pointer (place, id) = some address := by
  unfold TemplateBlocks.releaseObservationsId
  rw [List.mem_filterMap]
  constructor
  · rintro ⟨id, _, found⟩
    exact ⟨id, found⟩
  · rintro ⟨id, found⟩
    refine ⟨id, AList.mem_keys.mp (AList.lookup_isSome.mp ?_), found⟩
    exact Option.isSome_of_mem found

theorem TemplateBlocks.Points.nodup_release (points : blocks.Points slots) (place : Place) :
    (blocks.releaseObservationsId place).Nodup := by
  unfold TemplateBlocks.releaseObservationsId
  apply List.Nodup.filterMap
  · intro id other address found alsoFound
    have first := (points.pointer (place, id) address).mp found
    have second := (points.pointer (place, other) address).mp alsoFound
    exact (Prod.mk.inj (first.unique second)).2
  · exact AList.keys_nodup _

theorem TemplateBlocks.Points.count_release (points : blocks.Points slots) (places : List Place)
    {slot : Slot} {address : Nat} (latest : LatestAt slots slot address) :
    (places.flatMap blocks.releaseObservationsId).count address = places.count slot.1 := by
  apply count_flatMap_of_owner
  intro place
  rw [(points.nodup_release place).count]
  apply if_congr ?_ rfl rfl
  rw [mem_releaseObservationsId]
  constructor
  · rintro ⟨id, found⟩
    have same := ((points.pointer (place, id) address).mp found).unique latest
    rw [← same]
  · rintro rfl
    exact ⟨slot.2, (points.pointer slot address).mpr latest⟩

theorem TemplateBlocks.Points.not_mem_release (points : blocks.Points slots)
    (places : List Place) {address : Nat} (forgotten : ∀ slot, ¬LatestAt slots slot address) :
    address ∉ places.flatMap blocks.releaseObservationsId := by
  intro member
  obtain ⟨place, _, released⟩ := List.mem_flatMap.mp member
  obtain ⟨id, found⟩ := mem_releaseObservationsId.mp released
  exact forgotten _ ((points.pointer (place, id) address).mp found)

theorem LatestAt.lt {α : Type} {values : List α} {value : α} {i : Nat}
    (latest : LatestAt values value i) : i < values.length :=
  (List.getElem?_eq_some_iff.mp latest.1).1

theorem nodup_iff_latestAt {α : Type} {values : List α} :
    values.Nodup ↔ ∀ i value, values[i]? = some value → LatestAt values value i := by
  rw [List.nodup_iff_getElem?_ne_getElem?]
  constructor
  · intro distinct i value found
    refine ⟨found, ?_⟩
    intro later beyond again
    have inside := (List.getElem?_eq_some_iff.mp again).1
    exact distinct i later beyond inside (found.trans again.symm)
  · intro latest i j before inside same
    have found := List.getElem?_eq_getElem inside
    exact (latest i _ (same.trans found)).2 j before found

/-- Every block is freed once exactly when no slot is used twice, and every place that is used is
released once. -/
theorem TemplateBlocks.Points.freed_once_iff (points : blocks.Points slots)
    (places : List Place) :
    (∃ after, blocks.heap.freeAll (places.flatMap blocks.releaseObservationsId) = .ok after ∧
        ∀ address, after.cells address = none) ↔
      slots.Nodup ∧ ∀ slot ∈ slots, places.count slot.1 = 1 := by
  rw [Heap.freeAll_empties_iff]
  constructor
  · rintro ⟨once, live⟩
    have latest (address : Nat) (slot : Slot) (found : slots[address]? = some slot) :
        LatestAt slots slot address := by
      have inside := (List.getElem?_eq_some_iff.mp found).1
      have freed := (live address).mp ((points.live address).mpr inside)
      by_contra forgotten
      refine points.not_mem_release places ?_ freed
      intro other latest
      have same : slot = other := Option.some.inj (found.symm.trans latest.1)
      subst same
      exact forgotten latest
    refine ⟨nodup_iff_latestAt.mpr latest, ?_⟩
    intro slot member
    obtain ⟨address, found⟩ := List.getElem?_of_mem member
    have inside := (List.getElem?_eq_some_iff.mp found).1
    rw [← points.count_release places (latest address slot found)]
    exact List.count_eq_one_of_mem once ((live address).mp ((points.live address).mpr inside))
  · rintro ⟨distinct, once⟩
    have count (address : Nat) (inside : address < slots.length) :
        (places.flatMap blocks.releaseObservationsId).count address = 1 := by
      have found := List.getElem?_eq_getElem inside
      rw [points.count_release places (nodup_iff_latestAt.mp distinct address _ found)]
      exact once _ (List.getElem_mem inside)
    have known (address : Nat)
        (member : address ∈ places.flatMap blocks.releaseObservationsId) :
        address < slots.length := by
      by_contra beyond
      exact points.not_mem_release places (fun slot latest => beyond latest.lt) member
    constructor
    · rw [List.nodup_iff_count_le_one]
      intro address
      by_cases member : address ∈ places.flatMap blocks.releaseObservationsId
      · exact Nat.le_of_eq (count address (known address member))
      · rw [List.count_eq_zero_of_not_mem member]
        exact Nat.zero_le 1
    · intro address
      rw [points.live address]
      constructor
      · intro inside
        apply List.count_pos_iff.mp
        rw [count address inside]
        exact Nat.one_pos
      · exact known address

end Counts

/-! Which observation ids are released once -/

/-- No id of the sensor stands both for its default observation id and for this one. -/
def Sensor.ReleasesOnce (sensor : Sensor) : Holder → Prop
  | .explicit id => ∀ default ∈ sensor.defaultObservationId, default.id ≠ id
  | .default =>
      ∀ default ∈ sensor.defaultObservationId, sensor.observationId.lookup default.id = none

def SensorsDB.ReleasesOnce (database : SensorsDB) (place : Place) : Prop :=
  ∀ sensor ∈ database.database.lookup place.network, sensor.ReleasesOnce place.holder

theorem SensorsDB.count_releasedPlaces (database : SensorsDB) (place : Place) :
    database.releasedPlaces.count place =
      (database.database.lookup place.network).elim 0 fun sensor =>
        sensor.releasedHolders.count place.holder := by
  rw [SensorsDB.releasedPlaces, List.count_flatMap, ← Table.sum_entries_lookup]
  congr 1
  apply List.map_congr_left
  intro entry _
  rw [Function.comp_apply]
  split
  · next same =>
      rw [same]
      have injective : Function.Injective (Place.mk place.network) := by
        intro one other equal
        exact (Place.mk.inj equal).2
      exact List.count_map_of_injective _ _ injective place.holder
  · next apart =>
      apply List.count_eq_zero_of_not_mem
      intro member
      obtain ⟨holder, _, same⟩ := List.mem_map.mp member
      exact apart (congrArg Place.network same)

theorem Sensor.filterMap_holder_keys (sensor : Sensor) :
    sensor.observationId.keys.filterMap sensor.holder =
      sensor.observationId.keys.map Holder.explicit := by
  rw [← List.filterMap_eq_map]
  apply List.filterMap_congr
  intro id member
  have found := AList.lookup_isSome.mpr (AList.mem_keys.mpr member)
  rw [Sensor.holder, if_pos found]
  rfl

theorem Sensor.count_releasedHolders (sensor : Sensor) {holder : Holder}
    (there : sensor.held holder ≠ none) :
    sensor.releasedHolders.count holder = 1 ↔ sensor.ReleasesOnce holder := by
  rw [Sensor.releasedHolders, Sensor.listObservationIds, List.filterMap_append,
    sensor.filterMap_holder_keys, List.count_append]
  cases holder with
  | explicit id =>
      have found : (sensor.observationId.lookup id).isSome := Option.isSome_iff_ne_none.mpr there
      have known : id ∈ sensor.observationId.keys :=
        AList.mem_keys.mp (AList.lookup_isSome.mp found)
      have injective : Function.Injective Holder.explicit := by
        intro one other equal
        exact Holder.explicit.inj equal
      rw [List.count_map_of_injective _ _ injective,
        List.count_eq_one_of_mem (AList.keys_nodup _) known]
      unfold Sensor.ReleasesOnce
      cases has : sensor.defaultObservationId with
      | none => simp
      | some default =>
          by_cases same : default.id = id
          · simp [same, Sensor.holder, found]
          · cases explicit : sensor.observationId.lookup default.id with
            | none => simp [same, Sensor.holder, explicit, has]
            | some observationId => simp [same, Sensor.holder, explicit]
  | default =>
      have none : Holder.default ∉ sensor.observationId.keys.map Holder.explicit := by
        simp
      rw [List.count_eq_zero_of_not_mem none, Nat.zero_add]
      unfold Sensor.ReleasesOnce
      cases known : sensor.defaultObservationId with
      | none => exact absurd known there
      | some default =>
          cases explicit : sensor.observationId.lookup default.id with
          | none => simp [Sensor.holder, explicit, known]
          | some observationId => simp [Sensor.holder, explicit]

theorem SensorsDB.place_held {database : SensorsDB} {network : IpAddr} {id : UInt32}
    {place : Place} (found : database.place network id = some place) :
    ∃ sensor, database.database.lookup place.network = some sensor ∧
      sensor.held place.holder ≠ none := by
  obtain ⟨sensor, known, held⟩ := Option.bind_eq_some_iff.mp found
  obtain ⟨holder, has, rfl⟩ := Option.map_eq_some_iff.mp held
  refine ⟨sensor, known, ?_⟩
  unfold Sensor.holder at has
  split at has
  · next explicit =>
      cases has
      exact Option.isSome_iff_ne_none.mp explicit
  · obtain ⟨default, known, rfl⟩ := Option.map_eq_some_iff.mp has
    change sensor.defaultObservationId ≠ none
    rw [known]
    exact Option.some_ne_none default

theorem SensorsDB.releasesOnce_iff {database : SensorsDB} {network : IpAddr} {id : UInt32}
    {place : Place} (found : database.place network id = some place) :
    database.releasedPlaces.count place = 1 ↔ database.ReleasesOnce place := by
  obtain ⟨sensor, known, there⟩ := place_held found
  rw [count_releasedPlaces, known]
  have same : database.ReleasesOnce place ↔ sensor.ReleasesOnce place.holder := by
    unfold ReleasesOnce
    rw [known]
    simp
  rw [same]
  exact sensor.count_releasedHolders there

/-- The template that a call stores in an observation id. -/
def SaveCall.storedAt (database : SensorsDB) (place : Place) (call : SaveCall) :
    Option FlowSetV9Ipfix :=
  if call.allocated ∧ database.place call.network call.observationId = some place then
    some call.template
  else none

/-- A block that is pointed to has the template that was stored last. -/
def TemplateBlocks.Shows (blocks : TemplateBlocks) (place : Place) (templates : Templates) :
    Prop :=
  ∀ id, (blocks.pointer (place, id)).bind blocks.heap.cells = templates.lookup id

theorem TemplateBlocks.Shows.saveTemplate {blocks : TemplateBlocks} {slots : List Slot}
    {place : Place} {templates : Templates} (shows : blocks.Shows place templates)
    (points : blocks.Points slots) (saved : Place) (template : FlowSetV9Ipfix) :
    (blocks.saveTemplate saved template true).Shows place
      (if saved = place then
        templates.insert template.templateId (storedTemplate template) else templates) := by
  intro id
  rw [pointer_saveTemplate]
  have old : ((blocks.pointer (place, id)).bind (blocks.heap.alloc (storedTemplate template)).cells) =
      templates.lookup id := by
    rw [← shows id]
    cases pointed : blocks.pointer (place, id) with
    | none => rfl
    | some address =>
        have inside := ((points.pointer (place, id) address).mp pointed).lt
        rw [← points.next] at inside
        exact Heap.alloc_other (Nat.ne_of_lt inside)
  change Option.bind _ (blocks.heap.alloc (storedTemplate template)).cells = _
  by_cases here : saved = place
  · subst here
    rw [if_pos rfl]
    by_cases same : id = template.templateId
    · subst same
      rw [if_pos rfl, AList.lookup_insert]
      exact Heap.alloc_self
    · rw [if_neg (by simp [same]), AList.lookup_insert_ne same]
      exact old
  · rw [if_neg (by simp [Ne.symm here]), if_neg here]
    exact old

theorem TemplateBlocks.Shows.save {blocks : TemplateBlocks} {slots : List Slot}
    {place : Place} {templates : Templates} (shows : blocks.Shows place templates)
    (points : blocks.Points slots) (call : SaveCall) :
    (blocks.save call).Shows place
      (storeTemplates templates (call.storedAt blocks.database place).toList) := by
  unfold TemplateBlocks.save SaveCall.storedAt
  cases found : blocks.database.place call.network call.observationId with
  | none =>
      rw [if_neg (by simp)]
      exact shows
  | some saved =>
      cases allocated : call.allocated with
      | false =>
          rw [if_neg (by simp)]
          exact shows
      | true =>
          have stored := shows.saveTemplate points saved call.template
          by_cases here : saved = place
          · rw [if_pos here] at stored
            rw [if_pos ⟨rfl, congrArg some here⟩]
            exact stored
          · rw [if_neg here] at stored
            rw [if_neg (by simp [here])]
            exact stored

theorem TemplateBlocks.Shows.run {database : SensorsDB} (calls : List SaveCall)
    {blocks : TemplateBlocks} {slots : List Slot} {place : Place} {templates : Templates}
    (shows : blocks.Shows place templates) (points : blocks.Points slots)
    (known : blocks.database = database) :
    (calls.foldl TemplateBlocks.save blocks).Shows place
      (storeTemplates templates (calls.filterMap (SaveCall.storedAt database place))) := by
  induction calls generalizing blocks slots templates with
  | nil => exact shows
  | cons call rest ih =>
      obtain ⟨next, same⟩ := points.save call
      have now := shows.save points call
      rw [known] at now
      have later := ih now next (same.trans known)
      rw [List.filterMap_cons]
      cases stored : call.storedAt database place with
      | none =>
          rw [stored] at later
          exact later
      | some template =>
          rw [stored] at later
          exact later

/-- Through its pointers every observation id has the templates that were stored in it. -/
theorem blocksAfter_shows (database : SensorsDB) (calls : List SaveCall) (place : Place) :
    (blocksAfter database calls).Shows place
      (storeTemplates ∅ (calls.filterMap (SaveCall.storedAt database place))) := by
  apply TemplateBlocks.Shows.run calls ?_ (TemplateBlocks.points_fresh database) rfl
  intro id
  rfl

def sensorWithIds (observationId : Table UInt32 ObservationID) : SensorsDB where
  database :=
    AList.insert (.v4 0x0a000001#32)
      { network := .v4 0x0a000001#32
        netmask := .v4 (BitVec.allOnes 32)
        worker := some 0
        defaultObservationId := some (.new 0)
        observationId } ∅

def saveCall (observationId : UInt32) (templateId : UInt16) : SaveCall where
  network := .v4 0x0a000001#32
  observationId
  template := { templateId, isOptionTemplate := false, fields := [] }
  allocated := true

end F2k
