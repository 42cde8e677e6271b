import F2k.Lib.Systems

namespace F2k

open Lib

/-! Packets between the listeners and the workers, and the sensors databases that their sensors
belong to. -/

/-- The databases are numbered in the order in which they are read. -/
abbrev DatabaseNumber := Nat

abbrev ThreadNumber := Nat

/-- Of each packet the database is kept that its sensor was found in. -/
structure ReloadState where
  found : ThreadNumber → Option DatabaseNumber
  packetsQueue : ThreadNumber → List DatabaseNumber
  dissecting : ThreadNumber → Option DatabaseNumber
  sensorsInfo : DatabaseNumber
  /-- The database is deleted, and the next one is still being read. -/
  reading : Bool
  deleted : List DatabaseNumber

def ReloadState.start : ReloadState where
  found := fun _ => none
  packetsQueue := fun _ => []
  dissecting := fun _ => none
  sensorsInfo := 0
  reading := false
  deleted := []

inductive ReloadAction
  | getSensor (listener : ThreadNumber)
  | addPacketToWorker (listener worker : ThreadNumber)
  | popPacket (worker : ThreadNumber)
  | freePacket (worker : ThreadNumber)
  | deleteSensorsDb
  | readConfig

namespace ReloadState

/-- The reload takes a lock that neither a listener nor a worker takes for the sensors. -/
def step (state : ReloadState) : ReloadAction → Option ReloadState
  | .getSensor listener =>
      match state.found listener with
      | none =>
          some { state with found := Function.update state.found listener state.sensorsInfo }
      | some _ => none
  | .addPacketToWorker listener worker =>
      match state.found listener with
      | none => none
      | some database =>
          some
            { state with
              found := Function.update state.found listener none
              packetsQueue :=
                Function.update state.packetsQueue worker
                  (state.packetsQueue worker ++ [database]) }
  | .popPacket worker =>
      match state.dissecting worker, state.packetsQueue worker with
      | none, database :: rest =>
          some
            { state with
              packetsQueue := Function.update state.packetsQueue worker rest
              dissecting := Function.update state.dissecting worker database }
      | _, _ => none
  | .freePacket worker =>
      match state.dissecting worker with
      | none => none
      | some _ => some { state with dissecting := Function.update state.dissecting worker none }
  | .deleteSensorsDb =>
      if state.reading then none
      else some { state with reading := true, deleted := state.sensorsInfo :: state.deleted }
  | .readConfig =>
      if state.reading then
        some { state with reading := false, sensorsInfo := state.sensorsInfo + 1 }
      else none

/-- The database of a packet that some thread still has, or that waits. -/
inductive InFlight (state : ReloadState) (database : DatabaseNumber) : Prop
  | found (listener : ThreadNumber) (has : state.found listener = some database)
  | queued (worker : ThreadNumber) (waits : database ∈ state.packetsQueue worker)
  | dissecting (worker : ThreadNumber) (has : state.dissecting worker = some database)

/-- No packet is being dissected whose sensor belongs to a deleted database. -/
def NotStranded (state : ReloadState) : Prop :=
  ∀ worker database, state.dissecting worker = some database → database ∉ state.deleted

/-- A database is deleted when no packet is in flight, and no sensor is looked for until the next
one is there. -/
def ReloadsAlone (state : ReloadState) : ReloadAction → Prop
  | .deleteSensorsDb => ∀ database, ¬state.InFlight database
  | .getSensor _ => state.reading = false
  | _ => True

structure Alive (state : ReloadState) : Prop where
  inFlight : ∀ database, state.InFlight database →
    state.reading = false ∧ database = state.sensorsInfo
  past : ∀ database ∈ state.deleted, database ≤ state.sensorsInfo
  current : state.reading = false → state.sensorsInfo ∉ state.deleted
  gone : state.reading = true → state.sensorsInfo ∈ state.deleted

theorem alive_start : Alive .start := by
  refine ⟨?_, fun _ member => (nomatch member), fun _ member => (nomatch member),
    fun reading => (nomatch reading)⟩
  intro database inFlight
  cases inFlight with
  | found other has => cases has
  | queued other waits => cases waits
  | dissecting other has => cases has

theorem Alive.notStranded {state : ReloadState} (alive : Alive state) : NotStranded state := by
  intro worker database has
  obtain ⟨settled, rfl⟩ := alive.inFlight database (.dissecting worker has)
  exact alive.current settled

variable {state after : ReloadState} {action : ReloadAction}

section Places

variable {Value : Type} {thread other : ThreadNumber}

theorem update_some {values : ThreadNumber → Option Value} {put : Option Value} {value : Value}
    (has : Function.update values thread put other = some value) :
    put = some value ∨ values other = some value := by
  by_cases same : other = thread
  · rw [same, Function.update_self] at has
    exact .inl has
  · rw [Function.update_of_ne same] at has
    exact .inr has

theorem mem_update {values : ThreadNumber → List Value} {put : List Value} {value : Value}
    (waits : value ∈ Function.update values thread put other) :
    value ∈ put ∨ value ∈ values other := by
  by_cases same : other = thread
  · rw [same, Function.update_self] at waits
    exact .inl waits
  · rw [Function.update_of_ne same] at waits
    exact .inr waits

end Places

theorem inFlight_step (stepped : state.step action = some after) {database : DatabaseNumber}
    (inFlight : after.InFlight database) :
    state.InFlight database ∨
      (∃ listener, action = .getSensor listener) ∧ database = state.sensorsInfo := by
  cases action with
  | getSensor listener =>
      cases free : state.found listener with
      | some other => simp [step, free] at stepped
      | none =>
          simp only [step, free, Option.some.injEq] at stepped
          subst stepped
          cases inFlight with
          | found other has =>
              rcases update_some has with new | old
              · exact .inr ⟨⟨listener, rfl⟩, (Option.some.inj new).symm⟩
              · exact .inl (.found other old)
          | queued other waits => exact .inl (.queued other waits)
          | dissecting other has => exact .inl (.dissecting other has)
  | addPacketToWorker listener worker =>
      cases holds : state.found listener with
      | none => simp [step, holds] at stepped
      | some other =>
          simp only [step, holds, Option.some.injEq] at stepped
          subst stepped
          left
          cases inFlight with
          | found other has =>
              rcases update_some has with new | old
              · cases new
              · exact .found other old
          | queued other waits =>
              rcases mem_update waits with new | old
              · rcases List.mem_append.mp new with before | added
                · exact .queued worker before
                · rw [List.mem_singleton.mp added]
                  exact .found listener holds
              · exact .queued other old
          | dissecting other has => exact .dissecting other has
  | popPacket worker =>
      cases free : state.dissecting worker with
      | some other => simp [step, free] at stepped
      | none =>
          cases queue : state.packetsQueue worker with
          | nil => simp [step, free, queue] at stepped
          | cons first rest =>
              simp only [step, free, queue, Option.some.injEq] at stepped
              subst stepped
              have waited : ∀ other ∈ first :: rest, state.InFlight other :=
                fun other member => .queued worker (queue ▸ member)
              left
              cases inFlight with
              | found other has => exact .found other has
              | queued other waits =>
                  rcases mem_update waits with new | old
                  · exact waited _ (List.mem_cons_of_mem _ new)
                  · exact .queued other old
              | dissecting other has =>
                  rcases update_some has with new | old
                  · obtain rfl := Option.some.inj new
                    exact waited _ List.mem_cons_self
                  · exact .dissecting other old
  | freePacket worker =>
      cases holds : state.dissecting worker with
      | none => simp [step, holds] at stepped
      | some other =>
          simp only [step, holds, Option.some.injEq] at stepped
          subst stepped
          left
          cases inFlight with
          | found other has => exact .found other has
          | queued other waits => exact .queued other waits
          | dissecting other has =>
              rcases update_some has with new | old
              · cases new
              · exact .dissecting other old
  | deleteSensorsDb =>
      simp only [step] at stepped
      split at stepped
      · cases stepped
      · cases stepped
        left
        cases inFlight with
        | found other has => exact .found other has
        | queued other waits => exact .queued other waits
        | dissecting other has => exact .dissecting other has
  | readConfig =>
      simp only [step] at stepped
      split at stepped
      · cases stepped
        left
        cases inFlight with
        | found other has => exact .found other has
        | queued other waits => exact .queued other waits
        | dissecting other has => exact .dissecting other has
      · cases stepped

theorem inFlight_stays (stepped : state.step action = some after) {database : DatabaseNumber}
    (inFlight : state.InFlight database) :
    after.InFlight database ∨
      ∃ worker, action = .freePacket worker ∧ state.dissecting worker = some database := by
  cases action with
  | getSensor listener =>
      simp only [step] at stepped
      split at stepped
      · next free =>
          cases stepped
          left
          cases inFlight with
          | found other has =>
              have another : other ≠ listener := by
                rintro rfl
                rw [free] at has
                cases has
              exact .found other (by simpa only [Function.update_of_ne another])
          | queued other waits => exact .queued other waits
          | dissecting other has => exact .dissecting other has
      · cases stepped
  | addPacketToWorker listener worker =>
      simp only [step] at stepped
      split at stepped
      · cases stepped
      · next passed holds =>
          cases stepped
          left
          cases inFlight with
          | found other has =>
              by_cases same : other = listener
              · rw [same, holds] at has
                obtain rfl := Option.some.inj has
                exact .queued worker (by simp only [Function.update_self, List.mem_append,
                  List.mem_cons, true_or, or_true])
              · exact .found other (by simpa only [Function.update_of_ne same])
          | queued other waited =>
              by_cases same : other = worker
              · rw [same] at waited
                exact .queued worker (by
                  simpa only [Function.update_self] using List.mem_append_left _ waited)
              · exact .queued other (by simpa only [Function.update_of_ne same])
          | dissecting other has => exact .dissecting other has
  | popPacket worker =>
      simp only [step] at stepped
      split at stepped
      · next first rest free queue =>
          cases stepped
          left
          cases inFlight with
          | found other has => exact .found other has
          | queued other waits =>
              by_cases same : other = worker
              · rw [same, queue] at waits
                rcases List.mem_cons.mp waits with rfl | later
                · exact .dissecting worker (by simp only [Function.update_self])
                · exact .queued worker (by simpa only [Function.update_self])
              · exact .queued other (by simpa only [Function.update_of_ne same])
          | dissecting other has =>
              have another : other ≠ worker := by
                rintro rfl
                rw [free] at has
                cases has
              exact .dissecting other (by simpa only [Function.update_of_ne another])
      · cases stepped
  | freePacket worker =>
      simp only [step] at stepped
      split at stepped
      · cases stepped
      · cases stepped
        cases inFlight with
        | found other has => exact .inl (.found other has)
        | queued other waits => exact .inl (.queued other waits)
        | dissecting other has =>
            by_cases same : other = worker
            · exact .inr ⟨worker, rfl, same ▸ has⟩
            · exact .inl (.dissecting other (by simpa only [Function.update_of_ne same]))
  | deleteSensorsDb =>
      simp only [step] at stepped
      split at stepped
      · cases stepped
      · cases stepped
        left
        cases inFlight with
        | found other has => exact .found other has
        | queued other waits => exact .queued other waits
        | dissecting other has => exact .dissecting other has
  | readConfig =>
      simp only [step] at stepped
      split at stepped
      · cases stepped
        left
        cases inFlight with
        | found other has => exact .found other has
        | queued other waits => exact .queued other waits
        | dissecting other has => exact .dissecting other has
      · cases stepped

/-- Only a reload changes the databases. -/
theorem step_databases (stepped : state.step action = some after) :
    (after.reading = state.reading ∧ after.sensorsInfo = state.sensorsInfo ∧
        after.deleted = state.deleted ∧ action ≠ .deleteSensorsDb) ∨
      (action = .deleteSensorsDb ∧ state.reading = false ∧ after.reading = true ∧
        after.sensorsInfo = state.sensorsInfo ∧
        after.deleted = state.sensorsInfo :: state.deleted) ∨
      (action = .readConfig ∧ state.reading = true ∧ after.reading = false ∧
        after.sensorsInfo = state.sensorsInfo + 1 ∧ after.deleted = state.deleted) := by
  cases action with
  | deleteSensorsDb =>
      simp only [step] at stepped
      split at stepped
      · cases stepped
      · next settled =>
          cases stepped
          exact .inr (.inl ⟨rfl, Bool.eq_false_iff.mpr settled, rfl, rfl, rfl⟩)
  | readConfig =>
      simp only [step] at stepped
      split at stepped
      · next reading =>
          cases stepped
          exact .inr (.inr ⟨rfl, reading, rfl, rfl, rfl⟩)
      · cases stepped
  | _ =>
      simp only [step] at stepped
      split at stepped <;> cases stepped
      exact .inl ⟨rfl, rfl, rfl, by simp⟩

theorem alive_step (alive : Alive state) (alone : state.ReloadsAlone action)
    (stepped : state.step action = some after) : Alive after := by
  obtain ⟨inFlight, past, current, gone⟩ := alive
  have arrives := @inFlight_step _ _ _ stepped
  rcases step_databases stepped with ⟨reading, info, deleted, -⟩ |
    ⟨rfl, settled, reading, info, deleted⟩ | ⟨rfl, unsettled, reading, info, deleted⟩
  · constructor
    · intro database flies
      rw [reading, info]
      rcases arrives flies with before | ⟨⟨listener, rfl⟩, new⟩
      · exact inFlight database before
      · exact ⟨alone, new⟩
    · rwa [deleted, info]
    · rwa [deleted, info, reading]
    · rwa [deleted, info, reading]
  · constructor
    · intro database flies
      rcases arrives flies with before | ⟨⟨listener, other⟩, -⟩
      · exact absurd before (alone database)
      · cases other
    · rw [deleted, info]
      exact List.forall_mem_cons.mpr ⟨Nat.le_refl _, past⟩
    · intro other
      rw [reading] at other
      cases other
    · intro _
      rw [deleted, info]
      exact List.mem_cons_self
  · constructor
    · intro database flies
      rcases arrives flies with before | ⟨⟨listener, other⟩, -⟩
      · have never := (inFlight database before).1
        rw [unsettled] at never
        cases never
      · cases other
    · intro database member
      rw [deleted] at member
      rw [info]
      exact Nat.le_succ_of_le (past database member)
    · intro _ member
      rw [deleted, info] at member
      exact absurd (past _ member) (Nat.not_succ_le_self _)
    · intro other
      rw [reading] at other
      cases other

/-- A packet in flight whose sensor is gone. -/
def Stranded (state : ReloadState) : Prop :=
  ∃ database, state.InFlight database ∧ database ∈ state.deleted

theorem stranded_of_not_alone (alive : Alive state) (early : ¬state.ReloadsAlone action)
    (stepped : state.step action = some after) : Stranded after := by
  cases action with
  | deleteSensorsDb =>
      obtain ⟨database, flies⟩ : ∃ database, state.InFlight database := by
        simpa [ReloadsAlone] using early
      obtain ⟨-, rfl⟩ := alive.inFlight database flies
      simp only [step] at stepped
      split at stepped
      · cases stepped
      · cases stepped
        refine ⟨_, ?_, List.mem_cons_self⟩
        cases flies with
        | found other has => exact .found other has
        | queued other waits => exact .queued other waits
        | dissecting other has => exact .dissecting other has
  | getSensor listener =>
      have unsettled : state.reading = true := by
        simpa [ReloadsAlone] using early
      simp only [step] at stepped
      split at stepped
      · cases stepped
        exact ⟨state.sensorsInfo, .found listener (by simp only [Function.update_self]),
          alive.gone unsettled⟩
      · cases stepped
  | _ => exact absurd trivial early

theorem stranded_step (stranded : Stranded state) (safe : NotStranded state)
    (stepped : state.step action = some after) : Stranded after := by
  obtain ⟨database, flies, member⟩ := stranded
  refine ⟨database, ?_, ?_⟩
  · rcases inFlight_stays stepped flies with stays | ⟨worker, -, has⟩
    · exact stays
    · exact absurd member (safe worker database has)
  · rcases step_databases stepped with ⟨-, -, deleted, -⟩ | ⟨-, -, -, -, deleted⟩ |
      ⟨-, -, -, -, deleted⟩
    · rwa [deleted]
    · rw [deleted]
      exact List.mem_cons_of_mem _ member
    · rwa [deleted]

theorem stranded_run {actions : List ReloadAction} {final : ReloadState}
    (ran : Takes step state actions final) (stranded : Stranded state)
    (safe : EveryState step NotStranded state actions) : Stranded final := by
  induction ran with
  | refl state => exact stranded
  | next first later ih => exact ih (stranded_step stranded safe.1 first) (safe.2 _ first)

theorem everyStep_of_notStranded {actions : List ReloadAction} {final : ReloadState}
    (ran : Takes step state actions final) (alive : Alive state)
    (landed : ∀ database, ¬final.InFlight database)
    (safe : EveryState step NotStranded state actions) :
    EveryStep step ReloadsAlone state actions := by
  induction ran with
  | refl state => exact trivial
  | @next state after final action rest first later ih =>
      have alone : state.ReloadsAlone action := by
        by_contra early
        have stranded := stranded_of_not_alone alive early first
        obtain ⟨database, flies, -⟩ := stranded_run later stranded (safe.2 _ first)
        exact landed database flies
      refine ⟨alone, fun other same => ?_⟩
      obtain rfl := Option.some.inj (first.symm.trans same)
      exact ih (alive_step alive alone first) landed (safe.2 _ first)

end ReloadState

/-- No packet is dissected with a sensor of a deleted database as long as a database is deleted
when no packet is in flight. Only such reloads are safe if every packet is dissected in the
end. -/
theorem reload_notStranded {actions : List ReloadAction} {state : ReloadState}
    (ran : Takes ReloadState.step .start actions state) :
    (EveryStep ReloadState.step ReloadState.ReloadsAlone .start actions →
        EveryState ReloadState.step ReloadState.NotStranded .start actions) ∧
      ((∀ database, ¬state.InFlight database) →
        EveryState ReloadState.step ReloadState.NotStranded .start actions →
        EveryStep ReloadState.step ReloadState.ReloadsAlone .start actions) := by
  constructor
  · intro every
    have alive := every.everyState (fun _ _ _ => ReloadState.alive_step) ReloadState.alive_start
    exact alive.mono fun _ => ReloadState.Alive.notStranded
  · exact ReloadState.everyStep_of_notStranded ran ReloadState.alive_start

/-- One packet before the reload and one after it. -/
def reloadBetween : List ReloadAction :=
  [.getSensor 0, .addPacketToWorker 0 1, .popPacket 1, .freePacket 1, .deleteSensorsDb,
    .readConfig, .getSensor 0]

theorem reload_notStranded_between :
    EveryState ReloadState.step ReloadState.NotStranded .start reloadBetween := by
  obtain ⟨state, ran⟩ : ∃ state, Takes ReloadState.step .start reloadBetween state :=
    ⟨_, .next rfl (.next rfl (.next rfl (.next rfl (.next rfl (.next rfl (.next rfl
      (.refl _)))))))⟩
  apply (reload_notStranded ran).1
  refine ⟨rfl, ?_⟩
  rintro _ ⟨⟩
  refine ⟨trivial, ?_⟩
  rintro _ ⟨⟩
  refine ⟨trivial, ?_⟩
  rintro _ ⟨⟩
  refine ⟨trivial, ?_⟩
  rintro _ ⟨⟩
  refine ⟨?_, ?_⟩
  · intro database flies
    cases flies with
    | found listener has => match listener, has with
      | 0, has => cases has
      | _ + 1, has => cases has
    | queued worker waits => match worker, waits with
      | 0, waits => cases waits
      | 1, waits => cases waits
      | _ + 2, waits => cases waits
    | dissecting worker has => match worker, has with
      | 0, has => cases has
      | 1, has => cases has
      | _ + 2, has => cases has
  rintro _ ⟨⟩
  refine ⟨trivial, ?_⟩
  rintro _ ⟨⟩
  exact ⟨rfl, fun _ _ => trivial⟩

/-- The packet waits in the queue of the worker while the database of its sensor is deleted. -/
theorem reload_strands :
    ∃ state, Takes ReloadState.step .start
        [.getSensor 0, .addPacketToWorker 0 1, .deleteSensorsDb, .readConfig, .popPacket 1]
        state ∧
      ¬state.NotStranded := by
  refine ⟨_, .next rfl (.next rfl (.next rfl (.next rfl (.next rfl (.refl _))))), ?_⟩
  intro safe
  exact safe 1 0 rfl List.mem_cons_self

end F2k
