import F2k.DnsCacheContents

namespace F2k

open Lib Lib.CacheEvent

/-! Runs of calls of the DNS cache, by any number of threads: every call takes its lock. -/

inductive DnsCacheReturn
  | nothing
  | saved (result : SavedElm)
  | got (addr : Bytes) (now : Int) (result : Option Pointer)
  | crashed (fault : DnsCacheFault)

/-- The cache, the handles that have been returned and not been released, what has happened,
and what the last call returned. -/
structure DnsCacheState where
  cache : DnsCache
  handles : List Pointer
  log : List (CacheEvent Bytes SavedName)
  returned : DnsCacheReturn

inductive DnsCacheCall
  | saveElm (addr name : Bytes) (now : Int) (calloc : Option Pointer)
  | getElm (addr : Bytes) (now : Int)
  | decrefElm (pointer : Pointer)

namespace DnsCacheState

def new (entrySize maxmemM : Nat) (timeoutS : Int) : DnsCacheState where
  cache := .new entrySize maxmemM timeoutS
  handles := []
  log := []
  returned := .nothing

/-- A new entry is in memory that is free, and a handle is only released while it is
outstanding. -/
def step (state : DnsCacheState) : DnsCacheCall → Option DnsCacheState
  | .saveElm addr name now calloc =>
      if calloc.all fun pointer => (state.cache.memctx.lookup pointer).isNone then
        match state.cache.saveElm addr name now calloc with
        | .error fault => some { state with returned := .crashed fault }
        | .ok (cache, .elm pointer, dropped) =>
            some
              { cache
                handles := pointer :: state.handles
                log := .saved addr (name, now) :: (dropped.map .evicted ++ state.log)
                returned := .saved (.elm pointer) }
        | .ok (cache, result, dropped) =>
            some
              { state with
                cache
                log := dropped.map .evicted ++ state.log
                returned := .saved result }
      else none
  | .getElm addr now =>
      match state.cache.getElm addr now with
      | .error fault => some { state with returned := .crashed fault }
      | .ok (cache, some pointer, _) =>
          some
            { cache
              handles := pointer :: state.handles
              log := .used addr :: state.log
              returned := .got addr now (some pointer) }
      | .ok (cache, none, tooOld) =>
          some
            { state with
              cache
              log := if tooOld then .expired addr now :: state.log else state.log
              returned := .got addr now none }
  | .decrefElm pointer =>
      if pointer ∈ state.handles then
        match state.cache.decrefElm pointer with
        | .error fault => some { state with returned := .crashed fault }
        | .ok cache =>
            some
              { state with
                cache
                handles := state.handles.erase pointer
                returned := .nothing }
      else none

/-- The list and the tree have the same entries, whose references are counted and whose memory
is limited. -/
structure Consistent (state : DnsCacheState) : Prop where
  sameEntries : ∀ pointer, pointer ∈ state.cache.lru ↔
    ∃ entry, state.cache.memctx.lookup pointer = some entry ∧
      state.cache.avl.lookup entry.addr = some pointer
  onlyEntries : ∀ addr pointer, state.cache.avl.lookup addr = some pointer →
    ∃ entry, state.cache.memctx.lookup pointer = some entry ∧ entry.addr = addr
  once : state.cache.lru.Nodup
  refcnt : ∀ pointer entry, state.cache.memctx.lookup pointer = some entry →
    entry.refcnt.toNat =
      (if pointer ∈ state.cache.lru then 1 else 0) + state.handles.count pointer
  freed : ∀ pointer, state.cache.memctx.lookup pointer = none ↔
    (if pointer ∈ state.cache.lru then 1 else 0) + state.handles.count pointer = 0
  fits : ((state.cache.lru.filterMap fun pointer => state.cache.memctx.lookup pointer).map
    fun entry => state.cache.realEntrySize entry.name).sum ≤ state.cache.maxMemB
  evictsOldest : EvictsOldest state.log
  expiresOld : ExpiresOld Prod.snd state.cache.timeoutS state.log

/-- What the last call returned: no pointer or a handle, and the name that was saved last. -/
def Answered (state : DnsCacheState) : Prop :=
  match state.returned with
  | .nothing => True
  | .saved .null => True
  | .saved .elmOfNull => False
  | .saved (.elm pointer) =>
      pointer ∈ state.handles ∧ (state.cache.memctx.lookup pointer).isSome
  | .got addr _ none => latest addr state.log = none
  | .got addr now (some pointer) =>
      pointer ∈ state.handles ∧
        ∃ entry, state.cache.memctx.lookup pointer = some entry ∧ entry.addr = addr ∧
          latest addr state.log = some (entry.name, entry.lastChecked) ∧
          now - entry.lastChecked ≤ state.cache.timeoutS
  | .crashed _ => False

/-- The memory context has memory for a new entry, and the counter of an entry that is found
can count one more. -/
def Succeeds (state : DnsCacheState) : DnsCacheCall → Prop
  | .saveElm _ _ _ calloc => calloc ≠ none
  | .getElm addr _ => ∀ pointer entry, state.cache.avl.lookup addr = some pointer →
      state.cache.memctx.lookup pointer = some entry → entry.refcnt.toNat + 1 < 2 ^ 32
  | .decrefElm _ => True

structure Sound (state : DnsCacheState) : Prop where
  sound : state.cache.Sound state.handles state.log
  answered : state.Answered

theorem sound_new (entrySize maxmemM : Nat) (timeoutS : Int) :
    Sound (.new entrySize maxmemM timeoutS) :=
  ⟨DnsCache.sound_new entrySize maxmemM timeoutS, trivial⟩

theorem step_sound {state after : DnsCacheState} {call : DnsCacheCall} (sound : Sound state)
    (succeeds : state.Succeeds call) (stepped : state.step call = some after) : Sound after := by
  obtain ⟨sound, -⟩ := sound
  cases call with
  | saveElm addr name now calloc =>
      simp only [step] at stepped
      split at stepped
      · next fresh =>
          have free : ∀ pointer ∈ calloc, state.cache.memctx.lookup pointer = none := by
            rintro pointer rfl
            simpa using fresh
          obtain ⟨memctx, avl, lru, evicted, result, ran, promised⟩ :=
            DnsCache.saveElm_sound sound addr name now free
          rw [ran] at stepped
          cases result with
          | null =>
              cases stepped
              exact ⟨promised, trivial⟩
          | elmOfNull => exact absurd promised.1 succeeds
          | elm pointer =>
              obtain ⟨-, -, promised⟩ := promised
              cases stepped
              refine ⟨promised, List.mem_cons_self, ?_⟩
              exact (promised.holds.counted.allocated pointer).mpr
                (List.mem_append_right _ List.mem_cons_self)
      · cases stepped
  | getElm addr now =>
      simp only [step] at stepped
      obtain ⟨result, ran, gets⟩ := DnsCache.getElm_sound sound addr now succeeds
      rw [ran] at stepped
      cases gets with
      | hit known young stores hit =>
          cases stepped
          obtain ⟨refcnt, allocated⟩ := stores.allocated
          exact ⟨hit, List.mem_cons_self, _, allocated, rfl, known, young⟩
      | unknown missing =>
          cases stepped
          exact ⟨sound, missing⟩
      | old old =>
          cases stepped
          refine ⟨old, ?_⟩
          simp [Answered, latest]
  | decrefElm pointer =>
      simp only [step] at stepped
      split at stepped
      · next member =>
          obtain ⟨memctx, ran, released⟩ := DnsCache.decrefElm_sound sound member
          rw [ran] at stepped
          cases stepped
          exact ⟨released, trivial⟩
      · cases stepped

theorem Sound.consistent {state : DnsCacheState} (sound : Sound state) : Consistent state := by
  obtain ⟨holds, fits, evictsOldest, expiresOld⟩ := sound.sound
  have references : ∀ pointer, (state.cache.lru ++ state.handles).count pointer =
      (if pointer ∈ state.cache.lru then 1 else 0) + state.handles.count pointer := by
    intro pointer
    rw [List.count_append, holds.lru_nodup.count]
  constructor
  · intro pointer
    constructor
    · intro member
      obtain ⟨item, -, stores⟩ := holds.stores_of_mem member
      obtain ⟨refcnt, allocated⟩ := stores.allocated
      exact ⟨_, allocated, stores.found⟩
    · rintro ⟨entry, -, found⟩
      exact (holds.stores_of_found found).1
  · intro addr pointer found
    obtain ⟨-, value, -, stores⟩ := holds.stores_of_found found
    obtain ⟨refcnt, allocated⟩ := stores.allocated
    exact ⟨_, allocated, rfl⟩
  · exact holds.lru_nodup
  · intro pointer entry found
    rw [← references]
    exact holds.counted.refcnt pointer entry found
  · intro pointer
    rw [← references, List.count_eq_zero, ← holds.counted.allocated, Option.not_isSome_iff_eq_none]
  · rwa [holds.sizes]
  · exact evictsOldest
  · exact expiresOld

end DnsCacheState

theorem dnsCache_consistent {entrySize maxmemM : Nat} {timeoutS : Int}
    {calls : List DnsCacheCall} {state : DnsCacheState}
    (ran : Takes DnsCacheState.step (.new entrySize maxmemM timeoutS) calls state)
    (every : EveryStep DnsCacheState.step DnsCacheState.Succeeds
      (.new entrySize maxmemM timeoutS) calls) :
    state.Consistent ∧ state.Answered := by
  have sound := ran.last
    (every.everyState (fun _ _ _ => DnsCacheState.step_sound) (DnsCacheState.sound_new _ _ _))
  exact ⟨sound.consistent, sound.answered⟩

/-- The name is saved and found, and the handle that saving it has returned is released. -/
theorem dnsCache_consistent_found :
    ∃ state, Takes DnsCacheState.step (.new 64 1 60)
        [.saveElm [1] [2] 10 (some 7), .getElm [1] 20, .decrefElm 7] state ∧
      state.Consistent ∧ state.Answered := by
  refine ⟨_, .next rfl (.next rfl (.next rfl (.refl _))), ?_⟩
  refine @dnsCache_consistent 64 1 60
    [.saveElm [1] [2] 10 (some 7), .getElm [1] 20, .decrefElm 7] _
    (.next rfl (.next rfl (.next rfl (.refl _)))) ?_
  refine ⟨fun failed => (nomatch failed), ?_⟩
  rintro _ ⟨⟩
  refine ⟨?_, ?_⟩
  · rintro pointer entry ⟨⟩ ⟨⟩
    decide
  rintro _ ⟨⟩
  exact ⟨trivial, fun _ _ => trivial⟩

/-- There is room, but no memory. -/
theorem dnsCache_answers_elmOfNull :
    ∃ state, Takes DnsCacheState.step (.new 64 1 60) [.saveElm [1] [2] 10 none] state ∧
      state.returned = .saved .elmOfNull ∧ ¬state.Answered :=
  ⟨_, .next rfl (.refl _), rfl, id⟩

end F2k
