import F2k.DnsResolutionRuns

namespace F2k

open Lib

/-! Whose names the cache has, and with which names the flows are printed. -/

/-- Every entry was there before with the same address and name, or has been saved. -/
def Keeps (saved : Option (Pointer × Bytes × Bytes)) (before after : Table Pointer DnsCacheEntry) :
    Prop :=
  ∀ pointer entry, after.lookup pointer = some entry →
    (∃ old, before.lookup pointer = some old ∧ old.addr = entry.addr ∧ old.name = entry.name) ∨
      saved = some (pointer, entry.addr, entry.name)

section Keeps

variable {saved : Option (Pointer × Bytes × Bytes)}
  {before between after : Table Pointer DnsCacheEntry} {pointer : Pointer} {entry : DnsCacheEntry}

theorem Keeps.refl (table : Table Pointer DnsCacheEntry) : Keeps saved table table :=
  fun _ entry found => .inl ⟨entry, found, rfl, rfl⟩

theorem Keeps.trans (first : Keeps saved before between) (second : Keeps none between after) :
    Keeps saved before after := by
  intro pointer entry found
  rcases second pointer entry found with ⟨old, foundOld, addr, name⟩ | none
  · rcases first pointer old foundOld with ⟨older, foundOlder, addr', name'⟩ | new
    · exact .inl ⟨older, foundOlder, addr'.trans addr, name'.trans name⟩
    · rw [addr, name] at new
      exact .inr new
  · cases none

theorem Keeps.after_none (first : Keeps none before between) (second : Keeps saved between after) :
    Keeps saved before after := by
  intro pointer entry found
  rcases second pointer entry found with ⟨old, foundOld, addr, name⟩ | new
  · rcases first pointer old foundOld with ⟨older, foundOlder, addr', name'⟩ | none
    · exact .inl ⟨older, foundOlder, addr'.trans addr, name'.trans name⟩
    · cases none
  · exact .inr new

theorem keeps_erase (table : Table Pointer DnsCacheEntry) (pointer : Pointer) :
    Keeps none table (table.erase pointer) := by
  intro other entry found
  by_cases same : other = pointer
  · rw [same, AList.lookup_erase] at found
    cases found
  · rw [AList.lookup_erase_ne same] at found
    exact .inl ⟨entry, found, rfl, rfl⟩

theorem keeps_recount (found : before.lookup pointer = some entry) (refcnt : UInt32) :
    Keeps none before (before.insert pointer { entry with refcnt }) := by
  intro other entry' found'
  by_cases same : other = pointer
  · subst same
    rw [AList.lookup_insert] at found'
    cases found'
    exact .inl ⟨entry, found, rfl, rfl⟩
  · rw [AList.lookup_insert_ne same] at found'
    exact .inl ⟨entry', found', rfl, rfl⟩

theorem keeps_insert (table : Table Pointer DnsCacheEntry) (pointer : Pointer)
    (entry : DnsCacheEntry) :
    Keeps (some (pointer, entry.addr, entry.name)) table (table.insert pointer entry) := by
  intro other entry' found
  by_cases same : other = pointer
  · subst same
    rw [AList.lookup_insert] at found
    cases found
    exact .inr rfl
  · rw [AList.lookup_insert_ne same] at found
    exact .inl ⟨entry', found, rfl, rfl⟩

end Keeps

namespace DnsCache

variable {cache after : DnsCache} {addr name : Bytes} {now : Int}

theorem decrefElm_keeps {pointer : Pointer} (ran : cache.decrefElm pointer = .ok after) :
    Keeps none cache.memctx after.memctx := by
  rw [decrefElm] at ran
  split at ran
  · cases ran
  · next entry found =>
      cases ran
      simp only
      split
      · exact keeps_erase _ _
      · exact keeps_recount found _

theorem makeRoom_keeps {bytesOut neededSize turns freedSize : Nat} {dropped dropped' : List Bytes}
    {room : Bool}
    (ran : makeRoom bytesOut neededSize turns freedSize cache dropped =
      .ok (room, after, dropped')) :
    Keeps none cache.memctx after.memctx := by
  induction turns generalizing freedSize cache dropped with
  | zero => cases ran
  | succ turns ih =>
      rw [makeRoom] at ran
      split at ran
      · split at ran
        · cases ran
          exact .refl _
        · split at ran
          · cases ran
          · obtain ⟨between, freed, made⟩ := exists_of_bind_eq_ok ran
            have kept := decrefElm_keeps freed
            exact kept.trans (ih made)
      · cases ran
        exact .refl _

theorem getElm_keeps {result : Option Pointer} {tooOld : Bool}
    (ran : cache.getElm addr now = .ok (after, result, tooOld)) :
    Keeps none cache.memctx after.memctx := by
  rw [getElm] at ran
  split at ran
  · cases ran
    exact .refl _
  · next pointer _ =>
      split at ran
      · cases ran
      · next entry found =>
          simp only at ran
          split at ran
          · obtain ⟨between, freed, made⟩ := exists_of_bind_eq_ok ran
            cases made
            have kept := decrefElm_keeps freed
            exact kept
          · cases ran
            exact keeps_recount found _

theorem saveElm_keeps {calloc : Option Pointer} {result : SavedElm} {dropped : List Bytes}
    (ran : cache.saveElm addr name now calloc = .ok (after, result, dropped)) :
    Keeps (calloc.map fun pointer => (pointer, addr, name)) cache.memctx after.memctx := by
  rw [saveElm] at ran
  obtain ⟨⟨room, between, evicted⟩, made, saved⟩ := exists_of_bind_eq_ok ran
  have kept := makeRoom_keeps made
  simp only at saved
  split at saved
  · split at saved
    · cases saved
      exact kept
    · next pointer =>
        have inserted := kept.after_none
          (keeps_insert between.memctx pointer { addr, name, lastChecked := now, refcnt := 2 })
        split at saved
        · cases saved
          exact inserted
        · obtain ⟨_, freed, last⟩ := exists_of_bind_eq_ok saved
          cases last
          exact inserted.trans (decrefElm_keeps freed)
  · cases saved
    exact kept.after_none (.refl _)

end DnsCache

def KeepsIn (saved : Option (Pointer × Bytes × Bytes)) (before after : Option DnsCache) : Prop :=
  ∀ dnsCache ∈ after, ∃ old ∈ before, Keeps saved old.memctx dnsCache.memctx

theorem KeepsIn.refl (saved : Option (Pointer × Bytes × Bytes)) (cache : Option DnsCache) :
    KeepsIn saved cache cache :=
  fun dnsCache here => ⟨dnsCache, here, .refl _⟩

theorem KeepsIn.trans {before between after : Option DnsCache}
    (first : KeepsIn none before between) (second : KeepsIn none between after) :
    KeepsIn none before after := by
  intro dnsCache here
  obtain ⟨middle, there, kept⟩ := second dnsCache here
  obtain ⟨old, first, keptFirst⟩ := first middle there
  exact ⟨old, first, keptFirst.trans kept⟩

theorem keepsIn_some {saved : Option (Pointer × Bytes × Bytes)} {old after : DnsCache}
    (kept : Keeps saved old.memctx after.memctx) : KeepsIn saved (some old) (some after) := by
  rintro _ ⟨⟩
  exact ⟨old, rfl, kept⟩

namespace UdnsOpaque

variable {cache cache' : Option DnsCache} {udns udns' : UdnsOpaque} {party : DnsParty} {now : Int}

theorem getElm_keeps (ran : getElm cache udns party now = .ok (cache', udns')) :
    KeepsIn none cache cache' := by
  unfold getElm at ran
  split at ran
  · split at ran
    · cases ran
    · next found =>
        cases ran
        exact keepsIn_some (DnsCache.getElm_keeps found)
    · next found =>
        cases ran
        exact keepsIn_some (DnsCache.getElm_keeps found)
  · cases ran
    exact .refl _ _

theorem work_keeps (ran : udns.work cache now = some (.ok (cache', udns'))) :
    KeepsIn none cache cache' := by
  rw [work] at ran
  split at ran
  · cases ran
  · split at ran
    · exact getElm_keeps (Option.some.inj ran)
    · exact getElm_keeps (Option.some.inj ran)
    · split at ran
      · cases ran
        exact .refl _ _
      · cases ran
        exact .refl _ _
    · cases ran
      exact .refl _ _
    · cases ran
      exact .refl _ _
    · cases ran

theorem decrefElm_keeps {element : SavedElm} (ran : decrefElm cache element = .ok cache') :
    KeepsIn none cache cache' := by
  unfold decrefElm at ran
  split at ran
  · cases ran
    exact .refl _ _
  · cases ran
  · split at ran
    · cases ran
    · split at ran
      · cases ran
      · next released =>
          cases ran
          exact keepsIn_some (DnsCache.decrefElm_keeps released)

theorem split_keeps {globals : ReadOnlyGlobals} {printed : LineState}
    (ran : udns.split globals cache = .ok (cache', udns', printed)) :
    KeepsIn none cache cache' := by
  rw [split] at ran
  split at ran
  · cases ran
  · obtain ⟨_, -, ran⟩ := exists_of_bind_eq_ok ran
    obtain ⟨_, -, ran⟩ := exists_of_bind_eq_ok ran
    obtain ⟨_, -, ran⟩ := exists_of_bind_eq_ok ran
    obtain ⟨_, client, ran⟩ := exists_of_bind_eq_ok ran
    obtain ⟨_, target, ran⟩ := exists_of_bind_eq_ok ran
    cases ran
    exact (decrefElm_keeps client).trans (decrefElm_keeps target)

/-- The entry that a query's answer is saved in. -/
def savedEntry (udns : UdnsOpaque) (party : DnsParty) (result : Option Bytes)
    (calloc : Option Pointer) : Option (Pointer × Bytes × Bytes) :=
  calloc.bind fun pointer =>
    result.map fun name => (pointer, udns.flowCache.partyAddress party, name)

theorem saveName_keeps {name : Bytes} {calloc : Option Pointer}
    (ran : saveName cache udns party name now calloc = .ok (cache', udns')) :
    KeepsIn (calloc.map fun pointer => (pointer, udns.flowCache.partyAddress party, name)) cache
      cache' := by
  unfold saveName at ran
  split at ran
  · cases ran
  · simp only at ran
    split at ran
    · cases ran
    · next saved =>
        cases ran
        exact keepsIn_some (DnsCache.saveElm_keeps saved)
    · next saved =>
        cases ran
        exact keepsIn_some (DnsCache.saveElm_keeps saved)
    · next saved =>
        cases ran
        exact keepsIn_some (DnsCache.saveElm_keeps saved)

theorem completed_keeps {result : Option Bytes} {calloc : Option Pointer}
    (ran : udns.dnsQueryCompleted0 cache party result now calloc = .ok (cache', udns')) :
    KeepsIn (udns.savedEntry party result calloc) cache cache' := by
  unfold dnsQueryCompleted0 at ran
  split at ran
  · cases ran
  · split at ran
    · cases ran
      exact .refl _ _
    · next name =>
        have entry : udns.savedEntry party (some name) calloc =
            calloc.map fun pointer => (pointer, udns.flowCache.partyAddress party, name) := by
          cases calloc <;> rfl
        rw [entry]
        obtain ⟨⟨between, answered⟩, saved, last⟩ := exists_of_bind_eq_ok ran
        obtain rfl : between = cache' := congrArg Prod.fst (Except.ok.inj last)
        exact saveName_keeps saved

/-! The names of a flow -/

/-- The names that a flow has, and the names behind its handles, are the resolver's for its
addresses, and what it has asked for is answered with them. -/
structure Named (resolver : Bytes → Option Bytes) (cache : Option DnsCache) (udns : UdnsOpaque) :
    Prop where
  name : ∀ party, ∀ name ∈ (udns.names party).name,
    resolver (udns.flowCache.partyAddress party) = some name
  elm : udns.freed = false → ∀ party pointer, (udns.names party).nameCache = .elm pointer →
    ∀ dnsCache ∈ cache, udns.Entry party dnsCache pointer fun _ => True
  asked : ∀ party ipv4, (udns.names party).query = .submitted ipv4 →
    ∀ name ∈ resolver (ipv4bufTo6 ipv4), resolver (udns.flowCache.partyAddress party) = some name

variable {resolver : Bytes → Option Bytes}

theorem mem_held {pointer : Pointer} (notFreed : udns.freed = false)
    (has : (udns.names party).nameCache = .elm pointer) : pointer ∈ udns.held := by
  rw [held, notFreed, if_neg Bool.false_ne_true, elements]
  cases party with
  | client =>
      apply List.mem_append_left
      rw [has]
      exact List.mem_cons_self
  | target =>
      apply List.mem_append_right
      rw [has]
      exact List.mem_cons_self

/-- Whatever happens to the cache, a handle stays the one of the same address. -/
theorem Named.frame {saved : Option (Pointer × Bytes × Bytes)} (named : Named resolver cache udns)
    (before : ∀ pointer ∈ udns.held, ∀ dnsCache ∈ cache, (dnsCache.memctx.lookup pointer).isSome)
    (after : ∀ pointer ∈ udns.held, ∀ dnsCache ∈ cache', (dnsCache.memctx.lookup pointer).isSome)
    (keeps : KeepsIn saved cache cache')
    (fresh : ∀ pointer addr name, saved = some (pointer, addr, name) → ∀ dnsCache ∈ cache,
      dnsCache.memctx.lookup pointer = none) : Named resolver cache' udns := by
  refine ⟨named.name, ?_, named.asked⟩
  intro notFreed party pointer has dnsCache here
  have member := mem_held notFreed has
  obtain ⟨entry, found⟩ := Option.isSome_iff_exists.mp (after pointer member dnsCache here)
  obtain ⟨old, there, kept⟩ := keeps dnsCache here
  rcases kept pointer entry found with ⟨first, foundFirst, addr, -⟩ | new
  · obtain ⟨known, foundKnown, addrKnown, -⟩ := named.elm notFreed party pointer has old there
    obtain rfl := Option.some.inj (foundKnown.symm.trans foundFirst)
    exact ⟨entry, found, addr.symm.trans addrKnown, trivial⟩
  · have free := fresh pointer _ _ new old there
    have allocated := before pointer member old there
    rw [free] at allocated
    cases allocated

theorem Named.setNames (named : Named resolver cache udns) (names : DnsNames)
    (name : ∀ name ∈ names.name, resolver (udns.flowCache.partyAddress party) = some name)
    (elm : ∀ pointer, names.nameCache = .elm pointer →
      ∀ dnsCache ∈ cache, udns.Entry party dnsCache pointer fun _ => True)
    (asked : ∀ ipv4, names.query = .submitted ipv4 → ∀ name ∈ resolver (ipv4bufTo6 ipv4),
      resolver (udns.flowCache.partyAddress party) = some name) :
    Named resolver cache (udns.setNames party names) := by
  constructor
  · intro other
    by_cases same : other = party
    · subst same
      simpa [UdnsOpaque.setNames] using name
    · simpa [UdnsOpaque.setNames, Function.update_of_ne same] using named.name other
  · intro notFreed other pointer has
    by_cases same : other = party
    · subst same
      exact elm pointer (by simpa [UdnsOpaque.setNames] using has)
    · exact named.elm notFreed other pointer
        (by simpa [UdnsOpaque.setNames, Function.update_of_ne same] using has)
  · intro other
    by_cases same : other = party
    · subst same
      simpa [UdnsOpaque.setNames] using asked
    · simpa [UdnsOpaque.setNames, Function.update_of_ne same] using named.asked other

theorem named_new (flowCache : FlowCache) (currPrintbuf : Bytes) :
    Named resolver cache (.new flowCache currPrintbuf) :=
  ⟨fun _ _ none => (nomatch none), fun _ _ _ elm => (nomatch elm),
    fun _ _ submitted => (nomatch submitted)⟩

theorem Named.queueQuery (named : Named resolver cache udns) :
    Named resolver cache (udns.queueQuery party) := by
  rw [UdnsOpaque.queueQuery]
  split
  · next wanted =>
      have isNull := (Bool.and_eq_true_iff.mp wanted).2
      have empty := SavedElm.isNull_iff.mp isNull
      apply named.setNames
      · exact named.name party
      · intro pointer elm
        cases empty.symm.trans elm
      · intro _ submitted
        cases submitted
  · exact named

theorem work_named {handles : List Pointer} (named : Named resolver cache udns)
    (works : Works cache udns handles (.ok (cache', udns')))
    (frame : (∀ pointer ∈ udns.held, pointer ∈ udns'.held) → Named resolver cache' udns)
    (counted : Counted udns) : Named resolver cache' udns' := by
  cases works with
  | @getElm party _ here finds =>
      have empty : (udns.names party).nameCache = .null :=
        counted.fresh party (by rw [here]; cases party <;> decide)
      cases finds with
      | @found dnsCache pointer solve backs entry =>
          have kept : Named resolver (some dnsCache) udns := by
            apply frame
            intro other member
            rcases Bool.eq_false_or_eq_true udns.freed with freed | notFreed
            · rw [held, freed, if_pos rfl] at member
              cases member
            · have perm := @foundElm_held { udns with stage := udns.stage.next } party notFreed
                empty pointer
              exact perm.mem_iff.mpr (List.mem_cons_of_mem _ member)
          have found := kept.setNames { udns.names party with nameCache := .elm pointer }
            (named.name party)
            (by
              rintro _ ⟨⟩ _ ⟨⟩
              exact entry)
            (named.asked party)
          exact ⟨found.name, found.elm, found.asked⟩
      | missing backs => 
          have kept := frame fun _ member => member
          exact ⟨kept.name, kept.elm, kept.asked⟩
  | queueSplit here none => exact ⟨named.name, named.elm, named.asked⟩
  | wait here some => exact ⟨named.name, named.elm, named.asked⟩
  | @submit party here =>
      exact @Named.queueQuery cache { udns with stage := udns.stage.next } party resolver
        ⟨named.name, named.elm, named.asked⟩

theorem settle_named (named : Named resolver cache udns) (names : DnsNames)
    (name : ∀ name ∈ names.name, resolver (udns.flowCache.partyAddress party) = some name)
    (elm : ∀ pointer, names.nameCache = .elm pointer →
      ∀ dnsCache ∈ cache, udns.Entry party dnsCache pointer fun _ => True)
    (completed : names.query = .completed) : Named resolver cache (udns.settle party names) := by
  have settled := named.setNames names name elm
    (fun _ submitted => by rw [completed] at submitted; cases submitted)
  exact ⟨settled.name, settled.elm, settled.asked⟩

theorem completes_named {result : Option Bytes} {calloc : Option Pointer} {handles : List Pointer}
    (named : Named resolver cache' udns)
    (empty : (udns.names party).nameCache = .null)
    (right : ∀ name ∈ result, resolver (udns.flowCache.partyAddress party) = some name)
    (completes : udns.Completes party result calloc handles (cache', udns')) :
    Named resolver cache' udns' := by
  cases completes with
  | unnamed unanswered backs =>
      refine settle_named named _ ?_ ?_ rfl
      · exact named.name party
      · intro pointer elm
        cases empty.symm.trans elm
  | @saved dnsCache pointer name answered backs entry =>
      refine settle_named named _ ?_ ?_ rfl
      · exact named.name party
      · rintro _ ⟨⟩ _ ⟨⟩
        obtain ⟨entry, found, addr, -⟩ := entry
        exact ⟨entry, found, addr, trivial⟩
  | @copied dnsCache name answered backs =>
      refine settle_named named _ ?_ (fun _ elm => (nomatch elm)) rfl
      rintro _ ⟨⟩
      exact right name answered
  | unallocated answered failed backs =>
      refine settle_named named _ ?_ (fun _ elm => (nomatch elm)) rfl
      exact named.name party

theorem settle_held (valid : Valid udns) (pending : (udns.names party).query.Pending)
    (names : DnsNames) (completed : names.query = .completed) :
    ∀ pointer ∈ udns.held, pointer ∈ (udns.settle party names).held := by
  intro pointer member
  obtain ⟨-, perm⟩ := settle_valid valid pending names completed
  exact perm.mem_iff.mpr (List.mem_append_right _ member)

theorem completes_held {cache : Option DnsCache} {result : Option Bytes}
    {calloc : Option Pointer} {handles : List Pointer} (valid : Valid udns)
    (pending : (udns.names party).query.Pending)
    (completes : udns.Completes party result calloc handles (cache, udns')) :
    ∀ pointer ∈ udns.held, pointer ∈ udns'.held := by
  cases completes with
  | unnamed unanswered backs => exact settle_held valid pending _ rfl
  | saved answered backs entry => exact settle_held valid pending _ rfl
  | copied answered backs => exact settle_held valid pending _ rfl
  | unallocated answered failed backs => exact settle_held valid pending _ rfl

theorem submitA4ptr_named (named : Named resolver cache udns)
    (asks : ∀ name ∈ resolver (ipv4bufTo6 (ipv6PtrToIpv4Ptr (udns.flowCache.partyAddress party))),
      resolver (udns.flowCache.partyAddress party) = some name)
    (empty : (udns.names party).nameCache = .null) (ran : udns.submitA4ptr party = .ok udns') :
    Named resolver cache udns' := by
  rw [submitA4ptr] at ran
  split at ran
  · cases ran
  · cases ran
    refine named.setNames _ ?_ ?_ ?_
    · exact named.name party
    · intro pointer elm
      cases empty.symm.trans elm
    · rintro _ ⟨⟩
      exact asks

theorem Named.answered (named : Named resolver cache udns) {name : Bytes}
    (answers : DnsResolution.Answers resolver (some name) (udns.names party).query) :
    resolver (udns.flowCache.partyAddress party) = some name := by
  cases query : (udns.names party).query with
  | submitted ipv4 =>
      rw [query] at answers
      rcases answers with none | same
      · cases none
      · exact named.asked party ipv4 query name same.symm
  | _ =>
      rw [query] at answers
      exact answers.elim

/-- What is printed for an address is the resolver's name. -/
theorem hostname_named (named : Named resolver cache udns) (notFreed : udns.freed = false)
    (entries : ∀ dnsCache ∈ cache, ∀ pointer entry,
      dnsCache.memctx.lookup pointer = some entry → resolver entry.addr = some entry.name)
    {name : Option Bytes} (ran : hostname cache (udns.names party) = .ok name) :
    ∀ found ∈ name, resolver (udns.flowCache.partyAddress party) = some found := by
  intro found has
  obtain rfl : name = some found := has
  unfold hostname at ran
  split at ran
  · next kept =>
      cases ran
      exact named.name party found kept
  · cases ran
  · cases ran
  · next pointer none elm =>
      split at ran
      · cases ran
      · next entry allocated =>
          cases ran
          cases here : cache with
          | none =>
              rw [here] at allocated
              cases allocated
          | some dnsCache =>
              rw [here] at allocated
              have inCache : dnsCache ∈ cache := here
              obtain ⟨known, foundKnown, addr, -⟩ :=
                named.elm notFreed party pointer elm dnsCache inCache
              obtain rfl := Option.some.inj (foundKnown.symm.trans allocated)
              rw [← addr]
              exact entries dnsCache inCache pointer known foundKnown

end UdnsOpaque

/-! Runs -/

/-- The line is printed with the names that the resolver has for the two addresses, or without
them. -/
structure SentFlow.Belongs (resolver : Bytes → Option Bytes) (sent : SentFlow) : Prop where
  line : sent.printed.line =
    UdnsOpaque.appendName
      (UdnsOpaque.appendName sent.currPrintbuf "lan_ip_name"
        sent.printed.cache.address.clientName)
      "wan_ip_name" sent.printed.cache.address.targetName
  lan : ∀ name ∈ sent.printed.cache.address.clientName,
    resolver (sent.printed.cache.partyAddress .client) = some name
  wan : ∀ name ∈ sent.printed.cache.address.targetName,
    resolver (sent.printed.cache.partyAddress .target) = some name

namespace DnsResolution

structure NamesBelong (resolver : Bytes → Option Bytes) (state : DnsResolution) : Prop where
  sent : ∀ sent ∈ state.sent, sent.Belongs resolver
  entries : ∀ dnsCache ∈ state.cache, ∀ pointer entry,
    dnsCache.memctx.lookup pointer = some entry → resolver entry.addr = some entry.name

/-- An address is only asked for if the resolver has no other name for the IPv4 address in its
last octets. -/
def AsksForAddress (resolver : Bytes → Option Bytes) (state : DnsResolution) : DnsAction → Prop
  | .work flow now => state.CountsOne (.work flow now)
  | .submitA4ptr flow party => ∀ udns ∈ state.flows[flow]?,
      ∀ name ∈ resolver (ipv4bufTo6 (ipv6PtrToIpv4Ptr (udns.flowCache.partyAddress party))),
        resolver (udns.flowCache.partyAddress party) = some name
  | _ => True

structure Coherent (resolver : Bytes → Option Bytes) (state : DnsResolution) : Prop where
  sound : Sound state.cache state.flows
  named : ∀ udns ∈ state.flows, udns.Named resolver state.cache
  belong : NamesBelong resolver state

variable {globals : ReadOnlyGlobals} {resolver : Bytes → Option Bytes}
  {state after : DnsResolution} {action : DnsAction} {flow : Nat} {udns : UdnsOpaque}

theorem Sound.allocated {cache : Option DnsCache} {flows : List UdnsOpaque}
    (sound : Sound cache flows) (member : udns ∈ flows) :
    ∀ pointer ∈ udns.held, ∀ dnsCache ∈ cache, (dnsCache.memctx.lookup pointer).isSome := by
  intro pointer held dnsCache here
  have inside : pointer ∈ flows.flatMap UdnsOpaque.held := List.mem_flatMap.mpr ⟨udns, member, held⟩
  obtain rfl : cache = some dnsCache := here
  obtain ⟨log, backs⟩ := sound.backs
  exact (backs.holds.counted.allocated pointer).mpr (List.mem_append_right _ inside)

theorem named_set {cache cache' : Option DnsCache} {flows : List UdnsOpaque}
    {saved : Option (Pointer × Bytes × Bytes)} {udns' : UdnsOpaque}
    (sound : Sound cache flows) (sound' : Sound cache' (flows.set flow udns'))
    (named : ∀ udns ∈ flows, udns.Named resolver cache) (found : flows[flow]? = some udns)
    (keeps : KeepsIn saved cache cache')
    (fresh : ∀ pointer addr name, saved = some (pointer, addr, name) → ∀ dnsCache ∈ cache,
      dnsCache.memctx.lookup pointer = none)
    (one : ((∀ pointer ∈ udns.held, pointer ∈ udns'.held) → udns.Named resolver cache') →
      udns'.Named resolver cache') :
    ∀ other ∈ flows.set flow udns', other.Named resolver cache' := by
  intro other member
  rcases List.mem_or_eq_of_mem_set member with before | rfl
  · exact (named other before).frame (sound.allocated before) (sound'.allocated member) keeps fresh
  · apply one
    intro within
    have inside := mem_of_found found
    exact (named udns inside).frame (sound.allocated inside)
      (fun pointer held => sound'.allocated member pointer (within pointer held)) keeps fresh

theorem entries_kept {cache cache' : Option DnsCache} {saved : Option (Pointer × Bytes × Bytes)}
    (entries : ∀ dnsCache ∈ cache, ∀ pointer entry,
      dnsCache.memctx.lookup pointer = some entry → resolver entry.addr = some entry.name)
    (keeps : KeepsIn saved cache cache')
    (right : ∀ pointer addr name, saved = some (pointer, addr, name) →
      resolver addr = some name) :
    ∀ dnsCache ∈ cache', ∀ pointer entry,
      dnsCache.memctx.lookup pointer = some entry → resolver entry.addr = some entry.name := by
  intro dnsCache here pointer entry found
  obtain ⟨old, there, kept⟩ := keeps dnsCache here
  rcases kept pointer entry found with ⟨first, foundFirst, addr, name⟩ | new
  · rw [← addr, ← name]
    exact entries old there pointer first foundFirst
  · exact right pointer entry.addr entry.name new

theorem step_coherent (coherent : Coherent resolver state)
    (asks : AsksForAddress resolver state action)
    (stepped : state.step globals resolver action = some after) : Coherent resolver after := by
  obtain ⟨sound, named, sentBelong, entries⟩ := coherent
  have counts : state.CountsOne action := by
    cases action with
    | work flow now => exact asks
    | _ => trivial
  have sound' := step_sound sound counts stepped
  have nothing : ∀ pointer (addr name : Bytes),
      (none : Option (Pointer × Bytes × Bytes)) = some (pointer, addr, name) → False :=
    fun _ _ _ new => nomatch new
  obtain ⟨-, steps⟩ := steps_of_step stepped
  cases steps with
  | @start flowCache currPrintbuf =>
      refine ⟨sound', ?_, sentBelong, entries⟩
      intro udns member
      rcases List.mem_append.mp member with before | new
      · exact named udns before
      · rw [List.mem_singleton.mp new]
        exact UdnsOpaque.named_new flowCache currPrintbuf
  | @work flow udns now outcome found ran =>
      obtain ⟨valid, others, backs, -⟩ := sound.one found
      have works := UdnsOpaque.work_works backs (counts udns found) ran
      cases outcome with
      | error fault => exact ⟨sound, named, sentBelong, entries⟩
      | ok result =>
          have keeps := UdnsOpaque.work_keeps ran
          refine ⟨sound', ?_, sentBelong, ?_⟩
          · exact named_set sound sound' named found keeps
              (fun _ _ _ new => (nothing _ _ _ new).elim)
              (fun frame => UdnsOpaque.work_named (named udns (mem_of_found found)) works frame
                valid.counted)
          · exact entries_kept entries keeps (fun _ _ _ new => (nothing _ _ _ new).elim)
  | @submitA4ptr flow udns party found queued =>
      obtain ⟨valid, -⟩ := sound.one found
      cases ran : udns.submitA4ptr party with
      | error fault => exact ⟨sound, named, sentBelong, entries⟩
      | ok udns' =>
          rw [ran] at sound'
          refine ⟨sound', ?_, sentBelong, entries⟩
          refine named_set sound sound' named found (.refl none _)
            (fun _ _ _ new => (nothing _ _ _ new).elim) (fun _ => ?_)
          exact UdnsOpaque.submitA4ptr_named (named udns (mem_of_found found))
            (asks udns found) (valid.counted.awaited party (by rw [queued]; trivial)) ran
  | @queryCompleted flow udns party result now calloc found answers free =>
      obtain ⟨valid, others, backs, -⟩ := sound.one found
      have isNamed := named udns (mem_of_found found)
      have pending := pending_of_answers answers
      obtain ⟨-, -, -, notFreed⟩ := valid.counted.unsplit (valid.counted.owes_of_pending pending)
      have right : ∀ name ∈ result, resolver (udns.flowCache.partyAddress party) = some name := by
        rintro name rfl
        exact isNamed.answered answers
      rcases UdnsOpaque.dnsQueryCompleted0_completes backs notFreed
        (valid.counted.awaited party pending) result now free with
        ⟨-, -, failed⟩ | ⟨⟨cache', udns'⟩, ran, completes⟩
      · rw [failed]
        exact ⟨sound, named, sentBelong, entries⟩
      · have keeps := UdnsOpaque.completed_keeps ran
        have savedIs : ∀ pointer addr name,
            udns.savedEntry party result calloc = some (pointer, addr, name) →
              calloc = some pointer ∧ addr = udns.flowCache.partyAddress party ∧
                result = some name := by
          intro pointer addr name saved
          cases calloc with
          | none => cases saved
          | some _ =>
              cases result with
              | none => cases saved
              | some _ =>
                  cases saved
                  exact ⟨rfl, rfl, rfl⟩
        rw [ran] at sound' ⊢
        refine ⟨sound', ?_, sentBelong, ?_⟩
        · refine named_set sound sound' named found keeps ?_ (fun frame => ?_)
          · intro pointer addr name saved dnsCache here
            exact free pointer (savedIs _ _ _ saved).1 dnsCache here
          · refine UdnsOpaque.completes_named (frame ?_)
              (valid.counted.awaited party pending) right completes
            exact UdnsOpaque.completes_held valid pending completes
        · apply entries_kept entries keeps
          intro pointer addr name saved
          obtain ⟨-, rfl, answered⟩ := savedIs _ _ _ saved
          exact right name answered
  | @split flow udns found waits =>
      obtain ⟨valid, others, backs, -⟩ := sound.one found
      have isNamed := named udns (mem_of_found found)
      have notFreed := valid.counted.not_freed waits
      have splits := UdnsOpaque.split_splits valid.counted backs waits globals
      cases ran : udns.split globals state.cache with
      | error fault => exact ⟨sound, named, sentBelong, entries⟩
      | ok result =>
          rw [ran] at splits sound'
          cases splits with
          | @done clientName targetName cache' client target backs' =>
              have keeps := UdnsOpaque.split_keeps ran
              refine ⟨sound', ?_, ⟨?_, ?_⟩⟩
              · refine named_set sound sound' named found keeps
                  (fun _ _ _ new => (nothing _ _ _ new).elim) (fun _ => ?_)
                exact ⟨isNamed.name, fun freed => (nomatch freed), isNamed.asked⟩
              · intro sent member
                rcases List.mem_cons.mp member with rfl | before
                · exact ⟨rfl, UdnsOpaque.hostname_named isNamed notFreed entries client,
                    UdnsOpaque.hostname_named isNamed notFreed entries target⟩
                · exact sentBelong sent before
              · exact entries_kept entries keeps (fun _ _ _ new => (nothing _ _ _ new).elim)

theorem coherent_new (settings : Option DnsCacheSettings) : Coherent resolver (new settings) := by
  refine ⟨sound_new settings, fun _ member => (nomatch member), fun _ member => (nomatch member),
    ?_⟩
  intro dnsCache here pointer entry found
  cases settings with
  | none => cases here
  | some settings =>
      cases here
      cases found

end DnsResolution

/-- Every name that is printed for an address, and every name in the cache, is the one that the
resolver has for that address. -/
theorem dnsResolution_namesBelong {globals : ReadOnlyGlobals} {resolver : Bytes → Option Bytes}
    {settings : Option DnsCacheSettings} {actions : List DnsAction} {state : DnsResolution}
    (ran : Takes (DnsResolution.step globals resolver) (.new settings) actions state)
    (every : EveryStep (DnsResolution.step globals resolver)
      (DnsResolution.AsksForAddress resolver) (.new settings) actions) :
    state.NamesBelong resolver := by
  have coherent := ran.last
    (every.everyState (fun _ _ _ => DnsResolution.step_coherent)
      (DnsResolution.coherent_new settings))
  exact coherent.belong

/-- A resolver that has a name for one IPv4 address only. -/
def oneName (address : Bytes) : Option Bytes :=
  if address = ipv4bufTo6 [10, 0, 0, 1] then some (ascii "name") else none

theorem dnsResolution_namesBelong_ipv4 :
    ∃ state,
      Takes (DnsResolution.step splittingGlobals oneName) (.new (some dnsSettings))
        (clientNamed (ipv4bufTo6 [10, 0, 0, 1])) state ∧
      state.NamesBelong oneName := by
  obtain ⟨state, ran, -⟩ := @Takes.exists_of_any _ _
    (DnsResolution.step splittingGlobals oneName) (.new (some dnsSettings))
    (clientNamed (ipv4bufTo6 [10, 0, 0, 1])) (fun _ => true) (by decide +kernel)
  refine ⟨state, ran, dnsResolution_namesBelong ran ⟨trivial, ?_⟩⟩
  rintro _ ⟨⟩
  refine ⟨?_, ?_⟩
  · rintro _ ⟨⟩ _ _ _ ⟨⟩ _ _ found
    cases found
  rintro _ ⟨⟩
  refine ⟨?_, ?_⟩
  · rintro _ ⟨⟩ _ _ _ ⟨⟩ _ _ found
    cases found
  rintro _ ⟨⟩
  refine ⟨?_, ?_⟩
  · rintro _ ⟨⟩ _ ⟨⟩
  rintro _ ⟨⟩
  refine ⟨?_, ?_⟩
  · rintro _ ⟨⟩ _ ⟨⟩
  rintro _ ⟨⟩
  refine ⟨?_, ?_⟩
  · rintro _ ⟨⟩ _ ⟨⟩
  rintro _ ⟨⟩
  refine ⟨?_, ?_⟩
  · rintro _ ⟨⟩ name has
    exact has
  rintro _ _
  exact ⟨trivial, fun _ _ => ⟨trivial, fun _ _ => trivial⟩⟩

/-- An IPv6 address gets the name of the IPv4 address in its last octets. -/
theorem dnsResolution_namesOther :
    ∃ state,
      Takes (DnsResolution.step splittingGlobals oneName) (.new (some dnsSettings))
        (clientNamed [0x20, 0x01, 0x0d, 0xb8, 0, 0, 0, 0, 0, 0, 0, 0, 10, 0, 0, 1]) state ∧
      ¬state.NamesBelong oneName := by
  obtain ⟨state, ran, printed⟩ := @Takes.exists_of_any _ _
    (DnsResolution.step splittingGlobals oneName) (.new (some dnsSettings))
    (clientNamed [0x20, 0x01, 0x0d, 0xb8, 0, 0, 0, 0, 0, 0, 0, 0, 10, 0, 0, 1])
    (fun state => state.sent.any fun sent =>
      sent.printed.cache.address.clientName.isSome &&
        (oneName (sent.printed.cache.partyAddress .client)).isNone)
    (by decide +kernel)
  refine ⟨state, ran, fun belong => ?_⟩
  obtain ⟨sent, member, named⟩ := List.any_eq_true.mp printed
  obtain ⟨isName, unknown⟩ := Bool.and_eq_true_iff.mp named
  obtain ⟨name, has⟩ := Option.isSome_iff_exists.mp isName
  have known := (belong.sent sent member).lan name has
  rw [known] at unknown
  cases unknown

end F2k
