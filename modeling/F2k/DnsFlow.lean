import F2k.DnsResolution
import F2k.Messages

namespace F2k

open Lib

/-! What a flow that waits for its names has counted, and what it refers to. -/

namespace DnsStage

/-- The statements of the worker in their order. -/
def turn : DnsStage → Nat
  | .getElm .client => 0
  | .getElm .target => 1
  | .testRefcnt => 2
  | .submit .client => 3
  | .submit .target => 4
  | .left => 5

def next : DnsStage → DnsStage
  | .getElm .client => .getElm .target
  | .getElm .target => .testRefcnt
  | .testRefcnt => .submit .client
  | .submit .client => .submit .target
  | .submit .target => .left
  | .left => .left

def got (stage : DnsStage) : DnsParty → Prop
  | .client => 1 ≤ stage.turn
  | .target => 2 ≤ stage.turn

def passed (stage : DnsStage) : DnsParty → Prop
  | .client => 4 ≤ stage.turn
  | .target => 5 ≤ stage.turn

def tested (stage : DnsStage) : Prop :=
  3 ≤ stage.turn

instance (stage : DnsStage) : Decidable stage.tested := by
  unfold tested
  infer_instance

instance (stage : DnsStage) (party : DnsParty) : Decidable (stage.got party) := by
  cases party <;> unfold got <;> infer_instance

instance (stage : DnsStage) (party : DnsParty) : Decidable (stage.passed party) := by
  cases party <;> unfold passed <;> infer_instance

theorem tested_of_passed {stage : DnsStage} {party : DnsParty} (passed : stage.passed party) :
    stage.tested := by
  cases party <;> simp only [DnsStage.passed, tested] at passed ⊢ <;> omega

theorem got_of_tested {stage : DnsStage} (tested : stage.tested) (party : DnsParty) :
    stage.got party := by
  cases party <;> simp only [DnsStage.tested, got] at tested ⊢ <;> omega

end DnsStage

def DnsQuery.Pending : DnsQuery → Prop
  | .unqueued => False
  | .queued => True
  | .submitted _ => True
  | .completed => False

/-- Whether the reference that was counted for an address is still there, if it was counted. -/
def DnsNames.owed (names : DnsNames) : Bool :=
  match names.query with
  | .unqueued => names.nameCache.isNull
  | .queued => true
  | .submitted _ => true
  | .completed => false

theorem SavedElm.isNull_iff {element : SavedElm} : element.isNull = true ↔ element = .null := by
  cases element <;> simp [isNull]

namespace UdnsOpaque

def owes (udns : UdnsOpaque) (party : DnsParty) : Bool :=
  udns.flowCache.solve party && (udns.names party).owed

def owing (udns : UdnsOpaque) : Nat :=
  (udns.owes .client).toNat + (udns.owes .target).toNat

/-- The handles that the flow has to release. -/
def held (udns : UdnsOpaque) : List Pointer :=
  if udns.freed then [] else udns.elements

/-- Whatever the worker and the DNS thread do, unless it is a fault: every reference belongs to
an address without a name, and the flow is split when there is none left. -/
structure Counted (udns : UdnsOpaque) : Prop where
  refcnt : udns.refcnt = udns.owing
  splits : udns.splitsQueued + udns.splits = if udns.stage.tested ∧ udns.refcnt = 0 then 1 else 0
  freed : udns.freed = true ↔ udns.splits = 1
  fresh : ∀ party, ¬udns.stage.got party → (udns.names party).nameCache = .null
  queued : ∀ party, (udns.names party).query ≠ .unqueued →
    udns.stage.passed party ∧ udns.flowCache.solve party = true
  awaited : ∀ party, (udns.names party).query.Pending → (udns.names party).nameCache = .null
  obtained : udns.obtained.Perm udns.elements
  released : udns.released = if udns.freed then udns.elements else []

structure Valid (udns : UdnsOpaque) : Prop where
  counted : Counted udns
  asked : ∀ party, udns.stage.passed party → udns.owes party = true →
    (udns.names party).query ≠ .unqueued

variable {udns : UdnsOpaque} {party : DnsParty} {names : DnsNames}

theorem owing_setNames (udns : UdnsOpaque) (party : DnsParty) (names : DnsNames) :
    (udns.setNames party names).owing + (udns.owes party).toNat =
      udns.owing + (udns.flowCache.solve party && names.owed).toNat := by
  cases party <;> simp [owing, owes, setNames] <;> omega

theorem elements_setNames (udns : UdnsOpaque) (names : DnsNames)
    (none : (udns.names party).nameCache = .null) :
    (udns.setNames party names).elements.Perm (names.nameCache.pointers ++ udns.elements) := by
  apply List.perm_iff_count.mpr
  intro pointer
  cases party <;> simp [elements, setNames, List.count_append, none, SavedElm.pointers]
  omega

theorem owed_of_pending {names : DnsNames} (pending : names.query.Pending) :
    names.owed = true := by
  rw [DnsNames.owed]
  cases query : names.query with
  | unqueued =>
      rw [query] at pending
      exact pending.elim
  | queued => rfl
  | submitted ipv4 => rfl
  | completed =>
      rw [query] at pending
      exact pending.elim

theorem ne_unqueued_of_pending {query : DnsQuery} (pending : query.Pending) :
    query ≠ .unqueued := by
  rintro rfl
  exact pending

namespace Counted

/-- While a reference is owed the flow has not been split, nor is it about to be. -/
theorem unsplit (counted : Counted udns) (owed : udns.owes party = true) :
    udns.refcnt ≠ 0 ∧ udns.splitsQueued = 0 ∧ udns.splits = 0 ∧ udns.freed = false := by
  have some : udns.refcnt ≠ 0 := by
    rw [counted.refcnt, owing]
    cases party <;> rw [owed] <;> simp
  have splits := counted.splits
  rw [if_neg (fun all => some all.2)] at splits
  have noSplit : udns.splits = 0 := by omega
  refine ⟨some, by omega, noSplit, ?_⟩
  apply Bool.eq_false_iff.mpr
  intro freed
  have once := counted.freed.mp freed
  omega

theorem owes_of_pending (counted : Counted udns) (pending : (udns.names party).query.Pending) :
    udns.owes party = true := by
  have solve := (counted.queued party (ne_unqueued_of_pending pending)).2
  rw [owes, solve, owed_of_pending pending]
  rfl

theorem unsplit_early (counted : Counted udns) (untested : ¬udns.stage.tested) :
    udns.splitsQueued = 0 ∧ udns.splits = 0 ∧ udns.freed = false := by
  have splits := counted.splits
  rw [if_neg (fun all => untested all.1)] at splits
  refine ⟨by omega, by omega, ?_⟩
  apply Bool.eq_false_iff.mpr
  intro freed
  have once := counted.freed.mp freed
  omega

theorem not_freed (counted : Counted udns) (waits : udns.splitsQueued ≠ 0) :
    udns.freed = false := by
  apply Bool.eq_false_iff.mpr
  intro freed
  have once := counted.freed.mp freed
  have splits := counted.splits
  split at splits <;> omega

theorem atStage (counted : Counted udns) (stage : DnsStage)
    (later : udns.stage.turn ≤ stage.turn)
    (fresh : ∀ party, ¬stage.got party → (udns.names party).nameCache = .null)
    (same : udns.stage.tested ∨ ¬stage.tested ∨ udns.refcnt ≠ 0) :
    Counted { udns with stage } := by
  refine ⟨counted.refcnt, ?_, counted.freed, fresh, ?_, counted.awaited, counted.obtained,
    counted.released⟩
  · have splits := counted.splits
    simp only [DnsStage.tested] at splits same ⊢
    rw [splits]
    congr 1
    apply propext
    constructor
    · rintro ⟨tested, none⟩
      exact ⟨Nat.le_trans tested later, none⟩
    · rintro ⟨tested, none⟩
      refine ⟨?_, none⟩
      rcases same with already | never | some
      · exact already
      · exact absurd tested never
      · exact absurd none some
  · intro party some
    obtain ⟨passed, solve⟩ := counted.queued party some
    refine ⟨?_, solve⟩
    cases party <;> exact Nat.le_trans passed later

/-- What is known of an owed address changes: the reference goes when it is no longer owed, and
the last one queues the flow to be split. -/
theorem setNames (counted : Counted udns) (names : DnsNames) (refcnt splitsQueued : Nat)
    (obtained : List Pointer) (solve : udns.flowCache.solve party = true)
    (owed : (udns.names party).owed = true) (none : (udns.names party).nameCache = .null)
    (got : udns.stage.got party)
    (queued : names.query ≠ .unqueued → udns.stage.passed party)
    (awaited : names.query.Pending → names.nameCache = .null)
    (left : refcnt + 1 = udns.refcnt + names.owed.toNat)
    (split : splitsQueued = if udns.stage.tested ∧ refcnt = 0 then 1 else 0)
    (also : obtained = names.nameCache.pointers ++ udns.obtained) :
    Counted { udns.setNames party names with refcnt, splitsQueued, obtained } := by
  have owes : udns.owes party = true := by rw [UdnsOpaque.owes, solve, owed]; rfl
  obtain ⟨some, noneQueued, noSplit, notFreed⟩ := counted.unsplit owes
  have perm := udns.elements_setNames names none
  have owing := udns.owing_setNames party names
  rw [owes, solve, Bool.true_and, ← counted.refcnt, Bool.toNat_true] at owing
  constructor
  · change refcnt = (udns.setNames party names).owing
    omega
  · change splitsQueued + udns.splits = _
    rw [noSplit, split]
    rfl
  · exact counted.freed
  · intro other notGot
    by_cases same : other = party
    · subst same
      exact absurd got notGot
    · simp only [UdnsOpaque.setNames, Function.update_of_ne same]
      exact counted.fresh other notGot
  · intro other
    by_cases same : other = party
    · subst same
      simp only [UdnsOpaque.setNames, Function.update_self]
      exact fun asked => ⟨queued asked, solve⟩
    · simp only [UdnsOpaque.setNames, Function.update_of_ne same]
      exact counted.queued other
  · intro other
    by_cases same : other = party
    · subst same
      simp only [UdnsOpaque.setNames, Function.update_self]
      exact awaited
    · simp only [UdnsOpaque.setNames, Function.update_of_ne same]
      exact counted.awaited other
  · change obtained.Perm (udns.setNames party names).elements
    rw [also]
    exact (counted.obtained.append_left _).trans perm.symm
  · have released := counted.released
    rw [notFreed, if_neg Bool.false_ne_true] at released
    change udns.released = if udns.freed then _ else []
    rw [notFreed, if_neg Bool.false_ne_true, released]

end Counted

/-! What the steps of a flow do to it and to the cache. -/

/-- The cache counts exactly these handles. -/
def Backs (cache : Option DnsCache) (handles : List Pointer) : Prop :=
  match cache with
  | none => handles = []
  | some dnsCache => ∃ log, dnsCache.Sound handles log

theorem Backs.perm {cache : Option DnsCache} {handles others : List Pointer}
    (backs : Backs cache handles) (perm : handles.Perm others) : Backs cache others := by
  cases cache with
  | none =>
      obtain rfl : handles = [] := backs
      exact perm.nil_eq.symm
  | some dnsCache =>
      obtain ⟨log, ⟨contents, distinct, tree, counted⟩, fits, evictsOldest, expiresOld⟩ := backs
      exact ⟨log, ⟨contents, distinct, tree, counted.perm (perm.append_left _)⟩, fits, evictsOldest,
        expiresOld⟩

/-- The entry that the tree has for the address can count one more reference. -/
def CountsOne (cache : Option DnsCache) (addr : Bytes) : Prop :=
  ∀ dnsCache ∈ cache, ∀ pointer entry, dnsCache.avl.lookup addr = some pointer →
    dnsCache.memctx.lookup pointer = some entry → entry.refcnt.toNat + 1 < 2 ^ 32

def foundElm (udns : UdnsOpaque) (party : DnsParty) (pointer : Pointer) : UdnsOpaque :=
  { udns.setNames party { udns.names party with nameCache := .elm pointer } with
    refcnt := udns.refcnt - 1
    obtained := pointer :: udns.obtained }

def settle (udns : UdnsOpaque) (party : DnsParty) (names : DnsNames) : UdnsOpaque :=
  { udns.setNames party names with
    refcnt := udns.refcnt - 1
    splitsQueued := udns.splitsQueued + if udns.refcnt - 1 = 0 then 1 else 0
    obtained := names.nameCache.pointers ++ udns.obtained }

/-- An allocated entry has the address of the party, and such a name. -/
def Entry (udns : UdnsOpaque) (party : DnsParty) (dnsCache : DnsCache) (pointer : Pointer)
    (named : Bytes → Prop) : Prop :=
  ∃ entry, dnsCache.memctx.lookup pointer = some entry ∧
    entry.addr = udns.flowCache.partyAddress party ∧ named entry.name

inductive Finds (udns : UdnsOpaque) (party : DnsParty) (handles : List Pointer) :
    Option DnsCache × UdnsOpaque → Prop
  | found {dnsCache : DnsCache} {pointer : Pointer}
      (solve : udns.flowCache.solve party = true)
      (backs : Backs (some dnsCache) (pointer :: handles))
      (entry : udns.Entry party dnsCache pointer fun _ => True) :
      Finds udns party handles (some dnsCache, udns.foundElm party pointer)
  | missing {cache : Option DnsCache} (backs : Backs cache handles) :
      Finds udns party handles (cache, udns)

theorem getElm_finds {cache : Option DnsCache} {handles : List Pointer}
    (backs : Backs cache handles) (now : Int)
    (counts : CountsOne cache (udns.flowCache.partyAddress party)) :
    ∃ result, getElm cache udns party now = .ok result ∧ udns.Finds party handles result := by
  cases cache with
  | none => exact ⟨_, rfl, .missing backs⟩
  | some dnsCache =>
      cases solve : udns.flowCache.solve party with
      | false => exact ⟨_, by simp only [getElm, solve], .missing backs⟩
      | true =>
          obtain ⟨log, sound⟩ := backs
          obtain ⟨result, ran, gets⟩ :=
            dnsCache.getElm_sound sound (udns.flowCache.partyAddress party) now (counts _ rfl)
          simp only [getElm, solve, ran]
          cases gets with
          | hit known young stores hit =>
              obtain ⟨refcnt, allocated⟩ := stores.allocated
              exact ⟨_, rfl, .found solve ⟨_, hit⟩ ⟨_, allocated, rfl, trivial⟩⟩
          | unknown missing => exact ⟨_, rfl, .missing ⟨log, sound⟩⟩
          | old old => exact ⟨_, rfl, .missing ⟨_, old⟩⟩

inductive Completes (udns : UdnsOpaque) (party : DnsParty) (result : Option Bytes)
    (calloc : Option Pointer) (handles : List Pointer) : Option DnsCache × UdnsOpaque → Prop
  | unnamed {cache : Option DnsCache} (unanswered : result = none) (backs : Backs cache handles) :
      Completes udns party result calloc handles
        (cache, udns.settle party { udns.names party with query := .completed })
  | saved {dnsCache : DnsCache} {pointer : Pointer} {name : Bytes} (answered : result = some name)
      (backs : Backs (some dnsCache) (pointer :: handles))
      (entry : udns.Entry party dnsCache pointer (· = name)) :
      Completes udns party result calloc handles
        (some dnsCache,
          udns.settle party
            { udns.names party with nameCache := .elm pointer, query := .completed })
  | copied {dnsCache : DnsCache} {name : Bytes} (answered : result = some name)
      (backs : Backs (some dnsCache) handles) :
      Completes udns party result calloc handles
        (some dnsCache,
          udns.settle party { name := some name, nameCache := .null, query := .completed })
  | unallocated {dnsCache : DnsCache} (answered : result ≠ none) (failed : calloc = none)
      (backs : Backs (some dnsCache) handles) :
      Completes udns party result calloc handles
        (some dnsCache,
          udns.settle party
            { udns.names party with nameCache := .elmOfNull, query := .completed })

theorem complete_setNames (udns : UdnsOpaque) (party : DnsParty) (names : DnsNames)
    (obtained : List Pointer) (also : obtained = names.nameCache.pointers ++ udns.obtained) :
    complete { udns.setNames party names with obtained } party =
      udns.settle party { names with query := .completed } := by
  subst also
  simp only [complete, settle, setNames, Function.update_self, Function.update_idem]
  split
  · rfl
  · rw [Nat.add_zero]

theorem saveName_completes {dnsCache : DnsCache} {handles : List Pointer}
    (backs : Backs (some dnsCache) handles) (name : Bytes) (now : Int) {calloc : Option Pointer}
    (free : DnsResolution.Free (some dnsCache) calloc) :
    ∃ cache' udns', saveName (some dnsCache) udns party name now calloc = .ok (cache', udns') ∧
      udns.Completes party (some name) calloc handles (cache', udns'.complete party) := by
  obtain ⟨log, sound⟩ := backs
  obtain ⟨memctx, avl, lru, evicted, result, ran, promised⟩ :=
    dnsCache.saveElm_sound sound (udns.flowCache.partyAddress party) name now
      (fun pointer allocated => free pointer allocated dnsCache rfl)
  simp only [saveName, ran]
  cases result with
  | null =>
      refine ⟨_, _, rfl, ?_⟩
      have completed := udns.complete_setNames party
        { udns.names party with name := some name, nameCache := .null } udns.obtained rfl
      exact completed ▸ .copied rfl ⟨_, promised⟩
  | elmOfNull =>
      refine ⟨_, _, rfl, ?_⟩
      have completed := udns.complete_setNames party
        { udns.names party with nameCache := .elmOfNull } udns.obtained rfl
      exact completed ▸ .unallocated (Option.some_ne_none name) promised.1 ⟨_, promised.2⟩
  | elm pointer =>
      refine ⟨_, _, rfl, ?_⟩
      obtain ⟨-, stores, promised⟩ := promised
      obtain ⟨refcnt, allocated⟩ := stores.allocated
      have completed := udns.complete_setNames party
        { udns.names party with nameCache := .elm pointer } (pointer :: udns.obtained) rfl
      exact completed ▸ .saved rfl ⟨_, promised⟩ ⟨_, allocated, rfl, rfl⟩

theorem dnsQueryCompleted0_completes {cache : Option DnsCache} {handles : List Pointer}
    (backs : Backs cache handles) (notFreed : udns.freed = false)
    (empty : (udns.names party).nameCache = .null) (result : Option Bytes) (now : Int)
    {calloc : Option Pointer} (free : DnsResolution.Free cache calloc) :
    cache = none ∧ result ≠ none ∧
        dnsQueryCompleted0 cache udns party result now calloc = .error .nullCache ∨
      ∃ after, dnsQueryCompleted0 cache udns party result now calloc = .ok after ∧
        udns.Completes party result calloc handles after := by
  cases result with
  | none =>
      have completed := udns.complete_setNames party (udns.names party) udns.obtained
        (by rw [empty]; rfl)
      have same : udns.setNames party (udns.names party) = udns := by
        rw [setNames, Function.update_eq_self]
      rw [same] at completed
      refine .inr ⟨(cache, udns.complete party), ?_, completed ▸ .unnamed rfl backs⟩
      simp only [dnsQueryCompleted0, notFreed, Bool.false_eq_true, if_false]
  | some name =>
      cases cache with
      | none =>
          refine .inl ⟨rfl, Option.some_ne_none name, ?_⟩
          simp only [dnsQueryCompleted0, notFreed, Bool.false_eq_true, if_false, saveName]
          rfl
      | some dnsCache =>
          obtain ⟨cache', udns', ran, completes⟩ := saveName_completes backs name now free
          refine .inr ⟨_, ?_, completes⟩
          simp only [dnsQueryCompleted0, notFreed, Bool.false_eq_true, if_false, ran]
          rfl

theorem decrefElm_backs {cache : Option DnsCache} {handles : List Pointer} (element : SavedElm)
    (backs : Backs cache (element.pointers ++ handles)) :
    element = .elmOfNull ∧ decrefElm cache element = .error .elmOfNull ∨
      ∃ cache', decrefElm cache element = .ok cache' ∧ Backs cache' handles := by
  cases element with
  | null => exact .inr ⟨cache, rfl, backs⟩
  | elmOfNull => exact .inl ⟨rfl, rfl⟩
  | elm pointer =>
      cases cache with
      | none => cases backs
      | some dnsCache =>
          obtain ⟨log, sound⟩ := backs
          obtain ⟨memctx, ran, released⟩ := dnsCache.decrefElm_sound sound List.mem_cons_self
          refine .inr ⟨some { dnsCache with memctx }, by simp only [decrefElm, ran], log, ?_⟩
          simpa [SavedElm.pointers] using released

theorem hostname_ok {cache : Option DnsCache} {handles : List Pointer} (names : DnsNames)
    (backs : Backs cache handles) (held : names.nameCache.pointers ⊆ handles) :
    names.nameCache = .elmOfNull ∧ hostname cache names = .error .elmOfNull ∨
      ∃ name, hostname cache names = .ok name := by
  obtain ⟨name, nameCache, query⟩ := names
  cases name with
  | some name => exact .inr ⟨_, rfl⟩
  | none =>
      cases nameCache with
      | null => exact .inr ⟨_, rfl⟩
      | elmOfNull => exact .inl ⟨rfl, rfl⟩
      | elm pointer =>
          have member : pointer ∈ handles := held List.mem_cons_self
          cases cache with
          | none =>
              rw [show handles = [] from backs] at member
              cases member
          | some dnsCache =>
              obtain ⟨log, sound⟩ := backs
              have allocated := (sound.holds.counted.allocated pointer).mpr
                (List.mem_append_right _ member)
              obtain ⟨entry, found⟩ := Option.isSome_iff_exists.mp allocated
              exact .inr ⟨some entry.name, by simp only [hostname, Option.bind_some, found]⟩

/-! The names are printed behind the rest of the line. -/

def appendName (line : Bytes) (field : String) (name : Option Bytes) : Bytes :=
  if (name.map fastString).getD [] = [] then line
  else appendQuoted line field ((name.map fastString).getD [])

theorem print_name_eq (globals : ReadOnlyGlobals) (line : Bytes) (id : UInt16) {field : String}
    {exportFn : ExportFn} {cache : FlowCache} (name : Option Bytes)
    (noZero : cString (ascii field) = ascii field)
    (exported : exportField globals exportFn (fun _ => 0) 0 cache =
      cache.printed ((name.map fastString).getD [])) :
    ∃ valueRet,
      printNetflowRecordWithTemplate globals line (entity id true (some field) (some exportFn) [])
          (fun _ => 0) 0 cache =
        .ok { line := appendName line field name, cache, valueRet } := by
  by_cases empty : (name.map fastString).getD [] = []
  · refine ⟨0, ?_⟩
    simp only [entity, printNetflowRecordWithTemplate, printPostTemplate, printElement,
      Element.jsonElementName, Element.exportFn, Element.quote, Option.map_some, exported,
      FlowCache.printed, Run.ok_bind, Run.pure_eq_ok, empty, List.length_nil, Nat.lt_irrefl,
      if_false, gt_iff_lt, appendName, if_true]
  · refine ⟨((name.map fastString).getD []).length + 2, ?_⟩
    rw [appendName, if_neg empty]
    exact print_quoted_eq noZero exported (List.length_pos_of_ne_nil empty)

theorem printAllFromCache_names (globals : ReadOnlyGlobals) (line : Bytes) (cache : FlowCache) :
    printAllFromCache globals line [dnsClientName, dnsTargetName] cache =
      .ok
        { line :=
            appendName (appendName line "lan_ip_name" cache.address.clientName) "wan_ip_name"
              cache.address.targetName
          cache
          valueRet := 0 } := by
  have client : exportField globals .printClientName (fun _ => 0) 0 cache =
      cache.printed ((cache.address.clientName.map fastString).getD []) := rfl
  have target : exportField globals .printTargetName (fun _ => 0) 0 cache =
      cache.printed ((cache.address.targetName.map fastString).getD []) := rfl
  obtain ⟨clientRet, clientPrinted⟩ := print_name_eq globals line (privateEntityId 83)
    cache.address.clientName (by decide : cString (ascii "lan_ip_name") = _) client
  obtain ⟨targetRet, targetPrinted⟩ := print_name_eq globals
    (appendName line "lan_ip_name" cache.address.clientName) (privateEntityId 84)
    cache.address.targetName (by decide : cString (ascii "wan_ip_name") = _) target
  simp only [printAllFromCache, printPostTemplate, dnsClientName, dnsTargetName, clientPrinted,
    targetPrinted, Run.ok_bind, Run.pure_eq_ok]

/-! One step of a flow -/

theorem Counted.foundElm_counted (counted : Counted udns) (untested : ¬udns.stage.tested)
    (got : udns.stage.got party) (solve : udns.flowCache.solve party = true)
    (empty : (udns.names party).nameCache = .null) (pointer : Pointer) :
    Counted (udns.foundElm party pointer) := by
  have unqueued : (udns.names party).query = .unqueued := by
    by_contra queued
    exact untested (DnsStage.tested_of_passed (counted.queued party queued).1)
  have owed : (udns.names party).owed = true := by
    rw [DnsNames.owed, unqueued, empty]
    rfl
  have owes : udns.owes party = true := by rw [owes, solve, owed]; rfl
  obtain ⟨some, noneQueued, -, -⟩ := counted.unsplit owes
  refine counted.setNames { udns.names party with nameCache := .elm pointer } (udns.refcnt - 1)
    udns.splitsQueued (pointer :: udns.obtained) solve owed empty got
    (fun queued => absurd unqueued queued) ?_ ?_ ?_ rfl
  · intro pending
    rw [unqueued] at pending
    exact pending.elim
  · simp only [DnsNames.owed, unqueued, SavedElm.isNull, Bool.toNat_false]
    omega
  · rw [noneQueued, if_neg (fun all => untested all.1)]

theorem Counted.queueQuery_counted (counted : Counted udns) (passed : udns.stage.passed party)
    (unqueued : (udns.names party).query = .unqueued) : Counted (udns.queueQuery party) := by
  rw [queueQuery]
  split
  · next wanted =>
      obtain ⟨solve, isNull⟩ := Bool.and_eq_true_iff.mp wanted
      have empty := SavedElm.isNull_iff.mp isNull
      have owed : (udns.names party).owed = true := by
        rw [DnsNames.owed, unqueued]
        exact isNull
      have owes : udns.owes party = true := by rw [owes, solve, owed]; rfl
      obtain ⟨some, noneQueued, -, -⟩ := counted.unsplit owes
      refine counted.setNames { udns.names party with query := .queued } udns.refcnt
        udns.splitsQueued udns.obtained solve owed empty
        (DnsStage.got_of_tested (DnsStage.tested_of_passed passed) party) (fun _ => passed)
        (fun _ => empty) rfl ?_ (by rw [empty]; rfl)
      rw [noneQueued, if_neg (fun all => some all.2)]
  · exact counted

theorem Counted.submit_counted (counted : Counted udns) (pending : (udns.names party).query.Pending)
    (ipv4 : Bytes) :
    Counted (udns.setNames party { udns.names party with query := .submitted ipv4 }) := by
  obtain ⟨passed, solve⟩ := counted.queued party (ne_unqueued_of_pending pending)
  have empty := counted.awaited party pending
  obtain ⟨some, noneQueued, -, -⟩ := counted.unsplit (counted.owes_of_pending pending)
  refine counted.setNames { udns.names party with query := .submitted ipv4 } udns.refcnt
    udns.splitsQueued udns.obtained solve (owed_of_pending pending) empty
    (DnsStage.got_of_tested (DnsStage.tested_of_passed passed) party) (fun _ => passed)
    (fun _ => empty) rfl ?_ (by rw [empty]; rfl)
  rw [noneQueued, if_neg (fun all => some all.2)]

theorem Counted.settle_counted (counted : Counted udns) (pending : (udns.names party).query.Pending)
    (names : DnsNames) (completed : names.query = .completed) :
    Counted (udns.settle party names) := by
  obtain ⟨passed, solve⟩ := counted.queued party (ne_unqueued_of_pending pending)
  have empty := counted.awaited party pending
  have tested := DnsStage.tested_of_passed passed
  obtain ⟨some, noneQueued, -, -⟩ := counted.unsplit (counted.owes_of_pending pending)
  refine counted.setNames names (udns.refcnt - 1)
    (udns.splitsQueued + if udns.refcnt - 1 = 0 then 1 else 0)
    (names.nameCache.pointers ++ udns.obtained) solve (owed_of_pending pending) empty
    (DnsStage.got_of_tested tested party) (fun _ => passed) ?_ ?_ ?_ rfl
  · intro pending
    rw [completed] at pending
    exact pending.elim
  · simp only [DnsNames.owed, completed, Bool.toNat_false]
    omega
  · rw [noneQueued, Nat.zero_add]
    simp only [tested, true_and]

/-- What the worker's next statement does. -/
inductive Works (cache : Option DnsCache) (udns : UdnsOpaque) (handles : List Pointer) :
    Except DnsFault (Option DnsCache × UdnsOpaque) → Prop
  | freed (freed : udns.freed = true) (reads : udns.workerReads = true) :
      Works cache udns handles (.error .freedOpaque)
  | getElm {party : DnsParty} {result : Option DnsCache × UdnsOpaque}
      (here : udns.stage = .getElm party)
      (finds : Finds { udns with stage := udns.stage.next } party handles result) :
      Works cache udns handles (.ok result)
  | queueSplit (here : udns.stage = .testRefcnt) (none : udns.refcnt = 0) :
      Works cache udns handles
        (.ok (cache, { udns with stage := .left, splitsQueued := udns.splitsQueued + 1 }))
  | wait (here : udns.stage = .testRefcnt) (some : udns.refcnt ≠ 0) :
      Works cache udns handles (.ok (cache, { udns with stage := udns.stage.next }))
  | submit {party : DnsParty} (here : udns.stage = .submit party) :
      Works cache udns handles
        (.ok (cache, queueQuery { udns with stage := udns.stage.next } party))

theorem work_works {cache : Option DnsCache} {handles : List Pointer} (backs : Backs cache handles)
    {now : Int} {outcome : Except DnsFault (Option DnsCache × UdnsOpaque)}
    (counts : ∀ party, udns.stage = .getElm party →
      CountsOne cache (udns.flowCache.partyAddress party))
    (ran : udns.work cache now = some outcome) : Works cache udns handles outcome := by
  rw [work] at ran
  split at ran
  · next reads =>
      cases ran
      obtain ⟨freed, reads⟩ := Bool.and_eq_true_iff.mp reads
      exact .freed freed reads
  · split at ran
    · next here =>
        cases ran
        obtain ⟨result, found, finds⟩ := @getElm_finds { udns with stage := .getElm .target }
          .client cache handles backs now (counts .client here)
        rw [found]
        exact .getElm here (by rw [here]; exact finds)
    · next here =>
        cases ran
        obtain ⟨result, found, finds⟩ := @getElm_finds { udns with stage := .testRefcnt }
          .target cache handles backs now (counts .target here)
        rw [found]
        exact .getElm here (by rw [here]; exact finds)
    · next here =>
        split at ran
        · next none =>
            cases ran
            exact .queueSplit here none
        · next some =>
            cases ran
            have waits := @Works.wait cache udns handles here some
            rwa [here] at waits
    · next here =>
        cases ran
        have submits := @Works.submit cache udns handles .client here
        rwa [here] at submits
    · next here =>
        cases ran
        have submits := @Works.submit cache udns handles .target here
        rwa [here] at submits
    · cases ran

theorem Counted.next_counted (counted : Counted udns)
    (some : udns.stage = .testRefcnt → udns.refcnt ≠ 0) :
    Counted { udns with stage := udns.stage.next } := by
  have later : udns.stage.turn ≤ udns.stage.next.turn := by
    cases udns.stage with
    | getElm party => cases party <;> decide
    | testRefcnt => decide
    | submit party => cases party <;> decide
    | left => decide
  apply counted.atStage _ later
  · intro party notGot
    apply counted.fresh
    intro got
    apply notGot
    cases party <;> exact Nat.le_trans got later
  · cases stage : udns.stage with
    | getElm party =>
        refine .inr (.inl ?_)
        cases party <;> decide
    | testRefcnt => exact .inr (.inr (some stage))
    | submit party =>
        refine .inl ?_
        cases party <;> decide
    | left => exact .inl (by decide)

/-- Before the worker has submitted anything nothing is asked for. -/
theorem asked_early (early : udns.stage.turn ≤ 3) (party : DnsParty)
    (passed : udns.stage.passed party) : False := by
  cases party <;> simp only [DnsStage.passed] at passed <;> omega

theorem queueQuery_asked
    (asked : ∀ other, other ≠ party → udns.stage.passed other → udns.owes other = true →
      (udns.names other).query ≠ .unqueued) (other : DnsParty)
    (passed : (udns.queueQuery party).stage.passed other)
    (owes : (udns.queueQuery party).owes other = true) :
    ((udns.queueQuery party).names other).query ≠ .unqueued := by
  rw [queueQuery] at passed owes ⊢
  split
  · next wanted =>
      rw [if_pos wanted] at passed owes
      by_cases same : other = party
      · subst same
        simp [setNames]
      · simp only [setNames, UdnsOpaque.owes, Function.update_of_ne same] at owes ⊢
        exact asked other same passed owes
  · next unwanted =>
      rw [if_neg unwanted] at passed owes
      by_cases same : other = party
      · subst same
        intro unqueued
        rw [UdnsOpaque.owes, DnsNames.owed, unqueued] at owes
        exact unwanted owes
      · exact asked other same passed owes

theorem queueQuery_held (udns : UdnsOpaque) (party : DnsParty) :
    (udns.queueQuery party).held = udns.held := by
  rw [queueQuery]
  split
  · cases party <;> simp [held, elements, setNames]
  · rfl

theorem foundElm_held (notFreed : udns.freed = false)
    (empty : (udns.names party).nameCache = .null) (pointer : Pointer) :
    (udns.foundElm party pointer).held.Perm (pointer :: udns.held) := by
  have perm := udns.elements_setNames { udns.names party with nameCache := .elm pointer } empty
  rw [held, held, notFreed, if_neg Bool.false_ne_true, if_neg]
  · exact perm
  · change ¬udns.freed = true
    rw [notFreed]
    exact Bool.false_ne_true

theorem work_valid {cache cache' : Option DnsCache} {udns' : UdnsOpaque} {others : List Pointer}
    (valid : Valid udns)
    (works : Works cache udns (udns.held ++ others) (.ok (cache', udns')))
    (backs : Backs cache (udns.held ++ others)) :
    Valid udns' ∧ Backs cache' (udns'.held ++ others) := by
  obtain ⟨counted, asked⟩ := valid
  cases works with
  | @getElm party _ here finds =>
      have later : { udns with stage := udns.stage.next }.Counted :=
        counted.next_counted (fun there => by rw [here] at there; cases there)
      have early : udns.stage.next.turn ≤ 2 := by rw [here]; cases party <;> decide
      have empty : (udns.names party).nameCache = .null :=
        counted.fresh party (by rw [here]; cases party <;> decide)
      have untested : ¬udns.stage.next.tested := by
        simp only [DnsStage.tested]
        omega
      obtain ⟨-, -, notFreed⟩ := later.unsplit_early untested
      have unasked := fun other passed =>
        @asked_early { udns with stage := udns.stage.next } (Nat.le_succ_of_le early) other passed
      cases finds with
      | @found dnsCache pointer solve backs entry =>
          refine ⟨⟨?_, fun other passed => (unasked other passed).elim⟩, ?_⟩
          · apply later.foundElm_counted untested _ solve empty
            change udns.stage.next.got party
            rw [here]
            cases party <;> decide
          · exact backs.perm ((foundElm_held notFreed empty pointer).symm.append_right others)
      | missing backs => exact ⟨⟨later, fun other passed => (unasked other passed).elim⟩, backs⟩
  | queueSplit here none =>
      have untested : ¬udns.stage.tested := by rw [here]; decide
      obtain ⟨noneQueued, noSplit, notFreed⟩ := counted.unsplit_early untested
      have owing : udns.owing = 0 := counted.refcnt ▸ none
      have tested : DnsStage.left.tested := by decide
      refine ⟨⟨⟨counted.refcnt, ?_, counted.freed, ?_, ?_, counted.awaited, counted.obtained,
        counted.released⟩, ?_⟩, backs⟩
      · rw [noneQueued, noSplit, if_pos ⟨tested, none⟩]
      · intro party notGot
        exact absurd (DnsStage.got_of_tested tested party) notGot
      · intro party queued
        exact absurd (DnsStage.tested_of_passed (counted.queued party queued).1) untested
      · intro party _ owes
        have owed : udns.owes party = true := owes
        rw [UdnsOpaque.owing] at owing
        cases party <;> rw [owed] at owing <;> simp at owing
  | wait here some =>
      have early : udns.stage.next.turn ≤ 3 := by rw [here]; decide
      refine ⟨⟨counted.next_counted fun _ => some, ?_⟩, backs⟩
      intro other passed
      exact (@asked_early { udns with stage := udns.stage.next } early other passed).elim
  | @submit party here =>
      have later : { udns with stage := udns.stage.next }.Counted :=
        counted.next_counted (fun there => by rw [here] at there; cases there)
      have unqueued : (udns.names party).query = .unqueued := by
        by_contra queued
        have passed := (counted.queued party queued).1
        rw [here] at passed
        cases party <;> simp [DnsStage.passed, DnsStage.turn] at passed
      refine ⟨⟨later.queueQuery_counted ?_ unqueued, ?_⟩, ?_⟩
      · change udns.stage.next.passed party
        rw [here]
        cases party <;> decide
      · apply queueQuery_asked
        intro other another passed owes
        apply asked other _ owes
        change udns.stage.next.passed other at passed
        rw [here] at passed ⊢
        cases party <;> cases other <;> simp_all [DnsStage.passed, DnsStage.turn, DnsStage.next]
      · rw [queueQuery_held]
        exact backs

theorem submitA4ptr_valid (valid : Valid udns) (queued : (udns.names party).query = .queued)
    {udns' : UdnsOpaque} (ran : udns.submitA4ptr party = .ok udns') :
    Valid udns' ∧ udns'.held = udns.held := by
  obtain ⟨counted, asked⟩ := valid
  have pending : (udns.names party).query.Pending := by rw [queued]; trivial
  rw [submitA4ptr] at ran
  split at ran
  · cases ran
  · cases ran
    refine ⟨⟨counted.submit_counted pending _, ?_⟩, ?_⟩
    · intro other passed owes
      by_cases same : other = party
      · subst same
        simp [setNames]
      · simp only [setNames, UdnsOpaque.owes, Function.update_of_ne same] at owes ⊢
        exact asked other passed owes
    · cases party <;> simp [held, elements, setNames]

theorem settle_valid (valid : Valid udns) (pending : (udns.names party).query.Pending)
    (names : DnsNames) (completed : names.query = .completed) :
    Valid (udns.settle party names) ∧
      (udns.settle party names).held.Perm (names.nameCache.pointers ++ udns.held) := by
  obtain ⟨counted, asked⟩ := valid
  obtain ⟨-, -, -, notFreed⟩ := counted.unsplit (counted.owes_of_pending pending)
  refine ⟨⟨counted.settle_counted pending names completed, ?_⟩, ?_⟩
  · intro other passed owes
    by_cases same : other = party
    · subst same
      simp [settle, setNames, completed]
    · simp only [settle, setNames, UdnsOpaque.owes, Function.update_of_ne same] at owes ⊢
      exact asked other passed owes
  · have perm := udns.elements_setNames names (counted.awaited party pending)
    rw [held, held, notFreed, if_neg Bool.false_ne_true, if_neg]
    · exact perm
    · change ¬udns.freed = true
      rw [notFreed]
      exact Bool.false_ne_true

theorem completes_valid {cache : Option DnsCache} {udns' : UdnsOpaque} {others : List Pointer}
    {result : Option Bytes} {calloc : Option Pointer} (valid : Valid udns)
    (pending : (udns.names party).query.Pending)
    (completes : udns.Completes party result calloc (udns.held ++ others) (cache, udns')) :
    Valid udns' ∧ Backs cache (udns'.held ++ others) := by
  have empty := valid.counted.awaited party pending
  cases completes with
  | unnamed unanswered backs =>
      obtain ⟨settled, perm⟩ :=
        settle_valid valid pending { udns.names party with query := .completed } rfl
      have none : (udns.names party).nameCache.pointers = [] := by rw [empty]; rfl
      change List.Perm _ ((udns.names party).nameCache.pointers ++ udns.held) at perm
      rw [none] at perm
      exact ⟨settled, backs.perm (perm.symm.append_right others)⟩
  | @saved dnsCache pointer name answered backs entry =>
      obtain ⟨settled, perm⟩ :=
        settle_valid valid pending
          { udns.names party with nameCache := .elm pointer, query := .completed } rfl
      exact ⟨settled, backs.perm (perm.symm.append_right others)⟩
  | @copied dnsCache name answered backs =>
      obtain ⟨settled, perm⟩ :=
        settle_valid valid pending
          { name := some name, nameCache := .null, query := .completed } rfl
      exact ⟨settled, backs.perm (perm.symm.append_right others)⟩
  | unallocated answered failed backs =>
      obtain ⟨settled, perm⟩ :=
        settle_valid valid pending
          { udns.names party with nameCache := .elmOfNull, query := .completed } rfl
      exact ⟨settled, backs.perm (perm.symm.append_right others)⟩

def splitDone (udns : UdnsOpaque) : UdnsOpaque :=
  { udns with
    splitsQueued := udns.splitsQueued - 1
    freed := true
    splits := udns.splits + 1
    released := udns.elements ++ udns.released }

/-- A flow is split with the names that were found, unless one of its elements is the one of a
null entry. -/
inductive Splits (cache : Option DnsCache) (udns : UdnsOpaque) (others : List Pointer) :
    Except DnsFault (Option DnsCache × UdnsOpaque × LineState) → Prop
  | elmOfNull {party : DnsParty} (garbage : (udns.names party).nameCache = .elmOfNull) :
      Splits cache udns others (.error .elmOfNull)
  | done {clientName targetName : Option Bytes} {cache' : Option DnsCache}
      (client : hostname cache (udns.names .client) = .ok clientName)
      (target : hostname cache (udns.names .target) = .ok targetName)
      (backs : Backs cache' others) :
      Splits cache udns others
        (.ok
          (cache', udns.splitDone,
            { line :=
                appendName (appendName udns.currPrintbuf "lan_ip_name" clientName) "wan_ip_name"
                  targetName
              cache := udns.named clientName targetName
              valueRet := 0 }))

theorem split_splits {cache : Option DnsCache} {others : List Pointer} (counted : Counted udns)
    (backs : Backs cache (udns.held ++ others)) (waits : udns.splitsQueued ≠ 0)
    (globals : ReadOnlyGlobals) : Splits cache udns others (udns.split globals cache) := by
  have notFreed := counted.not_freed waits
  have held : udns.held = udns.elements := by
    rw [UdnsOpaque.held, notFreed, if_neg Bool.false_ne_true]
  rw [held] at backs
  have all : udns.elements ⊆ udns.elements ++ others := List.subset_append_left _ _
  rw [split, notFreed, if_neg Bool.false_ne_true]
  rcases hostname_ok (udns.names .client) backs
    (List.Subset.trans (List.subset_append_left _ _) all) with ⟨garbage, failed⟩ | ⟨_, client⟩
  · rw [failed]
    exact .elmOfNull garbage
  rcases hostname_ok (udns.names .target) backs
    (List.Subset.trans (List.subset_append_right _ _) all) with ⟨garbage, failed⟩ | ⟨_, target⟩
  · rw [client, failed]
    exact .elmOfNull garbage
  rw [elements, List.append_assoc] at backs
  rcases decrefElm_backs _ backs with ⟨garbage, failed⟩ | ⟨_, ran, backs⟩
  · simp only [client, target, printAllFromCache_names, Except.mapError, failed]
    exact .elmOfNull garbage
  rcases decrefElm_backs _ backs with ⟨garbage, failed⟩ | ⟨_, ran', backs⟩
  · simp only [client, target, printAllFromCache_names, Except.mapError, ran, failed, bind,
      Except.bind]
    exact .elmOfNull garbage
  simp only [client, target, printAllFromCache_names, Except.mapError, ran, ran', bind,
    Except.bind]
  exact .done client target backs

theorem splitDone_valid (valid : Valid udns) (waits : udns.splitsQueued ≠ 0) :
    Valid udns.splitDone := by
  obtain ⟨counted, asked⟩ := valid
  have notFreed := counted.not_freed waits
  have splits := counted.splits
  have released := counted.released
  rw [notFreed, if_neg Bool.false_ne_true] at released
  have noSplit : udns.splits = 0 := by
    split at splits <;> omega
  refine ⟨⟨counted.refcnt, ?_, ?_, counted.fresh, counted.queued, counted.awaited,
    counted.obtained, ?_⟩, asked⟩
  · change udns.splitsQueued - 1 + (udns.splits + 1) =
      if udns.stage.tested ∧ udns.refcnt = 0 then 1 else 0
    rw [← splits]
    omega
  · simp [splitDone, noSplit]
  · simp only [splitDone, released, List.append_nil, if_true]
    rfl

/-! A flow that is never read after it was freed. -/

/-- The target's name is in the cache and the client's is not: the query for the client may be
answered, and the flow freed, before the worker looks whether it has to submit the target. -/
def KnowsOnlyTarget (udns : UdnsOpaque) : Prop :=
  udns.flowCache.solve .client = true ∧ (udns.names .client).nameCache = .null ∧
    udns.flowCache.solve .target = true ∧ (udns.names .target).nameCache ≠ .null

structure Careful (udns : UdnsOpaque) : Prop where
  waits : udns.stage = .submit .client → udns.refcnt ≠ 0
  target : ∀ party, udns.stage = .submit party → udns.flowCache.solve .target = true →
    (udns.names .target).nameCache = .null
  elm : ∀ party, (udns.names party).nameCache ≠ .elmOfNull

theorem queueQuery_nameCache (udns : UdnsOpaque) (party other : DnsParty) :
    ((udns.queueQuery party).names other).nameCache = (udns.names other).nameCache := by
  rw [queueQuery]
  split
  · by_cases same : other = party
    · subst same
      simp [setNames]
    · simp [setNames, Function.update_of_ne same]
  · rfl

theorem queueQuery_rest (udns : UdnsOpaque) (party : DnsParty) :
    (udns.queueQuery party).stage = udns.stage ∧
      (udns.queueQuery party).flowCache = udns.flowCache := by
  rw [queueQuery]
  split <;> exact ⟨rfl, rfl⟩

theorem Valid.unqueued (valid : Valid udns) (early : ¬udns.stage.passed party) :
    (udns.names party).query = .unqueued := by
  by_contra queued
  exact early (valid.counted.queued party queued).1

theorem Careful.reads (careful : Careful udns) (valid : Valid udns)
    (reads : udns.workerReads = true) : udns.freed = false := by
  have counted := valid.counted
  cases stage : udns.stage with
  | getElm party =>
      have untested : ¬udns.stage.tested := by rw [stage]; cases party <;> decide
      exact (counted.unsplit_early untested).2.2
  | testRefcnt =>
      have untested : ¬udns.stage.tested := by rw [stage]; decide
      exact (counted.unsplit_early untested).2.2
  | submit party =>
      rw [workerReads, stage] at reads
      cases party with
      | client =>
          have splits := counted.splits
          rw [if_neg (fun all => careful.waits stage all.2)] at splits
          apply Bool.eq_false_iff.mpr
          intro freed
          have once := counted.freed.mp freed
          omega
      | target =>
          have solve : udns.flowCache.solve .target = true := reads
          have empty := careful.target .target stage solve
          have unqueued : (udns.names .target).query = .unqueued :=
            valid.unqueued (by rw [stage]; decide)
          have owes : udns.owes .target = true := by
            rw [owes, solve, DnsNames.owed, unqueued, empty]
            rfl
          exact (counted.unsplit owes).2.2.2
  | left =>
      rw [workerReads, stage] at reads
      cases reads

/-- While the worker waits for an answer, the client or the target is without a name. -/
theorem Valid.client_unknown (valid : Valid udns) (here : udns.stage = .testRefcnt)
    (some : udns.refcnt ≠ 0) (solve : udns.flowCache.solve .target = true)
    (known : (udns.names .target).nameCache ≠ .null) : udns.KnowsOnlyTarget := by
  have unqueued : ∀ party, (udns.names party).query = .unqueued := fun party =>
    valid.unqueued (by rw [here]; cases party <;> decide)
  have target : udns.owes .target = false := by
    rw [owes, solve, DnsNames.owed, unqueued .target]
    exact Bool.eq_false_iff.mpr (mt SavedElm.isNull_iff.mp known)
  have client : udns.owes .client = true := by
    have refcnt := valid.counted.refcnt
    rw [owing, target] at refcnt
    apply Bool.eq_true_of_not_eq_false
    intro client
    rw [client] at refcnt
    exact some refcnt
  rw [owes, DnsNames.owed, unqueued .client] at client
  obtain ⟨wanted, isNull⟩ := Bool.and_eq_true_iff.mp client
  exact ⟨wanted, SavedElm.isNull_iff.mp isNull, solve, known⟩

theorem work_careful {cache : Option DnsCache} {handles : List Pointer}
    {outcome : Except DnsFault (Option DnsCache × UdnsOpaque)} (valid : Valid udns)
    (careful : Careful udns) (works : Works cache udns handles outcome)
    (both : udns.stage = .testRefcnt → ¬udns.KnowsOnlyTarget) :
    ∃ cache' udns', outcome = .ok (cache', udns') ∧ Careful udns' := by
  cases works with
  | freed freed reads =>
      rw [careful.reads valid reads] at freed
      cases freed
  | @getElm party _ here finds =>
      have early : ∀ other, udns.stage.next ≠ .submit other := by
        intro other
        rw [here]
        cases party <;> simp [DnsStage.next]
      cases finds with
      | found solve backs entry =>
          refine ⟨_, _, rfl, fun there => (early _ there).elim,
            fun _ there => (early _ there).elim, ?_⟩
          intro other
          by_cases same : other = party
          · subst same
            simp [foundElm, setNames]
          · simpa [foundElm, setNames, Function.update_of_ne same] using careful.elm other
      | missing backs =>
          exact ⟨_, _, rfl, fun there => (early _ there).elim,
            fun _ there => (early _ there).elim, careful.elm⟩
  | queueSplit here none =>
      exact ⟨_, _, rfl, fun there => (nomatch there), fun _ there => (nomatch there), careful.elm⟩
  | wait here some =>
      refine ⟨_, _, rfl, fun _ => some, ?_, careful.elm⟩
      intro _ _ solve
      by_contra known
      exact both here (valid.client_unknown here some solve known)
  | @submit party here =>
      refine ⟨_, _, rfl, ?_, ?_, ?_⟩
      · intro there
        rw [(queueQuery_rest _ party).1, here] at there
        cases party <;> cases there
      · intro _ _ solve
        rw [queueQuery_nameCache]
        rw [(queueQuery_rest _ party).2] at solve
        exact careful.target party here solve
      · intro other
        rw [queueQuery_nameCache]
        exact careful.elm other

theorem submitA4ptr_careful (valid : Valid udns) (careful : Careful udns)
    (queued : (udns.names party).query = .queued) :
    ∃ udns', udns.submitA4ptr party = .ok udns' ∧ Careful udns' := by
  have pending : (udns.names party).query.Pending := by rw [queued]; trivial
  obtain ⟨-, -, -, notFreed⟩ :=
    valid.counted.unsplit (valid.counted.owes_of_pending pending)
  have ran : udns.submitA4ptr party = .ok (udns.setNames party
      { udns.names party with
        query := .submitted (ipv6PtrToIpv4Ptr (udns.flowCache.partyAddress party)) }) := by
    rw [submitA4ptr, notFreed, if_neg Bool.false_ne_true]
  have same : ∀ other query, ((udns.setNames party { udns.names party with query }).names
      other).nameCache = (udns.names other).nameCache := by
    intro other query
    by_cases same : other = party
    · subst same
      simp [setNames]
    · simp [setNames, Function.update_of_ne same]
  refine ⟨_, ran, careful.waits, ?_, ?_⟩
  · intro other there solve
    exact (same .target _).trans (careful.target other there solve)
  · intro other garbage
    exact careful.elm other ((same other _).symm.trans garbage)

theorem settle_careful (valid : Valid udns) (careful : Careful udns)
    (pending : (udns.names party).query.Pending) (names : DnsNames)
    (elm : names.nameCache ≠ .elmOfNull) : Careful (udns.settle party names) := by
  obtain ⟨passed, -⟩ := valid.counted.queued party (ne_unqueued_of_pending pending)
  refine ⟨?_, ?_, ?_⟩
  · intro there
    change udns.stage = _ at there
    rw [there] at passed
    cases party <;> exact absurd passed (by decide)
  · intro other there solve
    change udns.stage = _ at there
    cases party with
    | client =>
        simp only [settle, setNames, Function.update_of_ne, ne_eq, reduceCtorEq,
          not_false_eq_true]
        exact careful.target other there solve
    | target =>
        rw [there] at passed
        cases other <;> exact absurd passed (by decide)
  · intro other
    by_cases same : other = party
    · subst same
      simpa [settle, setNames] using elm
    · simpa [settle, setNames, Function.update_of_ne same] using careful.elm other

theorem completes_careful {cache : Option DnsCache} {udns' : UdnsOpaque} {handles : List Pointer}
    {result : Option Bytes} {calloc : Option Pointer} (valid : Valid udns)
    (careful : Careful udns) (pending : (udns.names party).query.Pending)
    (allocates : result ≠ none → calloc ≠ none)
    (completes : udns.Completes party result calloc handles (cache, udns')) : Careful udns' := by
  cases completes with
  | unnamed unanswered backs =>
      exact settle_careful valid careful pending _ (careful.elm party)
  | saved answered backs entry =>
      exact settle_careful valid careful pending _ (by simp)
  | copied answered backs =>
      exact settle_careful valid careful pending _ (by simp)
  | unallocated answered failed backs => exact absurd failed (allocates answered)

/-- The worker has left the flow, all its queries are completed, and it is not queued to be
split. -/
structure Settled (udns : UdnsOpaque) : Prop where
  left : udns.stage = .left
  completed : ∀ party, ¬(udns.names party).query.Pending
  run : udns.splitsQueued = 0

structure Once (udns : UdnsOpaque) : Prop where
  atMostOnce : udns.splits + udns.splitsQueued ≤ 1
  released : udns.splits = 0 ∧ udns.released = [] ∨
    udns.splits = 1 ∧ udns.released.Perm udns.obtained
  split : udns.Settled → udns.splits = 1

theorem Valid.once (valid : Valid udns) : Once udns := by
  obtain ⟨counted, asked⟩ := valid
  have splits := counted.splits
  have released := counted.released
  constructor
  · split at splits <;> omega
  · cases freed : udns.freed with
    | false =>
        rw [freed, if_neg Bool.false_ne_true] at released
        refine .inl ⟨?_, released⟩
        have notOnce : udns.splits ≠ 1 := mt counted.freed.mpr (by rw [freed]; simp)
        split at splits <;> omega
    | true =>
        rw [freed, if_pos rfl] at released
        rw [released]
        exact .inr ⟨counted.freed.mp freed, counted.obtained.symm⟩
  · rintro ⟨left, completed, run⟩
    have settled : ∀ party, udns.owes party = false := by
      intro party
      apply Bool.eq_false_iff.mpr
      intro owes
      have some := asked party (by rw [left]; cases party <;> decide) owes
      obtain ⟨-, owed⟩ := Bool.and_eq_true_iff.mp owes
      rw [DnsNames.owed] at owed
      have notPending := completed party
      cases query : (udns.names party).query with
      | unqueued => exact some query
      | queued => exact notPending (by rw [query]; trivial)
      | submitted ipv4 => exact notPending (by rw [query]; trivial)
      | completed =>
          rw [query] at owed
          cases owed
    have none : udns.refcnt = 0 := by
      rw [counted.refcnt, owing, settled .client, settled .target]
      rfl
    have tested : udns.stage.tested := by rw [left]; decide
    rw [if_pos ⟨tested, none⟩] at splits
    omega

end UdnsOpaque

end F2k
