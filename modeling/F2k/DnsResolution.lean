import F2k.DnsCacheContents
import F2k.Printer

namespace F2k

open Lib

/-! The names of a flow's two addresses: a worker asks the cache for them and queues queries for
those it does not find, and the DNS thread completes the queries and sends the flow. -/

inductive DnsParty
  | client
  | target
deriving DecidableEq, Repr

/-- `dns_submit_a4ptr` is queued by the worker and called by the DNS thread. -/
inductive DnsQuery
  | unqueued
  | queued
  | submitted (ipv4 : Bytes)
  | completed
deriving DecidableEq, Repr

/-- What `client_name` and `client_name_cache`, or the same members of the target, point to. -/
structure DnsNames where
  name : Option Bytes := none
  nameCache : SavedElm := .null
  query : DnsQuery := .unqueued

def SavedElm.isNull : SavedElm → Bool
  | .null => true
  | _ => false

def SavedElm.pointers : SavedElm → List Pointer
  | .elm pointer => [pointer]
  | _ => []

/-- The statement of the worker that comes next. -/
inductive DnsStage
  | getElm (party : DnsParty)
  | testRefcnt
  | submit (party : DnsParty)
  | left
deriving DecidableEq, Repr

/-- `struct udns_opaque` and the flow cache it points to, which are freed together. How often
the flow has been split and which elements were obtained and released is not in the code. -/
structure UdnsOpaque where
  flowCache : FlowCache
  currPrintbuf : Bytes
  refcnt : Nat
  names : DnsParty → DnsNames
  stage : DnsStage
  splitsQueued : Nat
  freed : Bool
  splits : Nat
  obtained : List Pointer
  released : List Pointer

inductive DnsFault
  | freedOpaque
  | nullCache
  | elmOfNull
  | cache (fault : DnsCacheFault)
  | print (fault : Fault)

/-- `solve_client` and `solve_target` -/
def FlowCache.solve (cache : FlowCache) : DnsParty → Bool
  | .client => cache.observationId.wantClientDns
  | .target => cache.observationId.wantTargetDns

/-- `get_direction_based_client_ip` and `get_direction_based_target_ip`. Both return a member of
the flow cache and never a null pointer. -/
def FlowCache.partyAddress (cache : FlowCache) : DnsParty → Bytes
  | .client => cache.addressAt cache.getDirectionBasedClientIp
  | .target => cache.addressAt cache.getDirectionBasedTargetIp

def ipv6PtrToIpv4Ptr (ipv6 : Bytes) : Bytes :=
  ipv6.drop 12

namespace UdnsOpaque

def new (flowCache : FlowCache) (currPrintbuf : Bytes) : UdnsOpaque where
  flowCache
  currPrintbuf
  refcnt := (flowCache.solve .client).toNat + (flowCache.solve .target).toNat
  names := fun _ => {}
  stage := .getElm .client
  splitsQueued := 0
  freed := false
  splits := 0
  obtained := []
  released := []

/-- The worker has its flags in variables of its own, and reads the rest from the memory that
the DNS thread frees. -/
def workerReads (udns : UdnsOpaque) : Bool :=
  match udns.stage with
  | .getElm _ => true
  | .testRefcnt => true
  | .submit party => udns.flowCache.solve party
  | .left => false

def setNames (udns : UdnsOpaque) (party : DnsParty) (names : DnsNames) : UdnsOpaque :=
  { udns with names := Function.update udns.names party names }

/-- `dns_cache_get_elm` for one of the addresses, if it is to be solved. -/
def getElm (cache : Option DnsCache) (udns : UdnsOpaque) (party : DnsParty) (now : Int) :
    Except DnsFault (Option DnsCache × UdnsOpaque) :=
  match cache, udns.flowCache.solve party with
  | some dnsCache, true =>
      match dnsCache.getElm (udns.flowCache.partyAddress party) now with
      | .error fault => .error (.cache fault)
      | .ok (dnsCache, none, _) => .ok (some dnsCache, udns)
      | .ok (dnsCache, some pointer, _) =>
          let found := udns.setNames party { udns.names party with nameCache := .elm pointer }
          .ok
            (some dnsCache,
              { found with refcnt := found.refcnt - 1, obtained := pointer :: found.obtained })
  | cache, _ => .ok (cache, udns)

/-- The address is submitted unless the cache has its name. -/
def queueQuery (udns : UdnsOpaque) (party : DnsParty) : UdnsOpaque :=
  if udns.flowCache.solve party && (udns.names party).nameCache.isNull then
    udns.setNames party { udns.names party with query := .queued }
  else udns

def work (cache : Option DnsCache) (udns : UdnsOpaque) (now : Int) :
    Option (Except DnsFault (Option DnsCache × UdnsOpaque)) :=
  if udns.freed && udns.workerReads then some (.error .freedOpaque)
  else
    match udns.stage with
    | .getElm .client => some (getElm cache { udns with stage := .getElm .target } .client now)
    | .getElm .target => some (getElm cache { udns with stage := .testRefcnt } .target now)
    | .testRefcnt =>
        if udns.refcnt = 0 then
          some (.ok (cache, { udns with stage := .left, splitsQueued := udns.splitsQueued + 1 }))
        else some (.ok (cache, { udns with stage := .submit .client }))
    | .submit .client =>
        some (.ok (cache, queueQuery { udns with stage := .submit .target } .client))
    | .submit .target => some (.ok (cache, queueQuery { udns with stage := .left } .target))
    | .left => none

/-- `dns_submit_a4ptr`, which reads the address where the flow cache has it. -/
def submitA4ptr (udns : UdnsOpaque) (party : DnsParty) : Except DnsFault UdnsOpaque :=
  if udns.freed then .error .freedOpaque
  else
    let ipv4 := ipv6PtrToIpv4Ptr (udns.flowCache.partyAddress party)
    .ok (udns.setNames party { udns.names party with query := .submitted ipv4 })

/-- The name that a query has found is saved in the cache, or copied when the cache is full. -/
def saveName (cache : Option DnsCache) (udns : UdnsOpaque) (party : DnsParty) (name : Bytes)
    (now : Int) (calloc : Option Pointer) : Except DnsFault (Option DnsCache × UdnsOpaque) :=
  match cache with
  | none => .error .nullCache
  | some dnsCache =>
      let names := udns.names party
      match dnsCache.saveElm (udns.flowCache.partyAddress party) name now calloc with
      | .error fault => .error (.cache fault)
      | .ok (dnsCache, .null, _) =>
          .ok
            (some dnsCache,
              udns.setNames party { names with name := some name, nameCache := .null })
      | .ok (dnsCache, .elmOfNull, _) =>
          .ok (some dnsCache, udns.setNames party { names with nameCache := .elmOfNull })
      | .ok (dnsCache, .elm pointer, _) =>
          let saved := udns.setNames party { names with nameCache := .elm pointer }
          .ok (some dnsCache, { saved with obtained := pointer :: saved.obtained })

/-- The query has been answered: the last one that is queues the flow to be split. -/
def complete (udns : UdnsOpaque) (party : DnsParty) : UdnsOpaque :=
  let completed := udns.setNames party { udns.names party with query := .completed }
  let refcnt := completed.refcnt - 1
  if refcnt = 0 then
    { completed with refcnt, splitsQueued := completed.splitsQueued + 1 }
  else { completed with refcnt }

def dnsQueryCompleted0 (cache : Option DnsCache) (udns : UdnsOpaque) (party : DnsParty)
    (result : Option Bytes) (now : Int) (calloc : Option Pointer) :
    Except DnsFault (Option DnsCache × UdnsOpaque) :=
  if udns.freed then .error .freedOpaque
  else
    match result with
    | none => .ok (cache, udns.complete party)
    | some name => do
        let (cache, udns) ← saveName cache udns party name now calloc
        .ok (cache, udns.complete party)

/-- `get_direction_based_client_hostname` and `get_direction_based_target_hostname` -/
def hostname (cache : Option DnsCache) (names : DnsNames) : Except DnsFault (Option Bytes) :=
  match names.name, names.nameCache with
  | some name, _ => .ok (some name)
  | none, .null => .ok none
  | none, .elmOfNull => .error .elmOfNull
  | none, .elm pointer =>
      match cache.bind fun dnsCache => dnsCache.memctx.lookup pointer with
      | none => .error (.cache .freedEntry)
      | some entry => .ok (some entry.name)

def decrefElm (cache : Option DnsCache) : SavedElm → Except DnsFault (Option DnsCache)
  | .null => .ok cache
  | .elmOfNull => .error .elmOfNull
  | .elm pointer =>
      match cache with
      | none => .error .nullCache
      | some dnsCache =>
          match dnsCache.decrefElm pointer with
          | .error fault => .error (.cache fault)
          | .ok dnsCache => .ok (some dnsCache)

def elements (udns : UdnsOpaque) : List Pointer :=
  (udns.names .client).nameCache.pointers ++ (udns.names .target).nameCache.pointers

def named (udns : UdnsOpaque) (clientName targetName : Option Bytes) : FlowCache :=
  { udns.flowCache with address := { udns.flowCache.address with clientName, targetName } }

/-- `split_after_dns_query_completed`, up to the line that is split. -/
def split (globals : ReadOnlyGlobals) (cache : Option DnsCache) (udns : UdnsOpaque) :
    Except DnsFault (Option DnsCache × UdnsOpaque × LineState) :=
  if udns.freed then .error .freedOpaque
  else do
    let clientName ← hostname cache (udns.names .client)
    let targetName ← hostname cache (udns.names .target)
    let printed ←
      (printAllFromCache globals udns.currPrintbuf [dnsClientName, dnsTargetName]
        (udns.named clientName targetName)).mapError .print
    let cache ← decrefElm cache (udns.names .client).nameCache
    let cache ← decrefElm cache (udns.names .target).nameCache
    .ok
      (cache,
        { udns with
          splitsQueued := udns.splitsQueued - 1
          freed := true
          splits := udns.splits + 1
          released := udns.elements ++ udns.released },
        printed)

end UdnsOpaque

/-- The line of a flow before its names were printed, and after. -/
structure SentFlow where
  currPrintbuf : Bytes
  printed : LineState

/-- The cache that every flow shares, the flows, and what has been printed of those that were
split. -/
structure DnsResolution where
  cache : Option DnsCache
  flows : List UdnsOpaque
  sent : List SentFlow
  fault : Option DnsFault

inductive DnsAction
  | start (flowCache : FlowCache) (currPrintbuf : Bytes)
  | work (flow : Nat) (now : Int)
  | submitA4ptr (flow : Nat) (party : DnsParty)
  | queryCompleted (flow : Nat) (party : DnsParty) (result : Option Bytes) (now : Int)
      (calloc : Option Pointer)
  | split (flow : Nat)

def DnsAction.flow : DnsAction → Option Nat
  | .start _ _ => none
  | .work flow _ => some flow
  | .submitA4ptr flow _ => some flow
  | .queryCompleted flow _ _ _ _ => some flow
  | .split flow => some flow

/-- What `dns_cache_new` is called with, if it is called. -/
structure DnsCacheSettings where
  entrySize : Nat
  maxmemM : Nat
  timeoutS : Int

namespace DnsResolution

def new (settings : Option DnsCacheSettings) : DnsResolution where
  cache := settings.map fun settings =>
    .new settings.entrySize settings.maxmemM settings.timeoutS
  flows := []
  sent := []
  fault := none

/-- What a flow's step leaves. After a fault nothing happens any more. -/
def put (state : DnsResolution) (flow : Nat) :
    Except DnsFault (Option DnsCache × UdnsOpaque) → DnsResolution
  | .error fault => { state with fault := some fault }
  | .ok (cache, udns) => { state with cache, flows := state.flows.set flow udns }

def putSent (state : DnsResolution) (flow : Nat) :
    Except DnsFault (Option DnsCache × UdnsOpaque × LineState) → DnsResolution
  | .error fault => { state with fault := some fault }
  | .ok (cache, udns, printed) =>
      { state with
        cache
        flows := state.flows.set flow udns
        sent := { currPrintbuf := udns.currPrintbuf, printed } :: state.sent }

/-- A query is answered with a name that the resolver has for the address it asks for, or with
none. -/
def Answers (resolver : Bytes → Option Bytes) (result : Option Bytes) (query : DnsQuery) : Prop :=
  match query with
  | .submitted ipv4 => result = none ∨ result = resolver (ipv4bufTo6 ipv4)
  | _ => False

instance (resolver : Bytes → Option Bytes) (result : Option Bytes) (query : DnsQuery) :
    Decidable (Answers resolver result query) := by
  cases query <;> unfold Answers <;> infer_instance

/-- The memory context allocates memory that is free. -/
def Free (cache : Option DnsCache) (calloc : Option Pointer) : Prop :=
  ∀ pointer ∈ calloc, ∀ dnsCache ∈ cache, dnsCache.memctx.lookup pointer = none

instance (cache : Option DnsCache) (calloc : Option Pointer) : Decidable (Free cache calloc) := by
  unfold Free
  infer_instance

/-- What a worker or the DNS thread does with one flow. -/
def stepFlow (globals : ReadOnlyGlobals) (resolver : Bytes → Option Bytes)
    (state : DnsResolution) (flow : Nat) (udns : UdnsOpaque) :
    DnsAction → Option DnsResolution
  | .start _ _ => none
  | .work _ now => (udns.work state.cache now).map (state.put flow)
  | .submitA4ptr _ party =>
      if (udns.names party).query = .queued then
        some (state.put flow ((udns.submitA4ptr party).map fun udns => (state.cache, udns)))
      else none
  | .queryCompleted _ party result now calloc =>
      if Answers resolver result (udns.names party).query ∧ Free state.cache calloc then
        some (state.put flow (udns.dnsQueryCompleted0 state.cache party result now calloc))
      else none
  | .split _ =>
      if udns.splitsQueued = 0 then none
      else some (state.putSent flow (udns.split globals state.cache))

/-- A worker that has dissected a flow starts to resolve its names if one of them is wanted. -/
def start (state : DnsResolution) (flowCache : FlowCache) (currPrintbuf : Bytes) :
    Option DnsResolution :=
  if flowCache.solve .client || flowCache.solve .target then
    some { state with flows := state.flows ++ [.new flowCache currPrintbuf] }
  else none

def step (globals : ReadOnlyGlobals) (resolver : Bytes → Option Bytes) (state : DnsResolution)
    (action : DnsAction) : Option DnsResolution :=
  match state.fault, action with
  | some _, _ => none
  | none, .start flowCache currPrintbuf => state.start flowCache currPrintbuf
  | none, action => do
      let flow ← action.flow
      let udns ← state.flows[flow]?
      stepFlow globals resolver state flow udns action

end DnsResolution

end F2k
