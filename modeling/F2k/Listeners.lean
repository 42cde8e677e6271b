import F2k.Lib.Heap
import F2k.Lib.Outcome
import F2k.Lib.Systems
import Mathlib.Data.List.Nodup

namespace F2k

open Lib

/-! The listeners: their list is merged with the one that is asked for, every listener of it is
woken up, and each has a thread that receives through it. -/

inductive TransportProto
  | udp
deriving DecidableEq

abbrev ProtoPort := TransportProto × UInt16

/-- `struct port_collector`. Sockets and threads are numbered in the order they are made. -/
structure PortCollector where
  proto : TransportProto
  port : UInt16
  socket : Option Nat
  listener : Option Nat

def PortCollector.key (collector : PortCollector) : ProtoPort :=
  (collector.proto, collector.port)

/-- The nodes, the list, the node that each thread was given, how many sockets were made, and
those that were closed. -/
structure ListenerState where
  nodes : Heap PortCollector
  listeners : List Nat
  threads : List Nat
  sockets : Nat
  closed : List Nat

def ListenerState.start : ListenerState where
  nodes := .empty
  listeners := []
  threads := []
  sockets := 0
  closed := []

/-- How it goes to open a port. -/
inductive Opening
  | opened
  | socketFails
  | bindFails
deriving DecidableEq

def createNetFlowListener (request : ProtoPort) : PortCollector where
  proto := request.1
  port := request.2
  socket := none
  listener := none

/-- `parse_port_list`: the new list. -/
def createListeners (nodes : Heap PortCollector) : List ProtoPort → List Nat × Heap PortCollector
  | [] => ([], nodes)
  | request :: rest =>
      let (later, last) := createListeners (nodes.alloc (createNetFlowListener request)) rest
      (nodes.next :: later, last)

namespace ListenerState

def closeNetFlowListener (state : ListenerState) (collector : Nat) :
    Except NotLive ListenerState := do
  let contents ← state.nodes.read collector
  let nodes ← state.nodes.free collector
  .ok { state with nodes, closed := state.closed ++ contents.socket.toList }

def isPresent (nodes : Heap PortCollector) (collector : PortCollector) :
    List Nat → Except NotLive Bool
  | [] => .ok false
  | i :: rest => do
      let contents ← nodes.read i
      if contents.key = collector.key then .ok true else isPresent nodes collector rest

/-- What remains of the list when its listeners that are, or are not, present in another one are
closed. -/
def purgeListeners (present : Bool) (compare : List Nat) :
    List Nat → ListenerState → Except NotLive (List Nat × ListenerState)
  | [], state => .ok ([], state)
  | i :: next, state => do
      let contents ← state.nodes.read i
      let found ← isPresent state.nodes contents compare
      if found = present then do
        let state ← state.closeNetFlowListener i
        purgeListeners present compare next state
      else do
        let (kept, state) ← purgeListeners present compare next state
        .ok (i :: kept, state)

def mergeNetFlowListenerList (state : ListenerState) (l2 : List Nat) :
    Except NotLive ListenerState := do
  let (l1, state) ← purgeListeners false l2 state.listeners state
  let (l2, state) ← purgeListeners true l1 l2 state
  .ok { state with listeners := l1 ++ l2 }

/-- A listener that cannot be opened is freed where it stands in the list. -/
def wakeUpListener (opening : ProtoPort → Opening) (state : ListenerState) (listener : Nat) :
    Except NotLive ListenerState := do
  let contents ← state.nodes.read listener
  match opening contents.key with
  | .socketFails => do
      let nodes ← state.nodes.free listener
      .ok { state with nodes }
  | .bindFails => do
      let nodes ← state.nodes.write listener { contents with socket := some state.sockets }
      { state with nodes, sockets := state.sockets + 1 }.closeNetFlowListener listener
  | .opened => do
      let nodes ←
        state.nodes.write listener
          { contents with socket := some state.sockets, listener := some state.threads.length }
      .ok
        { state with
          nodes
          sockets := state.sockets + 1
          threads := state.threads ++ [listener] }

/-- The link to the next node is read after the node was woken up. -/
def wakeUpListenerList (opening : ProtoPort → Opening) :
    List Nat → ListenerState → Except NotLive ListenerState
  | [], state => .ok state
  | i :: next, state => do
      let state ← state.wakeUpListener opening i
      let _ ← state.nodes.read i
      wakeUpListenerList opening next state

def reload (state : ListenerState) (requests : List ProtoPort) (opening : ProtoPort → Opening) :
    Except NotLive ListenerState := do
  let (l2, nodes) := createListeners state.nodes requests
  let state ← { state with nodes }.mergeNetFlowListenerList l2
  wakeUpListenerList opening state.listeners state

/-- A turn of `netFlowCollectLoop0`: the socket is read from the node. -/
def receive (state : ListenerState) (thread : Nat) : Except NotLive ListenerState :=
  match state.threads[thread]? with
  | none => .ok state
  | some collector => do
      let _ ← state.nodes.read collector
      .ok state

end ListenerState

/-- The ports that are asked for are distinct. -/
inductive ListenerEvent
  | reload (requests : List ProtoPort) (distinct : requests.Nodup)
      (opening : ProtoPort → Opening)
  | receive (thread : Nat)

def ListenerState.step (state : ListenerState) : ListenerEvent → Except NotLive ListenerState
  | .reload requests _ opening => state.reload requests opening
  | .receive thread => state.receive thread

/-! What is asked of a reload -/

namespace ListenerState

def keys (state : ListenerState) : List ProtoPort :=
  state.listeners.filterMap fun address => (state.nodes.cells address).map PortCollector.key

/-- The list has what was asked for and could be opened; what was and is in it is as it was, and
only the rest was opened; what is not in it any more was closed once. -/
structure ReloadsTo (before : ListenerState) (requests : List ProtoPort)
    (opening : ProtoPort → Opening) (after : ListenerState) : Prop where
  listens : ∀ key, key ∈ after.keys ↔
    key ∈ requests ∧ (key ∈ before.keys ∨ opening key = .opened)
  keeps : ∀ address ∈ before.listeners, ∀ collector,
    before.nodes.cells address = some collector → collector.key ∈ requests →
      address ∈ after.listeners ∧ after.nodes.cells address = some collector
  opens : after.sockets =
    before.sockets + (requests.filter fun key => decide (key ∉ before.keys)).length
  closes : ∀ address ∈ before.listeners, ∀ collector,
    before.nodes.cells address = some collector → ∀ socket, collector.socket = some socket →
      after.closed.count socket = if collector.key ∈ requests then 0 else 1

def Right (before : ListenerState) (event : ListenerEvent) (after : ListenerState) : Prop :=
  match event with
  | .reload requests _ opening => before.ReloadsTo requests opening after
  | .receive _ => True

/-- No port is asked for that is listened on already, all can be opened, and no thread goes on
once its listener is not in the list any more. -/
def StartsAnew (state : ListenerState) : ListenerEvent → Prop
  | .reload requests _ opening =>
      ∀ key ∈ requests, key ∉ state.keys ∧ opening key = .opened
  | .receive thread => ∀ node ∈ state.threads[thread]?, node ∈ state.listeners

end ListenerState

/-! Merging -/

/-- Nodes with their contents. -/
abbrev Nodes := List (Nat × PortCollector)

def Nodes.addresses (nodes : Nodes) : List Nat := nodes.map Prod.fst

def Nodes.keys (nodes : Nodes) : List ProtoPort := nodes.map fun node => node.2.key

@[simp] theorem Nodes.addresses_cons (node : Nat × PortCollector) (rest : Nodes) :
    Nodes.addresses (node :: rest) = node.1 :: rest.addresses := rfl

@[simp] theorem Nodes.keys_cons (node : Nat × PortCollector) (rest : Nodes) :
    Nodes.keys (node :: rest) = node.2.key :: rest.keys := rfl

def Nodes.sockets (nodes : Nodes) : List Nat :=
  nodes.flatMap fun node => node.2.socket.toList

/-- The nodes whose port is, or is not, one of the other nodes'. -/
def Nodes.pick (nodes compare : Nodes) (present : Bool) : Nodes :=
  nodes.filter fun node => decide (node.2.key ∈ compare.keys) = present

def Holds (heap : Heap PortCollector) (nodes : Nodes) : Prop :=
  ∀ node ∈ nodes, heap.cells node.1 = some node.2

/-- What one node is changed to does not touch the others. -/
theorem holds_update {heap after : Heap PortCollector} {nodes : Nodes} {address : Nat}
    {contents : Option PortCollector} (holds : ∀ node ∈ nodes, heap.cells node.1 = some node.2)
    (apart : address ∉ nodes.addresses)
    (cells : after.cells = Function.update heap.cells address contents) :
    Holds after nodes := by
  intro node member
  have ne : node.1 ≠ address := by
    rintro rfl
    exact apart (List.mem_map_of_mem member)
  rw [cells, Function.update_of_ne ne]
  exact holds node member

theorem Holds.keys_eq {state : ListenerState} {nodes : Nodes} (holds : Holds state.nodes nodes)
    (listed : nodes.addresses = state.listeners) : state.keys = nodes.keys := by
  rw [ListenerState.keys, ← listed, Nodes.addresses, List.filterMap_map, Nodes.keys,
    ← List.filterMap_eq_map]
  apply List.filterMap_congr
  intro node member
  rw [Function.comp_apply, holds node member]
  rfl

namespace ListenerState

theorem isPresent_eq {heap : Heap PortCollector} {compare : Nodes} (holds : Holds heap compare)
    (collector : PortCollector) :
    isPresent heap collector compare.addresses = .ok (decide (collector.key ∈ compare.keys)) := by
  induction compare with
  | nil => rfl
  | cons node rest ih =>
      obtain ⟨here, later⟩ := List.forall_mem_cons.mp holds
      rw [Nodes.addresses_cons, isPresent, Heap.read_live here, ok_bind, ih later]
      by_cases same : node.2.key = collector.key
      · rw [if_pos same]
        simp [same]
      · rw [if_neg same]
        simp [Ne.symm same]

theorem closeNetFlowListener_eq {state : ListenerState} {address : Nat}
    {collector : PortCollector} (live : state.nodes.cells address = some collector) :
    ∃ nodes, state.closeNetFlowListener address =
        .ok { state with nodes, closed := state.closed ++ collector.socket.toList } ∧
      nodes.next = state.nodes.next ∧
      nodes.cells = Function.update state.nodes.cells address none := by
  obtain ⟨nodes, freed, next, cells⟩ := Heap.free_live live
  refine ⟨nodes, ?_, next, cells⟩
  rw [closeNetFlowListener, Heap.read_live live, ok_bind, freed]
  rfl

/-- The nodes that are taken out of the list: they are freed, and their sockets closed in turn. -/
structure Purges (state : ListenerState) (gone : Nodes) (after : ListenerState) : Prop where
  listeners : after.listeners = state.listeners
  threads : after.threads = state.threads
  sockets : after.sockets = state.sockets
  closed : after.closed = state.closed ++ gone.sockets
  next : after.nodes.next = state.nodes.next
  freed : ∀ address ∈ gone.addresses, after.nodes.cells address = none
  others : ∀ address ∉ gone.addresses, after.nodes.cells address = state.nodes.cells address

theorem Purges.nil (state : ListenerState) : state.Purges [] state where
  listeners := rfl
  threads := rfl
  sockets := rfl
  closed := (List.append_nil _).symm
  next := rfl
  freed := fun _ member => nomatch member
  others := fun _ _ => rfl

theorem Purges.cons {state after : ListenerState} {node : Nat × PortCollector} {gone : Nodes}
    {heap : Heap PortCollector}
    (purges : { state with
      nodes := heap, closed := state.closed ++ node.2.socket.toList }.Purges gone after)
    (cells : heap.cells = Function.update state.nodes.cells node.1 none)
    (next : heap.next = state.nodes.next) : state.Purges (node :: gone) after := by
  obtain ⟨listeners, threads, sockets, closed, goesOn, freed, others⟩ := purges
  constructor
  case listeners => exact listeners
  case threads => exact threads
  case sockets => exact sockets
  case closed => rw [closed, List.append_assoc]; rfl
  case next => exact goesOn.trans next
  case freed =>
    intro address member
    by_cases again : address ∈ gone.addresses
    · exact freed address again
    · rcases List.mem_cons.mp member with rfl | later
      · rw [others node.1 again]
        exact (congrFun cells node.1).trans (Function.update_self _ _ _)
      · exact absurd later again
  case others =>
    intro address apart
    obtain ⟨ne, notLater⟩ := not_or.mp (mt List.mem_cons.mpr apart)
    rw [others address notLater]
    exact (congrFun cells address).trans (Function.update_of_ne ne _ _)

theorem purgeListeners_eq (present : Bool) {compare nodes : Nodes} {state : ListenerState}
    (holds : Holds state.nodes (nodes ++ compare))
    (distinct : (Nodes.addresses (nodes ++ compare)).Nodup) :
    ∃ after, purgeListeners present compare.addresses nodes.addresses state =
        .ok ((nodes.pick compare !present).addresses, after) ∧
      state.Purges (nodes.pick compare present) after := by
  induction nodes generalizing state with
  | nil => exact ⟨state, rfl, .nil state⟩
  | cons node rest ih =>
      obtain ⟨here, later⟩ := List.forall_mem_cons.mp holds
      obtain ⟨apart, distinctRest⟩ := List.nodup_cons.mp distinct
      have found : isPresent state.nodes node.2 compare.addresses =
          .ok (decide (node.2.key ∈ compare.keys)) :=
        isPresent_eq (fun other member => later other (List.mem_append_right _ member)) node.2
      rw [Nodes.addresses_cons, purgeListeners, Heap.read_live here, ok_bind, found, ok_bind]
      by_cases goes : decide (node.2.key ∈ compare.keys) = present
      · obtain ⟨heap, closes, next, cells⟩ := closeNetFlowListener_eq here
        obtain ⟨after, ran, purges⟩ :=
          @ih { state with nodes := heap, closed := state.closed ++ node.2.socket.toList }
            (holds_update later apart cells) distinctRest
        have kept : Nodes.pick (node :: rest) compare (!present) =
            Nodes.pick rest compare !present := by
          simp [Nodes.pick, goes]
        have gone : Nodes.pick (node :: rest) compare present =
            node :: Nodes.pick rest compare present := by
          simp [Nodes.pick, goes]
        refine ⟨after, ?_, ?_⟩
        · rw [if_pos goes, closes, ok_bind, ran, kept]
        · rw [gone]
          exact purges.cons cells next
      · obtain ⟨after, ran, purges⟩ := ih later distinctRest
        have kept : Nodes.pick (node :: rest) compare (!present) =
            node :: Nodes.pick rest compare !present := by
          simp [Nodes.pick, Bool.eq_not.mpr goes]
        have gone : Nodes.pick (node :: rest) compare present =
            Nodes.pick rest compare present := by
          simp [Nodes.pick, goes]
        refine ⟨after, ?_, ?_⟩
        · rw [if_neg goes, ran, kept]
          rfl
        · rw [gone]
          exact purges

end ListenerState

/-! Opening -/

/-- The nodes of a new list, at the addresses from the given one on. -/
def newNodes (next : Nat) : List ProtoPort → Nodes
  | [] => []
  | request :: rest => (next, createNetFlowListener request) :: newNodes (next + 1) rest

theorem newNodes_keys (next : Nat) (requests : List ProtoPort) :
    (newNodes next requests).keys = requests := by
  induction requests generalizing next with
  | nil => rfl
  | cons request rest ih => rw [newNodes, Nodes.keys_cons, ih]; rfl

theorem newNodes_sockets (next : Nat) (requests : List ProtoPort) :
    (newNodes next requests).sockets = [] := by
  induction requests generalizing next with
  | nil => rfl
  | cons request rest ih =>
      rw [newNodes, Nodes.sockets, List.flatMap_cons]
      exact ih (next + 1)

theorem le_newNodes {next address : Nat} {requests : List ProtoPort}
    (member : address ∈ (newNodes next requests).addresses) : next ≤ address := by
  induction requests generalizing next with
  | nil => cases member
  | cons request rest ih =>
      rcases List.mem_cons.mp member with rfl | later
      · exact Nat.le_refl _
      · exact Nat.le_of_succ_le (ih later)

theorem newNodes_nodup (next : Nat) (requests : List ProtoPort) :
    (newNodes next requests).addresses.Nodup := by
  induction requests generalizing next with
  | nil => exact List.nodup_nil
  | cons request rest ih =>
      rw [newNodes, Nodes.addresses_cons]
      refine List.nodup_cons.mpr ⟨?_, ih (next + 1)⟩
      intro member
      exact Nat.lt_irrefl next (le_newNodes member)

theorem createListeners_eq (heap : Heap PortCollector) (requests : List ProtoPort) :
    (createListeners heap requests).1 = (newNodes heap.next requests).addresses ∧
      Holds (createListeners heap requests).2 (newNodes heap.next requests) ∧
      ∀ address ∉ (newNodes heap.next requests).addresses,
        (createListeners heap requests).2.cells address = heap.cells address := by
  induction requests generalizing heap with
  | nil =>
      refine ⟨rfl, ?_, fun _ _ => rfl⟩
      intro node member
      cases member
  | cons request rest ih =>
      obtain ⟨addresses, holds, others⟩ := ih (heap.alloc (createNetFlowListener request))
      refine ⟨?_, ?_, ?_⟩
      · rw [newNodes, Nodes.addresses_cons]
        exact congrArg (List.cons heap.next) addresses
      · intro node member
        rcases List.mem_cons.mp member with rfl | later
        · refine (others heap.next ?_).trans Heap.alloc_self
          intro again
          exact Nat.lt_irrefl heap.next (le_newNodes again)
        · exact holds node later
      · intro address absent
        obtain ⟨ne, notLater⟩ := not_or.mp (mt List.mem_cons.mpr absent)
        exact (others address notLater).trans (Heap.alloc_other ne)

/-- The nodes with the sockets and threads that they are given in turn. -/
def wokenNodes (sockets threads : Nat) : Nodes → Nodes
  | [] => []
  | (address, collector) :: rest =>
      (address, { collector with socket := some sockets, listener := some threads }) ::
        wokenNodes (sockets + 1) (threads + 1) rest

theorem wokenNodes_addresses (sockets threads : Nat) (nodes : Nodes) :
    (wokenNodes sockets threads nodes).addresses = nodes.addresses := by
  induction nodes generalizing sockets threads with
  | nil => rfl
  | cons node rest ih =>
      rw [wokenNodes, Nodes.addresses_cons, Nodes.addresses_cons, ih]

theorem wokenNodes_keys (sockets threads : Nat) (nodes : Nodes) :
    (wokenNodes sockets threads nodes).keys = nodes.keys := by
  induction nodes generalizing sockets threads with
  | nil => rfl
  | cons node rest ih =>
      rw [wokenNodes, Nodes.keys_cons, Nodes.keys_cons, ih]
      rfl

theorem wokenNodes_sockets (sockets threads : Nat) (nodes : Nodes) :
    (wokenNodes sockets threads nodes).sockets = List.range' sockets nodes.length := by
  induction nodes generalizing sockets threads with
  | nil => rfl
  | cons node rest ih =>
      rw [wokenNodes, Nodes.sockets, List.flatMap_cons, List.length_cons, List.range'_succ]
      exact congrArg (List.cons sockets) (ih (sockets + 1) (threads + 1))

theorem mem_wokenNodes {sockets threads : Nat} {nodes : Nodes} {node : Nat × PortCollector}
    (member : node ∈ wokenNodes sockets threads nodes) :
    ∃ socket, sockets ≤ socket ∧ socket < sockets + nodes.length ∧
      node.2.socket = some socket := by
  induction nodes generalizing sockets threads with
  | nil => cases member
  | cons first rest ih =>
      rw [List.length_cons]
      rcases List.mem_cons.mp member with rfl | later
      · exact ⟨sockets, Nat.le_refl _, by omega, rfl⟩
      · obtain ⟨socket, low, high, known⟩ := ih later
        exact ⟨socket, by omega, by omega, known⟩

namespace ListenerState

/-- What waking up leaves: every node has the socket and thread that it was given. -/
structure Wakes (state : ListenerState) (nodes : Nodes) (after : ListenerState) : Prop where
  listeners : after.listeners = state.listeners
  threads : after.threads = state.threads ++ nodes.addresses
  sockets : after.sockets = state.sockets + nodes.length
  closed : after.closed = state.closed
  holds : Holds after.nodes (wokenNodes state.sockets state.threads.length nodes)
  others : ∀ address ∉ nodes.addresses, after.nodes.cells address = state.nodes.cells address

theorem wakeUpListener_opened {opening : ProtoPort → Opening} {state : ListenerState}
    {address : Nat} {collector : PortCollector}
    (live : state.nodes.cells address = some collector)
    (opens : opening collector.key = .opened) :
    ∃ nodes, state.wakeUpListener opening address =
        .ok { state with
          nodes, sockets := state.sockets + 1, threads := state.threads ++ [address] } ∧
      nodes.cells = Function.update state.nodes.cells address
        (some { collector with
          socket := some state.sockets, listener := some state.threads.length }) := by
  obtain ⟨nodes, written, _, cells⟩ :=
    @Heap.write_live _ state.nodes address
      { collector with socket := some state.sockets, listener := some state.threads.length }
      collector live
  refine ⟨nodes, ?_, cells⟩
  rw [wakeUpListener, Heap.read_live live, ok_bind, opens, written]
  rfl

/-- What cannot be opened is not there any more when the list goes on from it. -/
theorem wakeUpListener_fails {opening : ProtoPort → Opening} {state : ListenerState}
    {address : Nat} {collector : PortCollector}
    (live : state.nodes.cells address = some collector)
    (fails : opening collector.key ≠ .opened) :
    ∃ after, state.wakeUpListener opening address = .ok after ∧
      after.nodes.cells address = none := by
  rw [wakeUpListener, Heap.read_live live, ok_bind]
  cases known : opening collector.key with
  | opened => exact absurd known fails
  | socketFails =>
      obtain ⟨nodes, freed, _, cells⟩ := Heap.free_live live
      refine ⟨{ state with nodes }, ?_, ?_⟩
      · rw [freed]
        rfl
      · exact (congrFun cells address).trans (Function.update_self _ _ _)
  | bindFails =>
      obtain ⟨written, ran, _, cells⟩ :=
        @Heap.write_live _ state.nodes address
          { collector with socket := some state.sockets } collector live
      have there := (congrFun cells address).trans (Function.update_self _ _ _)
      obtain ⟨nodes, closes, _, cellsAfter⟩ :=
        @closeNetFlowListener_eq
          { state with nodes := written, sockets := state.sockets + 1 } address _ there
      refine ⟨{ state with
        nodes, sockets := state.sockets + 1, closed := state.closed ++ [state.sockets] }, ?_, ?_⟩
      · rw [ran, ok_bind]
        exact closes
      · exact (congrFun cellsAfter address).trans (Function.update_self _ _ _)

theorem wakeUpListenerList_fails {opening : ProtoPort → Opening} {nodes : Nodes}
    {state : ListenerState} (holds : Holds state.nodes nodes)
    (distinct : nodes.addresses.Nodup) {key : ProtoPort} (member : key ∈ nodes.keys)
    (fails : opening key ≠ .opened) :
    ∃ fault, wakeUpListenerList opening nodes.addresses state = .error fault := by
  induction nodes generalizing state with
  | nil => cases member
  | cons node rest ih =>
      obtain ⟨here, later⟩ := List.forall_mem_cons.mp holds
      obtain ⟨apart, distinctRest⟩ := List.nodup_cons.mp distinct
      rw [Nodes.addresses_cons, wakeUpListenerList]
      by_cases opens : opening node.2.key = .opened
      · obtain ⟨heap, ran, cells⟩ := wakeUpListener_opened here opens
        have inRest : key ∈ Nodes.keys rest := by
          rcases List.mem_cons.mp member with rfl | inRest
          · exact absurd opens fails
          · exact inRest
        obtain ⟨fault, stops⟩ :=
          @ih { state with
            nodes := heap, sockets := state.sockets + 1, threads := state.threads ++ [node.1] }
            (holds_update later apart cells) distinctRest inRest
        refine ⟨fault, ?_⟩
        rw [ran, ok_bind,
          Heap.read_live ((congrFun cells node.1).trans (Function.update_self _ _ _)), ok_bind]
        exact stops
      · obtain ⟨after, ran, gone⟩ := wakeUpListener_fails here opens
        exact ⟨_, by rw [ran, ok_bind, Heap.read_dead gone, error_bind]⟩

theorem wakeUpListenerList_opened {opening : ProtoPort → Opening} {nodes : Nodes}
    {state : ListenerState} (holds : Holds state.nodes nodes)
    (distinct : nodes.addresses.Nodup) (opens : ∀ key ∈ nodes.keys, opening key = .opened) :
    ∃ after, wakeUpListenerList opening nodes.addresses state = .ok after ∧
      state.Wakes nodes after := by
  induction nodes generalizing state with
  | nil =>
      refine ⟨state, rfl, rfl, (List.append_nil _).symm, rfl, rfl, ?_, fun _ _ => rfl⟩
      intro node member
      cases member
  | cons node rest ih =>
      obtain ⟨here, later⟩ := List.forall_mem_cons.mp holds
      obtain ⟨apart, distinctRest⟩ := List.nodup_cons.mp distinct
      obtain ⟨opensNow, opensLater⟩ := List.forall_mem_cons.mp opens
      obtain ⟨heap, ran, cells⟩ := wakeUpListener_opened here opensNow
      have woken := (congrFun cells node.1).trans (Function.update_self _ _ _)
      obtain ⟨after, ranRest, listeners, threads, sockets, closed, stays, others⟩ :=
        @ih { state with
          nodes := heap, sockets := state.sockets + 1, threads := state.threads ++ [node.1] }
          (holds_update later apart cells) distinctRest opensLater
      refine ⟨after, ?_, listeners, ?_, ?_, closed, ?_, ?_⟩
      · rw [Nodes.addresses_cons, wakeUpListenerList, ran, ok_bind, Heap.read_live woken, ok_bind]
        exact ranRest
      · rw [threads, List.append_assoc]
        rfl
      · rw [sockets, List.length_cons]
        exact Nat.add_right_comm _ _ _
      · intro other member
        rcases List.mem_cons.mp member with rfl | inRest
        · exact (others node.1 apart).trans woken
        · refine stays other ?_
          rw [List.length_append]
          exact inRest
      · intro address absent
        obtain ⟨ne, notLater⟩ := not_or.mp (mt List.mem_cons.mpr absent)
        exact (others address notLater).trans
          ((congrFun cells address).trans (Function.update_of_ne ne _ _))

end ListenerState

/-! A whole reload -/

namespace Nodes

variable {nodes compare : Nodes} {present : Bool} {node : Nat × PortCollector}

theorem pick_sublist : (nodes.pick compare present).Sublist nodes := List.filter_sublist

theorem mem_pick : node ∈ nodes.pick compare present ↔
    node ∈ nodes ∧ decide (node.2.key ∈ compare.keys) = present := by
  simp [pick]

theorem addresses_pick_sublist :
    (nodes.pick compare present).addresses.Sublist nodes.addresses :=
  pick_sublist.map Prod.fst

theorem sockets_pick_eq_nil (unopened : nodes.sockets = []) :
    (nodes.pick compare present).sockets = [] := by
  unfold sockets at unopened ⊢
  rw [List.flatMap_eq_nil_iff] at unopened ⊢
  intro node member
  exact unopened node (pick_sublist.subset member)

theorem mem_addresses_append {more : Nodes} {address : Nat} :
    address ∈ Nodes.addresses (nodes ++ more) ↔
      address ∈ nodes.addresses ∨ address ∈ more.addresses := by
  unfold addresses
  rw [List.map_append, List.mem_append]

theorem mem_addresses_pick_or {address : Nat} (member : address ∈ nodes.addresses) :
    address ∈ (nodes.pick compare true).addresses ∨
      address ∈ (nodes.pick compare false).addresses := by
  obtain ⟨node, inside, rfl⟩ := List.mem_map.mp member
  by_cases common : node.2.key ∈ compare.keys
  · exact .inl (List.mem_map_of_mem (mem_pick.mpr ⟨inside, decide_eq_true common⟩))
  · exact .inr (List.mem_map_of_mem (mem_pick.mpr ⟨inside, decide_eq_false common⟩))

theorem pick_apart (distinct : nodes.addresses.Nodup)
    (member : node ∈ nodes.pick compare !present) :
    node.1 ∉ (nodes.pick compare present).addresses := by
  intro picked
  obtain ⟨other, otherPicked, same⟩ := List.mem_map.mp picked
  obtain ⟨inside, apart⟩ := mem_pick.mp member
  obtain ⟨otherInside, common⟩ := mem_pick.mp otherPicked
  obtain rfl := List.inj_on_of_nodup_map distinct otherInside inside same
  rw [common] at apart
  cases present <;> contradiction

end Nodes

/-- The list after a merge: what is asked for again, then what is new. -/
def mergedNodes (old new : Nodes) : Nodes :=
  old.pick new true ++ new.pick (old.pick new true) false

namespace ListenerState

structure Merges (state : ListenerState) (old new : Nodes) (after : ListenerState) : Prop where
  listeners : after.listeners = (mergedNodes old new).addresses
  threads : after.threads = state.threads
  sockets : after.sockets = state.sockets
  closed : after.closed = state.closed ++ (old.pick new false).sockets
  holds : Holds after.nodes (mergedNodes old new)
  distinct : (mergedNodes old new).addresses.Nodup
  freed : ∀ address ∈ Nodes.addresses (old ++ new), address ∉ (mergedNodes old new).addresses →
    after.nodes.cells address = none
  others : ∀ address ∉ Nodes.addresses (old ++ new),
    after.nodes.cells address = state.nodes.cells address

theorem mergeNetFlowListenerList_eq {state : ListenerState} {old new : Nodes}
    (listed : old.addresses = state.listeners) (holds : Holds state.nodes (old ++ new))
    (distinct : (Nodes.addresses (old ++ new)).Nodup) (unopened : new.sockets = []) :
    ∃ after, state.mergeNetFlowListenerList new.addresses = .ok after ∧
      state.Merges old new after := by
  have both : (old.addresses ++ new.addresses).Nodup := by
    rw [Nodes.addresses, Nodes.addresses, ← List.map_append]
    exact distinct
  obtain ⟨oldDistinct, newDistinct, apart⟩ := List.nodup_append'.mp both
  obtain ⟨first, ranFirst, purgesFirst⟩ := purgeListeners_eq false holds distinct
  let kept := old.pick new true
  have goneFirst {address : Nat} (member : address ∈ (old.pick new false).addresses) :
      address ∈ old.addresses := Nodes.addresses_pick_sublist.subset member
  have holdsFirst : Holds first.nodes (new ++ kept) := by
    intro node member
    have inside : node ∈ old ++ new := by
      rcases List.mem_append.mp member with inNew | inKept
      · exact List.mem_append_right _ inNew
      · exact List.mem_append_left _ (Nodes.pick_sublist.subset inKept)
    rw [purgesFirst.others node.1 ?_]
    · exact holds node inside
    · rcases List.mem_append.mp member with inNew | inKept
      · intro gone
        exact apart (goneFirst gone) (List.mem_map_of_mem inNew)
      · exact Nodes.pick_apart oldDistinct inKept
  have keptDistinct : kept.addresses.Nodup := oldDistinct.sublist Nodes.addresses_pick_sublist
  have distinctFirst : (Nodes.addresses (new ++ kept)).Nodup := by
    rw [Nodes.addresses, List.map_append]
    refine List.nodup_append'.mpr ⟨newDistinct, keptDistinct, ?_⟩
    intro address inNew inKept
    exact apart (Nodes.addresses_pick_sublist.subset inKept) inNew
  obtain ⟨second, ranSecond, purgesSecond⟩ := purgeListeners_eq true holdsFirst distinctFirst
  have goneSecond {address : Nat} (member : address ∈ (new.pick kept true).addresses) :
      address ∈ new.addresses := Nodes.addresses_pick_sublist.subset member
  have merged : (mergedNodes old new).addresses =
      kept.addresses ++ (new.pick kept false).addresses := by
    simp only [mergedNodes, Nodes.addresses, List.map_append, kept]
  refine ⟨{ second with
    listeners := kept.addresses ++ (new.pick kept false).addresses }, ?_, ?_⟩
  · rw [mergeNetFlowListenerList, ← listed, ranFirst, ok_bind]
    change (purgeListeners true kept.addresses new.addresses first >>= _) = _
    rw [ranSecond]
    rfl
  · constructor
    case listeners => exact merged.symm
    case threads => exact purgesSecond.threads.trans purgesFirst.threads
    case sockets => exact purgesSecond.sockets.trans purgesFirst.sockets
    case closed =>
      have none : (new.pick kept true).sockets = [] :=
        Nodes.sockets_pick_eq_nil unopened
      have closed := purgesSecond.closed
      rw [none, List.append_nil] at closed
      exact closed.trans purgesFirst.closed
    case holds =>
      intro node member
      rcases List.mem_append.mp member with inKept | inNew
      · have notNew : node.1 ∉ (new.pick kept true).addresses := by
          intro gone
          exact apart (Nodes.addresses_pick_sublist.subset (List.mem_map_of_mem inKept))
            (goneSecond gone)
        exact (purgesSecond.others node.1 notNew).trans
          (holdsFirst node (List.mem_append_right _ inKept))
      · exact (purgesSecond.others node.1 (Nodes.pick_apart newDistinct inNew)).trans
          (holdsFirst node (List.mem_append_left _ (Nodes.pick_sublist.subset inNew)))
    case distinct =>
      rw [merged]
      refine List.nodup_append'.mpr
        ⟨keptDistinct, newDistinct.sublist Nodes.addresses_pick_sublist, ?_⟩
      intro address inKept inNew
      exact apart (Nodes.addresses_pick_sublist.subset inKept)
        (Nodes.addresses_pick_sublist.subset inNew)
    case freed =>
      intro address member absent
      rw [merged, List.mem_append, not_or] at absent
      obtain ⟨notKept, notNew⟩ := absent
      by_cases gone : address ∈ (new.pick kept true).addresses
      · exact purgesSecond.freed address gone
      · rw [purgesSecond.others address gone]
        apply purgesFirst.freed address
        rcases Nodes.mem_addresses_append.mp member with inOld | inNew
        · exact (Nodes.mem_addresses_pick_or inOld).resolve_left notKept
        · exact absurd (Nodes.mem_addresses_pick_or inNew) (not_or.mpr ⟨gone, notNew⟩)
    case others =>
      intro address absent
      rw [Nodes.mem_addresses_append, not_or] at absent
      rw [purgesSecond.others address (mt goneSecond absent.2),
        purgesFirst.others address (mt goneFirst absent.1)]

/-- The nodes are those of the list, with sockets that are open and of their own. -/
structure Sound (state : ListenerState) (nodes : Nodes) : Prop where
  listed : nodes.addresses = state.listeners
  holds : Holds state.nodes nodes
  distinct : nodes.addresses.Nodup
  onlyListed : ∀ address, state.nodes.cells address ≠ none → address ∈ state.listeners
  opened : ∀ node ∈ nodes, node.2.socket ≠ none
  sockets : (state.closed ++ nodes.sockets).Nodup
  bound : ∀ socket ∈ state.closed ++ nodes.sockets, socket < state.sockets

theorem sound_start : Sound .start [] where
  listed := rfl
  holds := fun _ member => nomatch member
  distinct := List.nodup_nil
  onlyListed := fun _ live => absurd rfl live
  opened := fun _ member => nomatch member
  sockets := List.nodup_nil
  bound := fun _ member => nomatch member

section Reload

variable {state : ListenerState} {old : Nodes} {requests : List ProtoPort}
  {opening : ProtoPort → Opening}

theorem Sound.lt_next (sound : state.Sound old) {address : Nat}
    (member : address ∈ old.addresses) : address < state.nodes.next := by
  obtain ⟨node, inside, rfl⟩ := List.mem_map.mp member
  exact Heap.lt_next (sound.holds node inside)

/-- The list is merged, and then it is woken up. -/
theorem Sound.reload_eq (sound : state.Sound old) (requests : List ProtoPort)
    (opening : ProtoPort → Opening) :
    ∃ merged, state.reload requests opening =
        wakeUpListenerList opening
          (mergedNodes old (newNodes state.nodes.next requests)).addresses merged ∧
      { state with nodes := (createListeners state.nodes requests).2 }.Merges old
        (newNodes state.nodes.next requests) merged := by
  obtain ⟨addresses, holdsNew, others⟩ := createListeners_eq state.nodes requests
  have holds : Holds (createListeners state.nodes requests).2
      (old ++ newNodes state.nodes.next requests) := by
    intro node member
    rcases List.mem_append.mp member with inOld | inNew
    · rw [others node.1 ?_]
      · exact sound.holds node inOld
      · intro inNew
        exact Nat.not_lt.mpr (le_newNodes inNew) (sound.lt_next (List.mem_map_of_mem inOld))
    · exact holdsNew node inNew
  have distinct : (Nodes.addresses (old ++ newNodes state.nodes.next requests)).Nodup := by
    rw [Nodes.addresses, List.map_append]
    refine List.nodup_append'.mpr ⟨sound.distinct, newNodes_nodup _ _, ?_⟩
    intro address inOld inNew
    exact Nat.not_lt.mpr (le_newNodes inNew) (sound.lt_next inOld)
  obtain ⟨merged, ran, merges⟩ :=
    @mergeNetFlowListenerList_eq { state with nodes := (createListeners state.nodes requests).2 }
      old _ sound.listed holds distinct (newNodes_sockets _ _)
  refine ⟨merged, ?_, merges⟩
  unfold reload
  change (mergeNetFlowListenerList _ (createListeners state.nodes requests).1 >>= _) = _
  rw [addresses, ran, ok_bind, merges.listeners]

theorem Sound.keys_eq (sound : state.Sound old) : state.keys = old.keys :=
  sound.holds.keys_eq sound.listed

theorem mem_mergedNodes_keys {old new : Nodes} {key : ProtoPort} (member : key ∈ new.keys) :
    key ∈ (mergedNodes old new).keys := by
  unfold mergedNodes
  rw [Nodes.keys, List.map_append, List.mem_append]
  by_cases kept : key ∈ (old.pick new true).keys
  · exact .inl kept
  · obtain ⟨node, inside, rfl⟩ := List.mem_map.mp member
    exact .inr (List.mem_map_of_mem (Nodes.mem_pick.mpr ⟨inside, decide_eq_false kept⟩))

/-- A listener that is asked for again is given another socket. -/
theorem Wakes.changes {state after : ListenerState} {nodes : Nodes} (wakes : state.Wakes nodes after)
    {address : Nat} (member : address ∈ nodes.addresses) :
    ∃ collector socket, after.nodes.cells address = some collector ∧
      collector.socket = some socket ∧ state.sockets ≤ socket := by
  rw [← wokenNodes_addresses state.sockets state.threads.length] at member
  obtain ⟨node, inside, rfl⟩ := List.mem_map.mp member
  obtain ⟨socket, low, _, known⟩ := mem_wokenNodes inside
  exact ⟨node.2, socket, wakes.holds node inside, known, low⟩

theorem Sound.startsAnew (sound : state.Sound old)
    {after : ListenerState} (ran : state.reload requests opening = .ok after)
    (right : state.ReloadsTo requests opening after) :
    ∀ key ∈ requests, key ∉ state.keys ∧ opening key = .opened := by
  obtain ⟨merged, reloads, merges⟩ := sound.reload_eq requests opening
  have opens : ∀ key ∈ (mergedNodes old (newNodes state.nodes.next requests)).keys,
      opening key = .opened := by
    intro key member
    by_contra fails
    obtain ⟨fault, stops⟩ :=
      wakeUpListenerList_fails merges.holds merges.distinct member fails
    rw [reloads, stops] at ran
    cases ran
  obtain ⟨woken, ranWoken, wakes⟩ :=
    wakeUpListenerList_opened merges.holds merges.distinct opens
  rw [reloads, ranWoken] at ran
  cases ran
  intro key wanted
  have inNew : key ∈ (newNodes state.nodes.next requests).keys := by
    rw [newNodes_keys]
    exact wanted
  refine ⟨?_, opens key (mem_mergedNodes_keys inNew)⟩
  intro listened
  rw [sound.keys_eq] at listened
  obtain ⟨node, inside, rfl⟩ := List.mem_map.mp listened
  have inListeners : node.1 ∈ state.listeners := by
    rw [← sound.listed]
    exact List.mem_map_of_mem inside
  obtain ⟨_, same⟩ := right.keeps node.1 inListeners node.2 (sound.holds node inside) wanted
  have kept : node ∈ mergedNodes old (newNodes state.nodes.next requests) :=
    List.mem_append_left _ (Nodes.mem_pick.mpr ⟨inside, decide_eq_true inNew⟩)
  obtain ⟨collector, socket, changed, known, fresh⟩ := wakes.changes (List.mem_map_of_mem kept)
  rw [changed] at same
  cases same
  have old : socket ∈ old.sockets := by
    refine List.mem_flatMap.mpr ⟨node, inside, ?_⟩
    rw [known]
    exact List.mem_singleton.mpr rfl
  have before := sound.bound socket (List.mem_append_right _ old)
  rw [merges.sockets] at fresh
  exact Nat.not_lt.mpr fresh before

theorem mem_keys {state : ListenerState} {address : Nat} {collector : PortCollector}
    (member : address ∈ state.listeners) (live : state.nodes.cells address = some collector) :
    collector.key ∈ state.keys := by
  refine List.mem_filterMap.mpr ⟨address, member, ?_⟩
  rw [live]
  rfl

/-- When no port is asked for again, the whole list is exchanged. -/
theorem mergedNodes_anew {old new : Nodes} (anew : ∀ key ∈ new.keys, key ∉ old.keys) :
    mergedNodes old new = new ∧ old.pick new false = old := by
  have none : old.pick new true = [] := by
    refine List.filter_eq_nil_iff.mpr ?_
    intro node member
    have absent : node.2.key ∉ new.keys := fun wanted =>
      anew node.2.key wanted (List.mem_map_of_mem member)
    simp [absent]
  constructor
  · rw [mergedNodes, none]
    refine List.filter_eq_self.mpr ?_
    intro node _
    rfl
  · refine List.filter_eq_self.mpr ?_
    intro node member
    have absent : node.2.key ∉ new.keys := fun wanted =>
      anew node.2.key wanted (List.mem_map_of_mem member)
    simp [absent]

theorem Sound.reload (sound : state.Sound old)
    (anew : ∀ key ∈ requests, key ∉ state.keys ∧ opening key = .opened) :
    ∃ after, state.reload requests opening = .ok after ∧
      state.ReloadsTo requests opening after ∧
      after.Sound (wokenNodes state.sockets state.threads.length
        (newNodes state.nodes.next requests)) := by
  let new := newNodes state.nodes.next requests
  have newKeys : new.keys = requests := newNodes_keys _ _
  obtain ⟨merged, reloads, merges⟩ := sound.reload_eq requests opening
  obtain ⟨whole, gone⟩ : mergedNodes old new = new ∧ old.pick new false = old := by
    apply mergedNodes_anew
    intro key wanted listened
    rw [newKeys] at wanted
    rw [← sound.keys_eq] at listened
    exact (anew key wanted).1 listened
  obtain ⟨listeners, threads, sockets, closed, holds, distinct, freed, others⟩ := merges
  change mergedNodes old (newNodes state.nodes.next requests) = _ at whole
  change old.pick (newNodes state.nodes.next requests) false = _ at gone
  rw [whole] at listeners holds distinct freed reloads
  rw [gone] at closed
  have opens : ∀ key ∈ new.keys, opening key = .opened := by
    intro key wanted
    rw [newKeys] at wanted
    exact (anew key wanted).2
  obtain ⟨after, ran, wakes⟩ := wakeUpListenerList_opened holds distinct opens
  have listed : (wokenNodes state.sockets state.threads.length new).addresses =
      after.listeners := by
    rw [wokenNodes_addresses, wakes.listeners, listeners]
  have holdsWoken : Holds after.nodes
      (wokenNodes state.sockets state.threads.length new) := by
    have woken := wakes.holds
    rw [sockets, threads] at woken
    exact woken
  have closedAfter : after.closed = state.closed ++ old.sockets := wakes.closed.trans closed
  have count : new.length = requests.length := by
    rw [← newKeys, Nodes.keys, List.length_map]
  have madeAfter : after.sockets = state.sockets + requests.length := by
    rw [wakes.sockets, sockets, ← count]
  refine ⟨after, reloads.trans ran, ?_, ?_⟩
  · constructor
    case listens =>
      intro key
      rw [holdsWoken.keys_eq listed, wokenNodes_keys, newKeys]
      constructor
      · intro wanted
        exact ⟨wanted, .inr (anew key wanted).2⟩
      · exact fun both => both.1
    case keeps =>
      intro address member collector live wanted
      exact absurd (mem_keys member live) (anew collector.key wanted).1
    case opens =>
      have all : requests.filter (fun key => decide (key ∉ state.keys)) = requests := by
        refine List.filter_eq_self.mpr ?_
        intro key wanted
        exact decide_eq_true (anew key wanted).1
      rw [all]
      exact madeAfter
    case closes =>
      intro address member collector live socket known
      have unwanted : collector.key ∉ requests := fun wanted =>
        (anew collector.key wanted).1 (mem_keys member live)
      rw [if_neg unwanted, closedAfter]
      refine List.count_eq_one_of_mem sound.sockets (List.mem_append_right _ ?_)
      rw [← sound.listed] at member
      obtain ⟨node, inside, rfl⟩ := List.mem_map.mp member
      have same := (sound.holds node inside).symm.trans live
      cases same
      refine List.mem_flatMap.mpr ⟨node, inside, ?_⟩
      rw [known]
      exact List.mem_singleton.mpr rfl
  · constructor
    case listed => exact listed
    case holds => exact holdsWoken
    case distinct =>
      rw [wokenNodes_addresses]
      exact distinct
    case onlyListed =>
      intro address live
      rw [← listed, wokenNodes_addresses]
      by_contra absent
      rw [wakes.others address absent] at live
      by_cases inOld : address ∈ old.addresses
      · exact live (freed address (Nodes.mem_addresses_append.mpr (.inl inOld)) absent)
      · rw [others address (by
          rw [Nodes.mem_addresses_append]
          exact not_or.mpr ⟨inOld, absent⟩)] at live
        have older := (createListeners_eq state.nodes requests).2.2 address absent
        rw [sound.listed] at inOld
        exact inOld (sound.onlyListed address (by rw [← older]; exact live))
    case opened =>
      intro node member
      obtain ⟨socket, _, _, known⟩ := mem_wokenNodes member
      rw [known]
      exact Option.some_ne_none socket
    case sockets =>
      rw [closedAfter, wokenNodes_sockets]
      refine List.nodup_append'.mpr ⟨sound.sockets, List.nodup_range', ?_⟩
      intro socket before fresh
      exact Nat.not_lt.mpr (List.mem_range'_1.mp fresh).1 (sound.bound socket before)
    case bound =>
      intro socket member
      rw [closedAfter, wokenNodes_sockets] at member
      rcases List.mem_append.mp member with before | fresh
      · have bound := sound.bound socket before
        omega
      · rw [madeAfter, ← count]
        exact (List.mem_range'_1.mp fresh).2

end Reload

theorem Sound.receive_iff {state : ListenerState} {nodes : Nodes} (sound : state.Sound nodes)
    (thread : Nat) :
    (∃ after, state.receive thread = .ok after) ↔
      ∀ node ∈ state.threads[thread]?, node ∈ state.listeners := by
  unfold receive
  cases state.threads[thread]? with
  | none => simp
  | some node =>
      constructor
      · rintro ⟨after, ran⟩ other same
        cases same
        apply sound.onlyListed node
        intro dead
        simp only [Heap.read_dead dead, error_bind] at ran
        cases ran
      · intro listed
        have member := listed node rfl
        rw [← sound.listed] at member
        obtain ⟨known, inside, rfl⟩ := List.mem_map.mp member
        refine ⟨state, ?_⟩
        simp only [Heap.read_live (sound.holds known inside), ok_bind]

theorem receive_eq {state after : ListenerState} {thread : Nat}
    (ran : state.receive thread = .ok after) : after = state := by
  unfold receive at ran
  split at ran
  · cases ran
    rfl
  · obtain ⟨_, _, ended⟩ := exists_of_bind_eq_ok ran
    cases ended
    rfl

theorem step_right_iff (state : ListenerState) (event : ListenerEvent)
    (sound : ∃ nodes, state.Sound nodes) :
    (∃ after, state.step event = .ok after ∧ state.Right event after) ↔ state.StartsAnew event := by
  obtain ⟨nodes, sound⟩ := sound
  cases event with
  | reload requests distinct opening =>
      constructor
      · rintro ⟨after, ran, right⟩
        exact sound.startsAnew ran right
      · intro anew
        obtain ⟨after, ran, right, _⟩ := sound.reload anew
        exact ⟨after, ran, right⟩
  | receive thread =>
      rw [StartsAnew, ← sound.receive_iff]
      exact ⟨fun ⟨after, ran, _⟩ => ⟨after, ran⟩, fun ⟨after, ran⟩ => ⟨after, ran, trivial⟩⟩

theorem step_sound (state : ListenerState) (event : ListenerEvent) (after : ListenerState)
    (sound : ∃ nodes, state.Sound nodes) (anew : state.StartsAnew event)
    (ran : state.step event = .ok after) : ∃ nodes, after.Sound nodes := by
  obtain ⟨nodes, sound⟩ := sound
  cases event with
  | reload requests distinct opening =>
      obtain ⟨same, ranSame, _, soundAfter⟩ := sound.reload anew
      obtain rfl := Except.ok.inj (ranSame.symm.trans ran)
      exact ⟨_, soundAfter⟩
  | receive thread =>
      rw [receive_eq ran]
      exact ⟨nodes, sound⟩

/-- A run goes right exactly when every reload asks for ports that can be opened and are not
listened on, and no thread goes on once its listener is removed. -/
theorem listeners_right_iff (events : List ListenerEvent) :
    EndsRight ListenerState.step ListenerState.Right .start events ↔
      MeetsAll ListenerState.step ListenerState.StartsAnew .start events :=
  endsRight_iff (fun state => ∃ nodes, state.Sound nodes) step_right_iff step_sound
    ⟨[], sound_start⟩ events

def reloadTo2055 (opening : Opening) : ListenerEvent :=
  .reload [(.udp, 2055)] (by decide) fun _ => opening

def reloadToNone : ListenerEvent :=
  .reload [] List.nodup_nil fun _ => .opened

theorem not_endsRight_of_error {events : List ListenerEvent} {fault : NotLive}
    (stops : (events.foldlM step start).map (fun _ => ()) = .error fault) :
    ¬EndsRight step Right start events := by
  intro ends
  obtain ⟨final, ran⟩ := ends.exists_foldlM
  rw [ran] at stops
  cases stops

/-- A thread goes on with the node of its listener when that is removed; a port that cannot be
opened leaves a freed node in the list; and a listener that stays is given a second socket and a
second thread. -/
theorem not_listeners_right :
    ¬EndsRight step Right start [reloadTo2055 .opened, reloadToNone, .receive 0] ∧
      ¬EndsRight step Right start [reloadTo2055 .bindFails] ∧
      ([reloadTo2055 .opened, reloadTo2055 .opened].foldlM step start).map
        (fun final => (final.sockets, final.threads)) = .ok (2, [0, 0]) := by
  refine ⟨?_, ?_, rfl⟩
  · exact @not_endsRight_of_error _ { address := 0 } rfl
  · exact @not_endsRight_of_error _ { address := 0 } rfl

end ListenerState

end F2k
