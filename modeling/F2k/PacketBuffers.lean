import F2k.Address
import F2k.Lib.Memory
import F2k.Lib.Outcome
import F2k.Lib.Ownership
import Mathlib.Data.List.Forall2

namespace F2k

open Lib

/-! The buffers of packets on their way from the sockets to the workers: listeners allocate and
fill them, and go on with the same one until a packet is for a sensor; workers read and free
them. -/

structure QueuedPacket where
  netflowDeviceIp : UInt32 := 0
  buffer : Mem := fun _ => 0
  bufferLen : Int := 0
  sensor : Option IpAddr := none

/-- `NETFLOW_BUFFER_LEN` without the packet that is in front of its buffer. -/
def allocatedBufferLen : Nat := 16 * 1024 - 40

/-- A datagram as `recvfrom` hands it out, and the host it is from. -/
structure Incoming where
  fromHost : UInt32
  bytes : Bytes

/-- What does not fit into the buffer is lost. -/
def Incoming.truncated (incoming : Incoming) : Incoming :=
  { incoming with bytes := incoming.bytes.take allocatedBufferLen }

/-- Where a listener is in the loop of `netFlowCollectLoop0`. -/
inductive ListenerPhase
  | receiving
  | received
  | attributed
  | added

structure Listener where
  qpacket : Option Nat := none
  phase : ListenerPhase := .receiving
  incoming : Incoming := { fromHost := 0, bytes := [] }

/-- What a worker does with the packet it has popped. -/
inductive WorkerTask
  | idle
  | popped (qpacket : Nat)
  | dissected (qpacket : Nat)

structure PacketBuffers where
  heap : Heap QueuedPacket
  listeners : Nat → Listener
  packetsQueue : Nat → List Nat
  tasks : Nat → WorkerTask
  /-- What each listener has received, what listeners have added to queues, and the packets as
  each worker has read them. -/
  received : Nat → List Incoming
  added : List (Nat × Incoming)
  consumed : Nat → List QueuedPacket

def PacketBuffers.start : PacketBuffers where
  heap := .empty
  listeners := fun _ => {}
  packetsQueue := fun _ => []
  tasks := fun _ => .idle
  received := fun _ => []
  added := []
  consumed := fun _ => []

inductive PacketAction
  | newQueuedPacket (listener : Nat)
  | recvfrom (listener : Nat) (incoming : Option Incoming)
  | getSensor (listener : Nat)
  | addPacketToWorker (listener : Nat)
  | forgetPacket (listener : Nat)
  | popPacket (worker : Nat)
  | dissect (worker : Nat)
  | freeQueuedPacket (worker : Nat)

/-- The packet after `recvfrom` wrote into its buffer, where the bytes behind stay what they
were. -/
def QueuedPacket.receive (packet : QueuedPacket) (bytes : Bytes) : QueuedPacket :=
  { packet with
    buffer := .overlay bytes.length (.ofBytes bytes) packet.buffer
    bufferLen := bytes.length }

namespace PacketBuffers

variable (getSensor : UInt32 → Option IpAddr) (sensorWorker : IpAddr → Nat)

def setListener (state : PacketBuffers) (listener : Nat) (changed : Listener) :
    Nat → Listener :=
  Function.update state.listeners listener changed

def setTask (state : PacketBuffers) (worker : Nat) (task : WorkerTask) : Nat → WorkerTask :=
  Function.update state.tasks worker task

/-- Threads take their steps in any order; one that is not where an action is takes none. Between
adding its packet to a queue and forgetting it a listener has a pointer that is no longer its
own. -/
def step (state : PacketBuffers) : PacketAction → Except NotLive PacketBuffers
  | .newQueuedPacket listener =>
      let self := state.listeners listener
      match self.phase, self.qpacket with
      | .receiving, none =>
          pure
            { state with
              heap := state.heap.alloc {}
              listeners := state.setListener listener
                { self with qpacket := some state.heap.next } }
      | _, _ => pure state
  | .recvfrom listener incoming =>
      let self := state.listeners listener
      match self.phase, self.qpacket with
      | .receiving, some qpacket => do
          let packet ← state.heap.read qpacket
          match incoming with
          | none => do
              let heap ← state.heap.write qpacket { packet with bufferLen := -1 }
              pure { state with heap }
          | some incoming => do
              let incoming := incoming.truncated
              let heap ← state.heap.write qpacket (packet.receive incoming.bytes)
              if incoming.bytes = [] then pure { state with heap }
              else
                pure
                  { state with
                    heap
                    received := Function.update state.received listener
                      (state.received listener ++ [incoming])
                    listeners := state.setListener listener
                      { self with phase := .received, incoming } }
      | _, _ => pure state
  | .getSensor listener =>
      let self := state.listeners listener
      match self.phase, self.qpacket with
      | .received, some qpacket => do
          let packet ← state.heap.read qpacket
          let sensor := getSensor self.incoming.fromHost
          let heap ← state.heap.write qpacket
            { packet with netflowDeviceIp := self.incoming.fromHost, sensor }
          pure
            { state with
              heap
              listeners := state.setListener listener
                { self with phase := if sensor.isSome then .attributed else .receiving } }
      | _, _ => pure state
  | .addPacketToWorker listener =>
      let self := state.listeners listener
      match self.phase, self.qpacket with
      | .attributed, some qpacket => do
          let packet ← state.heap.read qpacket
          match packet.sensor with
          | none => pure state
          | some sensor =>
              let worker := sensorWorker sensor
              pure
                { state with
                  packetsQueue := Function.update state.packetsQueue worker
                    (state.packetsQueue worker ++ [qpacket])
                  added := state.added ++ [(listener, self.incoming)]
                  listeners := state.setListener listener { self with phase := .added } }
      | _, _ => pure state
  | .forgetPacket listener =>
      let self := state.listeners listener
      match self.phase with
      | .added =>
          pure
            { state with
              listeners := state.setListener listener
                { self with qpacket := none, phase := .receiving } }
      | _ => pure state
  | .popPacket worker =>
      match state.tasks worker, state.packetsQueue worker with
      | .idle, qpacket :: rest =>
          pure
            { state with
              packetsQueue := Function.update state.packetsQueue worker rest
              tasks := state.setTask worker (.popped qpacket) }
      | _, _ => pure state
  | .dissect worker =>
      match state.tasks worker with
      | .popped qpacket => do
          let packet ← state.heap.read qpacket
          pure
            { state with
              consumed := Function.update state.consumed worker
                (state.consumed worker ++ [packet])
              tasks := state.setTask worker (.dissected qpacket) }
      | _ => pure state
  | .freeQueuedPacket worker =>
      match state.tasks worker with
      | .dissected qpacket => do
          let heap ← state.heap.free qpacket
          pure { state with heap, tasks := state.setTask worker .idle }
      | _ => pure state

def run (state : PacketBuffers) (actions : List PacketAction) : Except NotLive PacketBuffers :=
  actions.foldlM (step getSensor sensorWorker) state

end PacketBuffers

/-! Who holds which buffers -/

/-- What a listener has added to a queue is no longer its own. -/
def Listener.holds (self : Listener) : List Nat :=
  match self.phase with
  | .added => []
  | _ => self.qpacket.toList

def WorkerTask.holds : WorkerTask → List Nat
  | .idle => []
  | .popped qpacket | .dissected qpacket => [qpacket]

def WorkerTask.unread : WorkerTask → List Nat
  | .popped qpacket => [qpacket]
  | _ => []

inductive Party
  | listener (listener : Nat)
  | worker (worker : Nat)
deriving DecidableEq

namespace PacketBuffers

def holds (state : PacketBuffers) : Party → List Nat
  | .listener listener => (state.listeners listener).holds
  | .worker worker => (state.tasks worker).holds ++ state.packetsQueue worker

/-- What a worker is still to read. -/
def unread (state : PacketBuffers) (worker : Nat) : List Nat :=
  (state.tasks worker).unread ++ state.packetsQueue worker

variable {state after : PacketBuffers}

theorem mem_holds_of_unread {worker address : Nat} (member : address ∈ state.unread worker) :
    address ∈ state.holds (.worker worker) := by
  rcases List.mem_append.mp member with own | queued
  · apply List.mem_append_left
    cases task : state.tasks worker with
    | popped qpacket =>
        rw [task] at own
        exact own
    | idle | dissected =>
        rw [task] at own
        contradiction
  · exact List.mem_append_right _ queued

theorem holds_setListener {listener : Nat} {self : Listener}
    (listeners : after.listeners = state.setListener listener self)
    (tasks : after.tasks = state.tasks) (queues : after.packetsQueue = state.packetsQueue) :
    after.holds = Function.update state.holds (.listener listener) self.holds := by
  funext party
  cases party with
  | listener other =>
      rw [holds, listeners]
      by_cases same : other = listener
      · subst same
        rw [setListener, Function.update_self, Function.update_self]
      · rw [setListener, Function.update_of_ne same,
          Function.update_of_ne fun eq => same (Party.listener.inj eq)]
        rfl
  | worker worker =>
      have apart : Party.worker worker ≠ .listener listener := nofun
      rw [Function.update_of_ne apart, holds, tasks, queues]
      rfl

theorem holds_worker {worker : Nat} (listeners : after.listeners = state.listeners)
    (tasks : ∀ other, other ≠ worker → after.tasks other = state.tasks other)
    (queues : ∀ other, other ≠ worker → after.packetsQueue other = state.packetsQueue other) :
    after.holds = Function.update state.holds (.worker worker) (after.holds (.worker worker)) := by
  funext party
  cases party with
  | listener other =>
      have apart : Party.listener other ≠ .worker worker := nofun
      rw [Function.update_of_ne apart, holds, listeners]
      rfl
  | worker other =>
      by_cases same : other = worker
      · subst same
        rw [Function.update_self]
      · rw [holds, tasks other same, queues other same,
          Function.update_of_ne fun eq => same (Party.worker.inj eq)]
        rfl

end PacketBuffers

/-! What the buffers hold -/

/-- The packet holds a datagram, whatever is in the buffer behind it. -/
structure QueuedPacket.Begins (packet : QueuedPacket) (incoming : Incoming) : Prop where
  bufferLen : packet.bufferLen = incoming.bytes.length
  buffer : packet.buffer.StartsWith incoming.bytes

theorem QueuedPacket.receive_begins (packet : QueuedPacket) (incoming : Incoming) :
    (packet.receive incoming.bytes).Begins incoming := by
  refine ⟨rfl, ?_⟩
  have agree : Mem.AgreeBelow incoming.bytes.length
      (Mem.overlay incoming.bytes.length (.ofBytes incoming.bytes) packet.buffer)
      (.ofBytes incoming.bytes) := fun index inside => if_pos inside
  exact (agree.slice_eq (Nat.le_refl _)).trans (Mem.startsWith_ofBytes incoming.bytes)

section

variable (getSensor : UInt32 → Option IpAddr) (sensorWorker : IpAddr → Nat)

def Incoming.known (incoming : Incoming) : Bool :=
  (getSensor incoming.fromHost).isSome

def Incoming.worker (incoming : Incoming) : Option Nat :=
  (getSensor incoming.fromHost).map sensorWorker

/-- The packet holds a datagram, and is attributed to the sensor of its host. -/
structure QueuedPacket.Carries (packet : QueuedPacket) (incoming : Incoming) : Prop
    extends packet.Begins incoming where
  netflowDeviceIp : packet.netflowDeviceIp = incoming.fromHost
  sensor : packet.sensor = getSensor incoming.fromHost
  known : incoming.known getSensor = true

def Listener.Holds (self : Listener) (heap : Heap QueuedPacket)
    (good : QueuedPacket → Incoming → Prop) : Prop :=
  ∃ qpacket packet, self.qpacket = some qpacket ∧ heap.cells qpacket = some packet ∧
    good packet self.incoming

def Listener.Sound (self : Listener) (heap : Heap QueuedPacket) : Prop :=
  match self.phase with
  | .received => self.Holds heap QueuedPacket.Begins
  | .attributed => self.Holds heap (QueuedPacket.Carries getSensor)
  | .receiving | .added => True

/-- The datagram that a listener is about to add, if it is from a host of a sensor. -/
def Listener.pending (self : Listener) : List Incoming :=
  match self.phase with
  | .received | .attributed => [self.incoming].filter (Incoming.known getSensor)
  | .receiving | .added => []

namespace PacketBuffers

def addedBy (state : PacketBuffers) (listener : Nat) : List Incoming :=
  (state.added.filter fun entry => entry.1 = listener).map Prod.snd

def addedTo (state : PacketBuffers) (worker : Nat) : List Incoming :=
  (state.added.map Prod.snd).filter fun incoming =>
    incoming.worker getSensor sensorWorker = some worker

/-- A worker has read and is going to read the datagrams that were added for it, in order. -/
def InOrder (state : PacketBuffers) (worker : Nat) : Prop :=
  ∃ packets, (state.unread worker).map state.heap.cells = packets.map some ∧
    List.Forall₂ (fun incoming packet => QueuedPacket.Carries getSensor packet incoming)
      (state.addedTo getSensor sensorWorker worker) (state.consumed worker ++ packets)

/-- The datagrams of known hosts that a listener received are in queues, in order, apart from
the one in its hands. -/
def Hands (state : PacketBuffers) (listener : Nat) : Prop :=
  (state.received listener).filter (Incoming.known getSensor) =
    state.addedBy listener ++ (state.listeners listener).pending getSensor

structure Valid (state : PacketBuffers) : Prop where
  owned : Owned state.heap state.holds
  listening : ∀ listener, (state.listeners listener).Sound getSensor state.heap
  hands : ∀ listener, state.Hands getSensor listener
  inOrder : ∀ worker, state.InOrder getSensor sensorWorker worker

end PacketBuffers

end

theorem Listener.Sound.congr {getSensor : UInt32 → Option IpAddr} {self : Listener}
    {heap after : Heap QueuedPacket} (sound : self.Sound getSensor heap)
    (same : ∀ address ∈ self.holds, after.cells address = heap.cells address) :
    self.Sound getSensor after := by
  obtain ⟨qpacket, phase, incoming⟩ := self
  cases phase with
  | receiving | added => exact trivial
  | received | attributed =>
      obtain ⟨address, packet, rfl, known, good⟩ := sound
      exact ⟨address, packet, rfl, (same address List.mem_cons_self).trans known, good⟩

namespace PacketBuffers

variable {getSensor : UInt32 → Option IpAddr} {sensorWorker : IpAddr → Nat}
  {state after : PacketBuffers}

/-- Nothing but what one party holds has changed in memory. -/
def Frame (state after : PacketBuffers) (party : Party) : Prop :=
  ∀ other, other ≠ party → ∀ address ∈ state.holds other,
    after.heap.cells address = state.heap.cells address

theorem frame_of_update {party : Party} {address : Nat} {contents : Option QueuedPacket}
    (owned : Owned state.heap state.holds) (member : address ∈ state.holds party)
    (cells : after.heap.cells = Function.update state.heap.cells address contents) :
    state.Frame after party := by
  intro other others found inOther
  rw [cells, Function.update_of_ne]
  rintro rfl
  exact others (owned.apart inOther member)

theorem InOrder.congr {worker : Nat} (inOrder : state.InOrder getSensor sensorWorker worker)
    (tasks : after.tasks worker = state.tasks worker)
    (queues : after.packetsQueue worker = state.packetsQueue worker)
    (consumed : after.consumed worker = state.consumed worker)
    (added : after.addedTo getSensor sensorWorker worker =
      state.addedTo getSensor sensorWorker worker)
    (cells : ∀ address ∈ state.unread worker,
      after.heap.cells address = state.heap.cells address) :
    after.InOrder getSensor sensorWorker worker := by
  obtain ⟨packets, contents, carried⟩ := inOrder
  have unread : after.unread worker = state.unread worker := by
    rw [PacketBuffers.unread, tasks, queues]
    rfl
  refine ⟨packets, ?_, ?_⟩
  · rw [unread, ← contents]
    exact List.map_congr_left cells
  · rw [added, consumed]
    exact carried

/-- The rule for a step of a listener that adds nothing to a queue. -/
theorem Valid.of_listener (valid : state.Valid getSensor sensorWorker) {listener : Nat}
    {self : Listener} (listeners : after.listeners = state.setListener listener self)
    (tasks : after.tasks = state.tasks) (queues : after.packetsQueue = state.packetsQueue)
    (consumed : after.consumed = state.consumed) (added : after.added = state.added)
    (received : ∀ other, other ≠ listener → after.received other = state.received other)
    (owned : Owned after.heap (Function.update state.holds (.listener listener) self.holds))
    (frame : state.Frame after (.listener listener))
    (sound : self.Sound getSensor after.heap)
    (hands : (after.received listener).filter (Incoming.known getSensor) =
      state.addedBy listener ++ self.pending getSensor) :
    after.Valid getSensor sensorWorker where
  owned := by
    rw [holds_setListener listeners tasks queues]
    exact owned
  listening := by
    intro other
    rw [listeners, setListener]
    by_cases same : other = listener
    · subst same
      rw [Function.update_self]
      exact sound
    · rw [Function.update_of_ne same]
      apply (valid.listening other).congr
      exact frame (.listener other) fun eq => same (Party.listener.inj eq)
  hands := by
    intro other
    rw [Hands, addedBy, added, listeners, setListener]
    by_cases same : other = listener
    · subst same
      rw [Function.update_self]
      exact hands
    · rw [Function.update_of_ne same, received other same]
      exact valid.hands other
  inOrder := by
    intro worker
    have kept : after.addedTo getSensor sensorWorker worker =
        state.addedTo getSensor sensorWorker worker := by
      rw [addedTo, added]
      rfl
    apply (valid.inOrder worker).congr (congrFun tasks worker) (congrFun queues worker)
      (congrFun consumed worker) kept
    intro address member
    exact frame (.worker worker) nofun address (mem_holds_of_unread member)

/-- The rule for a step of a worker. -/
theorem Valid.of_worker (valid : state.Valid getSensor sensorWorker) (worker : Nat)
    (listeners : after.listeners = state.listeners) (added : after.added = state.added)
    (received : after.received = state.received)
    (tasks : ∀ other, other ≠ worker → after.tasks other = state.tasks other)
    (queues : ∀ other, other ≠ worker → after.packetsQueue other = state.packetsQueue other)
    (consumed : ∀ other, other ≠ worker → after.consumed other = state.consumed other)
    (owned : Owned after.heap
      (Function.update state.holds (.worker worker) (after.holds (.worker worker))))
    (frame : state.Frame after (.worker worker))
    (inOrder : after.InOrder getSensor sensorWorker worker) :
    after.Valid getSensor sensorWorker where
  owned := by
    rw [holds_worker listeners tasks queues]
    exact owned
  listening := by
    intro listener
    rw [listeners]
    apply (valid.listening listener).congr
    exact frame (.listener listener) nofun
  hands := by
    intro listener
    rw [Hands, addedBy, added, listeners, received]
    exact valid.hands listener
  inOrder := by
    intro other
    by_cases same : other = worker
    · subst same
      exact inOrder
    · have kept : after.addedTo getSensor sensorWorker other =
          state.addedTo getSensor sensorWorker other := by
        rw [addedTo, added]
        rfl
      apply (valid.inOrder other).congr (tasks other same) (queues other same)
        (consumed other same) kept
      intro address member
      exact frame (.worker other) (fun eq => same (Party.worker.inj eq)) address
        (mem_holds_of_unread member)

theorem valid_start : PacketBuffers.start.Valid getSensor sensorWorker where
  owned := by
    have nothing : PacketBuffers.start.holds = fun _ => [] := by
      funext party
      cases party <;> rfl
    rw [nothing]
    exact .empty
  listening := fun _ => trivial
  hands := fun _ => rfl
  inOrder := fun _ => ⟨[], rfl, .nil⟩

/-! One step -/

/-- The step is possible without touching a buffer that is not live, and keeps everything. -/
def Steps (getSensor : UInt32 → Option IpAddr) (sensorWorker : IpAddr → Nat)
    (state : PacketBuffers) (action : PacketAction) : Prop :=
  ∃ after, state.step getSensor sensorWorker action = .ok after ∧
    after.Valid getSensor sensorWorker

section

variable (valid : state.Valid getSensor sensorWorker)

include valid

theorem Valid.newQueuedPacket (listener : Nat) :
    state.Steps getSensor sensorWorker (.newQueuedPacket listener) := by
  rcases own : state.listeners listener with ⟨qpacket, phase, incoming⟩
  unfold Steps
  simp only [step, own]
  cases phase with
  | received | attributed | added => exact ⟨state, rfl, valid⟩
  | receiving =>
      cases qpacket with
      | some address => exact ⟨state, rfl, valid⟩
      | none =>
          refine ⟨_, rfl, valid.of_listener rfl rfl rfl rfl rfl (fun _ _ => rfl) ?_ ?_ ?_ ?_⟩
          · have held : state.holds (.listener listener) = [] := by
              rw [holds, own]
              rfl
            have owned := valid.owned.alloc (.listener listener) ({} : QueuedPacket)
            rw [held] at owned
            exact owned
          · intro other _ address member
            apply Heap.alloc_other
            obtain ⟨packet, known⟩ := valid.owned.exists_cell member
            exact Nat.ne_of_lt (Heap.lt_next known)
          · exact trivial
          · have hands := valid.hands listener
            rw [Hands, own] at hands
            exact hands

/-- A listener writes into the packet that it holds. -/
theorem Valid.writes {listener address : Nat}
    (held : state.holds (.listener listener) = [address]) (value : QueuedPacket) :
    ∃ heap, state.heap.write address value = .ok heap ∧ heap.cells address = some value ∧
      Owned heap state.holds ∧
      ∀ after : PacketBuffers, after.heap = heap → state.Frame after (.listener listener) := by
  have member : address ∈ state.holds (.listener listener) := held ▸ List.mem_cons_self
  obtain ⟨old, known⟩ := valid.owned.exists_cell member
  obtain ⟨heap, ran, _, cells⟩ := @Heap.write_live _ _ _ value _ known
  refine ⟨heap, ran, ?_, valid.owned.write known cells, ?_⟩
  · rw [cells, Function.update_self]
  · rintro after rfl
    exact frame_of_update valid.owned member cells

theorem Valid.recvfrom (listener : Nat) (incoming : Option Incoming) :
    state.Steps getSensor sensorWorker (.recvfrom listener incoming) := by
  rcases own : state.listeners listener with ⟨qpacket, phase, before⟩
  have hands := valid.hands listener
  rw [Hands, own] at hands
  unfold Steps
  simp only [step, own]
  cases phase with
  | received | attributed | added => exact ⟨state, rfl, valid⟩
  | receiving =>
      cases qpacket with
      | none => exact ⟨state, rfl, valid⟩
      | some address =>
          have held : state.holds (.listener listener) = [address] := by
            rw [holds, own]
            rfl
          have unchanged : ∀ self : Listener, self.holds = [address] →
              Function.update state.holds (.listener listener) self.holds = state.holds := by
            intro self same
            rw [same, ← held]
            exact Function.update_eq_self _ _
          obtain ⟨packet, known⟩ := valid.owned.exists_cell
            (held ▸ List.mem_cons_self : address ∈ state.holds (.listener listener))
          simp only [Heap.read_live known, ok_bind]
          have same : state.setListener listener (state.listeners listener) =
              state.listeners := Function.update_eq_self _ _
          cases incoming with
          | none =>
              obtain ⟨heap, ran, _, owned, frame⟩ :=
                valid.writes held { packet with bufferLen := -1 }
              simp only [ran, ok_bind]
              refine ⟨_, rfl, valid.of_listener same.symm rfl rfl rfl rfl (fun _ _ => rfl) ?_
                ?_ ?_ ?_⟩
              · rw [unchanged _ (by rw [own]; rfl)]
                exact owned
              · exact frame _ rfl
              · rw [own]
                exact trivial
              · rw [own]
                exact hands
          | some incoming =>
              obtain ⟨heap, ran, written, owned, frame⟩ :=
                valid.writes held (packet.receive incoming.truncated.bytes)
              simp only [ran, ok_bind]
              by_cases nothing : incoming.truncated.bytes = []
              · rw [if_pos nothing]
                refine ⟨_, rfl, valid.of_listener same.symm rfl rfl rfl rfl (fun _ _ => rfl)
                  ?_ ?_ ?_ ?_⟩
                · rw [unchanged _ (by rw [own]; rfl)]
                  exact owned
                · exact frame _ rfl
                · rw [own]
                  exact trivial
                · rw [own]
                  exact hands
              · rw [if_neg nothing]
                refine ⟨_, rfl, valid.of_listener rfl rfl rfl rfl rfl ?_ ?_ ?_ ?_ ?_⟩
                · intro other others
                  exact Function.update_of_ne others _ _
                · rw [unchanged _ rfl]
                  exact owned
                · exact frame _ rfl
                · exact ⟨address, _, rfl, written, packet.receive_begins _⟩
                · simp only [Function.update_self, List.filter_append, hands, Listener.pending,
                    List.append_nil]

theorem Valid.attributes (listener : Nat) :
    state.Steps getSensor sensorWorker (.getSensor listener) := by
  rcases own : state.listeners listener with ⟨qpacket, phase, incoming⟩
  have hands := valid.hands listener
  have sound := valid.listening listener
  rw [Hands, own] at hands
  rw [own] at sound
  unfold Steps
  simp only [step, own]
  cases phase with
  | receiving | attributed | added => exact ⟨state, rfl, valid⟩
  | received =>
      obtain ⟨address, packet, rfl, known, begins⟩ := sound
      have held : state.holds (.listener listener) = [address] := by
        rw [holds, own]
        rfl
      obtain ⟨heap, ran, written, owned, frame⟩ := valid.writes held
        { packet with
          netflowDeviceIp := incoming.fromHost
          sensor := getSensor incoming.fromHost }
      have kept : Function.update state.holds (.listener listener) [address] = state.holds := by
        rw [← held]
        exact Function.update_eq_self _ _
      simp only [Heap.read_live known, ok_bind, ran]
      refine ⟨_, rfl, valid.of_listener rfl rfl rfl rfl rfl (fun _ _ => rfl) ?_ ?_ ?_ ?_⟩
      · have holds : Listener.holds
            { qpacket := some address
              phase := if (getSensor incoming.fromHost).isSome then .attributed else .receiving
              incoming } = [address] := by
          cases (getSensor incoming.fromHost).isSome with
          | false => rfl
          | true => rfl
        rw [holds, kept]
        exact owned
      · exact frame _ rfl
      · cases asked : (getSensor incoming.fromHost).isSome with
        | false => exact trivial
        | true =>
            refine ⟨address, _, rfl, written, ?_⟩
            exact
              { bufferLen := begins.bufferLen
                buffer := begins.buffer
                netflowDeviceIp := rfl
                sensor := rfl
                known := asked }
      · refine hands.trans (congrArg _ ?_)
        change [incoming].filter (Incoming.known getSensor) = _
        cases asked : (getSensor incoming.fromHost).isSome with
        | false => exact List.filter_cons_of_neg (by simp [Incoming.known, asked])
        | true => rfl

theorem Valid.forgetPacket (listener : Nat) :
    state.Steps getSensor sensorWorker (.forgetPacket listener) := by
  rcases own : state.listeners listener with ⟨qpacket, phase, incoming⟩
  have hands := valid.hands listener
  rw [Hands, own] at hands
  unfold Steps
  simp only [step, own]
  cases phase with
  | receiving | received | attributed => exact ⟨state, rfl, valid⟩
  | added =>
      refine ⟨_, rfl, valid.of_listener rfl rfl rfl rfl rfl (fun _ _ => rfl) ?_ ?_ ?_ ?_⟩
      · have held : state.holds (.listener listener) = [] := by
          rw [holds, own]
          rfl
        change Owned state.heap (Function.update state.holds (.listener listener) [])
        rw [← held, Function.update_eq_self]
        exact valid.owned
      · exact fun _ _ _ _ => rfl
      · exact trivial
      · exact hands

/-- The buffer changes hands, and what it carries is behind everything in the queue. -/
theorem Valid.addPacketToWorker (listener : Nat) :
    state.Steps getSensor sensorWorker (.addPacketToWorker listener) := by
  rcases own : state.listeners listener with ⟨qpacket, phase, incoming⟩
  have sound := valid.listening listener
  rw [own] at sound
  unfold Steps
  simp only [step, own]
  cases phase with
  | receiving | received | added => exact ⟨state, rfl, valid⟩
  | attributed =>
      obtain ⟨address, packet, rfl, known, carries⟩ := sound
      obtain ⟨sensor, found⟩ := Option.isSome_iff_exists.mp carries.known
      simp only [Heap.read_live known, ok_bind, carries.sensor, found]
      refine ⟨_, rfl, ?_⟩
      have held : state.holds (.listener listener) = [address] := by
        rw [holds, own]
        rfl
      let worker := sensorWorker sensor
      constructor
      · have others : Party.listener listener ≠ .worker worker := nofun
        have owned := valid.owned.hand others held
        convert owned using 1
        funext party
        cases party with
        | listener other =>
            have apart : Party.listener other ≠ .worker worker := nofun
            rw [Function.update_of_ne apart]
            by_cases same : other = listener
            · subst same
              simp [holds, setListener, Listener.holds]
            · rw [Function.update_of_ne fun eq => same (Party.listener.inj eq)]
              simp [holds, setListener, same]
        | worker other =>
            by_cases same : other = worker
            · subst same
              simp [holds, worker]
            · have apart : Party.worker other ≠ .listener listener := nofun
              rw [Function.update_of_ne fun eq => same (Party.worker.inj eq),
                Function.update_of_ne apart]
              simp only [holds]
              rw [Function.update_of_ne same]
      · intro other
        by_cases same : other = listener
        · subst same
          simp [setListener, Listener.Sound]
        · simp only [setListener, Function.update_of_ne same]
          exact valid.listening other
      · intro other
        have hands := valid.hands other
        by_cases same : other = listener
        · subst same
          rw [Hands, own] at hands
          simp only [Hands, addedBy, setListener, Function.update_self, Listener.pending]
          rw [hands, addedBy, List.filter_append, List.map_append, Listener.pending]
          simp [carries.known]
        · simp only [Hands, addedBy, setListener, Function.update_of_ne same] at hands ⊢
          rw [hands, List.filter_append]
          simp [Ne.symm same]
      · intro other
        obtain ⟨packets, contents, carried⟩ := valid.inOrder other
        have answers : incoming.worker getSensor sensorWorker = some worker := by
          rw [Incoming.worker, found]
          rfl
        by_cases same : other = worker
        · subst same
          refine ⟨packets ++ [packet], ?_, ?_⟩
          · have more : (state.tasks worker).unread ++ Function.update state.packetsQueue worker
                (state.packetsQueue worker ++ [address]) worker =
                state.unread worker ++ [address] := by
              rw [Function.update_self, ← List.append_assoc]
              rfl
            refine (congrArg _ more).trans ?_
            rw [List.map_append, contents, List.map_append]
            exact congrArg (fun cell => packets.map some ++ [cell]) known
          · simp only [addedTo, List.map_append, List.filter_append, ← List.append_assoc]
            refine List.rel_append carried ?_
            simpa [answers, worker] using carries
        · refine ⟨packets, ?_, ?_⟩
          · have kept : (state.tasks other).unread ++ Function.update state.packetsQueue worker
                (state.packetsQueue worker ++ [address]) other = state.unread other := by
              rw [Function.update_of_ne same]
              rfl
            exact (congrArg _ kept).trans contents
          · have kept : ([incoming].filter fun incoming =>
                incoming.worker getSensor sensorWorker = some other) = [] := by
              simp [answers, Ne.symm same]
            simp only [addedTo, List.map_append, List.filter_append]
            rw [List.map_singleton, kept, List.append_nil]
            exact carried

theorem Valid.popPacket (worker : Nat) :
    state.Steps getSensor sensorWorker (.popPacket worker) := by
  unfold Steps
  cases task : state.tasks worker with
  | popped | dissected =>
      simp only [step, task]
      exact ⟨state, rfl, valid⟩
  | idle =>
      cases queue : state.packetsQueue worker with
      | nil =>
          simp only [step, task, queue]
          exact ⟨state, rfl, valid⟩
      | cons address rest =>
          simp only [step, task, queue]
          have held : state.holds (.worker worker) = address :: rest := by
            rw [holds, task, queue]
            rfl
          have unread : state.unread worker = address :: rest := by
            rw [PacketBuffers.unread, task, queue]
            rfl
          refine ⟨_, rfl, valid.of_worker worker rfl rfl rfl ?_ ?_ (fun _ _ => rfl) ?_ ?_ ?_⟩
          · exact fun other others => Function.update_of_ne others _ _
          · exact fun other others => Function.update_of_ne others _ _
          · have same : (Function.update state.tasks worker (.popped address) worker).holds ++
                Function.update state.packetsQueue worker rest worker =
                state.holds (.worker worker) := by
              rw [Function.update_self, Function.update_self, held]
              rfl
            have owned := valid.owned
            rw [← Function.update_eq_self (.worker worker) state.holds, ← same] at owned
            exact owned
          · exact fun _ _ _ _ => rfl
          · obtain ⟨packets, contents, carried⟩ := valid.inOrder worker
            refine ⟨packets, ?_, carried⟩
            have kept : (Function.update state.tasks worker (.popped address) worker).unread ++
                Function.update state.packetsQueue worker rest worker = state.unread worker := by
              rw [Function.update_self, Function.update_self, unread]
              rfl
            exact (congrArg _ kept).trans contents

theorem Valid.dissect (worker : Nat) :
    state.Steps getSensor sensorWorker (.dissect worker) := by
  unfold Steps
  cases task : state.tasks worker with
  | idle | dissected =>
      simp only [step, task]
      exact ⟨state, rfl, valid⟩
  | popped address =>
      have unread : state.unread worker = address :: state.packetsQueue worker := by
        rw [PacketBuffers.unread, task]
        rfl
      obtain ⟨packets, contents, carried⟩ := valid.inOrder worker
      rw [unread] at contents
      cases packets with
      | nil => contradiction
      | cons packet rest =>
          obtain ⟨known, others⟩ := List.cons.inj contents
          simp only [step, task, Heap.read_live known, ok_bind]
          refine ⟨_, rfl, valid.of_worker worker rfl rfl rfl ?_ (fun _ _ => rfl) ?_ ?_ ?_ ?_⟩
          · exact fun other others => Function.update_of_ne others _ _
          · exact fun other others => Function.update_of_ne others _ _
          · have same : (Function.update state.tasks worker (.dissected address) worker).holds ++
                state.packetsQueue worker = state.holds (.worker worker) := by
              rw [Function.update_self, holds, task]
              rfl
            have owned := valid.owned
            rw [← Function.update_eq_self (.worker worker) state.holds, ← same] at owned
            exact owned
          · exact fun _ _ _ _ => rfl
          · refine ⟨rest, ?_, ?_⟩
            · have kept :
                  (Function.update state.tasks worker (.dissected address) worker).unread ++
                    state.packetsQueue worker = state.packetsQueue worker := by
                rw [Function.update_self]
                rfl
              exact (congrArg _ kept).trans others
            · simp only [Function.update_self, List.append_assoc]
              exact carried

theorem Valid.freeQueuedPacket (worker : Nat) :
    state.Steps getSensor sensorWorker (.freeQueuedPacket worker) := by
  unfold Steps
  cases task : state.tasks worker with
  | idle | popped =>
      simp only [step, task]
      exact ⟨state, rfl, valid⟩
  | dissected address =>
      have held : state.holds (.worker worker) = address :: state.packetsQueue worker := by
        rw [holds, task]
        rfl
      have member : address ∈ state.holds (.worker worker) := held ▸ List.mem_cons_self
      obtain ⟨packet, known⟩ := valid.owned.exists_cell member
      obtain ⟨heap, ran, _, cells⟩ := Heap.free_live known
      simp only [step, task, ran, ok_bind]
      refine ⟨_, rfl, valid.of_worker worker rfl rfl rfl ?_ (fun _ _ => rfl) (fun _ _ => rfl)
        ?_ ?_ ?_⟩
      · exact fun other others => Function.update_of_ne others _ _
      · have rest : (Function.update state.tasks worker .idle worker).holds ++
            state.packetsQueue worker = state.packetsQueue worker := by
          rw [Function.update_self]
          rfl
        have owned := valid.owned.free held cells
        rw [← rest] at owned
        exact owned
      · exact frame_of_update valid.owned member cells
      · obtain ⟨packets, contents, carried⟩ := valid.inOrder worker
        refine ⟨packets, ?_, carried⟩
        have unread : state.unread worker = state.packetsQueue worker := by
          rw [PacketBuffers.unread, task]
          rfl
        have idle : (Function.update state.tasks worker .idle worker).unread ++
            state.packetsQueue worker = state.packetsQueue worker := by
          rw [Function.update_self]
          rfl
        rw [unread] at contents
        refine (congrArg _ idle).trans (Eq.trans ?_ contents)
        apply List.map_congr_left
        intro other queued
        have once := valid.owned.once (.worker worker)
        rw [held] at once
        rw [cells, Function.update_of_ne]
        rintro rfl
        exact (List.nodup_cons.mp once).1 queued

theorem Valid.step (action : PacketAction) : state.Steps getSensor sensorWorker action := by
  cases action with
  | newQueuedPacket listener => exact valid.newQueuedPacket listener
  | recvfrom listener incoming => exact valid.recvfrom listener incoming
  | getSensor listener => exact valid.attributes listener
  | addPacketToWorker listener => exact valid.addPacketToWorker listener
  | forgetPacket listener => exact valid.forgetPacket listener
  | popPacket worker => exact valid.popPacket worker
  | dissect worker => exact valid.dissect worker
  | freeQueuedPacket worker => exact valid.freeQueuedPacket worker

theorem Valid.run (actions : List PacketAction) :
    ∃ final, state.run getSensor sensorWorker actions = .ok final ∧
      final.Valid getSensor sensorWorker := by
  induction actions generalizing state with
  | nil => exact ⟨state, rfl, valid⟩
  | cons action rest ih =>
      obtain ⟨after, stepped, validAfter⟩ := valid.step action
      obtain ⟨final, ran, validFinal⟩ := ih validAfter
      refine ⟨final, ?_, validFinal⟩
      rw [PacketBuffers.run, List.foldlM_cons, stepped]
      exact ran

end

/-- In every interleaving of listeners and workers no buffer is used after it was freed nor freed
twice, and each live one is held by one of them. Every datagram of a known host that a listener
received is in its hands or was added, in order; and every worker has read and is going to read
what was added for it, in order, from buffers that begin with it. -/
theorem run_handsOver (getSensor : UInt32 → Option IpAddr) (sensorWorker : IpAddr → Nat)
    (actions : List PacketAction) :
    ∃ final, PacketBuffers.start.run getSensor sensorWorker actions = .ok final ∧
      Owned final.heap final.holds ∧ (∀ listener, final.Hands getSensor listener) ∧
      ∀ worker, final.InOrder getSensor sensorWorker worker := by
  obtain ⟨final, ran, valid⟩ :=
    (valid_start : PacketBuffers.start.Valid getSensor sensorWorker).run actions
  exact ⟨final, ran, valid.owned, valid.hands, valid.inOrder⟩

/-- The third byte is left of a datagram from a host of no sensor. -/
example :
    (PacketBuffers.start.run (fun host => if host = 1 then some (.v4 0) else none) (fun _ => 0)
      [.newQueuedPacket 0, .recvfrom 0 (some { fromHost := 2, bytes := [9, 9, 9] }),
        .getSensor 0, .recvfrom 0 (some { fromHost := 1, bytes := [1, 2] }), .getSensor 0,
        .addPacketToWorker 0, .popPacket 0, .dissect 0, .freeQueuedPacket 0,
        .forgetPacket 0]).map
      (fun final => (final.consumed 0).map fun packet =>
        (packet.bufferLen, packet.buffer.slice 3)) = .ok [(2, [1, 2, 9])] := by
  decide +kernel

end PacketBuffers

end F2k
