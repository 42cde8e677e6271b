import F2k.Collect
import F2k.Lib.Chains

namespace F2k

open Lib

/-! The lists of messages on their way to Kafka: those of the records of a datagram are put one
behind another, every message is handed over, and what the lists are made of is freed. -/

/-- `struct printbuf`, whose buffer is gone once Kafka has it. -/
structure KafkaMemory.Printbuf where
  buf : Option Nat
  bpos : Nat

/-- `struct string_list`: the printbuf of a message and the MAC of its client. -/
abbrev StringNode := Option Nat × UInt64

/-- The blocks that lists are made of, what was given to `rd_kafka_produce` with whether it was
taken, and the buffers that Kafka is to free. -/
structure KafkaMemory where
  nodes : Heap (Cell StringNode)
  printbufs : Heap KafkaMemory.Printbuf
  buffers : Heap Bytes
  produced : List (Message × Bool)
  handed : List Nat

/-- Whether a message is taken depends on anything that has happened. -/
abbrev Broker := List (Message × Bool) → Message → Bool

namespace KafkaMemory

def printbufFree (memory : KafkaMemory) (line : Nat) : Except Misuse KafkaMemory := do
  let printbuf ← orMisuse (memory.printbufs.read line)
  let buffers ←
    match printbuf.buf with
    | none => pure memory.buffers
    | some buf => orMisuse (memory.buffers.free buf)
  let printbufs ← orMisuse (memory.printbufs.free line)
  pure { memory with printbufs, buffers }

/-- A message that is taken is freed by Kafka, and one that is refused with its printbuf. -/
def kafkaProduce (broker : Broker) (memory : KafkaMemory) (line : Nat) (clientMac : UInt64) :
    Except Misuse KafkaMemory := do
  let printbuf ← orMisuse (memory.printbufs.read line)
  match printbuf.buf with
  | none => .error .nullPointer
  | some buf => do
      let contents ← orMisuse (memory.buffers.read buf)
      let message : Message := { string := contents.take printbuf.bpos, clientMac }
      let taken := broker memory.produced message
      let memory := { memory with produced := memory.produced ++ [(message, taken)] }
      if taken then do
        let printbufs ← orMisuse (memory.printbufs.write line { printbuf with buf := none })
        printbufFree { memory with printbufs, handed := memory.handed ++ [buf] } line
      else printbufFree memory line

/-- Every turn frees a node. -/
def sendStringListToKafka (broker : Broker) :
    Nat → Option Nat → KafkaMemory → Except Misuse KafkaMemory
  | _, none, memory => .ok memory
  | 0, some node, _ => .error (.notLive node)
  | turns + 1, some node, memory => do
      let list ← orMisuse (memory.nodes.read node)
      let memory ←
        match list.value.1 with
        | none => pure memory
        | some line => kafkaProduce broker memory line list.value.2
      let nodes ← orMisuse (memory.nodes.free node)
      sendStringListToKafka broker turns list.next { memory with nodes }

/-- The lists of the records of each set become the list of the set, and these the list of the
datagram. -/
def concatSets : Heap (Cell StringNode) → Option Nat → List (List (Option Nat)) →
    Except Misuse (Heap (Cell StringNode) × Option Nat)
  | nodes, list, [] => .ok (nodes, list)
  | nodes, list, records :: rest => do
      let (nodes, own) ← nodes.concatAll none records
      let (nodes, list) ← nodes.concat list own
      concatSets nodes list rest

def sendDatagram (broker : Broker) (memory : KafkaMemory) (records : List (List (Option Nat))) :
    Except Misuse KafkaMemory := do
  let (nodes, list) ← concatSets memory.nodes none records
  sendStringListToKafka broker nodes.next list { memory with nodes }

end KafkaMemory

/-- A message in a list: its node, its printbuf and its buffer. -/
structure Line where
  node : Nat
  string : Nat
  buffer : Nat
  message : Message

namespace Line

def cell (line : Line) : Nat × StringNode := (line.node, some line.string, line.message.clientMac)

def cells (lines : List Line) : List (Nat × StringNode) := lines.map cell

@[simp] theorem addresses_cells (lines : List Line) :
    addresses (cells lines) = lines.map node := by
  simp [addresses, cells, cell]

@[simp] theorem cells_append (lines more : List Line) :
    cells (lines ++ more) = cells lines ++ cells more :=
  List.map_append

theorem cells_flatten (lists : List (List Line)) :
    (lists.map cells).flatten = cells lists.flatten := by
  rw [cells, List.map_flatten]
  rfl

/-- The printbuf of a message has a buffer with its text. -/
structure InMemory (line : Line) (printbufs : Nat → Option KafkaMemory.Printbuf)
    (buffers : Nat → Option Bytes) : Prop where
  printbuf : ∃ bpos contents, printbufs line.string = some { buf := some line.buffer, bpos } ∧
    buffers line.buffer = some contents ∧ contents.take bpos = line.message.string

/-- No two messages have a block in common. -/
structure Apart (lines : List Line) : Prop where
  nodes : (lines.map node).Nodup
  strings : (lines.map string).Nodup
  buffers : (lines.map buffer).Nodup

/-- The buffers of the messages that were answered in a certain way. -/
def answered (answer : Bool) (lines : List Line) (answers : List Bool) : List Nat :=
  ((lines.zip answers).filter fun pair => pair.2 = answer).map fun pair => pair.1.buffer

end Line

/-- Every message was offered to Kafka once and in order. What the list was made of is freed, but
for the buffers of the messages that were taken, and nothing else has changed. -/
structure SentLines (lines : List Line) (answers : List Bool) (before after : KafkaMemory) :
    Prop where
  all : answers.length = lines.length
  produced : after.produced = before.produced ++ (lines.map Line.message).zip answers
  handed : after.handed = before.handed ++ Line.answered true lines answers
  nodes : ∀ address, after.nodes.cells address =
    if address ∈ lines.map Line.node then none else before.nodes.cells address
  printbufs : ∀ address, after.printbufs.cells address =
    if address ∈ lines.map Line.string then none else before.printbufs.cells address
  buffers : ∀ address, after.buffers.cells address =
    if address ∈ Line.answered false lines answers then none else before.buffers.cells address

theorem Line.Apart.tail {line : Line} {lines : List Line} (apart : Line.Apart (line :: lines)) :
    Line.Apart lines where
  nodes := (List.nodup_cons.mp apart.nodes).2
  strings := (List.nodup_cons.mp apart.strings).2
  buffers := (List.nodup_cons.mp apart.buffers).2

theorem Line.answered_cons (answer : Bool) (line : Line) (lines : List Line) (taken : Bool)
    (answers : List Bool) :
    Line.answered answer (line :: lines) (taken :: answers) =
      (if taken = answer then [line.buffer] else []) ++ Line.answered answer lines answers := by
  by_cases same : taken = answer <;> simp [Line.answered, same]

theorem SentLines.cons {line : Line} {lines : List Line} {taken : Bool} {answers : List Bool}
    {before produced after : KafkaMemory} {freed : Heap (Cell StringNode)}
    (sent : SentLines lines answers { produced with nodes := freed } after)
    (log : produced.produced = before.produced ++ [(line.message, taken)])
    (handed : produced.handed = before.handed ++ (if taken then [line.buffer] else []))
    (nodes : freed.cells = Function.update before.nodes.cells line.node none)
    (printbufs : produced.printbufs.cells =
      Function.update before.printbufs.cells line.string none)
    (buffers : produced.buffers.cells =
      if taken then before.buffers.cells
      else Function.update before.buffers.cells line.buffer none) :
    SentLines (line :: lines) (taken :: answers) before after where
  all := by rw [List.length_cons, List.length_cons, sent.all]
  produced := by
    rw [sent.produced]
    change produced.produced ++ _ = _
    rw [log, List.append_assoc]
    rfl
  handed := by
    rw [sent.handed, Line.answered_cons]
    change produced.handed ++ _ = _
    rw [handed, List.append_assoc]
  nodes address := by
    rw [sent.nodes]
    change (if _ then _ else freed.cells address) = _
    rw [nodes]
    by_cases same : address = line.node <;> simp [same]
  printbufs address := by
    rw [sent.printbufs]
    change (if _ then _ else produced.printbufs.cells address) = _
    rw [printbufs]
    by_cases same : address = line.string <;> simp [same]
  buffers address := by
    rw [sent.buffers, Line.answered_cons]
    change (if _ then _ else produced.buffers.cells address) = _
    rw [buffers]
    cases taken with
    | true => simp
    | false => by_cases same : address = line.buffer <;> simp [same]

namespace KafkaMemory

variable {broker : Broker} {memory : KafkaMemory}

theorem printbufFree_null {line bpos : Nat}
    (live : memory.printbufs.cells line = some { buf := none, bpos }) :
    ∃ printbufs, memory.printbufFree line = .ok { memory with printbufs } ∧
      printbufs.cells = Function.update memory.printbufs.cells line none := by
  obtain ⟨printbufs, freed, _, cells⟩ := Heap.free_live live
  refine ⟨printbufs, ?_, cells⟩
  rw [printbufFree, Heap.read_live live, freed]
  rfl

theorem printbufFree_buffer {line buf bpos : Nat} {contents : Bytes}
    (live : memory.printbufs.cells line = some { buf := some buf, bpos })
    (filled : memory.buffers.cells buf = some contents) :
    ∃ printbufs buffers, memory.printbufFree line = .ok { memory with printbufs, buffers } ∧
      printbufs.cells = Function.update memory.printbufs.cells line none ∧
      buffers.cells = Function.update memory.buffers.cells buf none := by
  obtain ⟨printbufs, freed, _, cells⟩ := Heap.free_live live
  obtain ⟨buffers, gone, _, kept⟩ := Heap.free_live filled
  refine ⟨printbufs, buffers, ?_, cells, kept⟩
  rw [printbufFree, Heap.read_live live]
  change (orMisuse (memory.buffers.free buf) >>= _) = _
  rw [gone, freed]
  rfl

theorem kafkaProduce_line {line : Line}
    (inMemory : line.InMemory memory.printbufs.cells memory.buffers.cells) :
    ∃ taken after,
      memory.kafkaProduce broker line.string line.message.clientMac = .ok after ∧
      after.nodes = memory.nodes ∧
      after.produced = memory.produced ++ [(line.message, taken)] ∧
      after.handed = memory.handed ++ (if taken then [line.buffer] else []) ∧
      after.printbufs.cells = Function.update memory.printbufs.cells line.string none ∧
      after.buffers.cells =
        if taken then memory.buffers.cells
        else Function.update memory.buffers.cells line.buffer none := by
  obtain ⟨bpos, contents, live, filled, text⟩ := inMemory.printbuf
  have message : ({ string := contents.take bpos, clientMac := line.message.clientMac } :
      Message) = line.message := by rw [text]
  rw [kafkaProduce, Heap.read_live live]
  simp only [orMisuse, ok_bind, Heap.read_live filled, message]
  cases broker memory.produced line.message with
  | true =>
      obtain ⟨printbufs, wrote, _, cells⟩ :=
        @Heap.write_live _ memory.printbufs _ { buf := none, bpos } _ live
      have emptied : printbufs.cells line.string = some { buf := none, bpos } := by
        rw [cells, Function.update_self]
      rw [if_pos rfl, wrote]
      simp only [ok_bind]
      obtain ⟨freed, ran, gone⟩ := @printbufFree_null
        { memory with
          printbufs
          produced := memory.produced ++ [(line.message, true)]
          handed := memory.handed ++ [line.buffer] } _ _ emptied
      refine ⟨true, _, ran, rfl, rfl, rfl, ?_, rfl⟩
      rw [gone, cells, Function.update_idem]
  | false =>
      rw [if_neg Bool.false_ne_true]
      obtain ⟨printbufs, buffers, ran, gone, kept⟩ := @printbufFree_buffer
        { memory with produced := memory.produced ++ [(line.message, false)] } _ _ _ _ live filled
      exact ⟨false, _, ran, rfl, rfl, (List.append_nil _).symm, gone, kept⟩

/-- The messages of a list are sent one after another. -/
theorem sendStringListToKafka_lines {lines : List Line} {start : Option Nat} {turns : Nat}
    (segment : Segment memory.nodes.cells start (Line.cells lines) none)
    (apart : Line.Apart lines)
    (inMemory : ∀ line ∈ lines, line.InMemory memory.printbufs.cells memory.buffers.cells)
    (enough : lines.length ≤ turns) :
    ∃ after answers, sendStringListToKafka broker turns start memory = .ok after ∧
      SentLines lines answers memory after := by
  induction lines generalizing memory start turns with
  | nil =>
      obtain rfl : start = none := segment
      refine ⟨memory, [], by cases turns <;> rfl, rfl, ?_, ?_, ?_, ?_, ?_⟩
      all_goals simp [Line.answered]
  | cons line lines ih =>
      obtain ⟨rfl, next, live, back⟩ := segment
      obtain ⟨own, others⟩ := List.forall_mem_cons.mp inMemory
      cases turns with
      | zero => simp at enough
      | succ turns =>
          obtain ⟨taken, produced, ran, nodes, log, handed, printbufs, buffers⟩ :=
            @kafkaProduce_line broker memory line own
          have still : produced.nodes.cells line.node =
              some { value := (some line.string, line.message.clientMac), next } := by
            rw [nodes]
            exact live
          obtain ⟨freed, gone, _, cells⟩ := Heap.free_live still
          rw [nodes] at cells
          have rest : Segment freed.cells next (Line.cells lines) none := by
            apply back.congr
            intro address member
            rw [cells, Function.update_of_ne]
            rintro rfl
            change line.node ∈ addresses (Line.cells lines) at member
            rw [Line.addresses_cells] at member
            exact (List.nodup_cons.mp apart.nodes).1 member
          have kept : ∀ other ∈ lines,
              other.InMemory produced.printbufs.cells produced.buffers.cells := by
            intro other member
            have otherString : other.string ≠ line.string := fun same =>
              (List.nodup_cons.mp apart.strings).1 (same ▸ List.mem_map_of_mem member)
            have otherBuffer : other.buffer ≠ line.buffer := fun same =>
              (List.nodup_cons.mp apart.buffers).1 (same ▸ List.mem_map_of_mem member)
            obtain ⟨bpos, contents, printbuf, filled, text⟩ := (others other member).printbuf
            refine ⟨bpos, contents, ?_, ?_, text⟩
            · rw [printbufs, Function.update_of_ne otherString, printbuf]
            · rw [buffers]
              split
              · exact filled
              · rw [Function.update_of_ne otherBuffer, filled]
          obtain ⟨after, answers, ranAll, sent⟩ := @ih { produced with nodes := freed } next turns
            rest apart.tail kept (Nat.le_of_succ_le_succ enough)
          refine ⟨after, taken :: answers, ?_, sent.cons log handed cells printbufs buffers⟩
          rw [sendStringListToKafka, Heap.read_live live]
          change (memory.kafkaProduce broker line.string line.message.clientMac >>= _) = _
          rw [ran, ok_bind]
          change (orMisuse (produced.nodes.free line.node) >>= _) = _
          rw [gone]
          exact ranAll

/-- The lists of all records become one. -/
theorem concatSets_segment {nodes : Heap (Cell StringNode)} {list : Option Nat}
    {front : List Line} {starts : List (List (Option Nat))} {sets : List (List (List Line))}
    (first : Segment nodes.cells list (Line.cells front) none)
    (segments : List.Forall₂ (List.Forall₂ fun start lines =>
      Segment nodes.cells start (Line.cells lines) none) starts sets)
    (once : ((front ++ sets.flatten.flatten).map Line.node).Nodup) :
    ∃ after start, concatSets nodes list starts = .ok (after, start) ∧
      Segment after.cells start (Line.cells (front ++ sets.flatten.flatten)) none ∧
      after.next = nodes.next ∧
      ∀ address, address ∉ (front ++ sets.flatten.flatten).map Line.node →
        after.cells address = nodes.cells address := by
  induction sets generalizing nodes list front starts with
  | nil =>
      cases segments
      exact ⟨nodes, list, rfl, by simpa using first, rfl, fun _ _ => rfl⟩
  | cons records rest ih =>
      obtain ⟨own, others, ownSegments, otherSegments, rfl⟩ :=
        List.forall₂_cons_right_iff.mp segments
      rw [List.flatten_cons, List.flatten_append, ← List.append_assoc] at once ⊢
      have apart := List.nodup_append.mp (List.map_append ▸ once)
      have split := List.nodup_append.mp (List.map_append ▸ apart.1)
      have chains : List.Forall₂ (fun start cells => Segment nodes.cells start cells none) own
          (records.map Line.cells) := List.forall₂_map_right_iff.mpr ownSegments
      obtain ⟨joined, ownStart, ranOwn, ownWhole, sameOwn, frameOwn⟩ :=
        @Heap.concatAll_segment _ nodes [] none own _ rfl chains (by
          rw [List.nil_append, Line.cells_flatten, Line.addresses_cells]
          exact split.2.1)
      rw [List.nil_append, Line.cells_flatten] at ownWhole frameOwn
      rw [Line.addresses_cells] at frameOwn
      have firstStill : Segment joined.cells list (Line.cells front) none := by
        apply first.congr
        intro address member
        rw [Line.addresses_cells] at member
        exact frameOwn address fun inOwn => split.2.2 address member address inOwn rfl
      obtain ⟨after, start, ranFront, whole, sameFront, frameFront⟩ :=
        Heap.concat_segment firstStill ownWhole (by
          rw [← Line.cells_append, Line.addresses_cells]
          exact List.map_append ▸ apart.1)
      rw [← Line.cells_append] at whole
      rw [Line.addresses_cells] at frameFront
      have framed : ∀ address, address ∉ (front ++ records.flatten).map Line.node →
          after.cells address = nodes.cells address := by
        intro address absent
        rw [List.map_append, List.mem_append, not_or] at absent
        rw [frameFront address absent.1, frameOwn address absent.2]
      have othersStill : List.Forall₂ (List.Forall₂ fun start lines =>
          Segment after.cells start (Line.cells lines) none) others rest := by
        apply forall₂_imp_mem otherSegments
        intro starts lists inRest segments
        apply forall₂_imp_mem segments
        intro start lines inLists segment
        apply segment.congr
        intro address member
        rw [Line.addresses_cells] at member
        apply framed
        intro inFront
        refine apart.2.2 address (List.map_append ▸ inFront) address ?_ rfl
        obtain ⟨line, isLine, rfl⟩ := List.mem_map.mp member
        exact List.mem_map_of_mem
          (List.mem_flatten_of_mem (List.mem_flatten_of_mem inRest inLists) isLine)
      obtain ⟨final, ends, ran, all, same, frame⟩ := ih whole othersStill once
      refine ⟨final, ends, ?_, all, same.trans (sameFront.trans sameOwn), ?_⟩
      · rw [concatSets, ranOwn, ok_bind]
        change (joined.concat list ownStart >>= _) = _
        rw [ranFront]
        exact ran
      · intro address absent
        rw [frame address absent]
        apply framed
        intro inside
        rw [List.map_append, List.mem_append, not_or] at absent
        exact absent.1 inside

end KafkaMemory

/-- The lists of the records of a datagram are in memory, one for each record of each set. -/
structure Laid (memory : KafkaMemory) (starts : List (List (Option Nat)))
    (dissected : Dissected) (lines : List (List (List Line))) : Prop where
  segments : List.Forall₂ (List.Forall₂ fun start lines =>
    Segment memory.nodes.cells start (Line.cells lines) none) starts lines
  apart : Line.Apart lines.flatten.flatten
  inMemory : ∀ line ∈ lines.flatten.flatten,
    line.InMemory memory.printbufs.cells memory.buffers.cells
  messages : lines.map (List.map (List.map Line.message)) =
    dissected.sets.map (List.map FlowRecord.messages)

theorem Laid.messages_eq {memory : KafkaMemory} {starts : List (List (Option Nat))}
    {dissected : Dissected} {lines : List (List (List Line))}
    (laid : Laid memory starts dissected lines) :
    lines.flatten.flatten.map Line.message = dissected.messages := by
  have same := congrArg (fun messages => messages.flatten.flatten) laid.messages
  simpa [Dissected.messages, Dissected.records, List.map_flatten, List.flatMap] using same

/-- Whatever Kafka takes or refuses, every message of the datagram is offered to it once and in
order, and all that the lists were made of is freed once, but for what Kafka took. -/
theorem sendDatagram_offersAll {memory : KafkaMemory} {starts : List (List (Option Nat))}
    {dissected : Dissected} {lines : List (List (List Line))}
    (laid : Laid memory starts dissected lines) (broker : Broker) :
    ∃ after answers, memory.sendDatagram broker starts = .ok after ∧
      after.produced = memory.produced ++ dissected.messages.zip answers ∧
      SentLines lines.flatten.flatten answers memory after := by
  obtain ⟨nodes, start, joined, segment, _, frame⟩ :=
    @KafkaMemory.concatSets_segment memory.nodes none [] starts lines rfl laid.segments
      laid.apart.nodes
  rw [List.nil_append] at segment frame
  have bound := segment.length_le (by
    rw [Line.addresses_cells]
    exact laid.apart.nodes)
  rw [Line.cells, List.length_map] at bound
  obtain ⟨after, answers, ran, sent⟩ :=
    @KafkaMemory.sendStringListToKafka_lines broker { memory with nodes } _ start nodes.next
      segment laid.apart laid.inMemory bound
  refine ⟨after, answers, ?_, ?_, sent.all, sent.produced, sent.handed, ?_, sent.printbufs,
    sent.buffers⟩
  · rw [KafkaMemory.sendDatagram, joined]
    exact ran
  · rw [sent.produced, laid.messages_eq]
  · intro address
    rw [sent.nodes]
    split
    · rfl
    · next absent => exact frame address absent

def exampleLine (number : Nat) (text : Bytes) : Line where
  node := number
  string := number
  buffer := number
  message := { string := text, clientMac := 0 }

/-- A record that was split in two, and one of another set. -/
def exampleLines : List (List (List Line)) :=
  [[[exampleLine 0 [123, 125], exampleLine 1 [123]]], [[], [exampleLine 2 [125]]]]

def exampleMemory : KafkaMemory where
  nodes := ((Heap.empty.alloc { value := (some 0, 0), next := some 1 }).alloc
    { value := (some 1, 0), next := none }).alloc { value := (some 2, 0), next := none }
  printbufs := ((Heap.empty.alloc { buf := some 0, bpos := 2 }).alloc
    { buf := some 1, bpos := 1 }).alloc { buf := some 2, bpos := 1 }
  buffers := ((Heap.empty.alloc [123, 125, 0]).alloc [123, 0]).alloc [125, 0]
  produced := []
  handed := []

def exampleDissected : Dissected where
  sensor := { network := .v4 0, netmask := .v4 0, worker := none, defaultObservationId := none,
              observationId := ∅ }
  sets := exampleLines.map (List.map fun lines =>
    { flowSequence := 0, messages := lines.map Line.message })

theorem laid_example :
    Laid exampleMemory [[some 0], [none, some 2]] exampleDissected exampleLines where
  segments := by
    refine .cons (.cons ⟨rfl, some 1, rfl, rfl, none, rfl, rfl⟩ .nil) (.cons ?_ .nil)
    exact .cons rfl (.cons ⟨rfl, none, rfl, rfl⟩ .nil)
  apart := ⟨by decide, by decide, by decide⟩
  inMemory := by
    intro line member
    simp only [exampleLines, List.flatten_cons, List.flatten_nil, List.append_nil,
      List.nil_append, List.cons_append, List.mem_cons, List.not_mem_nil, or_false] at member
    rcases member with rfl | rfl | rfl
    · exact ⟨2, [123, 125, 0], rfl, rfl, rfl⟩
    · exact ⟨1, [123, 0], rfl, rfl, rfl⟩
    · exact ⟨1, [125, 0], rfl, rfl, rfl⟩
  messages := rfl

/-- Kafka takes the first message only. -/
theorem sendDatagram_offersAll_example :
    ∃ after answers,
      exampleMemory.sendDatagram (fun produced _ => produced.isEmpty)
        [[some 0], [none, some 2]] = .ok after ∧
      after.produced = exampleMemory.produced ++ exampleDissected.messages.zip answers ∧
      SentLines exampleLines.flatten.flatten answers exampleMemory after :=
  sendDatagram_offersAll laid_example _

end F2k
