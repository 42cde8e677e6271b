import F2k.Lib.Allocating
import F2k.RecordLines

namespace F2k

open Lib

/-! The dissection of a record while any of its calls of `malloc`, `calloc` and `realloc` can
fail. -/

/-- What memory is asked for: the message buffer of the record, its flow cache, more room in a
buffer, a node of the list, and a buffer that the one of the record is cloned to. -/
inductive AllocationCall
  | line
  | flowCache
  | room
  | node
  | clone
deriving DecidableEq

inductive DissectionStop
  | printing (fault : PrintFault)
  | endlessLoop
  | movedStorage

abbrev Dissection := Allocating AllocationCall DissectionStop

namespace Dissection

/-- `struct printbuf`: its block, how often its contents have moved, and how much room they
have. -/
structure Buffer where
  block : Nat
  moves : Nat
  size : Nat
  text : Bytes

structure Node where
  string : Buffer
  clientMac : UInt64

def Node.message (node : Node) : Message where
  string := node.string.text
  clientMac := node.clientMac

/-! Buffers -/

/-- Both calls are made for the same purpose. -/
def printbufNew (call : AllocationCall) : Dissection (Option Buffer) := do
  let p ← Allocating.allocate call
  match p with
  | none => pure none
  | some block => do
      let contents ← Allocating.ask call
      if contents then pure (some { block, moves := 0, size := 2048, text := [] })
      else do
        Allocating.free block
        pure none

/-- There is no result when there is no room. -/
def printbufExtend (p : Buffer) (minSize : Nat) : Dissection (Option Buffer) :=
  if p.size ≥ minSize then pure (some p)
  else do
    let newSize := max (p.size * 2) (minSize + 8)
    let served ← Allocating.ask .room
    pure (if served then some { p with moves := p.moves + 1, size := newSize } else none)

def printbufRoom (p : Buffer) (size : Nat) : Dissection (Option Buffer) :=
  if p.size ≤ p.text.length + size + 1 then printbufExtend p (p.text.length + size + 1)
  else pure (some p)

/-- Nobody looks at the result: without room the bytes are missing. -/
def printbufMemappend (p : Buffer) (bytes : Bytes) : Dissection Buffer := do
  let extended ← printbufRoom p bytes.length
  match extended with
  | some p => pure { p with text := p.text ++ bytes }
  | none => pure p

def printbufMemappendFast (p : Buffer) (bytes : Bytes) : Dissection Buffer :=
  if p.size - p.text.length > bytes.length then pure { p with text := p.text ++ bytes }
  else printbufMemappend p bytes

/-- The program writes to a buffer. -/
def write : Writing PrintFault UInt8 α → Buffer → Dissection (α × Buffer)
  | .result value, p => pure (value, p)
  | .fails fault, _ => .stops (.printing fault)
  | .endless, _ => .stops .endlessLoop
  | .append text next, p => printbufMemappendFast p text >>= write next
  | .length next, p => write (next p.text.length) p
  | .written next, p => write (next p.text) p
  | .cut kept next, p => write next { p with text := p.text.take kept }

def writeLine (program : Printing Unit) (turns : Nat) (p : Buffer) : Dissection Buffer := do
  let (_, p) ← write (program turns) p
  pure p

/-! Splitting -/

/-- The message that the next ones are cloned from: the part that they have in common, and
whether its buffer is still where that was printed. -/
structure SentMessage where
  useful : Bytes
  inPlace : Bool

/-- The node of the last interval has the buffer that was passed. -/
structure SplitState where
  line : Buffer
  lastSentmsg : Option SentMessage
  nodes : List (Option Buffer)

def SplitState.list (state : SplitState) : List Node :=
  state.nodes.map fun string => { string := string.getD state.line, clientMac := 0 }

section

variable (globals : ReadOnlyGlobals) (turns : Nat) (counts : IntervalCounts)

def writeCounts (bytes pkts : UInt64) (p : Buffer) : Dissection Buffer :=
  writeLine (Printing.printCounts globals bytes pkts noFlowCache) turns p

def writeTimestamp (timestamp : UInt64) (p : Buffer) : Dissection Buffer :=
  writeLine (Printing.printTimestamp globals timestamp) turns p

/-- The message of an interval that is not the last. What was cloned first is copied for the
others, which nothing but its storage is needed for. -/
def cloneMessage (timestamp : UInt64) (string : Buffer) (state : SplitState) :
    Dissection SplitState :=
  match state.lastSentmsg with
  | none => do
      let string ← printbufMemappend string state.line.text
      let useful ←
        writeCounts globals turns counts.bytesPerInterval counts.packetsPerInterval string
      let string ← writeTimestamp globals turns timestamp useful
      let sent := { useful := useful.text, inPlace := string.moves = useful.moves }
      pure { state with lastSentmsg := some sent, nodes := some string :: state.nodes }
  | some sent =>
      if sent.inPlace then do
        let string ← printbufMemappend string sent.useful
        let string ← writeTimestamp globals turns timestamp string
        pure { state with nodes := some string :: state.nodes }
      else .stops .movedStorage

def lastMessage (timestamp : UInt64) (state : SplitState) : Dissection SplitState := do
  let line ←
    writeCounts globals turns counts.firstIntervalBytes counts.firstIntervalPkts state.line
  let line ← writeTimestamp globals turns timestamp line
  pure { state with line, nodes := none :: state.nodes }

/-- There is no result when memory is refused. A node that has no buffer is taken off the list
again. -/
def splitInterval (firstTimestamp dInterval currentTimestampS : UInt64) (state : SplitState) :
    Dissection (Option SplitState) := do
  let node ← Allocating.ask .node
  if node then
    if currentTimestampS + dInterval > firstTimestamp + counts.dSwitched then do
      let state ← lastMessage globals turns counts currentTimestampS state
      pure (some state)
    else do
      let string ← printbufNew .clone
      match string with
      | none => pure none
      | some string => do
          let state ← cloneMessage globals turns counts currentTimestampS string state
          pure (some state)
  else pure none

/-- When memory is refused the list is returned as it is. -/
def splitIntervals (firstTimestamp dInterval : UInt64) :
    Nat → UInt64 → SplitState → Dissection SplitState
  | 0, _, _ => .stops .endlessLoop
  | more + 1, currentTimestampS, state =>
      if currentTimestampS ≤ firstTimestamp + counts.dSwitched then do
        let split ←
          splitInterval globals turns counts firstTimestamp dInterval currentTimestampS state
        match split with
        | none => pure state
        | some state =>
            splitIntervals firstTimestamp dInterval more (currentTimestampS + dInterval) state
      else pure state

def rbSeparateLongTimeFlow (kafkaLineBuffer : Buffer)
    (firstTimestamp dSwitched dInterval maxIntervals bytes pkts : UInt64) :
    Dissection (List Node) := do
  let counts := intervalCounts globals.firstShare dSwitched dInterval maxIntervals bytes pkts
  let state ←
    splitIntervals globals turns counts firstTimestamp dInterval turns firstTimestamp
      { line := kafkaLineBuffer, lastSentmsg := none, nodes := [] }
  pure state.list

/-- The list of one node. -/
def printWholeFlow (kafkaLineBuffer : Buffer) (firstTimestamp dSwitched : UInt64)
    (flowCache : FlowCache) : Dissection (List Node) := do
  let line ←
    writeLine
      (Printing.printWholeFlow globals firstTimestamp dSwitched flowCache.bytes flowCache.packets
        flowCache)
      turns kafkaLineBuffer
  let node ← Allocating.ask .node
  if node then pure [{ string := line, clientMac := flowCache.clientMac }]
  else do
    Allocating.free line.block
    pure []

def timeSplitFlow (kafkaLineBuffer : Buffer) (flowCache : FlowCache) : Dissection (List Node) :=
  let time := flowCache.time.withExport globals.now
  let last := lastTimestampS globals time
  let first := firstTimestampS globals flowCache.observationId.getFallbackFirstSwitch time
  let dSwitched := last - first
  if globals.separateLongFlows then
    rbSeparateLongTimeFlow globals turns kafkaLineBuffer first dSwitched 60 60 flowCache.bytes
      flowCache.packets
  else printWholeFlow globals turns kafkaLineBuffer first dSwitched flowCache

end

/-! Records -/

/-- The flow cache is no block of its own. -/
def dissectNetFlowV5Record (globals : ReadOnlyGlobals) (turns : Nat) (the5Record : Mem)
    (flowIdx : Nat) (observationId : ObservationID) : Dissection (List Node) := do
  let line ← printbufNew .line
  match line with
  | none => pure []
  | some line => do
      let (flowCache, line) ←
        write (Printing.dissectNetFlowV5Record globals the5Record flowIdx observationId turns) line
      timeSplitFlow globals turns line flowCache

def dissectRecord (context : PacketContext) (turns : Nat) (template : FlowSetV9Ipfix)
    (buffer : Mem) (endFlow : Nat) (observationId : ObservationID) (flowSequenceNumber : UInt16)
    (displ : Nat) : Dissection (List Node) := do
  let line ← printbufNew .line
  match line with
  | none => pure []
  | some line => do
      let block ← Allocating.allocate .flowCache
      match block with
      | none => do
          Allocating.free line.block
          pure []
      | some block => do
          let (flowCache, line) ←
            write
              (Printing.dissectRecord context template buffer endFlow observationId
                flowSequenceNumber displ turns)
              line
          let nodes ← timeSplitFlow context.globals turns line flowCache
          Allocating.free block
          pure nodes

end Dissection

end F2k
