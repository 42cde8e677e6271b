import F2k.Printer

namespace F2k

open Lib

/-! When a flow started and ended, and the messages it is split into. -/

structure SanitizeTimestampArgs where
  timestamp : UInt64
  now : UInt64
  lowLimit : UInt64
  upperLimit : UInt64
  fallbackLastTimestampS : UInt64 := 0
  fallbackFirstSwitchedS : Int64 := 0

def sanitizeTimestamp (dontReforgeFarTimestamp : Bool) (args : SanitizeTimestampArgs) : UInt64 :=
  let tooFuture := args.timestamp > args.upperLimit
  let tooPast := args.timestamp < args.lowLimit
  if (tooFuture ∨ tooPast) ∧ dontReforgeFarTimestamp = false then args.now
  else if args.fallbackFirstSwitchedS ≠ 0 ∧ args.timestamp = args.fallbackLastTimestampS then
    args.timestamp + args.fallbackFirstSwitchedS.toUInt64
  else args.timestamp

/-- An export timestamp of zero is taken as absent. -/
def FlowCacheTime.withExport (time : FlowCacheTime) (now : UInt64) : FlowCacheTime :=
  if time.exportTimestampS = 0 then { time with exportTimestampS := now } else time

def actualLastTimestampS (time : FlowCacheTime) : UInt64 :=
  if time.lastTimestampS ≠ 0 then time.lastTimestampS
  else if time.sysUptimeS ≠ 0 ∧ time.lastSwitchedUptimeS ≠ 0 then
    time.exportTimestampS - time.sysUptimeS + time.lastSwitchedUptimeS
  else time.exportTimestampS

def actualFirstTimestampS (time : FlowCacheTime) : UInt64 :=
  if time.firstTimestampS ≠ 0 then time.firstTimestampS
  else if time.sysUptimeS ≠ 0 ∧ time.firstSwitchedUptimeS ≠ 0 then
    time.exportTimestampS - time.sysUptimeS + time.firstSwitchedUptimeS
  else time.exportTimestampS - time.lastSwitchedUptimeS + time.firstSwitchedUptimeS

def lastTimestampS (globals : ReadOnlyGlobals) (time : FlowCacheTime) : UInt64 :=
  sanitizeTimestamp globals.dontReforgeFarTimestamp
    { timestamp := actualLastTimestampS time
      now := globals.now
      lowLimit := globals.now - 60 * 10
      upperLimit := globals.now + 60 * 10 }

def firstTimestampS (globals : ReadOnlyGlobals) (fallbackFirstSwitch : Int64)
    (time : FlowCacheTime) : UInt64 :=
  sanitizeTimestamp globals.dontReforgeFarTimestamp
    { timestamp := actualFirstTimestampS time
      now := globals.now
      lowLimit := globals.now - 60 * 10
      upperLimit := globals.now + 60 * 10
      fallbackLastTimestampS := lastTimestampS globals time
      fallbackFirstSwitchedS := fallbackFirstSwitch }

/-! Messages -/

/-- A node of the list that is handed to Kafka. -/
structure Message where
  string : Bytes
  clientMac : UInt64

/-- The exporters that print counts and timestamps do not use the cache they are given, and
`rb_separate_long_time_flow` gives them none. -/
def noFlowCache : FlowCache where
  observationId := .new 0

def printUInt64 (globals : ReadOnlyGlobals) (line : Bytes) (element : Element)
    (value : UInt64) : Run Bytes := do
  let printed ←
    printNetflowRecordWithTemplate globals line element (.ofBytes (toBe 8 value.toNat)) 8
      noFlowCache
  pure printed.line

/-- What the intervals of a flow get. -/
structure IntervalCounts where
  dSwitched : UInt64
  firstIntervalBytes : UInt64
  firstIntervalPkts : UInt64
  bytesPerInterval : UInt64
  packetsPerInterval : UInt64

def nIntervalsExceptFirst (dSwitched dInterval maxIntervals : UInt64) : UInt32 :=
  let counted := (dSwitched / dInterval).toUInt32
  if counted.toUInt64 > maxIntervals then (maxIntervals - 1).toUInt32 else counted

def intervalCounts (share : FirstShare) (dSwitched dInterval maxIntervals bytes pkts : UInt64) :
    IntervalCounts :=
  let n := (nIntervalsExceptFirst dSwitched dInterval maxIntervals).toUInt64
  let dSwitched :=
    if dSwitched > 0 ∧ dSwitched % dInterval = 0 then dSwitched - 1 else dSwitched
  let firstIntervalDuration := dSwitched % dInterval
  let firstBytes := share.share bytes firstIntervalDuration dSwitched
  let firstPkts := share.share pkts firstIntervalDuration dSwitched
  let packetsPerInterval := if n > 0 then (pkts - firstPkts) / n else 0
  let bytesPerInterval := if n > 0 then (bytes - firstBytes) / n else 0
  let remainderPackets := pkts - firstPkts - packetsPerInterval * n
  let remainderBytes := bytes - firstBytes - bytesPerInterval * n
  { dSwitched
    firstIntervalBytes := firstBytes + remainderBytes
    firstIntervalPkts := firstPkts + remainderPackets
    bytesPerInterval
    packetsPerInterval }

/-- The buffer that was passed, the useful part of the first buffer that was cloned from it,
and the nodes, latest first: the last interval's node holds the buffer that was passed. -/
structure SplitState where
  line : Bytes
  lastSentmsg : Option Bytes
  nodes : List (Option Bytes)

def printCounts (globals : ReadOnlyGlobals) (line : Bytes) (bytes pkts : UInt64) : Run Bytes := do
  let line ← printUInt64 globals line printInBytes bytes
  printUInt64 globals line printInPkts pkts

def printTimestamp (globals : ReadOnlyGlobals) (line : Bytes) (timestamp : UInt64) :
    Run Bytes := do
  let line ← printUInt64 globals line printLastSwitched timestamp
  pure (line ++ ascii "\x7d")

def splitInterval (globals : ReadOnlyGlobals) (counts : IntervalCounts)
    (firstTimestamp dInterval currentTimestampS : UInt64) (state : SplitState) :
    Run SplitState :=
  if currentTimestampS + dInterval > firstTimestamp + counts.dSwitched then do
    let line ←
      printCounts globals state.line counts.firstIntervalBytes counts.firstIntervalPkts
    let line ← printTimestamp globals line currentTimestampS
    pure { state with line, nodes := none :: state.nodes }
  else
    match state.lastSentmsg with
    | none => do
        let useful ←
          printCounts globals state.line counts.bytesPerInterval counts.packetsPerInterval
        let string ← printTimestamp globals useful currentTimestampS
        pure { state with lastSentmsg := some useful, nodes := some string :: state.nodes }
    | some useful => do
        let string ← printTimestamp globals useful currentTimestampS
        pure { state with nodes := some string :: state.nodes }

def splitIntervals (globals : ReadOnlyGlobals) (counts : IntervalCounts)
    (firstTimestamp dInterval : UInt64) : Nat → UInt64 → SplitState → Run SplitState
  | 0, _, _ => .error (.endlessLoop .intervals)
  | turns + 1, currentTimestampS, state =>
      if currentTimestampS ≤ firstTimestamp + counts.dSwitched then do
        let state ←
          splitInterval globals counts firstTimestamp dInterval currentTimestampS state
        splitIntervals globals counts firstTimestamp dInterval turns
          (currentTimestampS + dInterval) state
      else pure state

/-- The loop sees nothing but the current timestamp when it decides to go on, so it never ends
when it has not ended after as many turns as there are timestamps. -/
def rbSeparateLongTimeFlow (globals : ReadOnlyGlobals) (kafkaLineBuffer : Bytes)
    (firstTimestamp dSwitched dInterval maxIntervals bytes pkts : UInt64) :
    Run (List Message) := do
  let counts := intervalCounts globals.firstShare dSwitched dInterval maxIntervals bytes pkts
  let state ←
    splitIntervals globals counts firstTimestamp dInterval (2 ^ 64) firstTimestamp
      { line := kafkaLineBuffer, lastSentmsg := none, nodes := [] }
  pure (state.nodes.map fun string => { string := string.getD state.line, clientMac := 0 })

def printWholeFlow (globals : ReadOnlyGlobals) (kafkaLineBuffer : Bytes)
    (firstTimestamp dSwitched bytes pkts clientMac : UInt64) : Run (List Message) := do
  let line ← printUInt64 globals kafkaLineBuffer printFirstSwitched firstTimestamp
  let line ← printUInt64 globals line printLastSwitched (firstTimestamp + dSwitched)
  let line ← printCounts globals line bytes pkts
  pure [{ string := line ++ ascii "\x7d", clientMac }]

def timeSplitFlow (globals : ReadOnlyGlobals) (kafkaLineBuffer : Bytes)
    (flowCache : FlowCache) : Run (List Message) :=
  let time := flowCache.time.withExport globals.now
  let last := lastTimestampS globals time
  let first := firstTimestampS globals flowCache.observationId.getFallbackFirstSwitch time
  let dSwitched := last - first
  if globals.separateLongFlows then
    rbSeparateLongTimeFlow globals kafkaLineBuffer first dSwitched 60 60 flowCache.bytes
      flowCache.packets
  else
    printWholeFlow globals kafkaLineBuffer first dSwitched flowCache.bytes flowCache.packets
      flowCache.clientMac

end F2k
