import F2k.OptionFlow
import F2k.Sensor
import F2k.TimeSplit

namespace F2k

open Lib

/-! Dissecting a datagram: NetFlow V5 records, and the sets of NetFlow V9 and IPFIX. -/

/-- The messages of one flow record, under the sequence number it was printed with. -/
structure FlowRecord where
  flowSequence : UInt32
  messages : List Message

/-- What is printed after the fields of a record when directions are normalized. -/
def postTemplates : List Element :=
  [printDirection, lanInterface, wanInterface, clientMacBasedOnDirection, wanIpBasedOnDirection,
    lanIpBasedOnDirection, wanPort, lanPort]

def normalizeDirection (globals : ReadOnlyGlobals) (line : Bytes) (cache : FlowCache) :
    Run LineState :=
  if globals.normalizeDirections then do
    let cache ← guessDirection cache
    printAllFromCache globals line postTemplates cache
  else pure { line, cache, valueRet := 0 }

/-- What follows the fields of a record, up to its messages. -/
def finishRecord (globals : ReadOnlyGlobals) (line : Bytes) (cache : FlowCache) :
    Run (List Message) := do
  let printed ← printFromCache globals line host cache
  let printed ← printFromCache globals printed.line referer printed.cache
  let printed ← normalizeDirection globals printed.line printed.cache
  timeSplitFlow globals (printSensorEnrichment printed.line printed.cache) printed.cache

/-- The start of a message: the version of the flow and its sequence number. -/
def startRecord (globals : ReadOnlyGlobals) (flowVersion : Nat) (flowSequenceNumber : UInt32)
    (cache : FlowCache) : Run LineState := do
  let printed ←
    printNetflowRecordWithTemplate globals (ascii "\x7b") redborderType
      (.ofBytes (toBe 2 flowVersion)) 2 cache
  printNetflowRecordWithTemplate globals printed.line flowSequence
    (.ofBytes (toBe 4 flowSequenceNumber.toNat)) 4 printed.cache

def headerNumber (header : Mem) (offset length : Nat) : Nat :=
  beNat ((header.shift offset).slice length)

/-- `flow_export_timestamp_uptime` -/
def withHeaderTimes (handleIpfix : Bool) (flowHeader : Mem) (cache : FlowCache) : FlowCache :=
  let sysUptimeS := if handleIpfix then 0 else headerNumber flowHeader 4 4 / 1000
  let exportTimestampS := headerNumber flowHeader (if handleIpfix then 4 else 8) 4
  { cache with
    time :=
      { cache.time with
        sysUptimeS := UInt64.ofNat sysUptimeS
        exportTimestampS := UInt64.ofNat exportTimestampS } }

/-! NetFlow V5 -/

def v5HeaderSize : Nat := 24

def v5RecordSize : Nat := 48

def v5FlowsPerPak : Nat := 30

/-- Where the field of an element is in a datagram, and its length. -/
def v5Place (flowIdx : Nat) (templateElementId : Nat) : Option (Nat × Nat) :=
  let flowRecord := v5HeaderSize + v5RecordSize * flowIdx
  match templateElementId with
  | 12 => some (flowRecord + 4, 4)
  | 8 => some (flowRecord, 4)
  | 2 => some (flowRecord + 16, 4)
  | 1 => some (flowRecord + 20, 4)
  | 22 => some (flowRecord + 24, 4)
  | 21 => some (flowRecord + 28, 4)
  | 7 => some (flowRecord + 32, 2)
  | 11 => some (flowRecord + 34, 2)
  | 10 => some (flowRecord + 12, 2)
  | 14 => some (flowRecord + 14, 2)
  | 39 => some (21, 1)
  | 38 => some (20, 1)
  | 15 => some (flowRecord + 8, 4)
  | 5 => some (flowRecord + 39, 1)
  | 4 => some (flowRecord + 38, 1)
  | 6 => some (flowRecord + 37, 1)
  | _ => none

/-- When nothing is reported for the element, what its other elements printed goes too. -/
def dissectNetFlowV5Field (globals : ReadOnlyGlobals) (the5Record : Mem) (flowIdx : Nat)
    (line : Bytes) (element : Element) (cache : FlowCache) : Run LineState :=
  match v5Place flowIdx element.templateElementId.toNat with
  | none => pure { line, cache, valueRet := 0 }
  | some (place, realFieldLen) => do
      let printed ←
        printNetflowRecordWithTemplate globals line element (the5Record.shift place)
          realFieldLen cache
      if printed.valueRet = 0 then pure { printed with line } else pure printed

def dissectNetFlowV5Fields (globals : ReadOnlyGlobals) (the5Record : Mem) (flowIdx : Nat) :
    List Element → Bytes → FlowCache → Run LineState
  | [], line, cache => pure { line, cache, valueRet := 0 }
  | element :: rest, line, cache => do
      let printed ← dissectNetFlowV5Field globals the5Record flowIdx line element cache
      dissectNetFlowV5Fields globals the5Record flowIdx rest printed.line printed.cache

def dissectNetFlowV5Record (globals : ReadOnlyGlobals) (the5Record : Mem) (flowIdx : Nat)
    (observationId : ObservationID) : Run FlowRecord := do
  let flowSequenceNumber :=
    UInt32.ofNat (headerNumber the5Record 16 4) + UInt32.ofNat flowIdx
  let started ←
    startRecord globals (headerNumber the5Record 0 2) flowSequenceNumber { observationId }
  let cache := withHeaderTimes false the5Record started.cache
  let printed ←
    dissectNetFlowV5Fields globals the5Record flowIdx v5TemplateFields started.line cache
  let messages ← finishRecord globals printed.line printed.cache
  pure { flowSequence := flowSequenceNumber, messages }

def dissectNetFlowV5Records (globals : ReadOnlyGlobals) (the5Record : Mem)
    (observationId : ObservationID) : Nat → Nat → Run (List FlowRecord)
  | 0, _ => pure []
  | more + 1, flowIdx => do
      let record ← dissectNetFlowV5Record globals the5Record flowIdx observationId
      let rest ←
        dissectNetFlowV5Records globals the5Record observationId more (flowIdx + 1)
      pure (record :: rest)

def v5NumFlows (the5Record : Mem) : Nat :=
  min (headerNumber the5Record 2 2) v5FlowsPerPak

/-- Every record asks its observation id for an enrichment at least, and observation id
functions assert that they get one. -/
def dissectNetFlowV5 (globals : ReadOnlyGlobals) (the5Record : Mem)
    (observationId : Option ObservationID) : Run (List FlowRecord) :=
  match observationId with
  | some observationId =>
      dissectNetFlowV5Records globals the5Record observationId (v5NumFlows the5Record) 0
  | none => if v5NumFlows the5Record = 0 then pure [] else .error .nullObservationId

/-! NetFlow V9 and IPFIX data sets -/

/-- What the packet says of all its data sets. -/
structure PacketContext where
  globals : ReadOnlyGlobals
  flowVersion : Nat
  flowHeader : Mem

def PacketContext.handleIpfix (context : PacketContext) : Bool :=
  context.flowVersion = 10

/-- How many bytes stand before a field, and how long it is. -/
def fieldExtent (handleIpfix : Bool) (fieldLen : UInt16) (buffer : Mem) : Nat × Nat :=
  if handleIpfix ∧ fieldLen = 65535 then
    if (buffer 0).toNat < 255 then (1, (buffer 0).toNat)
    else (3, beNat ((buffer.shift 1).slice 2))
  else (0, fieldLen.toNat)

/-- The fields of a record from `displ` on, and where they end: a record is cut off where the
set ends. -/
def dissectFields (context : PacketContext) (buffer : Mem) (endFlow : Nat) :
    List TemplateField → Nat → Bytes → FlowCache → Run (LineState × Nat)
  | [], displ, line, cache => pure ({ line, cache, valueRet := 0 }, displ)
  | field :: rest, displ, line, cache =>
      if displ < endFlow then do
        let (offset, realFieldLen) :=
          fieldExtent context.handleIpfix field.fieldLen (buffer.shift displ)
        let printed ←
          match field.v9Template with
          | some element =>
              printNetflowRecordWithTemplate context.globals line element
                (buffer.shift (displ + offset)) realFieldLen cache
          | none => pure { line, cache, valueRet := 0 }
        dissectFields context buffer endFlow rest (displ + (realFieldLen + offset)) printed.line
          printed.cache
      else pure ({ line, cache, valueRet := 0 }, displ)

/-- One record from `displ` on, and where it ends. -/
def dissectRecord (context : PacketContext) (template : FlowSetV9Ipfix) (buffer : Mem)
    (endFlow : Nat) (observationId : ObservationID) (flowSequenceNumber : UInt16)
    (displ : Nat) : Run (FlowRecord × Nat) := do
  let flowSequenceNumber := flowSequenceNumber.toUInt32
  let cache := withHeaderTimes context.handleIpfix context.flowHeader { observationId }
  let started ← startRecord context.globals context.flowVersion flowSequenceNumber cache
  let (printed, after) ←
    dissectFields context buffer endFlow template.fields displ started.line started.cache
  let messages ← finishRecord context.globals printed.line printed.cache
  pure ({ flowSequence := flowSequenceNumber, messages }, after)

/-- The loop over the records of a set. Less than four bytes are padding. -/
def dissectRecords (context : PacketContext) (template : FlowSetV9Ipfix) (buffer : Mem)
    (endFlow : Nat) (observationId : ObservationID) :
    Nat → Nat → UInt16 → Run (List FlowRecord)
  | 0, _, _ => .error (.endlessLoop .records)
  | turns + 1, displ, flowSequenceNumber =>
      if displ < endFlow then
        if endFlow - displ < 4 then pure []
        else do
          let (record, after) ←
            dissectRecord context template buffer endFlow observationId flowSequenceNumber displ
          let rest ←
            dissectRecords context template buffer endFlow observationId turns after
              (flowSequenceNumber + 1)
          pure (record :: rest)
      else pure []

/-- One turn more than there are bytes: a record that has bytes takes at least one. -/
def dissectNetFlowV9V10FlowSetWithTemplate (context : PacketContext)
    (template : FlowSetV9Ipfix) (flowsetLen : Nat) (buffer : Mem)
    (observationId : ObservationID) (flowSequenceNumber : UInt16) : Run (List FlowRecord) :=
  dissectRecords context template buffer flowsetLen observationId (flowsetLen + 1) 4
    flowSequenceNumber

/-- The template of a data set, unless it has no fields. -/
def usableTemplate (observationId : ObservationID) (templateId : Nat) : Option FlowSetV9Ipfix :=
  (observationId.getTemplate (UInt16.ofNat templateId)).filter fun template =>
    template.fieldCount ≠ 0

/-- `dissectNetFlowV9V10Flow`: the size of the set is the length it announces. -/
def dissectNetFlowV9V10Flow (context : PacketContext) (set : SizedBuffer)
    (observationId : ObservationID) (flowSequenceNumber : UInt16) :
    Run (ObservationID × List FlowRecord) :=
  let flowsetLen := set.u16 2
  match usableTemplate observationId (set.u16 0) with
  | none => pure (observationId, [])
  | some template =>
      if template.isOptionTemplate then do
        let body := set.after 4
        let observationId ←
          dissectOptionFlowSet template { body with size := min flowsetLen body.size }
            observationId
        pure (observationId, [])
      else do
        let records ←
          dissectNetFlowV9V10FlowSetWithTemplate context template flowsetLen set.buffer
            observationId flowSequenceNumber
        pure (observationId, records)

/-! NetFlow V9 and IPFIX packets -/

/-- What one set leaves: the observation id, the records of the set, and where the next set
starts. -/
structure SetResult where
  observationId : ObservationID
  records : List FlowRecord
  displ : Nat

/-- A set that is not within the packet ends it. -/
def dissectNetFlowV9V10Set (context : PacketContext) (packet : SizedBuffer)
    (flowSequenceNumber : UInt16) (observationId : ObservationID) (displ : Nat) :
    Run SetResult :=
  if packet.size < displ + 4 then
    pure { observationId, records := [], displ := packet.size + 1 }
  else
    let flowsetLen := packet.u16 (displ + 2)
    if packet.size < displ + flowsetLen then
      pure { observationId, records := [], displ := packet.size + 1 }
    else do
      let set : SizedBuffer := { buffer := packet.buffer.shift displ, size := flowsetLen }
      let isOptionTemplate := !context.handleIpfix && packet.u16 displ == 1
      if packet.buffer displ == 0 || isOptionTemplate then do
        let observationId ←
          dissectNetFlowV9V10TemplateSet context.handleIpfix set observationId
        pure { observationId, records := [], displ := displ + flowsetLen }
      else do
        let (observationId, records) ←
          dissectNetFlowV9V10Flow context set observationId flowSequenceNumber
        pure { observationId, records, displ := displ + flowsetLen }

/-- The loop over the sets of a packet, with the records of each set: every set gets the
sequence number of the packet. -/
def dissectSets (context : PacketContext) (packet : SizedBuffer) (bufferLen : Nat)
    (flowSequenceNumber : UInt32) :
    Nat → ObservationID → Nat → Run (ObservationID × List (List FlowRecord))
  | 0, observationId, _ => pure (observationId, [])
  | entries + 1, observationId, displ =>
      if displ < bufferLen then do
        let result ←
          dissectNetFlowV9V10Set context packet flowSequenceNumber.toUInt16 observationId displ
        let (observationId, rest) ←
          dissectSets context packet bufferLen flowSequenceNumber entries result.observationId
            result.displ
        pure (observationId, result.records :: rest)
      else pure (observationId, [])

/-- The sensor after a datagram, and the records of each of its sets. -/
structure Dissected where
  sensor : Sensor
  sets : List (List FlowRecord)

def Dissected.records (dissected : Dissected) : List FlowRecord :=
  dissected.sets.flatten

/-- What is sent to Kafka, once the whole datagram is dissected. -/
def Dissected.messages (dissected : Dissected) : List Message :=
  dissected.records.flatMap FlowRecord.messages

/-- Where the header of a V9 or IPFIX packet has its sequence number and observation id, and
how long it is. -/
structure HeaderLayout where
  flowSequence : Nat
  observationId : Nat
  size : Nat

def headerLayout (handleIpfix : Bool) : HeaderLayout :=
  if handleIpfix then { flowSequence := 8, observationId := 12, size := 16 }
  else { flowSequence := 12, observationId := 16, size := 20 }

/-- The count of a V9 header and the length of an IPFIX header both bound the number of sets. -/
def dissectNetflowV9V10 (globals : ReadOnlyGlobals) (sensor : Sensor) (buffer : Mem)
    (bufferLen : Nat) : Run Dissected :=
  let context : PacketContext :=
    { globals, flowVersion := headerNumber buffer 0 2, flowHeader := buffer }
  let numEntries := headerNumber buffer 2 2
  let layout := headerLayout context.handleIpfix
  let flowSequenceNumber := UInt32.ofNat (headerNumber buffer layout.flowSequence 4)
  let id := UInt32.ofNat (headerNumber buffer layout.observationId 4)
  match sensor.getObservationId id with
  | none => pure { sensor, sets := [] }
  | some observationId => do
      let size := if context.handleIpfix then min bufferLen numEntries else bufferLen
      let (observationId, sets) ←
        dissectSets context { buffer, size } bufferLen flowSequenceNumber numEntries
          observationId layout.size
      pure { sensor := sensor.updateObservationId id observationId, sets }

def dissectNetFlow (globals : ReadOnlyGlobals) (sensor : Sensor) (buffer : Mem)
    (bufferLen : Nat) : Run Dissected :=
  if globals.sensorsInfo = false then pure { sensor, sets := [] }
  else
    let flowVersion := headerNumber buffer 0 2
    if flowVersion = 9 ∨ flowVersion = 10 then
      dissectNetflowV9V10 globals sensor buffer bufferLen
    else if flowVersion = 5 then do
      let id := (buffer 20).toUInt32 <<< 8 + (buffer 21).toUInt32
      let records ← dissectNetFlowV5 globals buffer (sensor.getObservationId id)
      pure { sensor, sets := [records] }
    else pure { sensor, sets := [] }

end F2k
