import F2k.Datagrams
import F2k.ExportingProcess
import F2k.Lib.Layouts

namespace F2k

open Lib

/-! NetFlow V5 datagrams as exporters fill them in, and that every record is printed from the
values it was filled with. -/

/-- `struct flow_ver5_hdr`, without the version. -/
structure FlowVer5Hdr where
  count : UInt16
  sysUptime : UInt32
  unixSecs : UInt32
  unixNsecs : UInt32
  flowSequence : UInt32
  engineType : UInt8
  engineId : UInt8
  sampleRate : UInt16

/-- `struct flow_ver5_rec` -/
structure FlowVer5Rec where
  srcaddr : UInt32
  dstaddr : UInt32
  nexthop : UInt32
  input : UInt16
  output : UInt16
  dPkts : UInt32
  dOctets : UInt32
  first : UInt32
  last : UInt32
  srcport : UInt16
  dstport : UInt16
  pad1 : UInt8
  tcpFlags : UInt8
  proto : UInt8
  tos : UInt8
  srcAs : UInt16
  dstAs : UInt16
  srcMask : UInt8
  dstMask : UInt8
  pad2 : UInt16

def FlowVer5Hdr.fields (header : FlowVer5Hdr) : List (Nat × Nat) :=
  [(2, 5), (2, header.count.toNat), (4, header.sysUptime.toNat), (4, header.unixSecs.toNat),
    (4, header.unixNsecs.toNat), (4, header.flowSequence.toNat), (1, header.engineType.toNat),
    (1, header.engineId.toNat), (2, header.sampleRate.toNat)]

def FlowVer5Rec.fields (record : FlowVer5Rec) : List (Nat × Nat) :=
  [(4, record.srcaddr.toNat), (4, record.dstaddr.toNat), (4, record.nexthop.toNat),
    (2, record.input.toNat), (2, record.output.toNat), (4, record.dPkts.toNat),
    (4, record.dOctets.toNat), (4, record.first.toNat), (4, record.last.toNat),
    (2, record.srcport.toNat), (2, record.dstport.toNat), (1, record.pad1.toNat),
    (1, record.tcpFlags.toNat), (1, record.proto.toNat), (1, record.tos.toNat),
    (2, record.srcAs.toNat), (2, record.dstAs.toNat), (1, record.srcMask.toNat),
    (1, record.dstMask.toNat), (2, record.pad2.toNat)]

def FlowVer5Rec.bytes (record : FlowVer5Rec) : Bytes :=
  packedBytes record.fields

def v5DatagramBytes (header : FlowVer5Hdr) (records : List FlowVer5Rec) : Bytes :=
  packedBytes header.fields ++ records.flatMap FlowVer5Rec.bytes

/-! What is meant -/

/-- The value of an information element, if a V5 record has it: nothing of the padding, the
autonomous systems, the masks and the sampling rate. -/
def v5Value (header : FlowVer5Hdr) (record : FlowVer5Rec) (templateElementId : Nat) :
    Option Bytes :=
  match templateElementId with
  | 12 => some (toBe 4 record.dstaddr.toNat)
  | 8 => some (toBe 4 record.srcaddr.toNat)
  | 2 => some (toBe 4 record.dPkts.toNat)
  | 1 => some (toBe 4 record.dOctets.toNat)
  | 22 => some (toBe 4 record.first.toNat)
  | 21 => some (toBe 4 record.last.toNat)
  | 7 => some (toBe 2 record.srcport.toNat)
  | 11 => some (toBe 2 record.dstport.toNat)
  | 10 => some (toBe 2 record.input.toNat)
  | 14 => some (toBe 2 record.output.toNat)
  | 39 => some (toBe 1 header.engineId.toNat)
  | 38 => some (toBe 1 header.engineType.toNat)
  | 15 => some (toBe 4 record.nexthop.toNat)
  | 5 => some (toBe 1 record.tos.toNat)
  | 4 => some (toBe 1 record.proto.toNat)
  | 6 => some (toBe 1 record.tcpFlags.toNat)
  | _ => none

section Meaning

variable (globals : ReadOnlyGlobals) (header : FlowVer5Hdr)

def FlowVer5Hdr.withTimes (cache : FlowCache) : FlowCache :=
  { cache with
    time :=
      { cache.time with
        sysUptimeS := UInt64.ofNat (header.sysUptime.toNat / 1000)
        exportTimestampS := UInt64.ofNat header.unixSecs.toNat } }

def meantV5Field (record : FlowVer5Rec) (line : Bytes) (element : Element) (cache : FlowCache) :
    Run LineState :=
  match v5Value header record element.templateElementId.toNat with
  | none => pure { line, cache, valueRet := 0 }
  | some value => do
      let printed ← printValue globals line cache (some element) value
      if printed.valueRet = 0 then pure { printed with line } else pure printed

def meantV5Fields (record : FlowVer5Rec) :
    List Element → Bytes → FlowCache → Run LineState
  | [], line, cache => pure { line, cache, valueRet := 0 }
  | element :: rest, line, cache => do
      let printed ← meantV5Field globals header record line element cache
      meantV5Fields record rest printed.line printed.cache

def meantV5Record (observationId : ObservationID) (flowIdx : Nat) (record : FlowVer5Rec) :
    Run FlowRecord := do
  let flowSequenceNumber := header.flowSequence + UInt32.ofNat flowIdx
  let started ← startRecord globals 5 flowSequenceNumber { observationId }
  let printed ← meantV5Fields globals header record v5TemplateFields started.line
    (header.withTimes started.cache)
  let messages ← finishRecord globals printed.line printed.cache
  pure { flowSequence := flowSequenceNumber, messages }

def meantV5Records (observationId : ObservationID) :
    Nat → List FlowVer5Rec → Run (List FlowRecord)
  | _, [] => pure []
  | flowIdx, record :: rest => do
      let printed ← meantV5Record globals header observationId flowIdx record
      let more ← meantV5Records observationId (flowIdx + 1) rest
      pure (printed :: more)

end Meaning

/-! The values are read where they stand -/

def v5HeaderWidths : List Nat := [2, 2, 4, 4, 4, 4, 1, 1, 2]

def v5RecordWidths : List Nat := [4, 4, 4, 2, 2, 4, 4, 4, 4, 2, 2, 1, 1, 1, 1, 2, 2, 1, 1, 2]

theorem FlowVer5Hdr.widths (header : FlowVer5Hdr) : header.fields.map Prod.fst = v5HeaderWidths :=
  rfl

theorem FlowVer5Rec.widths (record : FlowVer5Rec) : record.fields.map Prod.fst = v5RecordWidths :=
  rfl

theorem FlowVer5Hdr.length_bytes (header : FlowVer5Hdr) :
    (packedBytes header.fields).length = v5HeaderSize := by
  rw [length_packedBytes, packedLength, widths]
  decide

theorem FlowVer5Rec.length_bytes (record : FlowVer5Rec) : record.bytes.length = v5RecordSize := by
  rw [bytes, length_packedBytes, packedLength, widths]
  decide

section Reading

variable {the5Record : Mem} {header : FlowVer5Hdr} {records : List FlowVer5Rec}
  (starts : the5Record.StartsWith (v5DatagramBytes header records))

include starts

theorem slice_v5Header (index : Nat) {offset width number : Nat}
    (found : header.fields[index]? = some (width, number))
    (before : (v5HeaderWidths.take index).sum = offset) :
    (the5Record.shift offset).slice width = toBe width number := by
  rw [v5DatagramBytes, Mem.startsWith_append] at starts
  rw [← before, ← header.widths]
  exact Mem.slice_packed starts.1 found

theorem headerNumber_v5 (index : Nat) {offset width number : Nat}
    (found : header.fields[index]? = some (width, number))
    (before : (v5HeaderWidths.take index).sum = offset) (fits : number < 256 ^ width) :
    headerNumber the5Record offset width = number := by
  rw [headerNumber, slice_v5Header starts index found before, beNat_toBe, Nat.mod_eq_of_lt fits]

theorem slice_v5Record {flowIdx : Nat} {record : FlowVer5Rec}
    (present : records[flowIdx]? = some record) (index : Nat) {offset width number : Nat}
    (found : record.fields[index]? = some (width, number))
    (before : (v5RecordWidths.take index).sum = offset) :
    (the5Record.shift (v5HeaderSize + v5RecordSize * flowIdx + offset)).slice width =
      toBe width number := by
  rw [v5DatagramBytes, Mem.startsWith_append, header.length_bytes] at starts
  have there := Mem.startsWith_record FlowVer5Rec.length_bytes starts.2 present
  rw [Mem.shift_shift] at there
  rw [← before, ← record.widths, ← Mem.shift_shift]
  exact Mem.slice_packed there found

theorem v5Value_of_place {flowIdx : Nat} {record : FlowVer5Rec}
    (present : records[flowIdx]? = some record) {templateElementId place length : Nat}
    (found : v5Place flowIdx templateElementId = some (place, length)) :
    v5Value header record templateElementId = some ((the5Record.shift place).slice length) := by
  have ofRecord (index : Nat) {offset width number : Nat} :=
    @slice_v5Record the5Record header records starts flowIdx record present index offset width
      number
  have ofHeader (index : Nat) {offset width number : Nat} :=
    @slice_v5Header the5Record header records starts index offset width number
  unfold v5Place at found
  split at found
  case h_17 => contradiction
  all_goals obtain ⟨rfl, rfl⟩ := Prod.mk.inj (Option.some.inj found)
  · exact congrArg some (ofRecord 1 rfl rfl).symm
  · exact congrArg some (ofRecord 0 rfl rfl).symm
  · exact congrArg some (ofRecord 5 rfl rfl).symm
  · exact congrArg some (ofRecord 6 rfl rfl).symm
  · exact congrArg some (ofRecord 7 rfl rfl).symm
  · exact congrArg some (ofRecord 8 rfl rfl).symm
  · exact congrArg some (ofRecord 9 rfl rfl).symm
  · exact congrArg some (ofRecord 10 rfl rfl).symm
  · exact congrArg some (ofRecord 3 rfl rfl).symm
  · exact congrArg some (ofRecord 4 rfl rfl).symm
  · exact congrArg some (ofHeader 7 rfl rfl).symm
  · exact congrArg some (ofHeader 6 rfl rfl).symm
  · exact congrArg some (ofRecord 2 rfl rfl).symm
  · exact congrArg some (ofRecord 14 rfl rfl).symm
  · exact congrArg some (ofRecord 13 rfl rfl).symm
  · exact congrArg some (ofRecord 12 rfl rfl).symm

end Reading

theorem v5Value_of_no_place {flowIdx templateElementId : Nat}
    (missing : v5Place flowIdx templateElementId = none) (header : FlowVer5Hdr)
    (record : FlowVer5Rec) : v5Value header record templateElementId = none := by
  unfold v5Value
  split
  case h_17 => rfl
  all_goals cases missing

theorem v5Place_pos {flowIdx templateElementId place length : Nat}
    (found : v5Place flowIdx templateElementId = some (place, length)) : 0 < length := by
  unfold v5Place at found
  split at found
  case h_17 => contradiction
  all_goals
    obtain ⟨_, rfl⟩ := Prod.mk.inj (Option.some.inj found)
    decide

section Records

variable {the5Record : Mem} {header : FlowVer5Hdr} {records : List FlowVer5Rec}
  (starts : the5Record.StartsWith (v5DatagramBytes header records)) (globals : ReadOnlyGlobals)

include starts

theorem dissectNetFlowV5Field_eq {flowIdx : Nat} {record : FlowVer5Rec}
    (present : records[flowIdx]? = some record) (line : Bytes) (element : Element)
    (cache : FlowCache) :
    dissectNetFlowV5Field globals the5Record flowIdx line element cache =
      meantV5Field globals header record line element cache := by
  unfold dissectNetFlowV5Field meantV5Field
  cases place : v5Place flowIdx element.templateElementId.toNat with
  | none =>
      rw [v5Value_of_no_place place]
  | some extent =>
      obtain ⟨start, length⟩ := extent
      have value := v5Value_of_place starts present place
      have printed := @FieldPlace.print_eq_printValue the5Record
        { field := { fieldId := 0, fieldLen := 0, v9Template := some element }
          place := start
          length }
        (readsValue_of_ne_nil (List.ne_nil_of_length_pos (by
          rw [FieldPlace.bytes, Mem.length_slice]
          exact v5Place_pos place))) globals line cache
      rw [value]
      change printNetflowRecordWithTemplate globals line element (the5Record.shift start) length
        cache = _ at printed
      simp only [printed]
      rfl

theorem dissectNetFlowV5Fields_eq {flowIdx : Nat} {record : FlowVer5Rec}
    (present : records[flowIdx]? = some record) (elements : List Element) (line : Bytes)
    (cache : FlowCache) :
    dissectNetFlowV5Fields globals the5Record flowIdx elements line cache =
      meantV5Fields globals header record elements line cache := by
  induction elements generalizing line cache with
  | nil => rfl
  | cons element rest ih =>
      rw [dissectNetFlowV5Fields, meantV5Fields, dissectNetFlowV5Field_eq starts globals present]
      congr 1
      funext printed
      exact ih printed.line printed.cache

theorem dissectNetFlowV5Record_eq {flowIdx : Nat} {record : FlowVer5Rec}
    (present : records[flowIdx]? = some record) (observationId : ObservationID) :
    dissectNetFlowV5Record globals the5Record flowIdx observationId =
      meantV5Record globals header observationId flowIdx record := by
  have version : headerNumber the5Record 0 2 = 5 :=
    headerNumber_v5 starts 0 rfl rfl (by decide)
  have sequence : headerNumber the5Record 16 4 = header.flowSequence.toNat :=
    headerNumber_v5 starts 5 rfl rfl header.flowSequence.toNat_lt
  have sysUptime : headerNumber the5Record 4 4 = header.sysUptime.toNat :=
    headerNumber_v5 starts 2 rfl rfl header.sysUptime.toNat_lt
  have unixSecs : headerNumber the5Record 8 4 = header.unixSecs.toNat :=
    headerNumber_v5 starts 3 rfl rfl header.unixSecs.toNat_lt
  have times (cache : FlowCache) : withHeaderTimes false the5Record cache =
      header.withTimes cache := by
    simp only [withHeaderTimes, Bool.false_eq_true, if_false, sysUptime, unixSecs]
    rfl
  rw [dissectNetFlowV5Record, meantV5Record, version, sequence, UInt32.ofNat_toNat]
  refine congrArg _ (funext fun started => ?_)
  simp only [times, dissectNetFlowV5Fields_eq starts globals present]

theorem dissectNetFlowV5Records_eq (observationId : ObservationID) {count flowIdx : Nat}
    (enough : flowIdx + count ≤ records.length) :
    dissectNetFlowV5Records globals the5Record observationId count flowIdx =
      meantV5Records globals header observationId flowIdx
        ((records.drop flowIdx).take count) := by
  induction count generalizing flowIdx with
  | zero =>
      rw [List.take_zero]
      rfl
  | succ count ih =>
      have inside : flowIdx < records.length := by omega
      have present : records[flowIdx]? = some records[flowIdx] := List.getElem?_eq_getElem inside
      rw [List.drop_eq_getElem_cons inside, List.take_succ_cons, dissectNetFlowV5Records,
        meantV5Records, dissectNetFlowV5Record_eq starts globals present]
      congr 1
      funext printed
      rw [ih (by omega)]

end Records

/-- The observation id of a V5 exporter is made of its engine. -/
def FlowVer5Hdr.observationId (header : FlowVer5Hdr) : UInt32 :=
  header.engineType.toUInt32 <<< 8 + header.engineId.toUInt32

theorem byte_of_slice {memory : Mem} {place : Nat} {byte : UInt8}
    (read : (memory.shift place).slice 1 = toBe 1 byte.toNat) : memory place = byte := by
  have first := congrArg List.head? read
  simpa [Mem.slice_succ, toBe] using first

section Datagrams

variable {received : Received} {header : FlowVer5Hdr} {records : List FlowVer5Rec}
  (starts : received.buffer.StartsWith (v5DatagramBytes header records))

include starts

theorem dissectReceived_v5Datagram (active : received.globals.sensorsInfo = true)
    (sensor : Sensor) :
    dissectReceived sensor received =
      (dissectNetFlowV5 received.globals received.buffer
        (sensor.getObservationId header.observationId)).map fun printed => (sensor, printed) := by
  have version : headerNumber received.buffer 0 2 = 5 :=
    headerNumber_v5 starts 0 rfl rfl (by decide)
  have engine : received.v5ObservationId = header.observationId := by
    have engineType : received.buffer 20 = header.engineType :=
      byte_of_slice (slice_v5Header starts 6 rfl rfl)
    have engineId : received.buffer 21 = header.engineId :=
      byte_of_slice (slice_v5Header starts 7 rfl rfl)
    rw [Received.v5ObservationId, engineType, engineId]
    rfl
  rw [dissectReceived_v5 active version, engine]

theorem dissectNetFlowV5_eq (enough : min header.count.toNat v5FlowsPerPak ≤ records.length)
    (globals : ReadOnlyGlobals) (observationId : ObservationID) :
    dissectNetFlowV5 globals received.buffer (some observationId) =
      meantV5Records globals header observationId 0
        (records.take (min header.count.toNat v5FlowsPerPak)) := by
  have count : headerNumber received.buffer 2 2 = header.count.toNat :=
    headerNumber_v5 starts 1 rfl rfl header.count.toNat_lt
  have ran := dissectNetFlowV5Records_eq starts globals observationId
    (show 0 + min header.count.toNat v5FlowsPerPak ≤ records.length by omega)
  rw [dissectNetFlowV5, v5NumFlows, count, ran, List.drop_zero]

end Datagrams

/-- A V5 datagram is dissected to the records that it was filled with, as many as the header
announces but thirty at most, each printed from its values and numbered from the sequence of the
header on. -/
theorem dissectReceived_v5_means {received : Received} {header : FlowVer5Hdr}
    {records : List FlowVer5Rec} (active : received.globals.sensorsInfo = true)
    (starts : received.buffer.StartsWith (v5DatagramBytes header records))
    (enough : min header.count.toNat v5FlowsPerPak ≤ records.length) {sensor : Sensor}
    {observationId : ObservationID}
    (known : sensor.getObservationId header.observationId = some observationId) :
    dissectReceived sensor received =
      (meantV5Records received.globals header observationId 0
        (records.take (min header.count.toNat v5FlowsPerPak))).map fun printed =>
          (sensor, printed) := by
  rw [dissectReceived_v5Datagram starts active, known, dissectNetFlowV5_eq starts enough]

/-- Two records of engine 7. -/
def engine7Header : FlowVer5Hdr where
  count := 2
  sysUptime := 5000000
  unixSecs := 1000000
  unixNsecs := 0
  flowSequence := 41
  engineType := 0
  engineId := 7
  sampleRate := 0

def exampleRec (srcport : UInt16) : FlowVer5Rec where
  srcaddr := 167772161
  dstaddr := 167772162
  nexthop := 0
  input := 1
  output := 2
  dPkts := 3
  dOctets := 400
  first := 4999000
  last := 5000000
  srcport := srcport
  dstport := 80
  pad1 := 255
  tcpFlags := 24
  proto := 6
  tos := 0
  srcAs := 64512
  dstAs := 64513
  srcMask := 24
  dstMask := 24
  pad2 := 65535

/-- Behind them is a record that the header does not count. -/
def engine7Received : Received where
  globals := splittingGlobals
  buffer := .ofBytes (v5DatagramBytes engine7Header [exampleRec 1024, exampleRec 1025, exampleRec 0])
  bufferLen := 168

theorem dissectReceived_v5_means_engine7 :
    dissectReceived (sensorOf (.new 7)) engine7Received =
        (meantV5Records splittingGlobals engine7Header (.new 7) 0
          [exampleRec 1024, exampleRec 1025]).map (fun printed => (sensorOf (.new 7), printed)) ∧
      (dissectReceived (sensorOf (.new 7)) engine7Received).map
        (fun result => result.2.map FlowRecord.flowSequence) = .ok [41, 42] := by
  refine ⟨?_, by decide +kernel⟩
  exact @dissectReceived_v5_means engine7Received engine7Header
    [exampleRec 1024, exampleRec 1025, exampleRec 0] rfl (Mem.startsWith_ofBytes _) (by decide)
    (sensorOf (.new 7)) (.new 7) rfl

end F2k
