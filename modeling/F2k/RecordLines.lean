import F2k.DataSet
import F2k.ExporterLines

namespace F2k

open Lib

/-! The printing of elements and of whole records, as programs on the line. -/

namespace Printing

def written : Printing Bytes :=
  fun _ => .written .result

def cut (bpos : Nat) : Printing Unit :=
  fun _ => .cut bpos (.result ())

def appendIf (condition : Prop) [Decidable condition] (text : Bytes) : Printing Unit :=
  if condition then memappendFast text else pure ()

/-! Elements -/

def printElementName (jsonElementName : Bytes) (quote : Bool) : Printing Unit := do
  let buf ← written
  appendIf (cString buf ≠ ascii "\x7b") (ascii ",")
  memappendFast (ascii "\"")
  memappendFast (cString jsonElementName)
  memappendFast (ascii "\":")
  appendIf (quote = true) (ascii "\"")

def printValue (globals : ReadOnlyGlobals) (exportFn : Option ExportFn) (buffer : Mem)
    (realFieldLen : Nat) (cache : FlowCache) : Printing Exported :=
  match exportFn with
  | none => saves cache
  | some exportFn => exported globals exportFn buffer realFieldLen cache

/-- When nothing is reported the name is taken back, and what the exporter has appended. -/
def endElement (startBpos : Nat) (quote : Bool) (value : Exported) : Printing Exported :=
  if value.returned > 0 then do
    appendIf (quote = true) (ascii "\"")
    pure { value with returned := if quote then value.returned + 2 else value.returned }
  else do
    cut startBpos
    pure value

def printElement (globals : ReadOnlyGlobals) (templateElement : Element) (buffer : Mem)
    (realFieldLen : Nat) (cache : FlowCache) : Printing Exported := do
  let startBpos ← bpos
  match templateElement.jsonElementName with
  | none => ofRun (.error .nullElementName)
  | some name => do
      printElementName name templateElement.quote
      let value ← printValue globals templateElement.exportFn buffer realFieldLen cache
      endElement startBpos templateElement.quote value

mutual

def printNetflowRecordWithTemplate (globals : ReadOnlyGlobals) :
    Element → Mem → Nat → FlowCache → Printing Exported
  | .mk templateElementId quote jsonElementName exportFn postTemplate, buffer, realFieldLen,
      cache => do
      let element := .mk templateElementId quote jsonElementName exportFn postTemplate
      let own ← printElement globals element buffer realFieldLen cache
      let cache ← printPostTemplate globals postTemplate buffer realFieldLen own.cache
      pure { own with cache }

def printPostTemplate (globals : ReadOnlyGlobals) :
    List Element → Mem → Nat → FlowCache → Printing FlowCache
  | [], _, _, cache => pure cache
  | element :: rest, buffer, realFieldLen, cache => do
      let printed ← printNetflowRecordWithTemplate globals element buffer realFieldLen cache
      printPostTemplate globals rest buffer realFieldLen printed.cache

end

/-! Records -/

def startRecord (globals : ReadOnlyGlobals) (flowVersion : Nat) (flowSequenceNumber : UInt32)
    (cache : FlowCache) : Printing FlowCache := do
  memappendFast (ascii "\x7b")
  let printed ←
    printNetflowRecordWithTemplate globals redborderType (.ofBytes (toBe 2 flowVersion)) 2 cache
  let printed ←
    printNetflowRecordWithTemplate globals flowSequence
      (.ofBytes (toBe 4 flowSequenceNumber.toNat)) 4 printed.cache
  pure printed.cache

def normalizeDirection (globals : ReadOnlyGlobals) (cache : FlowCache) : Printing FlowCache :=
  if globals.normalizeDirections then do
    let cache ← ofRun (guessDirection cache)
    printPostTemplate globals postTemplates (fun _ => 0) 0 cache
  else pure cache

def printSensorEnrichment (cache : FlowCache) : Printing Unit :=
  match cache.observationId.enrichment with
  | some enrichment => do
      let _ ← memappendFastString (ascii ",")
      let _ ← memappendFastString enrichment
      pure ()
  | none => pure ()

/-- What follows the fields of a record, up to `time_split_flow`. -/
def finishRecord (globals : ReadOnlyGlobals) (cache : FlowCache) : Printing FlowCache := do
  let printed ← printNetflowRecordWithTemplate globals host (fun _ => 0) 0 cache
  let printed ← printNetflowRecordWithTemplate globals referer (fun _ => 0) 0 printed.cache
  let cache ← normalizeDirection globals printed.cache
  printSensorEnrichment cache
  pure cache

def dissectNetFlowV5Field (globals : ReadOnlyGlobals) (the5Record : Mem) (flowIdx : Nat)
    (element : Element) (cache : FlowCache) : Printing FlowCache :=
  match v5Place flowIdx element.templateElementId.toNat with
  | none => pure cache
  | some (place, realFieldLen) => do
      let startBpos ← bpos
      let printed ←
        printNetflowRecordWithTemplate globals element (the5Record.shift place) realFieldLen cache
      if printed.returned = 0 then cut startBpos else pure ()
      pure printed.cache

def dissectNetFlowV5Fields (globals : ReadOnlyGlobals) (the5Record : Mem) (flowIdx : Nat) :
    List Element → FlowCache → Printing FlowCache
  | [], cache => pure cache
  | element :: rest, cache => do
      let cache ← dissectNetFlowV5Field globals the5Record flowIdx element cache
      dissectNetFlowV5Fields globals the5Record flowIdx rest cache

def dissectNetFlowV5Record (globals : ReadOnlyGlobals) (the5Record : Mem) (flowIdx : Nat)
    (observationId : ObservationID) : Printing FlowCache := do
  let flowSequenceNumber :=
    UInt32.ofNat (headerNumber the5Record 16 4) + UInt32.ofNat flowIdx
  let cache ←
    startRecord globals (headerNumber the5Record 0 2) flowSequenceNumber { observationId }
  let cache ←
    dissectNetFlowV5Fields globals the5Record flowIdx v5TemplateFields
      (withHeaderTimes false the5Record cache)
  finishRecord globals cache

def dissectFields (context : PacketContext) (buffer : Mem) (endFlow : Nat) :
    List TemplateField → Nat → FlowCache → Printing FlowCache
  | [], _, cache => pure cache
  | field :: rest, displ, cache =>
      if displ < endFlow then do
        let (offset, realFieldLen) :=
          fieldExtent context.handleIpfix field.fieldLen (buffer.shift displ)
        let cache ←
          match field.v9Template with
          | some element => do
              let printed ←
                printNetflowRecordWithTemplate context.globals element
                  (buffer.shift (displ + offset)) realFieldLen cache
              pure printed.cache
          | none => pure cache
        dissectFields context buffer endFlow rest (displ + (realFieldLen + offset)) cache
      else pure cache

def dissectRecord (context : PacketContext) (template : FlowSetV9Ipfix) (buffer : Mem)
    (endFlow : Nat) (observationId : ObservationID) (flowSequenceNumber : UInt16)
    (displ : Nat) : Printing FlowCache := do
  let cache := withHeaderTimes context.handleIpfix context.flowHeader { observationId }
  let cache ←
    startRecord context.globals context.flowVersion flowSequenceNumber.toUInt32 cache
  let cache ← dissectFields context buffer endFlow template.fields displ cache
  finishRecord context.globals cache

/-! Messages -/

def printUInt64 (globals : ReadOnlyGlobals) (element : Element) (value : UInt64)
    (cache : FlowCache) : Printing Unit := do
  let _ ←
    printNetflowRecordWithTemplate globals element (.ofBytes (toBe 8 value.toNat)) 8 cache
  pure ()

def printCounts (globals : ReadOnlyGlobals) (bytes pkts : UInt64) (cache : FlowCache) :
    Printing Unit := do
  printUInt64 globals printInBytes bytes cache
  printUInt64 globals printInPkts pkts cache

def printTimestamp (globals : ReadOnlyGlobals) (timestamp : UInt64) : Printing Unit := do
  printUInt64 globals printLastSwitched timestamp noFlowCache
  memappendFast (ascii "\x7d")

def printWholeFlow (globals : ReadOnlyGlobals) (firstTimestamp dSwitched bytes pkts : UInt64)
    (cache : FlowCache) : Printing Unit := do
  printUInt64 globals printFirstSwitched firstTimestamp cache
  printUInt64 globals printLastSwitched (firstTimestamp + dSwitched) cache
  printCounts globals bytes pkts cache
  memappendFast (ascii "\x7d")

end Printing

end F2k
