import F2k.PrintBuf
import F2k.TemplateSet

namespace F2k

open Lib

/-! Option data sets: the names that exporters teach. -/

/-- What is found in one option record. -/
structure OptionNames where
  appId : UInt64 := 0
  appName : Option Bytes := none
  selectorId : UInt64 := 0
  selectorName : Option Bytes := none
  snmpId : UInt64 := 0
  snmpName : Option Bytes := none
  snmpDescription : Option Bytes := none

/-- The elements are `APPLICATION_ID` (95), `APPLICATION_NAME` (96), `SELECTOR_ID` (302),
`SELECTOR_NAME` (335), `INPUT_SNMP` (10), `IF_NAME` (82) and `IF_DESCRIPTION` (83). -/
def OptionNames.read (names : OptionNames) (fieldId : Nat) (value : Bytes) : OptionNames :=
  match fieldId with
  | 95 => { names with appId := net2number value }
  | 96 => { names with appName := some value }
  | 302 => { names with selectorId := net2number value }
  | 335 => { names with selectorName := some value }
  | 10 => { names with snmpId := net2number value }
  | 82 => { names with snmpName := some value }
  | 83 => { names with snmpDescription := some value }
  | _ => names

/-- The fields from `cursor` on; a field that does not fit ends the whole buffer. -/
def readOptionFields (sbuffer : SizedBuffer) :
    List TemplateField → Nat → OptionNames → OptionNames × Nat
  | [], cursor, names => (names, cursor)
  | field :: rest, cursor, names =>
      let fieldLen := field.fieldLen.toNat
      if cursor + fieldLen > sbuffer.size then (names, sbuffer.size)
      else
        let value := (sbuffer.buffer.shift cursor).slice fieldLen
        readOptionFields sbuffer rest (cursor + fieldLen) (names.read field.fieldId.toNat value)

def learnApplication (names : OptionNames) (observationId : ObservationID) : ObservationID :=
  match names.appName with
  | some (first :: rest) =>
      observationId.addApplication { id := names.appId, name := first :: rest }
  | _ => observationId

def learnSelector (names : OptionNames) (observationId : ObservationID) : ObservationID :=
  match names.selectorName with
  | some (first :: rest) =>
      observationId.addSelector { id := names.selectorId, name := first :: rest }
  | _ => observationId

/-- A name or a description is enough to try, and `interface_new` asserts that it gets both. -/
def learnInterface (names : OptionNames) (observationId : ObservationID) :
    Run ObservationID :=
  let given := fun (text : Option Bytes) => (text.getD []).length > 0
  if given names.snmpName ∨ given names.snmpDescription then
    match names.snmpName, names.snmpDescription with
    | some name, some description =>
        pure (observationId.addInterface { id := names.snmpId, name, description })
    | _, _ => .error .nullInterfaceText
  else pure observationId

def learnNames (names : OptionNames) (observationId : ObservationID) : Run ObservationID :=
  learnInterface names (learnSelector names (learnApplication names observationId))

/-- `dissect_nf9_option_flow`: the observation id after one record, and the bytes of it. -/
def dissectNf9OptionFlow (template : FlowSetV9Ipfix) (sbuffer : SizedBuffer)
    (observationId : ObservationID) : Run (ObservationID × Nat) := do
  let (names, cursor) := readOptionFields sbuffer template.fields 0 {}
  let observationId ← learnNames names observationId
  pure (observationId, cursor)

/-- The loop of `dissect_option_flow_set`. -/
def dissectOptionFlows (template : FlowSetV9Ipfix) (sbuffer : SizedBuffer) :
    Nat → Nat → ObservationID → Run ObservationID
  | 0, _, _ => .error (.endlessLoop .options)
  | turns + 1, cursor, observationId =>
      if cursor < sbuffer.size then do
        let (observationId, read) ←
          dissectNf9OptionFlow template (sbuffer.after cursor) observationId
        dissectOptionFlows template sbuffer turns (cursor + read) observationId
      else pure observationId

/-- One turn more than there are bytes: a record that has bytes takes at least one. -/
def dissectOptionFlowSet (template : FlowSetV9Ipfix) (sbuffer : SizedBuffer)
    (observationId : ObservationID) : Run ObservationID :=
  dissectOptionFlows template sbuffer (sbuffer.size + 1) 0 observationId

end F2k
