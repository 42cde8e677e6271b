import F2k.ObservationID

namespace F2k

open Lib

/-! Template sets: what exporters announce, and what is stored of it. -/

/-- Bytes from a pointer on, with the size the code believes they have. -/
structure SizedBuffer where
  buffer : Mem
  size : Nat

namespace SizedBuffer

def u16 (sbuffer : SizedBuffer) (offset : Nat) : Nat :=
  beNat ((sbuffer.buffer.shift offset).slice 2)

/-- The size after an offset is a `size_t`. -/
def after (sbuffer : SizedBuffer) (offset : Nat) : SizedBuffer where
  buffer := sbuffer.buffer.shift offset
  size := (sbuffer.size + 2 ^ 64 - offset) % 2 ^ 64

end SizedBuffer

def fieldAt (sbuffer : SizedBuffer) (displ : Nat) (mask : UInt16) : TemplateField where
  fieldId := UInt16.ofNat (sbuffer.u16 displ) &&& mask
  fieldLen := UInt16.ofNat (sbuffer.u16 (displ + 2))
  v9Template := none

/-! Option templates -/

/-- Template id, number of scope fields and number of option fields. -/
structure OptionTemplateParams where
  templateId : Nat
  scopeFieldCount : Nat
  fieldCount : Nat

def dissectNf9OptionTemplateParams (sbuffer : SizedBuffer) : OptionTemplateParams where
  templateId := sbuffer.u16 0
  scopeFieldCount := sbuffer.u16 2 / 4
  fieldCount := sbuffer.u16 4 / 4

def dissectIpfixOptionTemplateParams (sbuffer : SizedBuffer) : OptionTemplateParams where
  templateId := sbuffer.u16 0
  scopeFieldCount := sbuffer.u16 4
  fieldCount := (sbuffer.u16 2 + 2 ^ 64 - sbuffer.u16 4) % 2 ^ 64

def optionTemplateHeaderSize : Nat := 6

def maxNumEntries : Nat := 4

/-- `dissect_option_template`: the template to store, when it is long enough. The number of
fields is kept in 16 bits before it is capped. -/
def dissectOptionTemplate (handleIpfix : Bool) (sbuffer : SizedBuffer) :
    Option FlowSetV9Ipfix :=
  if sbuffer.size < optionTemplateHeaderSize then none
  else
    let params :=
      if handleIpfix then dissectIpfixOptionTemplateParams sbuffer
      else dissectNf9OptionTemplateParams sbuffer
    let announced := (params.scopeFieldCount + params.fieldCount) % 2 ^ 16
    let numEntries := if announced > maxNumEntries then maxNumEntries else announced
    if sbuffer.size < optionTemplateHeaderSize + 4 * numEntries then none
    else
      some
        { templateId := UInt16.ofNat params.templateId
          isOptionTemplate := true
          fields := (List.range numEntries).map fun index =>
            fieldAt sbuffer (optionTemplateHeaderSize + 4 * index) 0xffff }

/-! Flow templates -/

/-- The fields of a flow template from `displ` on, and where they end, unless one of them is
not within the buffer. -/
def dissectTemplateFields (handleIpfix : Bool) (sbuffer : SizedBuffer) :
    Nat → Nat → Option (List TemplateField × Nat)
  | 0, displ => some ([], displ)
  | fieldCount + 1, displ =>
      let isEnterpriseSpecific := handleIpfix && sbuffer.buffer displ &&& 0x80 != 0
      let fieldLen := if isEnterpriseSpecific then 8 else 4
      if displ + fieldLen > sbuffer.size then none
      else
        (dissectTemplateFields handleIpfix sbuffer fieldCount (displ + fieldLen)).map
          fun (fields, after) => (fieldAt sbuffer displ 0x7fff :: fields, after)

def accumulatedLen (fields : List TemplateField) : Nat :=
  (fields.map fun field => if field.fieldLen = 0xffff then 0 else field.fieldLen.toNat).sum

/-- `dissect_flow_template`: the template to store, and how many bytes are done with. -/
def dissectFlowTemplate (handleIpfix : Bool) (sbuffer : SizedBuffer) :
    Option FlowSetV9Ipfix × Nat :=
  let fieldCount := sbuffer.u16 2
  if fieldCount > 128 then (none, sbuffer.size)
  else
    match dissectTemplateFields handleIpfix sbuffer fieldCount 4 with
    | none => (none, sbuffer.size)
    | some (fields, displ) =>
        if accumulatedLen fields > 1500 then (none, sbuffer.size)
        else
          let template : FlowSetV9Ipfix :=
            { templateId := UInt16.ofNat (sbuffer.u16 0), isOptionTemplate := false, fields }
          let padded := displ ≤ sbuffer.size ∧ sbuffer.size - displ < 4
          (some template, if padded then sbuffer.size else displ)

/-- The loop over the templates of a set. -/
def dissectFlowTemplates (handleIpfix : Bool) (sbuffer : SizedBuffer) :
    Nat → Nat → ObservationID → Run ObservationID
  | 0, _, _ => .error (.endlessLoop .templates)
  | turns + 1, displ, observationId =>
      if displ < sbuffer.size then
        let (template, processed) := dissectFlowTemplate handleIpfix (sbuffer.after displ)
        let observationId :=
          match template with
          | none => observationId
          | some template => observationId.saveTemplate template
        dissectFlowTemplates handleIpfix sbuffer turns (displ + processed) observationId
      else pure observationId

/-- `dissectNetFlowV9V10TemplateSet`: the second byte of the set tells the kinds apart. -/
def dissectNetFlowV9V10TemplateSet (handleIpfix : Bool) (set : SizedBuffer)
    (observationId : ObservationID) : Run ObservationID :=
  let isOptionTemplate := set.buffer 1 != 0 && !(handleIpfix && set.buffer 1 == 2)
  if isOptionTemplate then
    match dissectOptionTemplate handleIpfix (set.after 4) with
    | none => pure observationId
    | some template => pure (observationId.saveTemplate template)
  else dissectFlowTemplates handleIpfix set (set.size + 1) 4 observationId

end F2k
