import F2k.Encode
import F2k.FlowSequence
import F2k.Reads

namespace F2k

open Lib

/-! Data sets as exporters write them, and that the dissected records are the written ones. -/

/-- How the value of a field is written: as it is when the template says its length, after one
or three bytes of length otherwise. -/
inductive EncodesField (handleIpfix : Bool) (fieldLen : UInt16) : Bytes → Bytes → Prop
  | fixed (value : Bytes) (declared : ¬(handleIpfix ∧ fieldLen = 65535))
      (length : value.length = fieldLen.toNat) : EncodesField handleIpfix fieldLen value value
  | short (value : Bytes) (varies : handleIpfix ∧ fieldLen = 65535)
      (small : value.length < 255) :
      EncodesField handleIpfix fieldLen value (toBe 1 value.length ++ value)
  | long (value : Bytes) (varies : handleIpfix ∧ fieldLen = 65535)
      (small : value.length < 65536) :
      EncodesField handleIpfix fieldLen value (255 :: toBe 2 value.length ++ value)

inductive EncodesRecord (handleIpfix : Bool) :
    List TemplateField → List Bytes → Bytes → Prop
  | nil : EncodesRecord handleIpfix [] [] []
  | cons {field : TemplateField} {rest : List TemplateField} {value bytes restBytes : Bytes}
      {values : List Bytes} (first : EncodesField handleIpfix field.fieldLen value bytes)
      (more : EncodesRecord handleIpfix rest values restBytes) :
      EncodesRecord handleIpfix (field :: rest) (value :: values) (bytes ++ restBytes)

/-- A record that conforms to a template, with the bytes it is written as. -/
structure EncodedRecord (handleIpfix : Bool) (fields : List TemplateField) where
  values : List Bytes
  bytes : Bytes
  encodes : EncodesRecord handleIpfix fields values bytes

structure EncodedSet (handleIpfix : Bool) (fields : List TemplateField) where
  records : List (EncodedRecord handleIpfix fields)
  padding : Bytes

def recordsBytes {handleIpfix : Bool} {fields : List TemplateField}
    (records : List (EncodedRecord handleIpfix fields)) : Bytes :=
  records.flatMap EncodedRecord.bytes

def EncodedSet.body {handleIpfix : Bool} {fields : List TemplateField}
    (set : EncodedSet handleIpfix fields) : Bytes :=
  recordsBytes set.records ++ set.padding

def HasBytes (fields : List TemplateField) : Prop :=
  ∃ field ∈ fields, field.fieldLen ≠ 0

def EndsWithBytes (fields : List TemplateField) : Prop :=
  ∀ last ∈ fields.getLast?, last.fieldLen ≠ 0

section

variable {handleIpfix : Bool}

theorem EncodesField.nonempty {fieldLen : UInt16} {value bytes : Bytes}
    (encodes : EncodesField handleIpfix fieldLen value bytes) (some : fieldLen ≠ 0) :
    0 < bytes.length := by
  cases encodes with
  | fixed declared length =>
      rw [length]
      apply Nat.pos_of_ne_zero
      intro zero
      exact some (UInt16.toNat_inj.mp zero)
  | short _ small => simp [toBe]
  | long _ small => simp [toBe]

theorem EncodesRecord.nonempty {fields : List TemplateField} {values : List Bytes}
    {bytes : Bytes} (encodes : EncodesRecord handleIpfix fields values bytes)
    (some : HasBytes fields) : 0 < bytes.length := by
  induction encodes with
  | nil =>
      obtain ⟨field, member, _⟩ := some
      contradiction
  | cons first more ih =>
      rw [List.length_append]
      obtain ⟨field, member, nonzero⟩ := some
      rcases List.mem_cons.mp member with rfl | inRest
      · have := first.nonempty nonzero
        omega
      · have := ih ⟨field, inRest, nonzero⟩
        omega

theorem EndsWithBytes.hasBytes {fields : List TemplateField} (ends : EndsWithBytes fields)
    (some : fields ≠ []) : HasBytes fields :=
  ⟨fields.getLast some, List.getLast_mem some,
    ends _ (by rw [List.getLast?_eq_getLast_of_ne_nil some]; rfl)⟩

theorem EncodesField.read {fieldLen : UInt16} {value bytes : Bytes} {memory : Mem}
    (encodes : EncodesField handleIpfix fieldLen value bytes)
    (starts : memory.StartsWith bytes) :
    ∃ offset, fieldExtent handleIpfix fieldLen memory = (offset, value.length) ∧
      (memory.shift offset).StartsWith value ∧ bytes.length = offset + value.length := by
  cases encodes with
  | fixed declared length =>
      refine ⟨0, ?_, by simpa using starts, by omega⟩
      rw [fieldExtent, if_neg declared, length]
  | short varies small =>
      obtain ⟨lengthByte, contents⟩ := Mem.startsWith_append.mp starts
      have first : (memory 0).toNat = value.length := by
        have byte : memory 0 = UInt8.ofNat value.length := by
          have head := congrArg List.head? lengthByte
          simpa [Mem.StartsWith, Mem.slice_succ, toBe] using head
        rw [byte, UInt8.toNat_ofNat']
        omega
      refine ⟨1, ?_, contents, by simp⟩
      rw [fieldExtent, if_pos varies, if_pos (by omega), first]
  | long varies small =>
      have split : 255 :: toBe 2 value.length ++ value =
          [255] ++ (toBe 2 value.length ++ value) := rfl
      rw [split, Mem.startsWith_append, Mem.startsWith_append] at starts
      obtain ⟨escape, lengthBytes, contents⟩ := starts
      have first : memory 0 = 255 := by
        have head := congrArg List.head? escape
        simpa [Mem.StartsWith, Mem.slice_succ] using head
      have second : (memory.shift 1).slice 2 = toBe 2 value.length := by
        simpa [Mem.StartsWith] using lengthBytes
      refine ⟨3, ?_, ?_, ?_⟩
      · rw [fieldExtent, if_pos varies, if_neg (by rw [first]; decide), second, beNat_toBe,
          Nat.mod_eq_of_lt (by omega)]
      · simpa using contents
      · simp only [List.length_append, List.length_cons, length_toBe]

section Parse

variable {buffer : Mem} {endFlow : Nat}

/-- The parts of a record that are read: each field with the bytes of its value. -/
def readFields (buffer : Mem) (places : List FieldPlace) : List (TemplateField × Bytes) :=
  places.map fun place => (place.field, place.bytes buffer)

/-- The fields of a record are read as they were written, when each of them starts before the
end of the set. -/
theorem EncodesRecord.read {fields : List TemplateField} {values : List Bytes} {bytes : Bytes}
    {displ : Nat} (encodes : EncodesRecord handleIpfix fields values bytes)
    (starts : (buffer.shift displ).StartsWith bytes)
    (room : displ + bytes.length < endFlow ∨
      (displ + bytes.length ≤ endFlow ∧ EndsWithBytes fields)) :
    ∃ places, fieldPlaces handleIpfix buffer endFlow fields displ =
        (places, displ + bytes.length) ∧
      readFields buffer places = fields.zip values := by
  induction encodes generalizing displ with
  | nil => exact ⟨[], rfl, rfl⟩
  | @cons field rest value bytes restBytes values first more ih =>
      obtain ⟨firstStarts, restStarts⟩ := Mem.startsWith_append.mp starts
      obtain ⟨offset, extent, contents, length⟩ := first.read firstStarts
      rw [Mem.shift_shift] at contents restStarts
      rw [List.length_append] at room
      have inside : displ < endFlow := by
        rcases room with beyond | ⟨upTo, ends⟩
        · omega
        · have some := (EncodesRecord.cons first more).nonempty (ends.hasBytes (by simp))
          rw [List.length_append] at some
          omega
      have restRoom : displ + bytes.length + restBytes.length < endFlow ∨
          (displ + bytes.length + restBytes.length ≤ endFlow ∧ EndsWithBytes rest) := by
        rcases room with beyond | ⟨upTo, ends⟩
        · exact .inl (by omega)
        · refine .inr ⟨by omega, ?_⟩
          intro last member
          cases rest with
          | nil => contradiction
          | cons next later => exact ends last (by rwa [List.getLast?_cons_cons])
      obtain ⟨places, parsed, read⟩ := ih restStarts restRoom
      refine ⟨{ field, place := displ + offset, length := value.length } :: places, ?_, ?_⟩
      · have next : displ + (value.length + offset) = displ + bytes.length := by omega
        simp only [fieldPlaces, if_pos inside, extent, next, parsed, List.length_append,
          Nat.add_assoc]
      · rw [readFields, List.map_cons, List.zip_cons_cons, ← read]
        congr 2

end Parse

section Set

variable {fields : List TemplateField}

/-- The last record and the padding are four bytes at least. -/
def EndsLong (records : List (EncodedRecord handleIpfix fields)) (padding : Bytes) : Prop :=
  ∀ last ∈ records.getLast?, 4 ≤ last.bytes.length + padding.length

theorem EndsLong.four_le {records : List (EncodedRecord handleIpfix fields)} {padding : Bytes}
    (long : EndsLong records padding) (some : records ≠ []) :
    4 ≤ (recordsBytes records).length + padding.length := by
  induction records with
  | nil => contradiction
  | cons record rest ih =>
      rw [recordsBytes, List.flatMap_cons, List.length_append]
      cases rest with
      | nil =>
          have last := long record rfl
          simp only [List.flatMap_nil, List.length_nil]
          omega
      | cons next later =>
          have rest := ih (fun last member => long last (by rwa [List.getLast?_cons_cons]))
            (List.cons_ne_nil _ _)
          rw [recordsBytes] at rest
          omega

theorem EndsLong.tail {record : EncodedRecord handleIpfix fields}
    {rest : List (EncodedRecord handleIpfix fields)} {padding : Bytes}
    (long : EndsLong (record :: rest) padding) : EndsLong rest padding := by
  intro last member
  cases rest with
  | nil => contradiction
  | cons next later => exact long last (by rwa [List.getLast?_cons_cons])

theorem recordPlaces_encoded {buffer : Mem} {padding : Bytes} {endFlow turns displ : Nat}
    {records : List (EncodedRecord handleIpfix fields)}
    (some : HasBytes fields) (short : padding.length < 4) (long : EndsLong records padding)
    (last : padding ≠ [] ∨ EndsWithBytes fields)
    (starts : (buffer.shift displ).StartsWith (recordsBytes records ++ padding))
    (ends : endFlow = displ + (recordsBytes records ++ padding).length)
    (enough : endFlow < turns + displ) :
    ∃ places, recordPlaces handleIpfix fields buffer endFlow turns displ = .some places ∧
      places.map (readFields buffer) = records.map fun record => fields.zip record.values := by
  induction records generalizing turns displ with
  | nil =>
      rw [recordsBytes, List.flatMap_nil, List.nil_append] at ends
      obtain ⟨more, rfl⟩ : ∃ more, turns = more + 1 := ⟨turns - 1, by omega⟩
      exact ⟨[], by rw [recordPlaces, if_neg (by omega)], rfl⟩
  | cons record rest ih =>
      have four := long.four_le (List.cons_ne_nil _ _)
      have split : recordsBytes (record :: rest) ++ padding =
          record.bytes ++ (recordsBytes rest ++ padding) := by
        rw [recordsBytes, List.flatMap_cons, List.append_assoc]
        rfl
      rw [← List.length_append] at four
      rw [split] at starts ends four
      obtain ⟨recordStarts, restStarts⟩ := Mem.startsWith_append.mp starts
      rw [Mem.shift_shift] at restStarts
      rw [List.length_append] at ends four
      have progress := record.encodes.nonempty some
      have room : displ + record.bytes.length < endFlow ∨
          (displ + record.bytes.length ≤ endFlow ∧ EndsWithBytes fields) := by
        rcases last with padded | withBytes
        · have := List.length_pos_of_ne_nil padded
          rw [List.length_append] at ends
          exact .inl (by omega)
        · exact .inr ⟨by omega, withBytes⟩
      obtain ⟨places, parsed, read⟩ := record.encodes.read recordStarts room
      obtain ⟨more, rfl⟩ : ∃ more, turns = more + 1 := ⟨turns - 1, by omega⟩
      have moreEnough : endFlow < more + (displ + record.bytes.length) := by omega
      obtain ⟨others, parsedRest, readRest⟩ := ih long.tail restStarts (by omega) moreEnough
      refine ⟨places :: others, ?_, ?_⟩
      · rw [recordPlaces, if_pos (by omega), parsed]
        simp only [parsedRest, Option.map_some]
      · rw [List.map_cons, List.map_cons, read, readRest]

end Set

end

theorem printRecords_length (context : PacketContext) (buffer : Mem)
    (observationId : ObservationID) (flowSequenceNumber : UInt16)
    (places : List (List FieldPlace)) :
    Outcome (fun _ => True) (fun flows => flows.length = places.length)
      (printRecords context buffer observationId flowSequenceNumber places) := by
  induction places generalizing flowSequenceNumber with
  | nil => exact rfl
  | cons place rest ih =>
      rw [printRecords]
      have one : Outcome (fun _ => True) (fun _ => True)
          (printRecord context buffer observationId flowSequenceNumber place) := by
        cases printRecord context buffer observationId flowSequenceNumber place <;> exact trivial
      refine one.bind ?_
      intro record _ _
      refine (ih (flowSequenceNumber + 1)).bind ?_
      intro flows _ length
      rw [Outcome.pure_iff, List.length_cons, List.length_cons, length]

/-- Dissecting the set gives one flow for each record that was written, which is printed field
by field, each field with a known element from exactly the bytes of its value. -/
def DecodesTo (context : PacketContext) (template : FlowSetV9Ipfix)
    (set : EncodedSet context.handleIpfix template.fields) (buffer : Mem) : Prop :=
  ∃ places : List (List FieldPlace),
    places.map (readFields buffer) =
        set.records.map (fun record => template.fields.zip record.values) ∧
      ∀ observationId flowSequenceNumber,
        dissectNetFlowV9V10FlowSetWithTemplate context template (set.body.length + 4) buffer
            observationId flowSequenceNumber =
          printRecords context buffer observationId flowSequenceNumber places

theorem DecodesTo.length_eq {context : PacketContext} {template : FlowSetV9Ipfix}
    {set : EncodedSet context.handleIpfix template.fields} {buffer : Mem}
    (decodes : DecodesTo context template set buffer) {observationId : ObservationID}
    {flowSequenceNumber : UInt16} {flows : List FlowRecord}
    (ran : dissectNetFlowV9V10FlowSetWithTemplate context template (set.body.length + 4) buffer
      observationId flowSequenceNumber = .ok flows) :
    flows.length = set.records.length := by
  obtain ⟨places, read, run⟩ := decodes
  rw [run] at ran
  have flowsLength := (printRecords_length context buffer observationId flowSequenceNumber
    places).of_ok ran
  have placesLength := congrArg List.length read
  rw [List.length_map, List.length_map] at placesLength
  omega

/-- The padding of a set: less than four bytes, but four with the last record, and some when
a record ends with a field without bytes. -/
structure WellPadded {handleIpfix : Bool} {fields : List TemplateField}
    (set : EncodedSet handleIpfix fields) : Prop where
  short : set.padding.length < 4
  long : EndsLong set.records set.padding
  last : set.padding ≠ [] ∨ EndsWithBytes fields

theorem dissectNetFlowV9V10FlowSetWithTemplate_decodes (context : PacketContext)
    (template : FlowSetV9Ipfix) (set : EncodedSet context.handleIpfix template.fields)
    (buffer : Mem) (some : HasBytes template.fields) (padded : WellPadded set)
    (starts : (buffer.shift 4).StartsWith set.body) :
    DecodesTo context template set buffer := by
  have enough : set.body.length + 4 < set.body.length + 4 + 1 + 4 := by omega
  obtain ⟨places, parsed, read⟩ := recordPlaces_encoded some padded.short padded.long
    padded.last starts (Nat.add_comm _ 4) enough
  refine ⟨places, read, ?_⟩
  intro observationId flowSequenceNumber
  exact dissectRecords_eq_of_places context template buffer _ observationId flowSequenceNumber
    parsed

/-! Sets that are not dissected as they were written: a record of one byte, padding of four
bytes, and a field without bytes at the end of the set. -/

/-- Every set with padding shorter than its records is dissected as it was written. -/
def DecodesAll (context : PacketContext) (template : FlowSetV9Ipfix) : Prop :=
  HasBytes template.fields →
    ∀ (set : EncodedSet context.handleIpfix template.fields) (buffer : Mem),
      (∀ record : EncodedRecord context.handleIpfix template.fields,
        set.padding.length < record.bytes.length) →
      (buffer.shift 4).StartsWith set.body → DecodesTo context template set buffer

def v9Context : PacketContext where
  globals := splittingGlobals
  flowVersion := 9
  flowHeader := .ofBytes (v9PacketBytes 0 [])

def plainField (fieldLen : UInt16) : TemplateField where
  fieldId := 500
  fieldLen
  v9Template := none

def flowTemplate (fields : List TemplateField) : FlowSetV9Ipfix where
  templateId := 256
  isOptionTemplate := false
  fields

def plainRecord {fieldLen : UInt16} (value : Bytes) (length : value.length = fieldLen.toNat) :
    EncodedRecord false [plainField fieldLen] where
  values := [value]
  bytes := value ++ []
  encodes := .cons (.fixed value (by simp) length) .nil

theorem length_plainRecord {fieldLen : UInt16}
    (record : EncodedRecord false [plainField fieldLen]) :
    record.bytes.length = fieldLen.toNat := by
  obtain ⟨values, bytes, encodes⟩ := record
  cases encodes with
  | cons first more =>
      cases more
      cases first with
      | fixed declared length => exact (congrArg List.length (List.append_nil _)).trans length
      | short varies small => simp at varies
      | long varies small => simp at varies

/-- A set of one record, and what is counted in it. -/
theorem not_decodesAll_plain {fieldLen : UInt16} (some : fieldLen ≠ 0) (value padding : Bytes)
    (length : value.length = fieldLen.toNat) (shorter : padding.length < value.length)
    (count : Nat) (miscounted : count ≠ 1)
    (ran : (dissectNetFlowV9V10FlowSetWithTemplate v9Context
      (flowTemplate [plainField fieldLen]) ((value ++ padding).length + 4)
      (.ofBytes (setBytes 256 (value ++ padding))) (.new 7) 0).map List.length = .ok count) :
    ¬DecodesAll v9Context (flowTemplate [plainField fieldLen]) := by
  let set : EncodedSet false [plainField fieldLen] :=
    { records := [plainRecord value length], padding }
  have body : set.body = value ++ padding := by
    simp [set, EncodedSet.body, recordsBytes, plainRecord]
  intro decodes
  let buffer := Mem.ofBytes (setBytes 256 (value ++ padding))
  have starts : (buffer.shift 4).StartsWith set.body := by
    have whole := Mem.startsWith_ofBytes (setBytes 256 (value ++ padding))
    rw [setBytes, Mem.startsWith_append] at whole
    rw [body]
    simpa [buffer, setBytes] using whole.2
  have within : ∀ record : EncodedRecord false [plainField fieldLen],
      set.padding.length < record.bytes.length := by
    intro record
    rw [length_plainRecord record, ← length]
    exact shorter
  have decoded := decodes ⟨plainField fieldLen, List.mem_singleton_self _, some⟩ set buffer
    within starts
  cases flows : dissectNetFlowV9V10FlowSetWithTemplate v9Context
      (flowTemplate [plainField fieldLen]) ((value ++ padding).length + 4) buffer (.new 7) 0 with
  | error fault =>
      rw [flows] at ran
      contradiction
  | ok records =>
      rw [flows] at ran
      rw [← body] at flows
      have counted : records.length = count := Except.ok.inj ran
      have written : records.length = set.records.length := decoded.length_eq flows
      exact miscounted (counted.symm.trans written)

theorem not_decodesAll_oneByte : ¬DecodesAll v9Context (flowTemplate [plainField 1]) :=
  not_decodesAll_plain (by decide) [7] [] rfl (by decide) 0 (by decide) (by decide +kernel)

theorem not_decodesAll_longPadding : ¬DecodesAll v9Context (flowTemplate [plainField 8]) :=
  not_decodesAll_plain (by decide) (toBe 8 7) (toBe 4 0) rfl (by decide) 2 (by decide)
    (by decide +kernel)

/-- `PROTOCOL` of no bytes. -/
def emptyField : TemplateField where
  fieldId := 4
  fieldLen := 0
  v9Template := some protocol

def emptyLastSet : EncodedSet false [plainField 4, emptyField] where
  records :=
    [{ values := [toBe 4 7, []]
       bytes := toBe 4 7 ++ ([] ++ [])
       encodes := .cons (.fixed (toBe 4 7) (by simp) rfl) (.cons (.fixed [] (by simp) rfl) .nil) }]
  padding := []

theorem not_decodesAll_emptyLast :
    ¬DecodesAll v9Context (flowTemplate [plainField 4, emptyField]) := by
  have some : HasBytes [plainField 4, emptyField] :=
    ⟨plainField 4, List.mem_cons_self, by decide⟩
  let buffer := Mem.ofBytes (setBytes 256 (toBe 4 7))
  intro decodes
  obtain ⟨places, read, run⟩ := decodes some emptyLastSet buffer
    (fun record => record.encodes.nonempty some) rfl
  obtain ⟨record, rfl, fields⟩ := List.map_eq_singleton_iff.mp read
  obtain ⟨first, others, rfl, firstIs, othersAre⟩ := List.map_eq_cons_iff.mp fields
  obtain ⟨second, rfl, secondIs⟩ := List.map_eq_singleton_iff.mp othersAre
  let place : FieldPlace := { field := emptyField, place := 0, length := 0 }
  have alike : List.Forall₂ (List.Forall₂ (PrintAlike buffer buffer)) [[first, second]]
      [[{ field := plainField 4, place := 0, length := 0 }, place]] := by
    refine .cons (.cons ?_ (.cons ?_ .nil)) .nil
    · intro globals line cache
      have field : first.field = plainField 4 := congrArg Prod.fst firstIs
      rw [FieldPlace.print, FieldPlace.print, field]
      rfl
    · have field : second.field = place.field := congrArg Prod.fst secondIs
      have length : second.length = place.length := by
        have bytes := congrArg List.length (congrArg Prod.snd secondIs)
        simpa [FieldPlace.bytes] using bytes
      have nothing : second.reach = 0 := by
        rw [FieldPlace.reach, field, length]
        rfl
      refine FieldPlace.print_congr field length ?_
      rw [nothing]
      exact fun index inside => absurd inside (Nat.not_lt_zero index)
  have same := run (.new 7) 0
  rw [printRecords_congr alike] at same
  have texts := congrArg (Except.map fun (flows : List FlowRecord) =>
    flows.flatMap fun flow => flow.messages.map Message.string) same
  exact absurd texts (by decide +kernel)

/-- None of the three templates is safe from it. -/
theorem dissectNetFlowV9V10FlowSetWithTemplate_misreads :
    ¬DecodesAll v9Context (flowTemplate [plainField 1]) ∧
      ¬DecodesAll v9Context (flowTemplate [plainField 8]) ∧
      ¬DecodesAll v9Context (flowTemplate [plainField 4, emptyField]) :=
  ⟨not_decodesAll_oneByte, not_decodesAll_longPadding, not_decodesAll_emptyLast⟩

theorem decodes_fourBytes :
    DecodesTo v9Context (flowTemplate [plainField 4])
      { records := [plainRecord (toBe 4 7) rfl], padding := [] }
      (.ofBytes (setBytes 256 (toBe 4 7))) :=
  dissectNetFlowV9V10FlowSetWithTemplate_decodes _ _ _ _
    ⟨plainField 4, List.mem_singleton_self _, by decide⟩
    { short := by decide
      long := fun last member => by
        obtain rfl := Option.some.inj member
        exact Nat.le_refl 4
      last := .inr fun last member => by
        obtain rfl := Option.some.inj member
        decide }
    rfl

end F2k
