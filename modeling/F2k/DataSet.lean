import F2k.Collect

namespace F2k

open Lib

/-! What a data set holds, apart from what is printed of it: where its records and their
fields are. -/

/-- Where the value of a field starts in the set, and how long it is. -/
structure FieldPlace where
  field : TemplateField
  place : Nat
  length : Nat

namespace FieldPlace

def bytes (buffer : Mem) (place : FieldPlace) : Bytes :=
  (buffer.shift place.place).slice place.length

def print (globals : ReadOnlyGlobals) (buffer : Mem) (place : FieldPlace) (line : Bytes)
    (cache : FlowCache) : Run LineState :=
  match place.field.v9Template with
  | some element =>
      printNetflowRecordWithTemplate globals line element (buffer.shift place.place) place.length
        cache
  | none => pure { line, cache, valueRet := 0 }

end FieldPlace

/-- The fields of a record that starts at `displ`, and where it ends. -/
def fieldPlaces (handleIpfix : Bool) (buffer : Mem) (endFlow : Nat) :
    List TemplateField → Nat → List FieldPlace × Nat
  | [], displ => ([], displ)
  | field :: rest, displ =>
      if displ < endFlow then
        let (offset, length) := fieldExtent handleIpfix field.fieldLen (buffer.shift displ)
        let (places, after) :=
          fieldPlaces handleIpfix buffer endFlow rest (displ + (length + offset))
        ({ field, place := displ + offset, length } :: places, after)
      else ([], displ)

/-- The records of a set from `displ` on, unless they do not end in so many turns. -/
def recordPlaces (handleIpfix : Bool) (fields : List TemplateField) (buffer : Mem)
    (endFlow : Nat) : Nat → Nat → Option (List (List FieldPlace))
  | 0, _ => none
  | turns + 1, displ =>
      if displ + 4 ≤ endFlow then
        let (places, after) := fieldPlaces handleIpfix buffer endFlow fields displ
        (recordPlaces handleIpfix fields buffer endFlow turns after).map (places :: ·)
      else some []

/-! Printing what a set holds -/

def printPlaces (globals : ReadOnlyGlobals) (buffer : Mem) :
    List FieldPlace → Bytes → FlowCache → Run LineState
  | [], line, cache => pure { line, cache, valueRet := 0 }
  | place :: rest, line, cache => do
      let printed ← place.print globals buffer line cache
      printPlaces globals buffer rest printed.line printed.cache

def printRecord (context : PacketContext) (buffer : Mem) (observationId : ObservationID)
    (flowSequenceNumber : UInt16) (places : List FieldPlace) : Run FlowRecord := do
  let flowSequenceNumber := flowSequenceNumber.toUInt32
  let cache := withHeaderTimes context.handleIpfix context.flowHeader { observationId }
  let started ← startRecord context.globals context.flowVersion flowSequenceNumber cache
  let printed ← printPlaces context.globals buffer places started.line started.cache
  let messages ← finishRecord context.globals printed.line printed.cache
  pure { flowSequence := flowSequenceNumber, messages }

def printRecords (context : PacketContext) (buffer : Mem) (observationId : ObservationID) :
    UInt16 → List (List FieldPlace) → Run (List FlowRecord)
  | _, [] => pure []
  | flowSequenceNumber, places :: more => do
      let record ← printRecord context buffer observationId flowSequenceNumber places
      let rest ← printRecords context buffer observationId (flowSequenceNumber + 1) more
      pure (record :: rest)

section

variable (context : PacketContext) (template : FlowSetV9Ipfix) (buffer : Mem) (endFlow : Nat)
  (observationId : ObservationID)

theorem dissectFields_eq (fields : List TemplateField) (displ : Nat) (line : Bytes)
    (cache : FlowCache) :
    dissectFields context buffer endFlow fields displ line cache =
      (printPlaces context.globals buffer
        (fieldPlaces context.handleIpfix buffer endFlow fields displ).1 line cache).map
        fun printed =>
          (printed, (fieldPlaces context.handleIpfix buffer endFlow fields displ).2) := by
  induction fields generalizing displ line cache with
  | nil => rfl
  | cons field rest ih =>
      rw [dissectFields, fieldPlaces]
      by_cases inside : displ < endFlow
      · simp only [if_pos inside, printPlaces, FieldPlace.print, ih]
        cases known : field.v9Template with
        | none => rfl
        | some element =>
            simp only
            cases printNetflowRecordWithTemplate context.globals line element _ _ cache with
            | error fault => rfl
            | ok printed => rfl
      · simp only [if_neg inside]
        rfl

theorem dissectRecord_eq (flowSequenceNumber : UInt16) (displ : Nat) :
    dissectRecord context template buffer endFlow observationId flowSequenceNumber displ =
      (printRecord context buffer observationId flowSequenceNumber
        (fieldPlaces context.handleIpfix buffer endFlow template.fields displ).1).map
        fun record =>
          (record,
            (fieldPlaces context.handleIpfix buffer endFlow template.fields displ).2) := by
  rw [dissectRecord, printRecord]
  cases startRecord context.globals context.flowVersion flowSequenceNumber.toUInt32 _ with
  | error fault => rfl
  | ok started =>
      simp only [Run.ok_bind, dissectFields_eq]
      cases printPlaces context.globals buffer _ started.line started.cache with
      | error fault => rfl
      | ok printed =>
          simp only [Except.map, Run.ok_bind]
          cases finishRecord context.globals printed.line printed.cache with
          | error fault => rfl
          | ok messages => rfl

/-- A set is parsed first and printed afterwards. -/
theorem dissectRecords_eq_of_places {turns displ : Nat} {records : List (List FieldPlace)}
    (flowSequenceNumber : UInt16)
    (parsed : recordPlaces context.handleIpfix template.fields buffer endFlow turns displ =
      some records) :
    dissectRecords context template buffer endFlow observationId turns displ
        flowSequenceNumber =
      printRecords context buffer observationId flowSequenceNumber records := by
  induction turns generalizing displ records flowSequenceNumber with
  | zero => contradiction
  | succ turns ih =>
      rw [recordPlaces] at parsed
      rw [dissectRecords]
      by_cases another : displ + 4 ≤ endFlow
      · rw [if_pos another, Option.map_eq_some_iff] at parsed
        obtain ⟨more, parsedRest, rfl⟩ := parsed
        rw [if_pos (by omega), if_neg (by omega), dissectRecord_eq, printRecords]
        cases printRecord context buffer observationId flowSequenceNumber _ with
        | error fault => rfl
        | ok record =>
            simp only [Except.map, Run.ok_bind]
            rw [ih (flowSequenceNumber + 1) parsedRest]
      · rw [if_neg another, Option.some.injEq] at parsed
        subst parsed
        rw [printRecords]
        by_cases inside : displ < endFlow
        · rw [if_pos inside, if_pos (by omega)]
        · rw [if_neg inside]

theorem dissectRecords_ne_ok {turns displ : Nat} (flowSequenceNumber : UInt16)
    (endless : recordPlaces context.handleIpfix template.fields buffer endFlow turns displ = none)
    (records : List FlowRecord) :
    dissectRecords context template buffer endFlow observationId turns displ
        flowSequenceNumber ≠ .ok records := by
  induction turns generalizing displ records flowSequenceNumber with
  | zero => simp [dissectRecords]
  | succ turns ih =>
      rw [recordPlaces] at endless
      by_cases another : displ + 4 ≤ endFlow
      · rw [if_pos another, Option.map_eq_none_iff] at endless
        rw [dissectRecords, if_pos (by omega), if_neg (by omega), dissectRecord_eq]
        intro ran
        obtain ⟨⟨record, after⟩, printed, later⟩ := Run.bind_eq_ok.mp ran
        obtain ⟨rest, ranRest, _⟩ := Run.bind_eq_ok.mp later
        cases recordRun : printRecord context buffer observationId flowSequenceNumber _ with
        | error fault =>
            rw [recordRun] at printed
            contradiction
        | ok record =>
            rw [recordRun] at printed
            cases printed
            exact ih (flowSequenceNumber + 1) endless rest ranRest
      · rw [if_neg another] at endless
        contradiction

end

end F2k
