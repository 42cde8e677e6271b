import F2k.RecordLoops

namespace F2k

open Lib

/-! What dissecting a set comes to, and the rules for the faults of its loops. -/

inductive SetRun (context : PacketContext) (flowSequenceNumber : UInt16)
    (observationId : ObservationID) (set : SizedBuffer) :
    Run (ObservationID × List FlowRecord) → Prop
  | idle (changed : ObservationID) :
      SetRun context flowSequenceNumber observationId set (.ok (changed, []))
  | options {template : FlowSetV9Ipfix}
      (data : isTemplateSet context.handleIpfix set = false)
      (usable : usableTemplate observationId (set.u16 0) = some template)
      (isOption : template.isOptionTemplate = true) :
      SetRun context flowSequenceNumber observationId set
        ((dissectOptionFlowSet template (optionBody set) observationId).map
          fun learned => (learned, []))
  | records {template : FlowSetV9Ipfix}
      (data : isTemplateSet context.handleIpfix set = false)
      (usable : usableTemplate observationId (set.u16 0) = some template)
      (isFlow : template.isOptionTemplate = false) :
      SetRun context flowSequenceNumber observationId set
        ((dissectNetFlowV9V10FlowSetWithTemplate context template (set.u16 2) set.buffer
          observationId flowSequenceNumber).map fun records => (observationId, records))

theorem dissectSet_run (context : PacketContext) (flowSequenceNumber : UInt16)
    (observationId : ObservationID) (set : SizedBuffer) :
    SetRun context flowSequenceNumber observationId set
      (dissectSet context flowSequenceNumber observationId set) := by
  unfold dissectSet
  cases data : isTemplateSet context.handleIpfix set with
  | true => exact .idle _
  | false =>
      unfold dissectNetFlowV9V10Flow
      cases usable : usableTemplate observationId (set.u16 0) with
      | none => exact .idle observationId
      | some template =>
          cases kind : template.isOptionTemplate with
          | true =>
              simp only [Bool.false_eq_true, if_false, kind, if_true]
              exact .options data usable kind
          | false =>
              simp only [Bool.false_eq_true, if_false, kind]
              exact .records data usable kind

section Faults

variable {fails : Fault → Prop}

/-- The records of a set, from the ones its loop can reach. -/
theorem dissectRecords_outcome (good : FlowRecord → Prop) {context : PacketContext}
    {template : FlowSetV9Ipfix} {buffer : Mem} {endFlow first : Nat}
    {observationId : ObservationID} (endless : fails (.endlessLoop .records))
    (each : ∀ displ flowSequenceNumber,
      Relation.ReflTransGen (RecordTurn context.handleIpfix buffer endFlow template.fields) first
        displ → displ + 4 ≤ endFlow →
      Outcome fails good
        (printRecord context buffer observationId flowSequenceNumber
          (fieldPlaces context.handleIpfix buffer endFlow template.fields displ).1))
    (turns : Nat) {displ : Nat} (flowSequenceNumber : UInt16)
    (reached : Relation.ReflTransGen
      (RecordTurn context.handleIpfix buffer endFlow template.fields) first displ) :
    Outcome fails (fun records => ∀ record ∈ records, good record)
      (dissectRecords context template buffer endFlow observationId turns displ
        flowSequenceNumber) := by
  induction turns generalizing displ flowSequenceNumber with
  | zero => exact endless
  | succ turns ih =>
      rw [dissectRecords]
      by_cases another : displ + 4 ≤ endFlow
      · rw [if_pos (by omega), if_neg (by omega), dissectRecord_eq]
        have printed : Outcome fails (fun result : FlowRecord × Nat => good result.1)
            ((printRecord context buffer observationId flowSequenceNumber _).map fun record =>
              (record, (fieldPlaces context.handleIpfix buffer endFlow template.fields displ).2)) :=
          Outcome.map_iff.mpr (each displ flowSequenceNumber reached another)
        refine printed.bind ?_
        intro result ran own
        obtain ⟨record, _, rfl⟩ := exists_of_map_eq_ok ran
        refine (ih (flowSequenceNumber + 1) (reached.tail ⟨another, rfl⟩)).bind ?_
        intro rest _ others
        exact List.forall_mem_cons.mpr ⟨own, others⟩
      · split
        · rw [if_pos (by omega)]
          simp
        · simp

theorem dissectRecords_fails {context : PacketContext} {template : FlowSetV9Ipfix}
    {buffer : Mem} {endFlow first : Nat} {observationId : ObservationID}
    (endless : fails (.endlessLoop .records))
    (each : ∀ displ flowSequenceNumber,
      Relation.ReflTransGen (RecordTurn context.handleIpfix buffer endFlow template.fields) first
        displ → displ + 4 ≤ endFlow →
      Outcome fails (fun _ => True)
        (printRecord context buffer observationId flowSequenceNumber
          (fieldPlaces context.handleIpfix buffer endFlow template.fields displ).1))
    (turns : Nat) {displ : Nat} (flowSequenceNumber : UInt16)
    (reached : Relation.ReflTransGen
      (RecordTurn context.handleIpfix buffer endFlow template.fields) first displ) :
    Outcome fails (fun _ => True)
      (dissectRecords context template buffer endFlow observationId turns displ
        flowSequenceNumber) :=
  (dissectRecords_outcome (fun _ => True) endless each turns flowSequenceNumber reached).mono
    fun _ _ => trivial

/-- The option records of a set, from the names that each of them tells. -/
theorem dissectOptionFlows_fails {template : FlowSetV9Ipfix} {sbuffer : SizedBuffer}
    {first : Nat} (endless : fails (.endlessLoop .options))
    (each : ∀ cursor observationId,
      Relation.ReflTransGen (OptionTurn sbuffer template) first cursor → cursor < sbuffer.size →
      Outcome fails (fun _ => True)
        (learnNames (readOptionFields (sbuffer.after cursor) template.fields 0 {}).1
          observationId))
    (turns : Nat) {cursor : Nat} (observationId : ObservationID)
    (reached : Relation.ReflTransGen (OptionTurn sbuffer template) first cursor) :
    Outcome fails (fun _ => True)
      (dissectOptionFlows template sbuffer turns cursor observationId) := by
  induction turns generalizing cursor observationId with
  | zero => exact endless
  | succ turns ih =>
      rw [dissectOptionFlows]
      split
      · next inside =>
          simp only [dissectNf9OptionFlow, bind_assoc]
          refine (each cursor observationId reached inside).bind ?_
          intro learned _ _
          exact ih learned (reached.tail ⟨inside, rfl⟩)
      · exact trivial

end Faults

end F2k
