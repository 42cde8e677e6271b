import F2k.SameAnswers
import F2k.TemplateRuns

namespace F2k

open Lib

/-! Observation ids and sensors that give the same answers: the records of every run of
datagrams are the same for both. -/

/-- The same message, over the other tables of the observation id. -/
def SameLine (tables : LearnedTables) (observationId : ObservationID) (state other : LineState) :
    Prop :=
  other = state.withTables tables ∧ state.cache.observationId = observationId

section Lines

variable {tables : LearnedTables} {observationId : ObservationID}
  (globals : ReadOnlyGlobals)

theorem printElement_sameLine (same : SameNames tables observationId) (line : Bytes) (element : Element) (buffer : Mem)
    (realFieldLen : Nat) {cache : FlowCache} (own : cache.observationId = observationId) :
    Together (SameLine tables observationId)
      (printElement globals line element buffer realFieldLen cache)
      (printElement globals line element buffer realFieldLen (cache.withTables tables)) := by
  cases named : element.jsonElementName with
  | none =>
      rw [printElement, printElement, named]
      exact .error _
  | some name =>
      have follows : Follow tables (element.exported globals buffer realFieldLen cache)
          (element.exported globals buffer realFieldLen (cache.withTables tables)) := by
        unfold Element.exported
        cases element.exportFn with
        | none => exact rfl
        | some exportFn =>
            apply exportField_seesAnswers
            rw [own]
            exact same
      obtain ⟨printed, exported, written⟩ :=
        (element.exported_writes globals buffer realFieldLen cache).exists_ok
      rw [printElement_eq globals line buffer realFieldLen _ named,
        printElement_eq globals line buffer realFieldLen _ named, follows, exported]
      exact .ok ⟨rfl, written.observationId.trans own⟩

mutual

theorem printNetflowRecordWithTemplate_sameLine (same : SameNames tables observationId) :
    ∀ (element : Element) (line : Bytes) (buffer : Mem) (realFieldLen : Nat)
      {cache : FlowCache}, cache.observationId = observationId →
      Together (SameLine tables observationId)
        (printNetflowRecordWithTemplate globals line element buffer realFieldLen cache)
        (printNetflowRecordWithTemplate globals line element buffer realFieldLen
          (cache.withTables tables))
  | .mk templateElementId quote jsonElementName exportFn postTemplate, line, buffer,
      realFieldLen, cache, own => by
      rw [printNetflowRecordWithTemplate, printNetflowRecordWithTemplate]
      refine (printElement_sameLine globals same line _ buffer realFieldLen own).bind ?_
      rintro printed _ ⟨rfl, kept⟩
      refine (printPostTemplate_sameLine same postTemplate printed.line buffer realFieldLen
        kept).bind ?_
      rintro last _ ⟨rfl, stillKept⟩
      exact .ok ⟨rfl, stillKept⟩

theorem printPostTemplate_sameLine (same : SameNames tables observationId) :
    ∀ (elements : List Element) (line : Bytes) (buffer : Mem) (realFieldLen : Nat)
      {cache : FlowCache}, cache.observationId = observationId →
      Together (SameLine tables observationId)
        (printPostTemplate globals line elements buffer realFieldLen cache)
        (printPostTemplate globals line elements buffer realFieldLen
          (cache.withTables tables))
  | [], line, buffer, realFieldLen, cache, own => by
      rw [printPostTemplate, printPostTemplate]
      exact .ok ⟨rfl, own⟩
  | element :: rest, line, buffer, realFieldLen, cache, own => by
      rw [printPostTemplate, printPostTemplate]
      refine (printNetflowRecordWithTemplate_sameLine same element line buffer realFieldLen
        own).bind ?_
      rintro printed _ ⟨rfl, kept⟩
      exact printPostTemplate_sameLine same rest printed.line buffer realFieldLen kept

end

theorem printPlaces_sameLine (same : SameNames tables observationId) (buffer : Mem)
    (places : List FieldPlace) (line : Bytes) {cache : FlowCache} (own : cache.observationId = observationId) :
    Together (SameLine tables observationId) (printPlaces globals buffer places line cache)
      (printPlaces globals buffer places line (cache.withTables tables)) := by
  induction places generalizing line cache with
  | nil => exact .ok ⟨rfl, own⟩
  | cons place rest ih =>
      rw [printPlaces, printPlaces, FieldPlace.print, FieldPlace.print]
      cases place.field.v9Template with
      | none => exact ih line own
      | some element =>
          refine (printNetflowRecordWithTemplate_sameLine globals same element line _ _
            own).bind ?_
          rintro printed _ ⟨rfl, kept⟩
          exact ih printed.line kept

theorem dissectNetFlowV5Fields_sameLine (same : SameNames tables observationId)
    (the5Record : Mem) (flowIdx : Nat) (elements : List Element) (line : Bytes) {cache : FlowCache}
    (own : cache.observationId = observationId) :
    Together (SameLine tables observationId)
      (dissectNetFlowV5Fields globals the5Record flowIdx elements line cache)
      (dissectNetFlowV5Fields globals the5Record flowIdx elements line
        (cache.withTables tables)) := by
  induction elements generalizing line cache with
  | nil => exact .ok ⟨rfl, own⟩
  | cons element rest ih =>
      have field : Together (SameLine tables observationId)
          (dissectNetFlowV5Field globals the5Record flowIdx line element cache)
          (dissectNetFlowV5Field globals the5Record flowIdx line element
            (cache.withTables tables)) := by
        rw [dissectNetFlowV5Field, dissectNetFlowV5Field]
        cases v5Place flowIdx element.templateElementId.toNat with
        | none => exact .ok ⟨rfl, own⟩
        | some extent =>
            refine (printNetflowRecordWithTemplate_sameLine globals same element line _ _
              own).bind ?_
            rintro printed _ ⟨rfl, kept⟩
            change Together _ (if printed.valueRet = 0 then _ else _)
              (if printed.valueRet = 0 then _ else _)
            split
            · exact .ok ⟨rfl, kept⟩
            · exact .ok ⟨rfl, kept⟩
      rw [dissectNetFlowV5Fields, dissectNetFlowV5Fields]
      refine field.bind ?_
      rintro printed _ ⟨rfl, kept⟩
      exact ih printed.line kept

theorem guessDirection_sameCache {cache : FlowCache} (own : cache.observationId = observationId) :
    Together (fun guessed other => other = guessed.withTables tables ∧
      guessed.observationId = observationId) (guessDirection cache)
      (guessDirection (cache.withTables tables)) := by
  rw [guessDirection, guessDirection]
  change Together _ (if cache.address.src = zeroAddress ∨ cache.address.dst = zeroAddress then _
    else _) (if cache.address.src = zeroAddress ∨ cache.address.dst = zeroAddress then _ else _)
  split
  · exact .ok ⟨rfl, own⟩
  · have asked : (cache.withTables tables).observationId.networkIp =
        cache.observationId.networkIp :=
      funext (networkIp_withTables cache.observationId tables)
    rw [asked]
    refine (Together.refl _).bind ?_
    rintro src _ rfl
    refine (Together.refl _).bind ?_
    rintro dst _ rfl
    cases ipDirection src.isSome dst.isSome with
    | unset => exact .ok ⟨rfl, own⟩
    | upstream | downstream | internal => exact .ok ⟨rfl, own⟩

theorem finishRecord_sameNames (same : SameNames tables observationId) (line : Bytes)
    {cache : FlowCache} (own : cache.observationId = observationId) :
    finishRecord globals line (cache.withTables tables) = finishRecord globals line cache := by
  apply Eq.symm
  apply Together.eq
  have normalized : ∀ {line : Bytes} {cache : FlowCache}, cache.observationId = observationId →
      Together (SameLine tables observationId) (normalizeDirection globals line cache)
        (normalizeDirection globals line (cache.withTables tables)) := by
    intro line cache own
    rw [normalizeDirection, normalizeDirection]
    split
    · refine (guessDirection_sameCache own).bind ?_
      rintro guessed _ ⟨rfl, kept⟩
      exact printPostTemplate_sameLine globals same postTemplates line _ 0 kept
    · exact .ok ⟨rfl, own⟩
  rw [finishRecord, finishRecord]
  refine (printNetflowRecordWithTemplate_sameLine globals same host line _ 0 own).bind ?_
  rintro hosted _ ⟨rfl, keptHost⟩
  refine (printNetflowRecordWithTemplate_sameLine globals same referer hosted.line _ 0
    keptHost).bind ?_
  rintro referred _ ⟨rfl, keptReferer⟩
  refine (normalized keptReferer).bind ?_
  rintro last _ ⟨rfl, _⟩
  exact .refl _

theorem startRecord_sameLine (same : SameNames tables observationId) (flowVersion : Nat)
    (flowSequenceNumber : UInt32) {cache : FlowCache}
    (own : cache.observationId = observationId) :
    Together (SameLine tables observationId)
      (startRecord globals flowVersion flowSequenceNumber cache)
      (startRecord globals flowVersion flowSequenceNumber (cache.withTables tables)) := by
  rw [startRecord, startRecord]
  refine (printNetflowRecordWithTemplate_sameLine globals same redborderType _ _ 2 own).bind ?_
  rintro printed _ ⟨rfl, kept⟩
  exact printNetflowRecordWithTemplate_sameLine globals same flowSequence _ _ 4 kept

end Lines

section Records

variable {tables : LearnedTables} {observationId : ObservationID}
  (same : SameNames tables observationId)

include same

theorem printRecord_sameNames (context : PacketContext) (buffer : Mem)
    (flowSequenceNumber : UInt16) (places : List FieldPlace) :
    printRecord context buffer (observationId.withTables tables) flowSequenceNumber places =
      printRecord context buffer observationId flowSequenceNumber places := by
  apply Eq.symm
  apply Together.eq
  rw [printRecord, printRecord]
  have own : (withHeaderTimes context.handleIpfix context.flowHeader
    { observationId }).observationId = observationId := rfl
  refine (startRecord_sameLine context.globals same context.flowVersion _ own).bind ?_
  rintro started _ ⟨rfl, keptStart⟩
  refine (printPlaces_sameLine context.globals same buffer places started.line keptStart).bind ?_
  rintro printed _ ⟨rfl, kept⟩
  have finished := finishRecord_sameNames context.globals same printed.line kept
  change Together Eq (finishRecord context.globals printed.line printed.cache >>= _)
    (finishRecord context.globals printed.line (printed.cache.withTables tables) >>= _)
  rw [finished]
  exact .refl _

theorem dissectNetFlowV5Record_sameNames (globals : ReadOnlyGlobals) (the5Record : Mem)
    (flowIdx : Nat) :
    dissectNetFlowV5Record globals the5Record flowIdx (observationId.withTables tables) =
      dissectNetFlowV5Record globals the5Record flowIdx observationId := by
  apply Eq.symm
  apply Together.eq
  rw [dissectNetFlowV5Record, dissectNetFlowV5Record]
  have own : ({ observationId } : FlowCache).observationId = observationId := rfl
  refine (startRecord_sameLine globals same _ _ own).bind ?_
  rintro started _ ⟨rfl, keptStart⟩
  have stamped : (withHeaderTimes false the5Record started.cache).observationId =
    observationId := keptStart
  refine (dissectNetFlowV5Fields_sameLine globals same the5Record flowIdx v5TemplateFields
    started.line stamped).bind ?_
  rintro printed _ ⟨rfl, kept⟩
  have finished := finishRecord_sameNames globals same printed.line kept
  change Together Eq (finishRecord globals printed.line printed.cache >>= _)
    (finishRecord globals printed.line (printed.cache.withTables tables) >>= _)
  rw [finished]
  exact .refl _

theorem dissectRecords_sameNames (context : PacketContext) (template : FlowSetV9Ipfix)
    (buffer : Mem) (endFlow turns displ : Nat) (flowSequenceNumber : UInt16) :
    dissectRecords context template buffer endFlow (observationId.withTables tables) turns displ
        flowSequenceNumber =
      dissectRecords context template buffer endFlow observationId turns displ
        flowSequenceNumber := by
  induction turns generalizing displ flowSequenceNumber with
  | zero => rfl
  | succ turns ih =>
      simp only [dissectRecords, dissectRecord_eq, printRecord_sameNames same, ih]

theorem dissectNetFlowV5Records_sameNames (globals : ReadOnlyGlobals) (the5Record : Mem)
    (count flowIdx : Nat) :
    dissectNetFlowV5Records globals the5Record (observationId.withTables tables) count flowIdx =
      dissectNetFlowV5Records globals the5Record observationId count flowIdx := by
  induction count generalizing flowIdx with
  | zero => rfl
  | succ count ih =>
      simp only [dissectNetFlowV5Records, dissectNetFlowV5Record_sameNames same, ih]

end Records

/-! Observation ids -/

def ObservationID.learned (observationId : ObservationID) : LearnedTables where
  applications := observationId.applications
  selectors := observationId.selectors
  interfaces := observationId.interfaces
  templates := observationId.templates

/-- Both are configured the same, and answer the same whatever they are asked. -/
structure ObservationID.AnswersAlike (one other : ObservationID) : Prop where
  settings : other = one.withTables other.learned
  names : SameNames other.learned one
  templates : ∀ id, other.getTemplate id = one.getTemplate id

namespace ObservationID.AnswersAlike

variable {one other : ObservationID}

protected theorem refl (observationId : ObservationID) :
    observationId.AnswersAlike observationId :=
  ⟨rfl, ⟨fun _ => rfl, fun _ => rfl, fun _ => rfl⟩, fun _ => rfl⟩

theorem trans {last : ObservationID} (first : one.AnswersAlike other)
    (second : other.AnswersAlike last) : one.AnswersAlike last where
  settings := by
    rw [second.settings, first.settings]
    rfl
  names :=
    { applications := fun id => (second.names.applications id).trans (first.names.applications id)
      selectors := fun id => (second.names.selectors id).trans (first.names.selectors id)
      interfaces := fun id => (second.names.interfaces id).trans (first.names.interfaces id) }
  templates := fun id => (second.templates id).trans (first.templates id)

theorem addApplication (alike : one.AnswersAlike other) (application : Application) :
    (one.addApplication application).AnswersAlike (other.addApplication application) where
  settings := by
    rw [alike.settings]
    rfl
  names :=
    { alike.names with
      applications := Table.lookup_insert_congr alike.names.applications _ _ }
  templates := alike.templates

theorem addSelector (alike : one.AnswersAlike other) (selector : Selector) :
    (one.addSelector selector).AnswersAlike (other.addSelector selector) where
  settings := by
    rw [alike.settings]
    rfl
  names :=
    { alike.names with selectors := Table.lookup_insert_congr alike.names.selectors _ _ }
  templates := alike.templates

theorem addInterface (alike : one.AnswersAlike other) (interface : Interface) :
    (one.addInterface interface).AnswersAlike (other.addInterface interface) where
  settings := by
    rw [alike.settings]
    rfl
  names :=
    { alike.names with interfaces := Table.lookup_insert_congr alike.names.interfaces _ _ }
  templates := alike.templates

theorem saveTemplate (alike : one.AnswersAlike other) (template : FlowSetV9Ipfix) :
    (one.saveTemplate template).AnswersAlike (other.saveTemplate template) where
  settings := by
    rw [alike.settings]
    rfl
  names := ⟨alike.names.applications, alike.names.selectors, alike.names.interfaces⟩
  templates := Table.lookup_insert_congr alike.templates _ _

theorem saveTemplates (alike : one.AnswersAlike other) (templates : List FlowSetV9Ipfix) :
    (templates.foldl ObservationID.saveTemplate one).AnswersAlike
      (templates.foldl ObservationID.saveTemplate other) := by
  induction templates generalizing one other with
  | nil => exact alike
  | cons template rest ih => exact ih (alike.saveTemplate template)

theorem learnNames (alike : one.AnswersAlike other) (names : OptionNames) :
    Together ObservationID.AnswersAlike (F2k.learnNames names one)
      (F2k.learnNames names other) := by
  have afterApplication :
      (learnApplication names one).AnswersAlike (learnApplication names other) := by
    unfold learnApplication
    cases names.appName with
    | none => exact alike
    | some name =>
        cases name with
        | nil => exact alike
        | cons first rest => exact alike.addApplication _
  have afterSelector : (learnSelector names (learnApplication names one)).AnswersAlike
      (learnSelector names (learnApplication names other)) := by
    unfold learnSelector
    cases names.selectorName with
    | none => exact afterApplication
    | some name =>
        cases name with
        | nil => exact afterApplication
        | cons first rest => exact afterApplication.addSelector _
  rw [F2k.learnNames, F2k.learnNames, learnInterface, learnInterface]
  split
  · cases names.snmpName with
    | none => exact .error _
    | some name =>
        cases names.snmpDescription with
        | none => exact .error _
        | some description => exact .ok (afterSelector.addInterface _)
  · exact .ok afterSelector

theorem dissectOptionFlows (template : FlowSetV9Ipfix) (sbuffer : SizedBuffer)
    (turns cursor : Nat) (alike : one.AnswersAlike other) :
    Together ObservationID.AnswersAlike
      (F2k.dissectOptionFlows template sbuffer turns cursor one)
      (F2k.dissectOptionFlows template sbuffer turns cursor other) := by
  induction turns generalizing cursor one other with
  | zero => exact .error _
  | succ turns ih =>
      rw [F2k.dissectOptionFlows, F2k.dissectOptionFlows]
      split
      · rw [dissectNf9OptionFlow, dissectNf9OptionFlow]
        simp only [bind_assoc]
        refine (alike.learnNames _).bind ?_
        intro learned companion afterOne
        exact ih _ afterOne
      · exact .ok alike

theorem dissectSet (context : PacketContext) (flowSequenceNumber : UInt16)
    (alike : one.AnswersAlike other) (set : SizedBuffer) :
    Together (fun left right => left.1.AnswersAlike right.1 ∧ left.2 = right.2)
      (F2k.dissectSet context flowSequenceNumber one set)
      (F2k.dissectSet context flowSequenceNumber other set) := by
  rw [F2k.dissectSet, F2k.dissectSet]
  split
  · exact .ok ⟨alike.saveTemplates _, rfl⟩
  · have usable : usableTemplate other (set.u16 0) = usableTemplate one (set.u16 0) :=
      congrArg (Option.filter _) (alike.templates _)
    rw [dissectNetFlowV9V10Flow, dissectNetFlowV9V10Flow, usable]
    cases usableTemplate one (set.u16 0) with
    | none => exact .ok ⟨alike, rfl⟩
    | some template =>
        cases isOption : template.isOptionTemplate with
        | true =>
            simp only [isOption, if_true]
            refine (dissectOptionFlows template _ _ 0 alike).bind ?_
            intro learned companion after
            exact .ok ⟨after, rfl⟩
        | false =>
            have records : dissectNetFlowV9V10FlowSetWithTemplate context template (set.u16 2)
                set.buffer other flowSequenceNumber =
                dissectNetFlowV9V10FlowSetWithTemplate context template (set.u16 2) set.buffer
                  one flowSequenceNumber := by
              rw [alike.settings]
              exact dissectRecords_sameNames alike.names context template set.buffer _ _ 4 _
            simp only [isOption, Bool.false_eq_true, if_false]
            rw [records]
            refine (Together.refl _).bind ?_
            rintro printed _ rfl
            exact .ok ⟨alike, rfl⟩

theorem dissectNetFlowV5 (globals : ReadOnlyGlobals) (the5Record : Mem)
    (alike : one.AnswersAlike other) :
    F2k.dissectNetFlowV5 globals the5Record (some other) =
      F2k.dissectNetFlowV5 globals the5Record (some one) := by
  change dissectNetFlowV5Records globals the5Record other _ 0 = _
  rw [alike.settings]
  exact dissectNetFlowV5Records_sameNames alike.names globals the5Record _ 0

end ObservationID.AnswersAlike

/-! Sensors -/

/-- The same observation ids are configured, and each of them answers the same. -/
structure Sensor.AnswersAlike (one other : Sensor) : Prop where
  configuredId : other.configuredId = one.configuredId
  configured : ∀ id, Option.Rel ObservationID.AnswersAlike (one.configured id)
    (other.configured id)

namespace Sensor.AnswersAlike

variable {one other : Sensor}

theorem getObservationId (alike : one.AnswersAlike other) (id : UInt32) :
    Option.Rel ObservationID.AnswersAlike (one.getObservationId id)
      (other.getObservationId id) := by
  rw [getObservationId_eq, getObservationId_eq, alike.configuredId]
  exact alike.configured _

theorem updateObservationId (alike : one.AnswersAlike other) (id : UInt32)
    {changed companion : ObservationID} (after : changed.AnswersAlike companion) :
    (one.updateObservationId id changed).AnswersAlike
      (other.updateObservationId id companion) where
  configuredId := by
    funext asked
    rw [configuredId_updateObservationId, configuredId_updateObservationId, alike.configuredId]
  configured := by
    intro asked
    rw [configured_updateObservationId, configured_updateObservationId, alike.configuredId]
    split
    · exact .some after
    · exact alike.configured asked

theorem dissectReceived (alike : one.AnswersAlike other) (received : Received) :
    Together (fun left right => left.1.AnswersAlike right.1 ∧ left.2 = right.2)
      (F2k.dissectReceived one received) (F2k.dissectReceived other received) := by
  cases hasSets : received.hasSets with
  | true =>
      have known := alike.getObservationId (packetObservationId received.buffer)
      rw [dissectReceived_sets hasSets, dissectReceived_sets hasSets]
      generalize one.getObservationId (packetObservationId received.buffer) = first at known ⊢
      generalize other.getObservationId (packetObservationId received.buffer) = second at known ⊢
      cases known with
      | none => exact .ok ⟨alike, rfl⟩
      | some answers =>
          refine (runSteps_together (fun _ _ set alike => alike.dissectSet _ _ set)
            (setsOf received.buffer received.bufferLen) answers).map ?_
          intro left right after
          exact ⟨alike.updateObservationId _ after.1,
            congrArg List.flatten (List.forall₂_eq_eq_eq ▸ after.2)⟩
  | false =>
      by_cases isV5 : received.globals.sensorsInfo = true ∧ headerNumber received.buffer 0 2 = 5
      · have known := alike.getObservationId received.v5ObservationId
        rw [dissectReceived_v5 isV5.1 isV5.2, dissectReceived_v5 isV5.1 isV5.2]
        generalize one.getObservationId received.v5ObservationId = first at known ⊢
        generalize other.getObservationId received.v5ObservationId = second at known ⊢
        have records : Together Eq
            (dissectNetFlowV5 received.globals received.buffer first)
            (dissectNetFlowV5 received.globals received.buffer second) := by
          cases known with
          | none => exact .refl _
          | some answers =>
              rw [answers.dissectNetFlowV5]
              exact .refl _
        refine records.map ?_
        rintro printed _ rfl
        exact ⟨alike, rfl⟩
      · have notV5 : received.globals.sensorsInfo = true →
            headerNumber received.buffer 0 2 ≠ 5 :=
          fun active version => isV5 ⟨active, version⟩
        rw [dissectReceived_other hasSets notV5, dissectReceived_other hasSets notV5]
        exact .ok ⟨alike, rfl⟩

theorem runSteps (alike : one.AnswersAlike other) (datagrams : List Received) :
    Together (fun left right => left.1.AnswersAlike right.1 ∧ left.2 = right.2)
      (Lib.runSteps F2k.dissectReceived one datagrams)
      (Lib.runSteps F2k.dissectReceived other datagrams) := by
  refine (runSteps_together (fun _ _ received alike => alike.dissectReceived received) datagrams
    alike).mono ?_
  intro left right after
  exact ⟨after.1, List.forall₂_eq_eq_eq ▸ after.2⟩

end Sensor.AnswersAlike

end F2k
