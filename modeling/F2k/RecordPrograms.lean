import F2k.FlowSequence
import F2k.LongFlow
import F2k.RecordLines
import F2k.ReportedLengths

namespace F2k

open Lib

/-! The programs that print a record write what its functions return. -/

/-- No MAC address has a name. -/
structure NamelessGlobals extends AnsweringGlobals where
  nameless : ∀ node ∈ rbDatabases.macNameDatabase, fastString node.2 = []

def NamelessGlobals.context (globals : NamelessGlobals) (flowVersion : Nat) (flowHeader : Mem) :
    PacketContext where
  globals := globals.toReadOnlyGlobals
  flowVersion
  flowHeader

namespace Printing

theorem runs_appendIf (condition : Prop) [Decidable condition] (text line : Bytes) :
    (appendIf condition text).Runs line () (line ++ if condition then text else []) := by
  unfold appendIf
  split
  · exact runs_memappendFast text line
  · rw [List.append_nil]
    exact Program.runs_pure () line

theorem runs_written (line : Bytes) : written.Runs line line line :=
  fun _ => rfl

theorem runs_cut (line : Bytes) (kept : Nat) : (cut kept).Runs line () (line.take kept) :=
  fun _ => rfl

theorem ends_pure (value : α) (line : Bytes) :
    (pure value : Printing α).Ends line value line :=
  (Program.runs_pure value line).ends

theorem ends_ofRun {run : Run α} {value : α} (ran : run = .ok value) (line : Bytes) :
    (ofRun run).Ends line value line := by
  rw [ran]
  exact ends_pure value line

/-- What stands before the value is the name with its quotes. -/
theorem runs_printElementName (line name : Bytes) (quote : Bool) :
    (printElementName name quote).Runs line () (elementPrefix line (cString name) quote) := by
  refine (runs_written line).bind ?_
  refine (runs_appendIf (cString line ≠ ascii "\x7b") (ascii ",") line).bind ?_
  refine (runs_memappendFast (ascii "\"") _).bind ?_
  refine (runs_memappendFast (cString name) _).bind ?_
  refine (runs_memappendFast (ascii "\":") _).bind ?_
  exact runs_appendIf (quote = true) (ascii "\"") _

/-- The end of an element that has this text, or none. -/
theorem runs_endElement {line name text : Bytes} {quote : Bool} {after : FlowCache}
    {printed : LineState}
    (same : printed = appended line name quote { text, length := text.length, cache := after }) :
    (endElement line.length quote { returned := text.length, cache := after }).Runs
      (elementPrefix line name quote ++ text)
      { returned := printed.valueRet, cache := after } printed.line := by
  rw [same]
  unfold endElement appended appendPrinted
  dsimp only
  split
  · exact (runs_appendIf (quote = true) (ascii "\"") _).bind (Program.runs_pure _ _)
  · next nothing =>
      have zero : text.length = 0 := Nat.eq_zero_of_not_pos nothing
      obtain rfl := List.length_eq_zero_iff.mp zero
      have back : (elementPrefix line name quote ++ []).take line.length = line := by
        simp only [elementPrefix, List.append_assoc, List.take_left]
      refine (runs_cut _ line.length).bind ?_
      rw [back]
      exact Program.runs_pure _ line

section

variable {globals : NamelessGlobals} {cache : FlowCache} {buffer : Mem} {realFieldLen : Nat}
variable {line : Bytes}

theorem exported_ends (globals : NamelessGlobals) (exportFn : ExportFn) (buffer : Mem)
    (short : realFieldLen < 2 ^ 16) (sized : cache.Sized) (line : Bytes) :
    ∃ text after,
      exportField globals.toReadOnlyGlobals exportFn buffer realFieldLen cache =
          FlowCache.printed after text ∧
        (exported globals.toReadOnlyGlobals exportFn buffer realFieldLen cache).Ends line
          { returned := text.length, cache := after } (line ++ text) ∧ after.Sized := by
  have unnamed : ¬NamesMac globals.toReadOnlyGlobals exportFn (buffer.slice realFieldLen) := by
    intro names
    obtain ⟨node, found, named⟩ := names.named
    exact named (globals.nameless node (List.mem_of_find?_eq_some found))
  obtain ⟨text, after, ran, appends⟩ :=
    exported_reports globals.toAnsweringGlobals exportFn buffer short ⟨cache, sized⟩ unnamed
  have kept := exportField_sized globals.toReadOnlyGlobals exportFn buffer short sized
  rw [ran] at kept
  exact ⟨text, after, ran, appends line, kept⟩

theorem printValue_ends (globals : NamelessGlobals) (element : Element) (buffer : Mem)
    (short : realFieldLen < 2 ^ 16) (sized : cache.Sized) (line : Bytes) :
    ∃ text after,
      element.exported globals.toReadOnlyGlobals buffer realFieldLen cache =
          FlowCache.printed after text ∧
        (printValue globals.toReadOnlyGlobals element.exportFn buffer realFieldLen cache).Ends line
          { returned := text.length, cache := after } (line ++ text) ∧ after.Sized := by
  unfold Element.exported printValue
  cases element.exportFn with
  | none =>
      refine ⟨[], cache, rfl, ?_, sized⟩
      rw [List.append_nil]
      exact ends_pure _ line
  | some exportFn => exact exported_ends globals exportFn buffer short sized line

/-- The element itself: the line and the flow cache that its function returns, and the length. -/
theorem printElement_ends {element : Element} {printed : LineState}
    (ran : F2k.printElement globals.toReadOnlyGlobals line element buffer realFieldLen cache =
      .ok printed)
    (short : realFieldLen < 2 ^ 16) (sized : cache.Sized) :
    (printElement globals.toReadOnlyGlobals element buffer realFieldLen cache).Ends line
        { returned := printed.valueRet, cache := printed.cache } printed.line ∧
      printed.cache.Sized := by
  cases named : element.jsonElementName with
  | none =>
      rw [F2k.printElement, named] at ran
      cases ran
  | some name =>
      obtain ⟨text, after, exported, value, sized⟩ :=
        printValue_ends globals element buffer short sized
          (elementPrefix line (cString name) element.quote)
      rw [printElement_eq globals.toReadOnlyGlobals line buffer realFieldLen cache named,
        exported] at ran
      cases ran
      rw [printElement, named]
      refine ⟨?_, sized⟩
      refine (runs_bpos line).ends.bind ?_
      refine (runs_printElementName line name element.quote).ends.bind ?_
      exact value.bind (runs_endElement rfl).ends

mutual

theorem printNetflowRecordWithTemplate_ends (globals : NamelessGlobals) :
    ∀ (element : Element) (line : Bytes) (buffer : Mem) (realFieldLen : Nat) (cache : FlowCache)
      (printed : LineState), realFieldLen < 2 ^ 16 → cache.Sized →
      F2k.printNetflowRecordWithTemplate globals.toReadOnlyGlobals line element buffer
          realFieldLen cache = .ok printed →
        (printNetflowRecordWithTemplate globals.toReadOnlyGlobals element buffer realFieldLen
            cache).Ends line { returned := printed.valueRet, cache := printed.cache }
            printed.line ∧ printed.cache.Sized
  | .mk templateElementId quote jsonElementName exportFn postTemplate, line, buffer,
      realFieldLen, cache, printed, short, sized, ran => by
      rw [F2k.printNetflowRecordWithTemplate] at ran
      obtain ⟨own, ranOwn, ran⟩ := Run.bind_eq_ok.mp ran
      obtain ⟨after, ranAfter, ran⟩ := Run.bind_eq_ok.mp ran
      cases ran
      obtain ⟨ownEnds, ownSized⟩ := printElement_ends ranOwn short sized
      obtain ⟨afterEnds, afterSized⟩ :=
        printPostTemplate_ends globals postTemplate own.line buffer realFieldLen own.cache after
          short ownSized ranAfter
      rw [printNetflowRecordWithTemplate]
      exact ⟨ownEnds.bind (afterEnds.bind (ends_pure _ _)), afterSized⟩

theorem printPostTemplate_ends (globals : NamelessGlobals) :
    ∀ (elements : List Element) (line : Bytes) (buffer : Mem) (realFieldLen : Nat)
      (cache : FlowCache) (printed : LineState), realFieldLen < 2 ^ 16 → cache.Sized →
      F2k.printPostTemplate globals.toReadOnlyGlobals line elements buffer realFieldLen cache =
          .ok printed →
        (printPostTemplate globals.toReadOnlyGlobals elements buffer realFieldLen cache).Ends line
            printed.cache printed.line ∧ printed.cache.Sized
  | [], line, _, _, cache, printed, _, sized, ran => by
      rw [F2k.printPostTemplate] at ran
      cases ran
      rw [printPostTemplate]
      exact ⟨ends_pure cache line, sized⟩
  | element :: rest, line, buffer, realFieldLen, cache, printed, short, sized, ran => by
      rw [F2k.printPostTemplate] at ran
      obtain ⟨first, ranFirst, ran⟩ := Run.bind_eq_ok.mp ran
      obtain ⟨firstEnds, firstSized⟩ :=
        printNetflowRecordWithTemplate_ends globals element line buffer realFieldLen cache first
          short sized ranFirst
      obtain ⟨restEnds, restSized⟩ :=
        printPostTemplate_ends globals rest first.line buffer realFieldLen first.cache printed
          short firstSized ran
      rw [printPostTemplate]
      exact ⟨firstEnds.bind restEnds, restSized⟩

end

/-! Records -/

theorem startRecord_ends {flowVersion : Nat} {flowSequenceNumber : UInt32} {printed : LineState}
    (ran : F2k.startRecord globals.toReadOnlyGlobals flowVersion flowSequenceNumber cache =
      .ok printed) (sized : cache.Sized) :
    (startRecord globals.toReadOnlyGlobals flowVersion flowSequenceNumber cache).Ends []
        printed.cache printed.line ∧ printed.cache.Sized := by
  obtain ⟨version, ranVersion, ran⟩ := Run.bind_eq_ok.mp ran
  obtain ⟨versionEnds, versionSized⟩ :=
    printNetflowRecordWithTemplate_ends globals _ _ _ _ _ version (by decide) sized ranVersion
  obtain ⟨sequenceEnds, sequenceSized⟩ :=
    printNetflowRecordWithTemplate_ends globals _ _ _ _ _ printed (by decide) versionSized ran
  refine ⟨?_, sequenceSized⟩
  exact (appends_memappendFast (ascii "\x7b") []).bind
    (versionEnds.bind (sequenceEnds.bind (ends_pure _ _)))

theorem guessDirection_sized {guessed : FlowCache} (sized : cache.Sized)
    (ran : guessDirection cache = .ok guessed) : guessed.Sized := by
  obtain ⟨direction, rfl⟩ := (guessDirection_outcome cache).of_ok ran
  exact { sized with macs := { sized.macs with } }

theorem normalizeDirection_ends {printed : LineState}
    (ran : F2k.normalizeDirection globals.toReadOnlyGlobals line cache = .ok printed)
    (sized : cache.Sized) :
    (normalizeDirection globals.toReadOnlyGlobals cache).Ends line printed.cache printed.line := by
  unfold F2k.normalizeDirection at ran
  unfold normalizeDirection
  split at ran
  · next normalizes =>
      obtain ⟨guessed, guesses, ran⟩ := Run.bind_eq_ok.mp ran
      obtain ⟨ends, _⟩ :=
        printPostTemplate_ends globals postTemplates line _ _ guessed printed (by decide)
          (guessDirection_sized sized guesses) ran
      rw [if_pos normalizes]
      exact (ends_ofRun guesses line).bind ends
  · next keeps =>
      cases ran
      rw [if_neg keeps]
      exact ends_pure cache line

theorem printSensorEnrichment_ends (line : Bytes) (cache : FlowCache) :
    (printSensorEnrichment cache).Ends line () (F2k.printSensorEnrichment line cache) := by
  unfold printSensorEnrichment F2k.printSensorEnrichment
  cases cache.observationId.enrichment with
  | none => exact ends_pure () line
  | some enrichment =>
      refine (appendsText_memappendFastString (ascii ",") line).bind ?_
      exact (appendsText_memappendFastString enrichment _).bind (ends_pure () _)

/-- The program stops where the flow is split. -/
theorem finishRecord_ends {messages : List Message}
    (ran : F2k.finishRecord globals.toReadOnlyGlobals line cache = .ok messages)
    (sized : cache.Sized) :
    ∃ flowCache after,
      (finishRecord globals.toReadOnlyGlobals cache).Ends line flowCache after ∧
        timeSplitFlow globals.toReadOnlyGlobals after flowCache = .ok messages := by
  obtain ⟨withHost, ranHost, ran⟩ := Run.bind_eq_ok.mp ran
  obtain ⟨withReferer, ranReferer, ran⟩ := Run.bind_eq_ok.mp ran
  obtain ⟨printed, normalized, ran⟩ := Run.bind_eq_ok.mp ran
  obtain ⟨hostEnds, hostSized⟩ :=
    printNetflowRecordWithTemplate_ends globals _ _ _ _ _ withHost (by decide) sized ranHost
  obtain ⟨refererEnds, refererSized⟩ :=
    printNetflowRecordWithTemplate_ends globals _ _ _ _ _ withReferer (by decide) hostSized
      ranReferer
  refine ⟨printed.cache, _, ?_, ran⟩
  refine hostEnds.bind (refererEnds.bind ?_)
  refine (normalizeDirection_ends normalized refererSized).bind ?_
  exact (printSensorEnrichment_ends _ _).bind (ends_pure _ _)

theorem starts_printed {globals : ReadOnlyGlobals} {element : Element} {printed : LineState}
    (ran : F2k.printNetflowRecordWithTemplate globals line element buffer realFieldLen cache =
      .ok printed) : line <+: printed.line := by
  have keeps : ∀ (element : Element) (before : Bytes) (cache : FlowCache), True →
      line <+: before → Outcome (fun _ : Fault => True) (fun printed => line <+: printed.line)
        (F2k.printElement globals before element buffer realFieldLen cache) :=
    fun element _ cache _ before =>
      printElement_prefix globals element buffer realFieldLen cache before
  have kept := @printNetflowRecordWithTemplate_outcome globals buffer realFieldLen _
    (fun after _ => line <+: after) _ keeps element line cache
    (Element.every_of_forall (fun _ => trivial) element) (List.prefix_refl line)
  exact kept.of_ok ran

theorem v5Place_short {flowIdx templateElementId place realFieldLen : Nat}
    (found : v5Place flowIdx templateElementId = some (place, realFieldLen)) :
    realFieldLen < 2 ^ 16 := by
  unfold v5Place at found
  dsimp only at found
  split at found
  all_goals cases found
  all_goals decide

theorem dissectNetFlowV5Field_ends {the5Record : Mem} {flowIdx : Nat} {element : Element}
    {printed : LineState}
    (ran : F2k.dissectNetFlowV5Field globals.toReadOnlyGlobals the5Record flowIdx line element
      cache = .ok printed) (sized : cache.Sized) :
    (dissectNetFlowV5Field globals.toReadOnlyGlobals the5Record flowIdx element cache).Ends line
        printed.cache printed.line ∧ printed.cache.Sized := by
  unfold F2k.dissectNetFlowV5Field at ran
  unfold dissectNetFlowV5Field
  cases found : v5Place flowIdx element.templateElementId.toNat with
  | none =>
      rw [found] at ran
      cases ran
      exact ⟨ends_pure cache line, sized⟩
  | some field =>
      obtain ⟨place, realFieldLen⟩ := field
      rw [found] at ran
      obtain ⟨field, ranField, ran⟩ := Run.bind_eq_ok.mp ran
      obtain ⟨ends, sized⟩ :=
        printNetflowRecordWithTemplate_ends globals element line _ _ cache field
          (v5Place_short found) sized ranField
      have back : field.line.take line.length = line :=
        List.prefix_iff_eq_take.mp (starts_printed ranField) |>.symm
      split at ran
      · next nothing =>
          cases ran
          refine ⟨(runs_bpos line).ends.bind (ends.bind ?_), sized⟩
          rw [if_pos nothing]
          refine (runs_cut field.line line.length).ends.bind ?_
          rw [back]
          exact ends_pure _ line
      · next some =>
          cases ran
          refine ⟨(runs_bpos line).ends.bind (ends.bind ?_), sized⟩
          rw [if_neg some]
          exact ends_pure _ _

theorem dissectNetFlowV5Fields_ends {the5Record : Mem} {flowIdx : Nat} {elements : List Element}
    {printed : LineState}
    (ran : F2k.dissectNetFlowV5Fields globals.toReadOnlyGlobals the5Record flowIdx elements line
      cache = .ok printed) (sized : cache.Sized) :
    (dissectNetFlowV5Fields globals.toReadOnlyGlobals the5Record flowIdx elements cache).Ends line
        printed.cache printed.line ∧ printed.cache.Sized := by
  induction elements generalizing line cache with
  | nil =>
      cases ran
      exact ⟨ends_pure cache line, sized⟩
  | cons element rest ih =>
      obtain ⟨first, ranFirst, ran⟩ := Run.bind_eq_ok.mp ran
      obtain ⟨firstEnds, firstSized⟩ := dissectNetFlowV5Field_ends ranFirst sized
      obtain ⟨restEnds, restSized⟩ := ih ran firstSized
      exact ⟨firstEnds.bind restEnds, restSized⟩

theorem fieldExtent_short (handleIpfix : Bool) (fieldLen : UInt16) (buffer : Mem) :
    (fieldExtent handleIpfix fieldLen buffer).2 < 2 ^ 16 := by
  unfold fieldExtent
  split
  · split
    · next short => exact Nat.lt_trans short (by decide)
    · have below := beNat_lt ((buffer.shift 1).slice 2)
      rwa [Mem.length_slice] at below
  · exact fieldLen.toNat_lt

theorem dissectFields_ends {flowVersion : Nat} {flowHeader : Mem} {endFlow displ : Nat}
    {fields : List TemplateField} {printed : LineState × Nat}
    (ran : F2k.dissectFields (globals.context flowVersion flowHeader) buffer endFlow fields displ
      line cache = .ok printed) (sized : cache.Sized) :
    (dissectFields (globals.context flowVersion flowHeader) buffer endFlow fields displ cache).Ends
        line printed.1.cache printed.1.line ∧ printed.1.cache.Sized := by
  induction fields generalizing line cache displ with
  | nil =>
      cases ran
      exact ⟨ends_pure cache line, sized⟩
  | cons field rest ih =>
      rw [F2k.dissectFields] at ran
      rw [dissectFields]
      split at ran
      · next inside =>
          rw [if_pos inside]
          have short := fieldExtent_short (globals.context flowVersion flowHeader).handleIpfix
            field.fieldLen (buffer.shift displ)
          generalize fieldExtent (globals.context flowVersion flowHeader).handleIpfix
            field.fieldLen (buffer.shift displ) = extent at ran short ⊢
          obtain ⟨offset, realFieldLen⟩ := extent
          cases known : field.v9Template with
          | none =>
              rw [known] at ran
              obtain ⟨restEnds, restSized⟩ := ih ran sized
              exact ⟨(ends_pure cache line).bind restEnds, restSized⟩
          | some element =>
              rw [known] at ran
              obtain ⟨first, ranFirst, ran⟩ := Run.bind_eq_ok.mp ran
              obtain ⟨firstEnds, firstSized⟩ :=
                printNetflowRecordWithTemplate_ends globals element line _ _ cache first short sized
                  ranFirst
              obtain ⟨restEnds, restSized⟩ := ih ran firstSized
              exact ⟨firstEnds.bind ((ends_pure _ _).bind restEnds), restSized⟩
      · next outside =>
          cases ran
          rw [if_neg outside]
          exact ⟨ends_pure cache line, sized⟩

theorem newCache_sized (observationId : ObservationID) :
    FlowCache.Sized { observationId } where
  macs := ⟨rfl, rfl, rfl⟩
  httpHost := nofun
  httpReferer := nofun
  sslCommonName := nofun

theorem withHeaderTimes_sized (handleIpfix : Bool) (flowHeader : Mem) (sized : cache.Sized) :
    (withHeaderTimes handleIpfix flowHeader cache).Sized :=
  { sized with macs := { sized.macs with } }

theorem dissectNetFlowV5Record_ends {the5Record : Mem} {flowIdx : Nat}
    {observationId : ObservationID} {record : FlowRecord}
    (ran : F2k.dissectNetFlowV5Record globals.toReadOnlyGlobals the5Record flowIdx observationId =
      .ok record) :
    ∃ flowCache line,
      (dissectNetFlowV5Record globals.toReadOnlyGlobals the5Record flowIdx observationId).Ends []
          flowCache line ∧
        timeSplitFlow globals.toReadOnlyGlobals line flowCache = .ok record.messages := by
  obtain ⟨started, ranStart, ran⟩ := Run.bind_eq_ok.mp ran
  obtain ⟨printed, ranFields, ran⟩ := Run.bind_eq_ok.mp ran
  obtain ⟨messages, finished, ran⟩ := Run.bind_eq_ok.mp ran
  cases ran
  obtain ⟨startEnds, startSized⟩ := startRecord_ends ranStart (newCache_sized observationId)
  obtain ⟨fieldsEnds, fieldsSized⟩ :=
    dissectNetFlowV5Fields_ends ranFields (withHeaderTimes_sized _ _ startSized)
  obtain ⟨flowCache, line, ends, split⟩ := finishRecord_ends finished fieldsSized
  exact ⟨flowCache, line, startEnds.bind (fieldsEnds.bind ends), split⟩

theorem dissectRecord_ends {flowVersion : Nat} {flowHeader : Mem} {template : FlowSetV9Ipfix}
    {endFlow displ after : Nat} {observationId : ObservationID} {flowSequenceNumber : UInt16}
    {record : FlowRecord}
    (ran : F2k.dissectRecord (globals.context flowVersion flowHeader) template buffer endFlow
      observationId flowSequenceNumber displ = .ok (record, after)) :
    ∃ flowCache line,
      (dissectRecord (globals.context flowVersion flowHeader) template buffer endFlow observationId
          flowSequenceNumber displ).Ends [] flowCache line ∧
        timeSplitFlow globals.toReadOnlyGlobals line flowCache = .ok record.messages := by
  obtain ⟨started, ranStart, ran⟩ := Run.bind_eq_ok.mp ran
  obtain ⟨⟨printed, behind⟩, ranFields, ran⟩ := Run.bind_eq_ok.mp ran
  obtain ⟨messages, finished, ran⟩ := Run.bind_eq_ok.mp ran
  cases ran
  obtain ⟨startEnds, startSized⟩ :=
    startRecord_ends ranStart (withHeaderTimes_sized _ _ (newCache_sized observationId))
  obtain ⟨fieldsEnds, fieldsSized⟩ := dissectFields_ends ranFields startSized
  obtain ⟨flowCache, line, ends, split⟩ := finishRecord_ends finished fieldsSized
  exact ⟨flowCache, line, startEnds.bind (fieldsEnds.bind ends), split⟩

/-! The numbers of a message -/

theorem runs_printNumber (globals : ReadOnlyGlobals) (line : Bytes) (value : UInt64)
    (cache : FlowCache) :
    (exported globals .printNumber (.ofBytes (toBe 8 value.toNat)) 8 cache).Runs line
      { returned := (n10 value).length, cache } (line ++ n10 value) := by
  have field : (Mem.ofBytes (toBe 8 value.toNat)).slice 8 = toBe 8 value.toNat := by
    have sliced := Mem.slice_ofBytes (toBe 8 value.toNat)
    rwa [length_toBe] at sliced
  unfold exported
  rw [field]
  change (prints cache (memappendFastN10 (net2number (toBe 8 value.toNat)))).Runs _ _ _
  rw [net2number_toBe_eight]
  exact fun _ => rfl

theorem runs_printUInt64 (globals : ReadOnlyGlobals) (line : Bytes) (id : UInt16) {name : String}
    (value : UInt64) (cache : FlowCache) (noZero : cString (ascii name) = ascii name) :
    (printUInt64 globals (entity id false (some name) (some .printNumber) []) value cache).Runs
      line () (appendNumber line name value) := by
  have printed : LineState.mk (appendNumber line name value) cache (n10 value).length =
      appended line (ascii name) false
        { text := n10 value, length := (n10 value).length, cache } := by
    simp only [appended, appendPrinted, if_pos (n10_length_pos value), Bool.false_eq_true, if_false,
      List.append_nil, appendNumber]
  have own : (printElement globals (entity id false (some name) (some .printNumber) [])
      (.ofBytes (toBe 8 value.toNat)) 8 cache).Runs line { returned := (n10 value).length, cache }
        (appendNumber line name value) := by
    unfold printElement entity
    refine (runs_bpos line).bind ?_
    simp only [Element.jsonElementName, Option.map_some, Element.quote, Element.exportFn,
      printValue]
    refine (runs_printElementName line (ascii name) false).bind ?_
    rw [noZero]
    exact (runs_printNumber globals _ value cache).bind (runs_endElement printed)
  unfold printUInt64
  have tree : (printNetflowRecordWithTemplate globals
      (entity id false (some name) (some .printNumber) []) (.ofBytes (toBe 8 value.toNat)) 8
      cache).Runs line { returned := (n10 value).length, cache }
        (appendNumber line name value) := by
    unfold entity at own ⊢
    rw [printNetflowRecordWithTemplate]
    refine own.bind ?_
    rw [printPostTemplate]
    exact (Program.runs_pure _ _).bind (Program.runs_pure _ _)
  exact tree.bind (Program.runs_pure () _)

theorem runs_printCounts (readOnlyGlobals : ReadOnlyGlobals) (line : Bytes) (bytes pkts : UInt64)
    (cache : FlowCache) :
    (printCounts readOnlyGlobals bytes pkts cache).Runs line () (countedText line bytes pkts) :=
  (runs_printUInt64 readOnlyGlobals line _ bytes cache (by decide)).bind
    (runs_printUInt64 readOnlyGlobals _ _ pkts cache (by decide))

theorem runs_printTimestamp (readOnlyGlobals : ReadOnlyGlobals) (line : Bytes)
    (timestamp : UInt64) :
    (printTimestamp readOnlyGlobals timestamp).Runs line () (stampedText line timestamp) :=
  (runs_printUInt64 readOnlyGlobals line _ timestamp noFlowCache (by decide)).bind
    (runs_memappendFast (ascii "\x7d") _)

theorem runs_printWholeFlow (readOnlyGlobals : ReadOnlyGlobals) (line : Bytes)
    (firstTimestamp dSwitched bytes pkts : UInt64) (cache : FlowCache) :
    (printWholeFlow readOnlyGlobals firstTimestamp dSwitched bytes pkts cache).Runs line ()
      (countedText
        (appendNumber (appendNumber line "first_switched" firstTimestamp) "timestamp"
          (firstTimestamp + dSwitched)) bytes pkts ++ ascii "\x7d") := by
  refine (runs_printUInt64 readOnlyGlobals line _ firstTimestamp cache (by decide)).bind ?_
  refine (runs_printUInt64 readOnlyGlobals _ _ (firstTimestamp + dSwitched) cache (by decide)).bind
    ?_
  refine (runs_printCounts readOnlyGlobals _ bytes pkts cache).bind ?_
  exact runs_memappendFast (ascii "\x7d") _

end

end Printing

end F2k
