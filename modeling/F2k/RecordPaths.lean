import F2k.Abreast
import F2k.EncodedSet
import F2k.ExporterCache

namespace F2k

open Lib

/-! The same flow in a NetFlow V5 datagram and in a V9 data set: what the two loops over the
fields of a record make of it. -/

/-- An element of a V5 record as a field of a data set. -/
def v5FieldPlace (flowIdx : Nat) (element : Element) : Option FieldPlace :=
  (v5Place flowIdx element.templateElementId.toNat).map fun (place, length) =>
    { field :=
        { fieldId := element.templateElementId
          fieldLen := UInt16.ofNat length
          v9Template := findTemplate element.templateElementId }
      place
      length }

def v5Places (flowIdx : Nat) : List FieldPlace :=
  v5TemplateFields.filterMap (v5FieldPlace flowIdx)

/-- The fields of a template for V5 records, as it is stored. -/
def v5Fields : List TemplateField :=
  (v5Places 0).map FieldPlace.field

/-- The values of the record, in the order of the fields. -/
def v5Values (the5Record : Mem) (flowIdx : Nat) : List Bytes :=
  (v5Places flowIdx).map (FieldPlace.bytes the5Record)

theorem v5Places_fields (flowIdx : Nat) :
    (v5Places flowIdx).map FieldPlace.field = v5Fields := rfl

/-! Elements that print nothing when nothing is reported for them -/

/-- When nothing is reported for the element, nothing else is printed from its bytes. -/
def PrintsWhole (globals : ReadOnlyGlobals) (element : Element) (buffer : Mem)
    (realFieldLen : Nat) : Prop :=
  ∀ line cache, Outcome (fun _ => True)
    (fun printed => printed.valueRet = 0 → printed.line = line)
    (printNetflowRecordWithTemplate globals line element buffer realFieldLen cache)

/-- Exporters that print nothing while directions are normalized. -/
def ExportFn.silent : ExportFn → Bool
  | .printNet | .printNetName | .printNetV6 | .printNetNameV6 | .printInterfaceName
  | .printInterfaceDescription | .printCountryCode | .printASIpv4Name => true
  | _ => false

section Whole

variable {globals : ReadOnlyGlobals} {buffer : Mem} {realFieldLen : Nat}

theorem unlessNormalizing_saved (normalizing : globals.normalizeDirections = true)
    (exporter : Exporter) (field : Bytes) (cache : FlowCache) :
    unlessNormalizing exporter globals field cache = cache.saved :=
  if_pos normalizing

theorem ipv4To6Decorator_saved (normalizing : globals.normalizeDirections = true)
    (exporter : Exporter) (field : Bytes) (cache : FlowCache) :
    ipv4To6Decorator (unlessNormalizing exporter) globals field cache = cache.saved := by
  rw [ipv4To6Decorator]
  split
  · rfl
  · exact unlessNormalizing_saved normalizing exporter _ cache

theorem exportField_silent (normalizing : globals.normalizeDirections = true)
    (cache : FlowCache) : ∀ exportFn : ExportFn, exportFn.silent = true →
      exportField globals exportFn buffer realFieldLen cache = cache.saved
  | .printNet, _ | .printNetName, _ => ipv4To6Decorator_saved normalizing _ _ cache
  | .printNetV6, _ | .printNetNameV6, _ | .printInterfaceName, _
  | .printInterfaceDescription, _ => unlessNormalizing_saved normalizing _ _ cache
  | .printCountryCode, _ | .printASIpv4Name, _ => if_pos normalizing

theorem printElement_whole (line : Bytes) (element : Element) (cache : FlowCache) :
    Outcome (fun _ => True) (fun printed => printed.valueRet = 0 → printed.line = line)
      (printElement globals line element buffer realFieldLen cache) := by
  cases named : element.jsonElementName with
  | none =>
      rw [printElement, named]
      exact trivial
  | some name =>
      rw [printElement_eq globals line buffer realFieldLen cache named]
      apply Outcome.map_iff.mpr
      cases element.exported globals buffer realFieldLen cache with
      | error fault => exact trivial
      | ok printed =>
          unfold appended appendPrinted
          intro none
          simp only at none ⊢
          split
          · next some =>
              rw [if_pos some] at none
              split at none <;> omega
          · rfl

/-- Elements that print nothing of their own leave the line as it is. -/
theorem printPostTemplate_silent (normalizing : globals.normalizeDirections = true)
    {elements : List Element}
    (silent : Element.EveryOf (fun element => element.exportFn.all ExportFn.silent = true)
      elements) (line : Bytes) (cache : FlowCache) :
    Outcome (fun _ => True) (fun printed => printed.line = line)
      (printPostTemplate globals line elements buffer realFieldLen cache) := by
  have own : ∀ element other cache, element.exportFn.all ExportFn.silent = true → other = line →
      Outcome (fun _ : Fault => True) (fun printed => printed.line = line)
        (printElement globals other element buffer realFieldLen cache) := by
    rintro element _ cache quiet rfl
    have exported : element.exported globals buffer realFieldLen cache = cache.saved := by
      unfold Element.exported
      cases exporter : element.exportFn with
      | none => rfl
      | some exportFn =>
          rw [exporter] at quiet
          exact exportField_silent normalizing cache exportFn (by simpa using quiet)
    have none : Outcome (fun _ => True) (fun printed => printed.length = 0)
        (element.exported globals buffer realFieldLen cache) := by
      rw [exported]
      exact rfl
    refine printElement_outcome (fun _ => trivial) none ?_
    intro name printed valueRet _ none
    unfold appendPrinted
    rw [none]
    rfl
  exact @printPostTemplate_outcome globals buffer realFieldLen _ (fun other _ => other = line) _ own
    elements line cache silent rfl

theorem printsWhole_of_silent {element : Element}
    (silent : ∀ line cache, Outcome (fun _ => True) (fun printed => printed.line = line)
      (printPostTemplate globals line element.postTemplate buffer realFieldLen cache)) :
    PrintsWhole globals element buffer realFieldLen := by
  intro line cache
  cases element with
  | mk templateElementId quote jsonElementName exportFn postTemplate =>
      rw [printNetflowRecordWithTemplate]
      refine (printElement_whole line _ cache).bind ?_
      intro own _ whole
      refine (silent own.line own.cache).bind ?_
      intro after _ same none
      exact same.trans (whole none)

theorem printsWhole_of_childless {element : Element} (childless : element.postTemplate = []) :
    PrintsWhole globals element buffer realFieldLen := by
  apply printsWhole_of_silent
  intro line cache
  rw [childless, printPostTemplate]
  exact rfl

theorem printsWhole_of_reported {element : Element}
    (reported : ∀ cache, Outcome (fun _ => True) (fun printed => 0 < printed.length)
      (element.exported globals buffer realFieldLen cache)) :
    PrintsWhole globals element buffer realFieldLen := by
  intro line cache
  cases element with
  | mk templateElementId quote jsonElementName exportFn postTemplate =>
      rw [printNetflowRecordWithTemplate]
      have own : Outcome (fun _ => True) (fun printed => 0 < printed.valueRet)
          (printElement globals line
            (.mk templateElementId quote jsonElementName exportFn postTemplate) buffer
            realFieldLen cache) := by
        cases jsonElementName with
        | none => exact trivial
        | some name =>
            rw [printElement_eq globals line buffer realFieldLen cache rfl]
            refine Outcome.map_iff.mpr ((reported cache).mono ?_)
            intro printed some
            simp only [appended, gt_iff_lt, if_pos some]
            split <;> omega
      refine own.bind ?_
      intro own _ some
      cases printPostTemplate globals own.line postTemplate buffer realFieldLen own.cache with
      | error fault => exact trivial
      | ok after => exact fun none => absurd none (Nat.ne_of_gt some)

/-! The fields of a V5 record -/

theorem intoaV4_length_pos (address : UInt32) : 0 < (intoaV4 address).length := by
  simp [intoaV4, ascii]

/-- Addresses and interfaces are reported unless directions are normalized, and then nothing is
printed from their bytes. -/
theorem printsWhole_unlessNormalizing {element : Element}
    (silent : Element.EveryOf (fun element => element.exportFn.all ExportFn.silent = true)
      element.postTemplate)
    (reported : globals.normalizeDirections ≠ true → ∀ cache,
      Outcome (fun _ => True) (fun printed => 0 < printed.length)
        (element.exported globals buffer realFieldLen cache)) :
    PrintsWhole globals element buffer realFieldLen := by
  by_cases normalizing : globals.normalizeDirections = true
  · exact printsWhole_of_silent fun line cache =>
      printPostTemplate_silent normalizing silent line cache
  · exact printsWhole_of_reported (reported normalizing)

theorem printIpv4_reported (save : FlowCacheAddress → Bytes → FlowCacheAddress)
    (cache : FlowCache) (notNormalizing : globals.normalizeDirections ≠ true) :
    Outcome (fun _ => True) (fun printed => 0 < printed.length)
      (processIpv4Addr0 save globals (buffer.slice 4) cache) := by
  rw [processIpv4Addr0, if_neg notNormalizing, printIpv4Addr,
    if_neg (by rw [Mem.length_slice]; decide)]
  exact intoaV4_length_pos _

theorem printSnmp_reported (save : FlowCacheInterfaces → UInt64 → FlowCacheInterfaces)
    (field : Bytes) (cache : FlowCache) (notNormalizing : globals.normalizeDirections ≠ true) :
    Outcome (fun _ => True) (fun printed => 0 < printed.length)
      (processSnmpInterface save globals field cache) := by
  rw [processSnmpInterface, if_neg notNormalizing]
  exact n10_length_pos _

theorem ipv4SrcAddr_whole : PrintsWhole globals ipv4SrcAddr buffer 4 :=
  printsWhole_unlessNormalizing (by decide) fun notNormalizing cache =>
    printIpv4_reported (fun address ip => { address with src := ip }) cache notNormalizing

theorem ipv4DstAddr_whole : PrintsWhole globals ipv4DstAddr buffer 4 :=
  printsWhole_unlessNormalizing (by decide) fun notNormalizing cache =>
    printIpv4_reported (fun address ip => { address with dst := ip }) cache notNormalizing

theorem inputSnmp_whole : PrintsWhole globals inputSnmp buffer 2 :=
  printsWhole_unlessNormalizing (by decide) fun notNormalizing cache =>
    printSnmp_reported (fun interfaces number => { interfaces with input := number })
      _ cache notNormalizing

theorem outputSnmp_whole : PrintsWhole globals outputSnmp buffer 2 :=
  printsWhole_unlessNormalizing (by decide) fun notNormalizing cache =>
    printSnmp_reported (fun interfaces number => { interfaces with output := number })
      _ cache notNormalizing

end Whole

section Fields

variable (globals : ReadOnlyGlobals) (the5Record : Mem) (flowIdx : Nat)

/-- The V5 loop prints the element as the loop over a data set prints its field. -/
def PrintsAsField (element : Element) : Prop :=
  ∃ place, v5FieldPlace flowIdx element = some place ∧ ∀ line cache,
    dissectNetFlowV5Field globals the5Record flowIdx line element cache =
      place.print globals the5Record line cache

theorem printsAsField_of_whole {element : Element} {place length : Nat}
    (found : findTemplate element.templateElementId = some element)
    (placed : v5Place flowIdx element.templateElementId.toNat = some (place, length))
    (whole : PrintsWhole globals element (the5Record.shift place) length) :
    PrintsAsField globals the5Record flowIdx element := by
  unfold PrintsAsField v5FieldPlace
  rw [placed]
  refine ⟨_, rfl, ?_⟩
  intro line cache
  rw [dissectNetFlowV5Field, placed, FieldPlace.print, found]
  have kept := whole line cache
  simp only
  cases ran : printNetflowRecordWithTemplate globals line element (the5Record.shift place)
      length cache with
  | error fault => rfl
  | ok printed =>
      rw [ran] at kept
      rw [Run.ok_bind]
      split
      · next none =>
          rw [← kept none]
          rfl
      · rfl

theorem v5Elements_printAsFields :
    ∀ element ∈ v5TemplateFields.dropLast, PrintsAsField globals the5Record flowIdx element := by
  intro element member
  simp only [v5TemplateFields, List.dropLast, List.mem_cons, List.not_mem_nil, or_false]
    at member
  rcases member with rfl | rfl | rfl | rfl | rfl | rfl | rfl | rfl | rfl | rfl | rfl | rfl | rfl |
    rfl
  · exact printsAsField_of_whole globals the5Record flowIdx rfl rfl ipv4SrcAddr_whole
  · exact printsAsField_of_whole globals the5Record flowIdx rfl rfl ipv4DstAddr_whole
  · exact printsAsField_of_whole globals the5Record flowIdx rfl rfl inputSnmp_whole
  · exact printsAsField_of_whole globals the5Record flowIdx rfl rfl outputSnmp_whole
  all_goals
    exact printsAsField_of_whole globals the5Record flowIdx rfl rfl
      (printsWhole_of_childless rfl)

theorem printPlaces_append (buffer : Mem) (places more : List FieldPlace) (line : Bytes)
    (cache : FlowCache) :
    printPlaces globals buffer (places ++ more) line cache =
      printPlaces globals buffer places line cache >>= fun printed =>
        printPlaces globals buffer more printed.line printed.cache := by
  induction places generalizing line cache with
  | nil => rfl
  | cons place rest ih =>
      rw [List.cons_append, printPlaces, printPlaces]
      cases place.print globals buffer line cache with
      | error fault => rfl
      | ok printed =>
          rw [Run.ok_bind, Run.ok_bind]
          exact ih printed.line printed.cache

theorem dissectNetFlowV5Fields_append {elements : List Element} (rest : List Element)
    (asFields : ∀ element ∈ elements, PrintsAsField globals the5Record flowIdx element)
    (line : Bytes) (cache : FlowCache) :
    dissectNetFlowV5Fields globals the5Record flowIdx (elements ++ rest) line cache =
      printPlaces globals the5Record (elements.filterMap (v5FieldPlace flowIdx)) line cache >>=
        fun printed =>
          dissectNetFlowV5Fields globals the5Record flowIdx rest printed.line printed.cache := by
  induction elements generalizing line cache with
  | nil => rfl
  | cons element more ih =>
      obtain ⟨first, others⟩ := List.forall_mem_cons.mp asFields
      obtain ⟨place, placed, printed⟩ := first
      rw [List.cons_append, dissectNetFlowV5Fields, printed,
        List.filterMap_cons_some placed, printPlaces]
      cases place.print globals the5Record line cache with
      | error fault => rfl
      | ok printed =>
          rw [Run.ok_bind, Run.ok_bind]
          exact ih others printed.line printed.cache

/-- What only the loop over a data set prints of the engine. -/
def engineText (engineId : UInt8) : Bytes :=
  let name := engineIdNameText globals engineId
  if name.length > 0 then
    memberText (ascii "engine_id_name") true ++ name ++ ascii "\""
  else []

def engineIdPlace : FieldPlace where
  field := { fieldId := 39, fieldLen := 1, v9Template := findTemplate 39 }
  place := 21
  length := 1

theorem v5Places_eq :
    v5Places flowIdx =
      v5TemplateFields.dropLast.filterMap (v5FieldPlace flowIdx) ++ [engineIdPlace] := rfl

theorem printEngineId_eq {line : Bytes} (opened : Opened line) (cache : FlowCache) :
    engineIdPlace.print globals the5Record line cache =
      .ok { line := line ++ engineText globals (the5Record 21), cache, valueRet := 0 } := by
  have name : cString (ascii "engine_id_name") = ascii "engine_id_name" := by decide
  have own : printElement globals line engineId (the5Record.shift 21) 1 cache =
      .ok { line, cache, valueRet := 0 } := rfl
  have child : printElement globals line engineIdName (the5Record.shift 21) 1 cache =
      .ok (appended line (cString (ascii "engine_id_name")) true
        { text := engineIdNameText globals (the5Record 21)
          length := (engineIdNameText globals (the5Record 21)).length
          cache }) := by
    rw [printElement_eq globals line _ 1 cache rfl]
    rfl
  rw [name] at child
  show printNetflowRecordWithTemplate globals line engineId (the5Record.shift 21) 1 cache = _
  simp only [engineId, engineIdName, entity] at own child ⊢
  simp only [printNetflowRecordWithTemplate, printPostTemplate, own, child, Run.ok_bind,
    Run.pure_eq_ok]
  unfold appended appendPrinted engineText
  rw [elementPrefix_of_opened opened]
  simp only
  split
  · simp only [if_true, List.append_assoc]
  · rw [List.append_nil]

theorem dissectEngineId_eq {line : Bytes} (opened : Opened line) (cache : FlowCache) :
    dissectNetFlowV5Fields globals the5Record flowIdx [engineId] line cache =
      .ok { line, cache, valueRet := 0 } := by
  have printed : printNetflowRecordWithTemplate globals line engineId (the5Record.shift 21) 1
      cache = _ := printEngineId_eq globals the5Record opened cache
  have placed : v5Place flowIdx engineId.templateElementId.toNat = some (21, 1) := rfl
  simp only [dissectNetFlowV5Fields, dissectNetFlowV5Field, placed, printed, Run.ok_bind, if_true,
    Run.pure_eq_ok]

/-- Both loops append the same, and the one over a data set the name of the engine after it. -/
theorem v5Fields_abreast {one two : Bytes} (openedOne : Opened one) (openedTwo : Opened two)
    (cache : FlowCache) :
    Together
      (fun left right : LineState =>
        (∃ text, left.line = one ++ text ∧
          right.line = two ++ text ++ engineText globals (the5Record 21)) ∧
        left.cache = right.cache)
      (dissectNetFlowV5Fields globals the5Record flowIdx v5TemplateFields one cache)
      (printPlaces globals the5Record (v5Places flowIdx) two cache) := by
  have split : dissectNetFlowV5Fields globals the5Record flowIdx v5TemplateFields one cache = _ :=
    dissectNetFlowV5Fields_append globals the5Record flowIdx [engineId]
      (v5Elements_printAsFields globals the5Record flowIdx) one cache
  rw [split, v5Places_eq, printPlaces_append]
  refine (printPlaces_abreast openedOne openedTwo the5Record _ cache (Grown.refl one two)).bind ?_
  intro printed companion abreast
  obtain ⟨text, line, other⟩ := abreast.lines
  have openedLine : Opened printed.line := by
    rw [line]
    exact openedOne.append text
  have openedOther : Opened companion.line := by
    rw [other]
    exact openedTwo.append text
  rw [dissectEngineId_eq globals the5Record flowIdx openedLine, printPlaces,
    printEngineId_eq globals the5Record openedOther]
  refine .ok ⟨⟨text, line, ?_⟩, abreast.cache⟩
  rw [other]

end Fields

/-! Records -/

theorem prefix_appendQuoted (line : Bytes) (name : String) (text : Bytes) :
    elementPrefix line (ascii name) true <+: appendQuoted line name text :=
  (List.prefix_append _ text).trans (List.prefix_append _ _)

theorem opened_startText (flowVersion : Nat) (flowSequenceNumber : UInt32) :
    Opened (startText flowVersion flowSequenceNumber) := by
  have first : ascii "\x7b\"" <+: elementPrefix (ascii "\x7b") (ascii "type") true :=
    ⟨ascii "type\":\"", by decide⟩
  have typed := first.trans (prefix_appendQuoted (ascii "\x7b") "type"
    (ascii "netflowv" ++ n10 (UInt64.ofNat flowVersion)))
  exact typed.trans ((prefix_elementPrefix _ _ _).trans (prefix_appendQuoted _ _ _))

/-- The messages of the two records are the same up to their versions and sequence numbers. -/
def SameMessages (flowVersion otherVersion : Nat) (record other : FlowRecord) : Prop :=
  List.Forall₂
    (SameEnd (startText flowVersion record.flowSequence)
      (startText otherVersion other.flowSequence))
    record.messages other.messages

theorem dissectNetFlowV5Record_abreast {context : PacketContext} {the5Record : Mem}
    (flowIdx : Nat) (observationId : ObservationID) (flowSequenceNumber : UInt16)
    (small : context.flowVersion < 65536)
    (times : withHeaderTimes context.handleIpfix context.flowHeader { observationId } =
      withHeaderTimes false the5Record { observationId }) :
    Together
      (fun record other : FlowRecord => ∃ text,
        List.Forall₂
          (SameEnd (startText (headerNumber the5Record 0 2) record.flowSequence ++ text)
            (startText context.flowVersion other.flowSequence ++ text ++
              engineText context.globals (the5Record 21)))
          record.messages other.messages)
      (dissectNetFlowV5Record context.globals the5Record flowIdx observationId)
      (printRecord context the5Record observationId flowSequenceNumber (v5Places flowIdx)) := by
  rw [dissectNetFlowV5Record, printRecord]
  simp only [startRecord_eq context.globals (headerNumber_lt the5Record 0 2),
    startRecord_eq context.globals small, Run.ok_bind, times]
  refine (v5Fields_abreast context.globals the5Record flowIdx (opened_startText _ _)
    (opened_startText _ _) _).bind ?_
  intro printed companion both
  obtain ⟨⟨text, line, other⟩, sameCache⟩ := both
  rw [← sameCache, line, other]
  have openedOther := ((opened_startText context.flowVersion
    flowSequenceNumber.toUInt32).append text).append (engineText context.globals (the5Record 21))
  refine (finishRecord_abreast ((opened_startText _ _).append text) openedOther
    (Grown.refl _ _) printed.cache).bind ?_
  intro messages others same
  exact .ok ⟨text, same⟩

/-! When the record is sent -/

/-- Printing the field changes no time. -/
def TemplateField.keepsTimes (field : TemplateField) : Bool :=
  field.v9Template.all fun element => decide (element.Every fun element => element.keepsTimes = true)

def uptimePlace (flowIdx : Nat) (fieldId : UInt16) (offset : Nat) : FieldPlace where
  field := { fieldId, fieldLen := 4, v9Template := findTemplate fieldId }
  place := v5HeaderSize + v5RecordSize * flowIdx + offset
  length := 4

/-- The times a V5 record has of its flow. -/
def v5Times (the5Record : Mem) (flowIdx : Nat) : FlowCacheTime where
  sysUptimeS := UInt64.ofNat (headerNumber the5Record 4 4 / 1000)
  exportTimestampS := UInt64.ofNat (headerNumber the5Record 8 4)
  firstSwitchedUptimeS := net2number ((uptimePlace flowIdx 22 24).bytes the5Record) / 1000
  lastSwitchedUptimeS := net2number ((uptimePlace flowIdx 21 28).bytes the5Record) / 1000

section Times

variable {globals : ReadOnlyGlobals} {observationId : ObservationID} {time : FlowCacheTime}

theorem printPlaces_keepsTimes (buffer : Mem) {places : List FieldPlace}
    (keeps : ∀ field ∈ places.map FieldPlace.field, field.keepsTimes = true) (line : Bytes)
    {cache : FlowCache} (before : HasTimes observationId time cache) :
    Outcome (fun _ => False) (fun printed => HasTimes observationId time printed.cache)
      (printPlaces globals buffer places line cache) := by
  refine @printPlaces_outcome globals _ (fun _ cache => HasTimes observationId time cache) buffer
    places line cache ?_ before
  intro place member line cache before
  have kept := keeps place.field (List.mem_map_of_mem member)
  unfold TemplateField.keepsTimes at kept
  unfold FieldPlace.print
  cases known : place.field.v9Template with
  | none => exact before
  | some element =>
      rw [known] at kept
      exact printNetflowRecordWithTemplate_keepsTimes (of_decide_eq_true kept) line before

theorem v5Places_split (flowIdx : Nat) :
    v5Places flowIdx =
      (v5Places flowIdx).take 6 ++
        (uptimePlace flowIdx 22 24 :: uptimePlace flowIdx 21 28 :: (v5Places flowIdx).drop 8) :=
  rfl

theorem printFirstSwitched_eq (the5Record : Mem) (flowIdx : Nat) (line : Bytes)
    (cache : FlowCache) :
    (uptimePlace flowIdx 22 24).print globals the5Record line cache =
      .ok
        { line
          cache :=
            { cache with
              time :=
                { cache.time with
                  firstSwitchedUptimeS := (v5Times the5Record flowIdx).firstSwitchedUptimeS } }
          valueRet := 0 } := rfl

theorem printLastSwitched_eq (the5Record : Mem) (flowIdx : Nat) (line : Bytes)
    (cache : FlowCache) :
    (uptimePlace flowIdx 21 28).print globals the5Record line cache =
      .ok
        { line
          cache :=
            { cache with
              time :=
                { cache.time with
                  lastSwitchedUptimeS := (v5Times the5Record flowIdx).lastSwitchedUptimeS } }
          valueRet := 0 } := rfl

theorem printV5Places_times (the5Record : Mem) (flowIdx : Nat) (line : Bytes) :
    Outcome (fun _ => False)
      (fun printed => HasTimes observationId (v5Times the5Record flowIdx) printed.cache)
      (printPlaces globals the5Record (v5Places flowIdx) line
        (withHeaderTimes false the5Record { observationId })) := by
  have firsts : ∀ field ∈ v5Fields.take 6, field.keepsTimes = true := by decide +kernel
  have lasts : ∀ field ∈ v5Fields.drop 8, field.keepsTimes = true := by decide +kernel
  rw [← v5Places_fields flowIdx, ← List.map_take] at firsts
  rw [← v5Places_fields flowIdx, ← List.map_drop] at lasts
  rw [v5Places_split, printPlaces_append]
  refine (printPlaces_keepsTimes the5Record firsts line ⟨rfl, rfl⟩).bind ?_
  intro printed _ both
  obtain ⟨sameId, sameTime⟩ := both
  rw [printPlaces, printFirstSwitched_eq, Run.ok_bind, printPlaces, printLastSwitched_eq,
    Run.ok_bind]
  refine printPlaces_keepsTimes the5Record lasts _ ⟨sameId, ?_⟩
  rw [sameTime]
  rfl

theorem dissectNetFlowV5Record_sends_iff (globals : ReadOnlyGlobals) (the5Record : Mem)
    (flowIdx : Nat) (observationId : ObservationID) :
    (∃ record, dissectNetFlowV5Record globals the5Record flowIdx observationId = .ok record ∧
        record.messages ≠ []) ↔
      Sends globals observationId (v5Times the5Record flowIdx) := by
  let start := startText (headerNumber the5Record 0 2)
    (UInt32.ofNat (headerNumber the5Record 16 4) + UInt32.ofNat flowIdx)
  let cache := withHeaderTimes false the5Record { observationId }
  have fields : Outcome (fun _ => False)
      (fun printed => HasTimes observationId (v5Times the5Record flowIdx) printed.cache)
      (dissectNetFlowV5Fields globals the5Record flowIdx v5TemplateFields start cache) := by
    obtain ⟨placed, ranPlaces, times⟩ :=
      (@printV5Places_times globals observationId the5Record flowIdx start).exists_ok
    have opened : Opened start := opened_startText _ _
    have abreast := v5Fields_abreast globals the5Record flowIdx opened opened cache
    rw [ranPlaces] at abreast
    obtain ⟨printed, ran, sameCache⟩ := abreast.exists_left
    rw [ran]
    rw [← sameCache.2] at times
    exact times
  obtain ⟨printed, ranFields, sameId, sameTime⟩ := fields.exists_ok
  have ended : dissectNetFlowV5Record globals the5Record flowIdx observationId =
      (finishRecord globals printed.line printed.cache).map fun messages =>
        { flowSequence := UInt32.ofNat (headerNumber the5Record 16 4) + UInt32.ofNat flowIdx
          messages } := by
    rw [dissectNetFlowV5Record]
    simp only [startRecord_eq globals (headerNumber_lt the5Record 0 2), Run.ok_bind]
    rw [ranFields, Run.ok_bind]
    cases finishRecord globals printed.line printed.cache <;> rfl
  rw [ended, ← sameId, ← sameTime, ← finishRecord_sends_iff globals printed.line]
  constructor
  · intro both
    obtain ⟨record, ran, sent⟩ := both
    obtain ⟨messages, finished, rfl⟩ := exists_of_map_eq_ok ran
    obtain ⟨message, rest, rfl⟩ := List.exists_cons_of_ne_nil sent
    exact ⟨message, rest, finished⟩
  · intro both
    obtain ⟨message, rest, finished⟩ := both
    rw [finished]
    exact ⟨_, rfl, List.cons_ne_nil message rest⟩

end Times

/-! The record in a data set -/

theorem encodes_fixed (handleIpfix : Bool) {buffer : Mem} {places : List FieldPlace}
    (fixed : ∀ place ∈ places, place.length = place.field.fieldLen.toNat ∧
      place.field.fieldLen ≠ 65535) :
    EncodesRecord handleIpfix (places.map FieldPlace.field)
      (places.map (FieldPlace.bytes buffer)) (places.map (FieldPlace.bytes buffer)).flatten := by
  induction places with
  | nil => exact .nil
  | cons place rest ih =>
      obtain ⟨⟨length, notVariable⟩, others⟩ := List.forall_mem_cons.mp fixed
      refine .cons (.fixed _ (fun varies => notVariable varies.2) ?_) (ih others)
      rw [FieldPlace.bytes, Mem.length_slice, length]

theorem v5Places_lengths (flowIdx : Nat) : ∀ place ∈ v5Places flowIdx,
    place.length = place.field.fieldLen.toNat ∧ place.field.fieldLen ≠ 65535 ∧
      0 < place.length := by
  intro place member
  have known : ∀ lengths ∈ (v5Places flowIdx).map fun place =>
        (place.length, place.field.fieldLen),
      lengths.1 = lengths.2.toNat ∧ lengths.2 ≠ 65535 ∧ 0 < lengths.1 := by
    show ∀ lengths ∈ (v5Places 0).map fun place => (place.length, place.field.fieldLen), _
    decide +kernel
  exact known _ (List.mem_map_of_mem member)

theorem printAlike_of_bytes {left right : Mem} {first second : FieldPlace}
    (field : first.field = second.field) (bytes : first.bytes left = second.bytes right)
    (some : 0 < second.length) : PrintAlike left right first second := by
  have length : first.length = second.length := by
    have lengths := congrArg List.length bytes
    rwa [FieldPlace.bytes, FieldPlace.bytes, Mem.length_slice, Mem.length_slice] at lengths
  unfold FieldPlace.bytes at bytes
  rw [length] at bytes
  refine FieldPlace.print_congr field length ((Mem.agreeBelow_of_slice_eq bytes).mono ?_)
  unfold FieldPlace.reach
  cases first.field.v9Template with
  | none => exact Nat.zero_le _
  | some element =>
      have reach := element.reach_le first.length
      rw [Option.map_some, Option.getD_some]
      omega

/-- A data set of one record, the one of a V5 datagram: the values of the elements of the V5
path one after another, in a packet of the same times. -/
structure CarriesV5Record (context : PacketContext) (template : FlowSetV9Ipfix)
    (flowsetLen : Nat) (buffer : Mem) (the5Record : Mem) (flowIdx : Nat) : Prop where
  flowVersion : context.flowVersion = 9
  sysUptime : headerNumber context.flowHeader 4 4 = headerNumber the5Record 4 4
  unixSecs : headerNumber context.flowHeader 8 4 = headerNumber the5Record 8 4
  fields : template.fields = v5Fields
  contents : ∃ padding : Bytes, padding.length < 4 ∧
    (buffer.shift 4).StartsWith ((v5Values the5Record flowIdx).flatten ++ padding) ∧
    flowsetLen = ((v5Values the5Record flowIdx).flatten ++ padding).length + 4

theorem CarriesV5Record.dissected {context : PacketContext} {template : FlowSetV9Ipfix}
    {flowsetLen : Nat} {buffer the5Record : Mem} {flowIdx : Nat}
    (carries : CarriesV5Record context template flowsetLen buffer the5Record flowIdx)
    (observationId : ObservationID) (flowSequenceNumber : UInt16) :
    dissectNetFlowV9V10FlowSetWithTemplate context template flowsetLen buffer observationId
        flowSequenceNumber =
      (printRecord context the5Record observationId flowSequenceNumber (v5Places flowIdx)).map
        fun record => [record] := by
  obtain ⟨_, _, _, fields, padding, short, starts, length⟩ := carries
  obtain ⟨templateId, isOptionTemplate, _⟩ := template
  simp only at fields
  subst fields
  have encodes : EncodesRecord context.handleIpfix v5Fields (v5Values the5Record flowIdx)
      (v5Values the5Record flowIdx).flatten := by
    rw [← v5Places_fields flowIdx]
    exact encodes_fixed context.handleIpfix fun place member =>
      ⟨(v5Places_lengths flowIdx place member).1, (v5Places_lengths flowIdx place member).2.1⟩
  have hasBytes : HasBytes v5Fields := ⟨⟨8, 4, findTemplate 8⟩, .head _, by decide⟩
  have ends : EndsWithBytes v5Fields := by
    show ∀ last ∈ v5Fields.getLast?, last.fieldLen ≠ 0
    decide +kernel
  let set : EncodedSet context.handleIpfix v5Fields :=
    { records := [⟨_, _, encodes⟩], padding }
  have body : set.body = (v5Values the5Record flowIdx).flatten ++ padding := by
    rw [EncodedSet.body, recordsBytes, List.flatMap_singleton]
  have padded : WellPadded set := by
    refine ⟨short, ?_, .inr ends⟩
    intro last member
    obtain rfl := Option.some.inj member
    have bytes : (v5Values the5Record flowIdx).flatten.length = 37 := rfl
    show 4 ≤ (v5Values the5Record flowIdx).flatten.length + padding.length
    rw [bytes]
    omega
  have decodes := dissectNetFlowV9V10FlowSetWithTemplate_decodes context
    ⟨templateId, isOptionTemplate, v5Fields⟩ set buffer hasBytes padded (by rwa [body])
  obtain ⟨places, read, run⟩ := decodes
  rw [length, ← body, run]
  obtain ⟨first, rfl, same⟩ := List.map_eq_singleton_iff.mp read
  have zipped : v5Fields.zip (v5Values the5Record flowIdx) = (v5Places flowIdx).map
      fun place => (place.field, place.bytes the5Record) := by
    rw [← v5Places_fields flowIdx, v5Values, List.zip_map']
  have alike : List.Forall₂ (PrintAlike buffer the5Record) first (v5Places flowIdx) := by
    have pairs := List.forall₂_eq_eq_eq.symm ▸ same.trans zipped
    rw [readFields, List.forall₂_map_left_iff, List.forall₂_map_right_iff] at pairs
    obtain ⟨lengths, each⟩ := List.forall₂_iff_zip.mp pairs
    refine List.forall₂_iff_zip.mpr ⟨lengths, ?_⟩
    intro place origin member
    obtain ⟨field, bytes⟩ := Prod.mk.inj (each member)
    exact printAlike_of_bytes field bytes
      (v5Places_lengths flowIdx origin (List.of_mem_zip member).2).2.2
  rw [printRecords, printRecords, printRecord_congr alike]
  cases printRecord context the5Record observationId flowSequenceNumber (v5Places flowIdx) <;> rfl

/-! When the two paths agree -/

theorem SameEnd.grown_iff {one two text more : Bytes} {message other : Message}
    (sameEnd : SameEnd (one ++ text) (two ++ text ++ more) message other) :
    SameEnd one two message other ↔ more = [] := by
  obtain ⟨⟨tail, string, otherString⟩, clientMac⟩ := sameEnd
  constructor
  · intro both
    obtain ⟨⟨rest, same, otherSame⟩, _⟩ := both
    rw [string, List.append_assoc, List.append_cancel_left_eq] at same
    rw [otherString, ← same, List.append_assoc, List.append_assoc,
      List.append_cancel_left_eq, List.append_cancel_left_eq] at otherSame
    exact List.append_left_eq_self.mp otherSame
  · intro none
    rw [none, List.append_nil] at otherString
    refine ⟨⟨text ++ tail, ?_, ?_⟩, clientMac⟩
    · rw [string, List.append_assoc]
    · rw [otherString, List.append_assoc]

theorem forall₂_sameEnd_iff {one two text more : Bytes} {messages others : List Message}
    (sameEnds : List.Forall₂ (SameEnd (one ++ text) (two ++ text ++ more)) messages others) :
    List.Forall₂ (SameEnd one two) messages others ↔ more = [] ∨ messages = [] := by
  constructor
  · intro same
    cases same with
    | nil => exact .inr rfl
    | cons first _ =>
        cases sameEnds with
        | cons end₂ _ => exact .inl (end₂.grown_iff.mp first)
  · intro
    | .inl nothing => exact sameEnds.imp fun _ _ sameEnd => sameEnd.grown_iff.mpr nothing
    | .inr unsent =>
        subst unsent
        cases sameEnds
        exact .nil

theorem engineText_eq_nil_iff (globals : ReadOnlyGlobals) (engineId : UInt8) :
    engineText globals engineId = [] ↔ engineIdNameText globals engineId = [] := by
  unfold engineText
  cases engineIdNameText globals engineId with
  | nil => simp
  | cons first rest => simp [memberText, ascii]

/-- Both paths make the same messages of the record, up to version and sequence number, or
both stop at the same fault. -/
def PathsAgree (context : PacketContext) (template : FlowSetV9Ipfix) (flowsetLen : Nat)
    (buffer the5Record : Mem) (flowIdx : Nat) (observationId : ObservationID)
    (flowSequenceNumber : UInt16) : Prop :=
  Together
    (fun record records => ∃ other, records = [other] ∧
      SameMessages (headerNumber the5Record 0 2) context.flowVersion record other)
    (dissectNetFlowV5Record context.globals the5Record flowIdx observationId)
    (dissectNetFlowV9V10FlowSetWithTemplate context template flowsetLen buffer observationId
      flowSequenceNumber)

/-- The V5 path drops the name of the engine, and nothing else. -/
theorem pathsAgree_iff {context : PacketContext} {template : FlowSetV9Ipfix} {flowsetLen : Nat}
    {buffer the5Record : Mem} {flowIdx : Nat}
    (carries : CarriesV5Record context template flowsetLen buffer the5Record flowIdx)
    (observationId : ObservationID) (flowSequenceNumber : UInt16) :
    PathsAgree context template flowsetLen buffer the5Record flowIdx observationId
        flowSequenceNumber ↔
      engineIdNameText context.globals (the5Record 21) = [] ∨
        ¬Sends context.globals observationId (v5Times the5Record flowIdx) := by
  have times : withHeaderTimes context.handleIpfix context.flowHeader { observationId } =
      withHeaderTimes false the5Record { observationId } := by
    have version : context.handleIpfix = false := by
      rw [PacketContext.handleIpfix, carries.flowVersion]
      rfl
    simp only [withHeaderTimes, version, Bool.false_eq_true, if_false, carries.sysUptime,
      carries.unixSecs]
  have small : context.flowVersion < 65536 := by
    rw [carries.flowVersion]
    decide
  have abreast := dissectNetFlowV5Record_abreast flowIdx observationId flowSequenceNumber small
    times
  rw [PathsAgree, carries.dissected, ← dissectNetFlowV5Record_sends_iff,
    ← engineText_eq_nil_iff]
  generalize dissectNetFlowV5Record context.globals the5Record flowIdx observationId = run,
    printRecord context the5Record observationId flowSequenceNumber (v5Places flowIdx) = other
    at abreast ⊢
  cases abreast with
  | error fault =>
      constructor
      · intro _
        right
        intro both
        obtain ⟨record, ran, _⟩ := both
        cases ran
      · exact fun _ => .error fault
  | @ok record other values =>
      obtain ⟨text, sameEnds⟩ := values
      have same := forall₂_sameEnd_iff sameEnds
      have sent : (∃ result, (.ok record : Run FlowRecord) = .ok result ∧ result.messages ≠ []) ↔
          record.messages ≠ [] := by
        constructor
        · intro both
          obtain ⟨result, ran, messages⟩ := both
          cases ran
          exact messages
        · exact fun messages => ⟨record, rfl, messages⟩
      rw [sent, not_ne_iff, ← same]
      constructor
      · intro together
        obtain ⟨result, single, agree⟩ := Together.ok_iff.mp together
        obtain rfl := List.singleton_injective single
        exact agree
      · exact fun agree => .ok ⟨other, rfl, agree⟩

theorem SameEnd.lengths {one two : Bytes} {messages others : List Message}
    (sameEnds : List.Forall₂ (SameEnd one two) messages others) (starts : one.length = two.length) :
    messages.map (fun message => message.string.length) =
      others.map fun message => message.string.length := by
  induction sameEnds with
  | nil => rfl
  | cons first _ ih =>
      obtain ⟨⟨text, string, other⟩, _⟩ := first
      rw [List.map_cons, List.map_cons, ih, string, other, List.length_append,
        List.length_append, starts]

/-- One record of engine 7, which no database names. -/
def engine7Datagram : Mem :=
  .ofBytes (toBe 2 5 ++ toBe 2 1 ++ toBe 4 5000000 ++ toBe 4 1000000 ++ toBe 8 0 ++
    [0, 7, 0, 0] ++ toBe 48 0)

/-- The packet of the same times, with a set of the same record. -/
def engine7Context : PacketContext where
  globals := { splittingGlobals with separateLongFlows := false }
  flowVersion := 9
  flowHeader := .ofBytes (v9PacketBytes 0 [])

def v5Template : FlowSetV9Ipfix where
  templateId := 256
  isOptionTemplate := false
  fields := v5Fields

def engine7Set : Mem :=
  .ofBytes (setBytes 256 (v5Values engine7Datagram 0).flatten)

theorem engine7_carries :
    CarriesV5Record engine7Context v5Template 41 engine7Set engine7Datagram 0 :=
  ⟨rfl, rfl, rfl, rfl, [], by decide, by decide +kernel, rfl⟩

theorem pathsAgree_iff_engine7 :
    PathsAgree engine7Context v5Template 41 engine7Set engine7Datagram 0 (.new 7) 0 ↔
      engineIdNameText engine7Context.globals (engine7Datagram 21) = [] ∨
        ¬Sends engine7Context.globals (.new 7) (v5Times engine7Datagram 0) :=
  pathsAgree_iff engine7_carries (.new 7) 0

/-- The V9 path alone tells the engine's name. -/
theorem pathsDiffer_engine7 :
    CarriesV5Record engine7Context v5Template 41 engine7Set engine7Datagram 0 ∧
      ¬PathsAgree engine7Context v5Template 41 engine7Set engine7Datagram 0 (.new 7) 0 := by
  refine ⟨engine7_carries, ?_⟩
  intro agree
  have v5 : (dissectNetFlowV5Record engine7Context.globals engine7Datagram 0 (.new 7)).map
      (fun record =>
        (record.flowSequence, record.messages.map fun message => message.string.length)) =
      .ok (0, [334]) := by
    decide +kernel
  have v9 : (dissectNetFlowV9V10FlowSetWithTemplate engine7Context v5Template 41 engine7Set
      (.new 7) 0).map (List.map fun record =>
        (record.flowSequence, record.messages.map fun message => message.string.length)) =
      .ok [(0, [355])] := by
    decide +kernel
  obtain ⟨record, ran, recordEq⟩ := exists_of_map_eq_ok v5
  obtain ⟨records, ranSet, recordsEq⟩ := exists_of_map_eq_ok v9
  rw [PathsAgree, ran, ranSet] at agree
  obtain ⟨other, rfl, same⟩ := Together.ok_iff.mp agree
  obtain ⟨sequence, lengths⟩ := Prod.mk.inj recordEq
  obtain ⟨otherSequence, otherLengths⟩ := Prod.mk.inj (List.singleton_injective recordsEq)
  have starts : (startText (headerNumber engine7Datagram 0 2) record.flowSequence).length =
      (startText engine7Context.flowVersion other.flowSequence).length := by
    rw [sequence, otherSequence]
    decide
  have sameLengths := SameEnd.lengths same starts
  rw [lengths, otherLengths] at sameLengths
  exact absurd sameLengths (by decide)

end F2k
