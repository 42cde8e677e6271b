import F2k.ExportingProcess
import F2k.MessageMembers
import F2k.MillisecondTimes
import F2k.V5Datagrams
import F2k.Lib.LastWrites

namespace F2k

open Lib

/-! What the messages of a record say of its flow: the bytes, the packets and the times that the
values of the record say last, whatever else is printed of them. -/

/-- A number of the flow cache that the counts and the times of messages are computed from. -/
inductive FlowTotal
  | bytes
  | packets
  | exportTimestampS
  | sysUptimeS
  | firstSwitchedUptimeS
  | lastSwitchedUptimeS
  | firstTimestampS
  | lastTimestampS
deriving DecidableEq

namespace FlowTotal

def of (cache : FlowCache) : FlowTotal → UInt64
  | .bytes => cache.bytes
  | .packets => cache.packets
  | .exportTimestampS => cache.time.exportTimestampS
  | .sysUptimeS => cache.time.sysUptimeS
  | .firstSwitchedUptimeS => cache.time.firstSwitchedUptimeS
  | .lastSwitchedUptimeS => cache.time.lastSwitchedUptimeS
  | .firstTimestampS => cache.time.firstTimestampS
  | .lastTimestampS => cache.time.lastTimestampS

/-- Uptimes are counted in milliseconds, and kept in seconds. -/
def kept (total : FlowTotal) (number : UInt64) : UInt64 :=
  match total with
  | .firstSwitchedUptimeS | .lastSwitchedUptimeS => number / 1000
  | _ => number

end FlowTotal

/-- What an exporter keeps the number of its field as. -/
def ExportFn.keeps : ExportFn → Option FlowTotal
  | .saveFlowBytes => some .bytes
  | .saveFlowPkts => some .packets
  | .saveFirstSwitched => some .firstSwitchedUptimeS
  | .saveLastSwitched => some .lastSwitchedUptimeS
  | .saveFirstSecond | .saveFirstMsecond => some .firstTimestampS
  | .saveLastSecond | .saveLastMsecond => some .lastTimestampS
  | _ => none

/-- What an element makes of a number of the flow cache, if it is kept as that number. -/
def Element.tells (total : FlowTotal) (element : Element) (value : Bytes) : Option UInt64 :=
  if element.exportFn.bind ExportFn.keeps = some total then
    some (total.kept (net2number value))
  else none

theorem CachePart.Written.totals {part : CachePart} {before after : FlowCache}
    (written : part.Written before after) (notTime : part ≠ .time) (notCounts : part ≠ .counts)
    (total : FlowTotal) : total.of after = total.of before := by
  cases part with
  | nothing =>
      cases written
      rfl
  | time | counts => contradiction
  | clientMac | interfaces | macs | ports | client =>
      obtain ⟨_, rfl⟩ := written
      cases total <;> rfl
  | ends =>
      obtain ⟨_, _, rfl⟩ := written
      cases total <;> rfl
  | http =>
      obtain ⟨_, _, _, rfl⟩ := written
      cases total <;> rfl

section Exporters

variable {globals : ReadOnlyGlobals} {buffer : Mem} {length : Nat} {cache : FlowCache}

theorem exportField_tells (exportFn : ExportFn) (total : FlowTotal) :
    Outcome (fun _ => False)
      (fun printed => total.of printed.cache =
        (if exportFn.keeps = some total then
          some (total.kept (net2number (buffer.slice length)))
        else none).getD (total.of cache))
      (exportField globals exportFn buffer length cache) := by
  cases exportFn with
  | saveFlowBytes | saveFlowPkts | saveFirstSwitched | saveLastSwitched | saveFirstSecond
  | saveLastSecond => cases total <;> exact rfl
  | saveFirstMsecond =>
      rw [saveFirstMsecond_eq]
      cases total <;> exact rfl
  | saveLastMsecond =>
      rw [saveLastMsecond_eq]
      cases total <;> exact rfl
  | _ =>
      refine (exportField_writes globals _ buffer length cache).mono ?_
      intro printed written
      exact written.totals nofun nofun total

theorem Element.exported_tells (element : Element) (total : FlowTotal) :
    Outcome (fun _ => False)
      (fun printed => total.of printed.cache =
        (element.tells total (buffer.slice length)).getD (total.of cache))
      (element.exported globals buffer length cache) := by
  unfold Element.tells
  cases exporter : element.exportFn with
  | none =>
      unfold Element.exported
      rw [exporter]
      exact rfl
  | some exportFn =>
      rw [Element.exported_eq exporter, Option.bind_some]
      exact exportField_tells exportFn total

def ElementInput.tells (total : FlowTotal) (input : ElementInput) : Option UInt64 :=
  input.element.tells total (input.buffer.slice input.length)

theorem PrintsElements.tells {elements : List PrintedElement} {after : FlowCache}
    (prints : PrintsElements globals cache elements after) (total : FlowTotal) :
    total.of after =
      (lastWritten (ElementInput.tells total)
        (elements.map PrintedElement.toElementInput)).getD (total.of cache) := by
  induction prints with
  | nil => rfl
  | @cons element rest last exported others ih =>
      have own := (element.element.exported_tells total).of_ok exported
      rw [ih, own, List.map_cons, lastWritten_cons]
      cases lastWritten (ElementInput.tells total) (rest.map PrintedElement.toElementInput) <;>
        rfl

theorem Leaves.tells {line left : Bytes} {inputs : List ElementInput} {after : FlowCache}
    (leaves : Leaves globals line cache inputs left after) (total : FlowTotal) :
    total.of after = (lastWritten (ElementInput.tells total) inputs).getD (total.of cache) := by
  obtain ⟨elements, rfl, prints, _⟩ := leaves
  exact prints.tells total

theorem Leaves.observationId {line left : Bytes} {inputs : List ElementInput} {after : FlowCache}
    (leaves : Leaves globals line cache inputs left after) :
    after.observationId = cache.observationId := by
  obtain ⟨elements, _, prints, _⟩ := leaves
  exact prints.observationId.2

/-- Elements that keep no number of the flow cache. -/
theorem Leaves.quiet {line left : Bytes} {elements : List Element} {after : FlowCache}
    (leaves : Leaves globals line cache (inputsFrom buffer length elements) left after)
    (quiet : ∀ element ∈ elements, element.exportFn.bind ExportFn.keeps = none)
    (total : FlowTotal) : total.of after = total.of cache := by
  have silent : lastWritten (ElementInput.tells total) (inputsFrom buffer length elements) =
      none := by
    rw [lastWritten_eq_none_iff]
    intro input member
    obtain ⟨element, inElements, rfl⟩ := List.mem_map.mp member
    unfold ElementInput.tells Element.tells
    rw [quiet element inElements]
    rfl
  rw [leaves.tells total, silent]
  rfl

end Exporters

/-! Records -/

/-- What is printed of a value: its own element, and those after it. -/
def elementsOf (value : Option Element × Bytes) : List (Element × Bytes) :=
  (value.1.elim [] Element.all).map fun element => (element, value.2)

/-- What the header of the packet says, which the values of the record may say anew. -/
def headerTells (context : PacketContext) (total : FlowTotal) : UInt64 :=
  total.of (withHeaderTimes context.handleIpfix context.flowHeader noFlowCache)

/-- The last that the values of a record say of a number. -/
def valuesTell (context : PacketContext) (values : List (Option Element × Bytes))
    (total : FlowTotal) : UInt64 :=
  (lastWritten (fun printed => printed.1.tells total printed.2)
    (values.flatMap elementsOf)).getD (headerTells context total)

/-- When the flow started and ended, and what is known of it besides. -/
def timesOf (told : FlowTotal → UInt64) : FlowCacheTime where
  exportTimestampS := told .exportTimestampS
  sysUptimeS := told .sysUptimeS
  firstSwitchedUptimeS := told .firstSwitchedUptimeS
  lastSwitchedUptimeS := told .lastSwitchedUptimeS
  firstTimestampS := told .firstTimestampS
  lastTimestampS := told .lastTimestampS

/-- The texts of the messages of a flow, from the line that all of them start with. -/
def closingTexts (globals : ReadOnlyGlobals) (fallback : Int64) (told : FlowTotal → UInt64)
    (line : Bytes) : List Bytes :=
  let time := (timesOf told).withExport globals.now
  let last := lastTimestampS globals time
  let first := firstTimestampS globals fallback time
  if globals.separateLongFlows then
    (splitFlow globals.firstShare first (last - first) (told .bytes) (told .packets)).map
      (Interval.text line)
  else
    [countedText
        (appendNumber (appendNumber line "first_switched" first) "timestamp" last)
        (told .bytes) (told .packets) ++ ascii "\x7d"]

/-- Nothing wraps while minutes are counted from the start of the flow past its end. -/
def MinutesFit (globals : ReadOnlyGlobals) (fallback : Int64) (told : FlowTotal → UInt64) : Prop :=
  let time := (timesOf told).withExport globals.now
  let last := lastTimestampS globals time
  let first := firstTimestampS globals fallback time
  globals.separateLongFlows = true → first.toNat + (last - first).toNat + 60 < 2 ^ 64

/-- Every message of the record closes with what is told. -/
def Reports (globals : ReadOnlyGlobals) (fallback : Int64) (told : FlowTotal → UInt64)
    (record : FlowRecord) : Prop :=
  MinutesFit globals fallback told →
    ∃ line, record.messages.map Message.string = closingTexts globals fallback told line

section Records

variable {globals : ReadOnlyGlobals} {line : Bytes} {cache : FlowCache}
  {told : FlowTotal → UInt64}

theorem timeSplitFlow_texts {messages : List Message}
    (ran : timeSplitFlow globals line cache = .ok messages)
    (same : ∀ total : FlowTotal, total.of cache = told total)
    (fit : MinutesFit globals cache.observationId.getFallbackFirstSwitch told) :
    messages.map Message.string =
      closingTexts globals cache.observationId.getFallbackFirstSwitch told line := by
  obtain rfl : (fun total : FlowTotal => total.of cache) = told := funext same
  have times : timesOf (fun total : FlowTotal => total.of cache) = cache.time := rfl
  unfold timeSplitFlow at ran
  unfold MinutesFit at fit
  unfold closingTexts
  rw [times] at fit ⊢
  cases separates : globals.separateLongFlows with
  | true =>
      rw [separates, if_pos rfl,
        rbSeparateLongTimeFlow_eq globals line _ _ (fit separates)] at ran
      cases ran
      simp only [if_true, List.map_map]
      rfl
  | false =>
      have ends (first last : UInt64) : first + (last - first) = last := by grind
      rw [separates, if_neg nofun, printWholeFlow_eq, ends] at ran
      cases ran
      rfl

/-- The flow cache has the same numbers and the same observation id. -/
structure SameTotals (before after : FlowCache) : Prop where
  observationId : after.observationId = before.observationId
  total : ∀ total : FlowTotal, total.of after = total.of before

theorem SameTotals.trans {before between after : FlowCache} (first : SameTotals before between)
    (second : SameTotals between after) : SameTotals before after where
  observationId := second.observationId.trans first.observationId
  total total := (second.total total).trans (first.total total)

theorem guessDirection_sameTotals {guessed : FlowCache}
    (ran : guessDirection cache = .ok guessed) : SameTotals cache guessed := by
  unfold guessDirection at ran
  split at ran
  · cases ran
    exact ⟨rfl, fun _ => rfl⟩
  · obtain ⟨src, _, ran⟩ := Run.bind_eq_ok.mp ran
    obtain ⟨dst, _, ran⟩ := Run.bind_eq_ok.mp ran
    cases guess : ipDirection src.isSome dst.isSome with
    | unset =>
        rw [guess] at ran
        cases ran
        exact ⟨rfl, fun _ => rfl⟩
    | upstream | downstream | internal =>
        rw [guess] at ran
        cases ran
        exact ⟨rfl, fun total => by cases total <;> rfl⟩

theorem normalizeDirection_sameTotals {left : LineState}
    (ran : normalizeDirection globals line cache = .ok left) : SameTotals cache left.cache := by
  unfold normalizeDirection at ran
  cases normalizes : globals.normalizeDirections with
  | false =>
      rw [normalizes, if_neg nofun] at ran
      cases ran
      exact ⟨rfl, fun _ => rfl⟩
  | true =>
      rw [normalizes, if_pos rfl] at ran
      obtain ⟨guessed, guess, ranAll⟩ := Run.bind_eq_ok.mp ran
      have leaves := printPostTemplate_leaves postTemplates ranAll
      exact (guessDirection_sameTotals guess).trans
        ⟨leaves.observationId, leaves.quiet (by decide)⟩

theorem startRecord_sameTotals {flowVersion : Nat} {flowSequenceNumber : UInt32}
    {left : LineState}
    (ran : startRecord globals flowVersion flowSequenceNumber cache = .ok left) :
    SameTotals cache left.cache := by
  obtain ⟨typed, ranType, ranSequence⟩ := Run.bind_eq_ok.mp ran
  have leavesType := printNetflowRecordWithTemplate_leaves redborderType ranType
  have leavesSequence := printNetflowRecordWithTemplate_leaves flowSequence ranSequence
  have afterType : SameTotals cache typed.cache :=
    ⟨leavesType.observationId, leavesType.quiet (by decide)⟩
  exact afterType.trans ⟨leavesSequence.observationId, leavesSequence.quiet (by decide)⟩

theorem finishRecord_texts {messages : List Message}
    (ran : finishRecord globals line cache = .ok messages)
    (same : ∀ total : FlowTotal, total.of cache = told total)
    (fit : MinutesFit globals cache.observationId.getFallbackFirstSwitch told) :
    ∃ last, messages.map Message.string =
      closingTexts globals cache.observationId.getFallbackFirstSwitch told last := by
  unfold finishRecord at ran
  obtain ⟨hosted, ranHost, ran⟩ := Run.bind_eq_ok.mp ran
  obtain ⟨referred, ranReferer, ran⟩ := Run.bind_eq_ok.mp ran
  obtain ⟨normalized, ranDirection, ran⟩ := Run.bind_eq_ok.mp ran
  have leavesHost := printNetflowRecordWithTemplate_leaves host ranHost
  have leavesReferer := printNetflowRecordWithTemplate_leaves referer ranReferer
  have afterHost : SameTotals cache hosted.cache :=
    ⟨leavesHost.observationId, leavesHost.quiet (by decide)⟩
  have afterReferer : SameTotals hosted.cache referred.cache :=
    ⟨leavesReferer.observationId, leavesReferer.quiet (by decide)⟩
  obtain ⟨sameId, sameTotal⟩ :=
    (afterHost.trans afterReferer).trans (normalizeDirection_sameTotals ranDirection)
  rw [← sameId] at fit ⊢
  exact ⟨_, timeSplitFlow_texts ran (fun total => (sameTotal total).trans (same total)) fit⟩

/-- An element and the value it is printed from. -/
def inputOf (printed : Element × Bytes) : ElementInput where
  element := printed.1
  buffer := .ofBytes printed.2
  length := printed.2.length

theorem inputOf_tells (total : FlowTotal) (printed : Element × Bytes) :
    (inputOf printed).tells total = printed.1.tells total printed.2 := by
  unfold ElementInput.tells inputOf
  rw [Mem.slice_ofBytes]

theorem inputsFrom_value (element : Element) (value : Bytes) :
    inputsFrom (.ofBytes value) value.length element.all =
      (elementsOf (some element, value)).map inputOf := by
  symm
  exact List.map_map

theorem lastWritten_inputs (total : FlowTotal) (printed : List (Element × Bytes)) :
    lastWritten (ElementInput.tells total) (printed.map inputOf) =
      lastWritten (fun printed => printed.1.tells total printed.2) printed := by
  unfold lastWritten
  rw [List.filterMap_map]
  simp only [Function.comp_def, inputOf_tells]

theorem printValues_leaves {values : List (Option Element × Bytes)} {left : LineState}
    (ran : printValues globals values line cache = .ok left) :
    Leaves globals line cache ((values.flatMap elementsOf).map inputOf) left.line left.cache := by
  induction values generalizing line cache with
  | nil =>
      cases ran
      exact .nil
  | cons first rest ih =>
      obtain ⟨element, value⟩ := first
      obtain ⟨printed, ranFirst, ranRest⟩ := Run.bind_eq_ok.mp ran
      rw [List.flatMap_cons, List.map_append]
      refine Leaves.append ?_ (ih ranRest)
      cases element with
      | none =>
          cases ranFirst
          exact .nil
      | some element =>
          have leaves := printNetflowRecordWithTemplate_leaves element ranFirst
          rwa [inputsFrom_value] at leaves

theorem Leaves.valuesTell {context : PacketContext} {values : List (Option Element × Bytes)}
    {left : Bytes} {after : FlowCache}
    (leaves : Leaves context.globals line cache ((values.flatMap elementsOf).map inputOf) left
      after)
    (header : ∀ total : FlowTotal, total.of cache = headerTells context total)
    (total : FlowTotal) : total.of after = F2k.valuesTell context values total := by
  rw [leaves.tells total, header total, lastWritten_inputs]
  rfl

theorem meantRecord_reports {context : PacketContext} {observationId : ObservationID}
    {flowSequenceNumber : UInt16} {values : List (Option Element × Bytes)} {record : FlowRecord}
    (ran : meantRecord context observationId flowSequenceNumber values = .ok record) :
    Reports context.globals observationId.getFallbackFirstSwitch (valuesTell context values)
      record := by
  intro fit
  unfold meantRecord at ran
  obtain ⟨started, ranStart, ran⟩ := Run.bind_eq_ok.mp ran
  obtain ⟨printed, ranValues, ran⟩ := Run.bind_eq_ok.mp ran
  obtain ⟨messages, ranMessages, ends⟩ := Run.bind_eq_ok.mp ran
  cases ends
  obtain ⟨startId, startTotal⟩ := startRecord_sameTotals ranStart
  have leaves := printValues_leaves ranValues
  have header : ∀ total : FlowTotal, total.of started.cache = headerTells context total := by
    intro total
    rw [startTotal total]
    cases total <;> rfl
  have sameId : printed.cache.observationId = observationId := leaves.observationId.trans startId
  have texts := finishRecord_texts ranMessages (leaves.valuesTell header)
  rw [sameId] at texts
  exact texts fit

theorem meantRecords_reports {context : PacketContext} {observationId : ObservationID}
    {flowSequenceNumber : UInt16} {all : List (List (Option Element × Bytes))}
    {records : List FlowRecord}
    (ran : meantRecords context observationId flowSequenceNumber all = .ok records) :
    List.Forall₂
      (fun values =>
        Reports context.globals observationId.getFallbackFirstSwitch (valuesTell context values))
      all records := by
  induction all generalizing flowSequenceNumber records with
  | nil =>
      cases ran
      exact .nil
  | cons values more ih =>
      obtain ⟨record, ranRecord, ran⟩ := Run.bind_eq_ok.mp ran
      obtain ⟨rest, ranRest, ends⟩ := Run.bind_eq_ok.mp ran
      cases ends
      exact .cons (meantRecord_reports ranRecord) (ih ranRest)

end Records

/-! Sets -/

/-- The values of the data records of a set, each with the element that prints it. -/
def ExportedSet.dataRecords : ExportedSet → List (List (Option Element × Bytes))
  | .records announced all => all.map fun record => announced.elements.zip record
  | .templates _ => []
  | .optionTemplate _ => []
  | .optionRecords _ _ => []

section Fallback

variable {before after : ObservationID}

theorem saveTemplates_fallback (templates : List FlowSetV9Ipfix) (observationId : ObservationID) :
    (templates.foldl ObservationID.saveTemplate observationId).getFallbackFirstSwitch =
      observationId.getFallbackFirstSwitch := by
  induction templates generalizing observationId with
  | nil => rfl
  | cons template rest ih => exact ih (observationId.saveTemplate template)

theorem learnNames_fallback (names : OptionNames) (observationId : ObservationID) :
    Outcome (fun _ => True)
      (fun learned => learned.getFallbackFirstSwitch = observationId.getFallbackFirstSwitch)
      (learnNames names observationId) := by
  have learned :
      (learnSelector names (learnApplication names observationId)).getFallbackFirstSwitch =
        observationId.getFallbackFirstSwitch := by
    rw [learnSelector, learnApplication]
    split <;> split <;> rfl
  rw [learnNames, learnInterface]
  split
  · cases names.snmpName with
    | none => exact trivial
    | some name =>
        cases names.snmpDescription with
        | none => exact trivial
        | some description => exact learned
  · exact learned

theorem learnRecords_fallback {fields : List AnnouncedField} {records : List (List Bytes)}
    (learned : learnRecords fields records before = .ok after) :
    after.getFallbackFirstSwitch = before.getFallbackFirstSwitch := by
  induction records generalizing before with
  | nil =>
      cases learned
      rfl
  | cons record rest ih =>
      obtain ⟨between, first, later⟩ := Run.bind_eq_ok.mp learned
      exact (ih later).trans ((learnNames_fallback _ before).of_ok first)

end Fallback

section Sets

variable {context : PacketContext} {flowSequenceNumber : UInt16} {before after : ObservationID}

theorem mean_reports {set : ExportedSet} {records : List FlowRecord}
    (meant : set.mean context flowSequenceNumber before = .ok (after, records)) :
    after.getFallbackFirstSwitch = before.getFallbackFirstSwitch ∧
      List.Forall₂
        (fun values =>
          Reports context.globals before.getFallbackFirstSwitch (valuesTell context values))
        set.dataRecords records := by
  cases set with
  | templates announced =>
      cases meant
      exact ⟨saveTemplates_fallback _ before, .nil⟩
  | optionTemplate announced =>
      cases meant
      exact ⟨rfl, .nil⟩
  | records announced all =>
      obtain ⟨printed, ran, ends⟩ := Run.bind_eq_ok.mp meant
      cases ends
      exact ⟨rfl, meantRecords_reports ran⟩
  | optionRecords announced all =>
      obtain ⟨learned, ran, ends⟩ := Run.bind_eq_ok.mp meant
      cases ends
      exact ⟨learnRecords_fallback ran, .nil⟩

theorem meanAll_reports {received : Received} {sets : List ExportedSet}
    {printed : List (List FlowRecord)}
    (meant : ExportedSet.meanAll received before sets = .ok (after, printed)) :
    after.getFallbackFirstSwitch = before.getFallbackFirstSwitch ∧
      List.Forall₂
        (fun values =>
          Reports received.globals before.getFallbackFirstSwitch
            (valuesTell received.context values))
        (sets.flatMap ExportedSet.dataRecords) printed.flatten := by
  induction sets generalizing before printed with
  | nil =>
      cases meant
      exact ⟨rfl, .nil⟩
  | cons set rest ih =>
      obtain ⟨⟨between, first⟩, meantFirst, ran⟩ := Run.bind_eq_ok.mp meant
      obtain ⟨⟨final, later⟩, meantRest, ends⟩ := Run.bind_eq_ok.mp ran
      cases ends
      obtain ⟨sameFirst, reportsFirst⟩ := mean_reports meantFirst
      obtain ⟨sameRest, reportsRest⟩ := ih meantRest
      rw [sameFirst] at sameRest reportsRest
      rw [List.flatMap_cons, List.flatten_cons]
      exact ⟨sameRest, List.rel_append reportsFirst reportsRest⟩

end Sets

/-! Runs -/

/-- The records that the exporter's packets are answered with, each with its own values. -/
def Arrival.Answered (fallback : Int64) (arrival : Arrival) (records : List FlowRecord) : Prop :=
  ∀ sets ∈ arrival.sets,
    List.Forall₂
      (fun values =>
        Reports arrival.received.globals fallback (valuesTell arrival.received.context values))
      (sets.flatMap ExportedSet.dataRecords) records

theorem arrival_answered {sensor next : Sensor} {domain : UInt32} {inUse : InUse}
    {arrival : Arrival} (listens : Listens sensor.configuredId domain inUse sensor)
    (expected : arrival.Expected sensor.configuredId domain inUse) {records : List FlowRecord}
    (meant : arrival.mean sensor = .ok (next, records)) {before : ObservationID}
    (known : sensor.getObservationId domain = some before) :
    (∃ after, next.getObservationId domain = some after ∧
        after.getFallbackFirstSwitch = before.getFallbackFirstSwitch) ∧
      arrival.Answered before.getFallbackFirstSwitch records := by
  cases expected with
  | @own received sets bytes named consists written usable =>
      subst named
      simp only [Arrival.mean, known] at meant
      obtain ⟨result, ran, ends⟩ := exists_of_map_eq_ok meant
      cases ends
      obtain ⟨same, reports⟩ := meanAll_reports ran
      refine ⟨⟨result.1, ?_, same⟩, ?_⟩
      · rw [Sensor.getObservationId_updateObservationId, if_pos rfl]
      · intro own member
        cases member
        exact reports
  | @other received apart =>
      obtain ⟨_, still⟩ := (dissectReceived_apart apart).of_ok meant
      refine ⟨⟨before, still.trans known, rfl⟩, ?_⟩
      intro own member
      cases member

/-- Bytes, packets, and the seconds in which the flow started and ended. -/
def countsTemplate : Announced where
  templateId := 258
  fields := [⟨1, none, 4⟩, ⟨2, none, 4⟩, ⟨150, none, 4⟩, ⟨151, none, 4⟩]

def countsRecord (bytes packets : Nat) : EncodedRecord false countsTemplate.stored.fields where
  values := [toBe 4 bytes, toBe 4 packets, toBe 4 999970, toBe 4 1000000]
  bytes := toBe 4 bytes ++ (toBe 4 packets ++ (toBe 4 999970 ++ (toBe 4 1000000 ++ [])))
  encodes := by
    have four (number : Nat) : (toBe 4 number).length = 4 := length_toBe _ _
    exact .cons (.fixed _ (by decide) (four _)) (.cons (.fixed _ (by decide) (four _))
      (.cons (.fixed _ (by decide) (four _)) (.cons (.fixed _ (by decide) (four _)) .nil)))

def countsSet : EncodedSet false countsTemplate.stored.fields where
  records := [countsRecord 1500 3, countsRecord 40 1]
  padding := []

def countsRecords : ExportedSet :=
  .records countsTemplate (countsSet.records.map EncodedRecord.values)

theorem countsRecords_writes : countsRecords.Writes false (setBytes 258 countsSet.body) := by
  apply ExportedSet.Writes.records countsSet (by decide)
  · exact ⟨_, List.mem_cons_self, by decide⟩
  · refine ⟨show 0 < 4 by decide, ?_, .inr ?_⟩
    · intro last member
      cases member
      exact show 4 ≤ 16 + 0 by decide
    · unfold EndsWithBytes
      decide
  · intro record member value inRecord
    apply readsValue_of_ne_nil
    have fours : ∀ value ∈ record.values, value.length = 4 := by
      simp only [countsSet, List.mem_cons, List.not_mem_nil, or_false] at member
      rcases member with rfl | rfl
      all_goals simp [countsRecord]
    have four := fours _ (List.of_mem_zip inRecord).2
    intro empty
    rw [empty] at four
    cases four
  · exact show 32 + 4 < 65536 by decide

def countsArrivals : List Arrival :=
  [{ received := v9Received
        [templateSetBytes false [countsTemplate] [], setBytes 258 countsSet.body] []
     sets := some [.templates [countsTemplate], countsRecords] }]

theorem countsArrivals_ran :
    ∃ final printed,
      runSteps dissectReceived (sensorOf (.new 7)) (countsArrivals.map Arrival.received) =
        .ok (final, printed) := by
  have ends : (runSteps dissectReceived (sensorOf (.new 7))
      (countsArrivals.map Arrival.received)).map (fun _ => ()) = .ok () := by
    decide +kernel
  obtain ⟨⟨final, printed⟩, ran, _⟩ := exists_of_map_eq_ok ends
  exact ⟨final, printed, ran⟩

theorem countsArrivals_expected :
    EachMay (Arrival.Expected (sensorOf (.new 7)).configuredId 7) Arrival.announces
      (fun _ => none) countsArrivals := by
  have template : (ExportedSet.templates [countsTemplate]).Writes false
      (templateSetBytes false [countsTemplate] []) :=
    .templates (by simpa using (⟨by decide, by decide, by decide, by decide⟩ :
      countsTemplate.WellFormed false)) (by decide) (.inl (by simp)) (by decide)
  refine ⟨?announced, trivial⟩
  refine expected_of_v9 (by decide +kernel) ?_
    (.cons template (.cons countsRecords_writes .nil)) ⟨trivial, rfl, trivial⟩
  exact ⟨by decide +kernel, by decide +kernel, by decide +kernel, by decide +kernel,
    by decide +kernel, .inl (by decide +kernel)⟩

/-- What a V5 record tells of its flow. -/
def v5Tells (header : FlowVer5Hdr) (record : FlowVer5Rec) : FlowTotal → UInt64
  | .bytes => record.dOctets.toUInt64
  | .packets => record.dPkts.toUInt64
  | .exportTimestampS => header.unixSecs.toUInt64
  | .sysUptimeS => header.sysUptime.toUInt64 / 1000
  | .firstSwitchedUptimeS => record.first.toUInt64 / 1000
  | .lastSwitchedUptimeS => record.last.toUInt64 / 1000
  | .firstTimestampS | .lastTimestampS => 0

/-- The elements that a V5 record is printed as, each with its value. -/
def FlowVer5Rec.printed (header : FlowVer5Hdr) (record : FlowVer5Rec) (elements : List Element) :
    List (Element × Bytes) :=
  elements.flatMap fun element =>
    ((v5Value header record element.templateElementId.toNat).elim [] fun value =>
      elementsOf (some element, value))

theorem FlowVer5Rec.printed_tells (header : FlowVer5Hdr) (record : FlowVer5Rec)
    (total : FlowTotal) :
    lastWritten (fun printed => printed.1.tells total printed.2)
        (record.printed header v5TemplateFields) =
      match total with
      | .bytes => some (net2number (toBe 4 record.dOctets.toNat))
      | .packets => some (net2number (toBe 4 record.dPkts.toNat))
      | .firstSwitchedUptimeS => some (net2number (toBe 4 record.first.toNat) / 1000)
      | .lastSwitchedUptimeS => some (net2number (toBe 4 record.last.toNat) / 1000)
      | _ => none := by
  cases total <;> rfl

section V5

variable {globals : ReadOnlyGlobals} {header : FlowVer5Hdr} {record : FlowVer5Rec}

theorem meantV5Field_tells {line : Bytes} {cache : FlowCache} {element : Element}
    {left : LineState} (ran : meantV5Field globals header record line element cache = .ok left) :
    left.cache.observationId = cache.observationId ∧
      ∀ total : FlowTotal, total.of left.cache =
        (lastWritten (fun printed => printed.1.tells total printed.2)
          (record.printed header [element])).getD (total.of cache) := by
  unfold meantV5Field at ran
  unfold FlowVer5Rec.printed
  rw [List.flatMap_singleton]
  cases known : v5Value header record element.templateElementId.toNat with
  | none =>
      rw [known] at ran
      cases ran
      exact ⟨rfl, fun _ => rfl⟩
  | some value =>
      rw [known] at ran
      obtain ⟨printed, ranValue, ran⟩ := Run.bind_eq_ok.mp ran
      have kept : left.cache = printed.cache := by
        split at ran <;> cases ran <;> rfl
      have leaves := printNetflowRecordWithTemplate_leaves element ranValue
      rw [kept]
      refine ⟨leaves.observationId, fun total => ?_⟩
      rw [leaves.tells total, inputsFrom_value, lastWritten_inputs]
      rfl

theorem meantV5Fields_tells {elements : List Element} {line : Bytes} {cache : FlowCache}
    {left : LineState}
    (ran : meantV5Fields globals header record elements line cache = .ok left) :
    left.cache.observationId = cache.observationId ∧
      ∀ total : FlowTotal, total.of left.cache =
        (lastWritten (fun printed => printed.1.tells total printed.2)
          (record.printed header elements)).getD (total.of cache) := by
  induction elements generalizing line cache with
  | nil =>
      cases ran
      exact ⟨rfl, fun _ => rfl⟩
  | cons element rest ih =>
      obtain ⟨printed, ranFirst, ranRest⟩ := Run.bind_eq_ok.mp ran
      obtain ⟨sameFirst, tellsFirst⟩ := meantV5Field_tells ranFirst
      obtain ⟨sameRest, tellsRest⟩ := ih ranRest
      refine ⟨sameRest.trans sameFirst, fun total => ?_⟩
      have both : record.printed header (element :: rest) =
          record.printed header [element] ++ record.printed header rest := by
        unfold FlowVer5Rec.printed
        rw [List.flatMap_cons, List.flatMap_singleton]
      rw [tellsRest total, tellsFirst total, both, lastWritten_append]
      cases lastWritten (fun printed : Element × Bytes => printed.1.tells total printed.2)
        (record.printed header rest) <;> rfl

theorem ofNat_toNat_wide (number : UInt32) : UInt64.ofNat number.toNat = number.toUInt64 := by
  apply UInt64.toNat_inj.mp
  rw [UInt64.toNat_ofNat', UInt32.toNat_toUInt64]
  exact Nat.mod_eq_of_lt (Nat.lt_trans number.toNat_lt (by decide))

theorem net2number_four (number : UInt32) :
    net2number (toBe 4 number.toNat) = number.toUInt64 := by
  have fits : number.toNat % 256 ^ 4 = number.toNat := Nat.mod_eq_of_lt number.toNat_lt
  rw [net2number_toBe _ (by decide), fits, ofNat_toNat_wide]

theorem withTimes_tells {cache : FlowCache}
    (fresh : ∀ total : FlowTotal, total.of cache = total.of noFlowCache) (record : FlowVer5Rec)
    (total : FlowTotal) :
    (lastWritten (fun printed => printed.1.tells total printed.2)
      (record.printed header v5TemplateFields)).getD (total.of (header.withTimes cache)) =
        v5Tells header record total := by
  rw [record.printed_tells header total]
  cases total with
  | bytes => exact net2number_four record.dOctets
  | packets => exact net2number_four record.dPkts
  | firstSwitchedUptimeS => exact congrArg (· / 1000) (net2number_four record.first)
  | lastSwitchedUptimeS => exact congrArg (· / 1000) (net2number_four record.last)
  | exportTimestampS => exact ofNat_toNat_wide header.unixSecs
  | sysUptimeS =>
      change UInt64.ofNat (header.sysUptime.toNat / 1000) = header.sysUptime.toUInt64 / 1000
      have bound := header.sysUptime.toNat_lt
      apply UInt64.toNat_inj.mp
      rw [UInt64.toNat_ofNat', Nat.mod_eq_of_lt (by omega), UInt64.toNat_div,
        UInt32.toNat_toUInt64]
      rfl
  | firstTimestampS => exact fresh .firstTimestampS
  | lastTimestampS => exact fresh .lastTimestampS

theorem meantV5Record_reports {observationId : ObservationID} {flowIdx : Nat}
    {printed : FlowRecord}
    (ran : meantV5Record globals header observationId flowIdx record = .ok printed) :
    Reports globals observationId.getFallbackFirstSwitch (v5Tells header record) printed := by
  intro fit
  obtain ⟨started, ranStart, ran⟩ := Run.bind_eq_ok.mp ran
  obtain ⟨fields, ranFields, ran⟩ := Run.bind_eq_ok.mp ran
  obtain ⟨messages, ranMessages, ends⟩ := Run.bind_eq_ok.mp ran
  cases ends
  obtain ⟨startId, startTotal⟩ := startRecord_sameTotals ranStart
  obtain ⟨fieldsId, fieldsTotal⟩ := meantV5Fields_tells ranFields
  have told : ∀ total : FlowTotal, total.of fields.cache = v5Tells header record total := by
    intro total
    rw [fieldsTotal total]
    exact withTimes_tells (fun total => by rw [startTotal total]; cases total <;> rfl) record total
  have sameId : fields.cache.observationId = observationId := fieldsId.trans startId
  have texts := finishRecord_texts ranMessages told
  rw [sameId] at texts
  exact texts fit

theorem meantV5Records_reports {observationId : ObservationID} {flowIdx : Nat}
    {records : List FlowVer5Rec} {printed : List FlowRecord}
    (ran : meantV5Records globals header observationId flowIdx records = .ok printed) :
    List.Forall₂
      (fun record =>
        Reports globals observationId.getFallbackFirstSwitch (v5Tells header record))
      records printed := by
  induction records generalizing flowIdx printed with
  | nil =>
      cases ran
      exact .nil
  | cons record rest ih =>
      obtain ⟨first, ranFirst, ran⟩ := Run.bind_eq_ok.mp ran
      obtain ⟨more, ranRest, ends⟩ := Run.bind_eq_ok.mp ran
      cases ends
      exact .cons (meantV5Record_reports ranFirst) (ih ranRest)

end V5

end F2k
