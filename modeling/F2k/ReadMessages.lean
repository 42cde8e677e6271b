import F2k.ConfiguredMessages
import F2k.FlowTotals
import F2k.Lib.JsonReader
import F2k.PrinterFraming

namespace F2k

open Lib
open JsonReader

/-! Who reads a message as JSON finds in it what was printed and nothing else: the type of the
flow and its number, every element that was printed of the record, what the sensor is enriched
with, and the numbers that close it, in this order. -/

/-! Lines -/

/-- An object whose end is yet to come, with the members that are read in it. -/
def Reads (line : Bytes) (pairs : List (Bytes × Bytes)) : Prop :=
  ∃ members, JsonMembers members ∧ line = [123] ++ members ∧ readMembers members = some pairs

section Lines

variable {line : Bytes} {pairs : List (Bytes × Bytes)}

theorem Reads.opened (reads : Reads line pairs) : OpenObject line := by
  obtain ⟨members, contents, text, _⟩ := reads
  exact ⟨members, contents, text⟩

theorem readMembers_member {name value : Bytes} (named : JsonText name)
    (member : JsonValue value) :
    readMembers ([34] ++ name ++ [34, 58] ++ value) = some [(name, value)] := by
  have whole := readMembers_one isSpace_nil named isSpace_nil isSpace_nil member isSpace_nil
  change readMembers ([34] ++ name ++ ([34] ++ [58]) ++ value) = _
  simpa only [List.nil_append, List.append_nil, List.append_assoc] using whole

theorem Reads.append {members : Bytes} {more : List (Bytes × Bytes)} (reads : Reads line pairs)
    (contents : JsonMembers members) (others : readMembers members = some more) :
    Reads (line ++ [44] ++ members) (pairs ++ more) := by
  obtain ⟨before, first, rfl, readFirst⟩ := reads
  exact ⟨before ++ [44] ++ members, .more first contents, by simp,
    readMembers_append first readFirst others⟩

theorem Reads.element {name text : Bytes} {quote : Bool} (reads : Reads line pairs)
    (named : JsonText name) (fits : Fits (!quote) text) :
    Reads (elementPrefix line name quote ++ text ++ (if quote then ascii "\"" else []))
      (pairs ++ [(name, quotedText quote text)]) := by
  rw [elementPrefix_append reads.opened]
  have value := quotedText_value fits
  exact reads.append (.member named value) (readMembers_member named value)

theorem Reads.close (reads : Reads line pairs) :
    readObject (line ++ ascii "\x7d") = some pairs := by
  obtain ⟨members, contents, rfl, inside⟩ := reads
  rw [← inside]
  exact readObject_eq contents

/-- The member that a number is printed as. -/
def numberPair (number : String × UInt64) : Bytes × Bytes :=
  (ascii number.1, n10 number.2)

theorem Reads.number {name : String} (reads : Reads line pairs) (named : JsonText (ascii name))
    (value : UInt64) :
    Reads (appendNumber line name value) (pairs ++ [numberPair (name, value)]) := by
  have element := reads.element named (fits_number (!false) value)
  have bare : quotedText false (n10 value) = n10 value := by simp [quotedText]
  rw [if_neg Bool.false_ne_true, List.append_nil, bare] at element
  exact element

theorem Reads.numbers {numbers : List (String × UInt64)} (reads : Reads line pairs)
    (named : ∀ number ∈ numbers, JsonText (ascii number.1)) :
    readObject (numbersText line numbers) = some (pairs ++ numbers.map numberPair) := by
  unfold numbersText
  induction numbers generalizing line pairs with
  | nil =>
      rw [List.map_nil, List.append_nil]
      exact reads.close
  | cons number rest ih =>
      obtain ⟨first, others⟩ := List.forall_mem_cons.mp named
      have more := ih (reads.number first number.2) others
      rwa [List.append_assoc] at more

theorem closingNames_text (separateLongFlows : Bool) :
    ∀ name ∈ closingNames separateLongFlows, JsonText (ascii name) := by
  have plain : ∀ name ∈ closingNames separateLongFlows,
      (ascii name).all JsonText.isPlain = true := by
    cases separateLongFlows <;> decide
  exact fun name member => .of_plain (plain name member)

/-- What every message starts with. -/
def openingPairs (flowVersion : Nat) (flowSequenceNumber : UInt32) : List (Bytes × Bytes) :=
  [(ascii "type", quotedText true (ascii "netflowv" ++ n10 (UInt64.ofNat flowVersion))),
    (ascii "flow_sequence", quotedText true (n10 flowSequenceNumber.toUInt64))]

theorem startText_reads (flowVersion : Nat) (flowSequenceNumber : UInt32) :
    Reads (startText flowVersion flowSequenceNumber)
      (openingPairs flowVersion flowSequenceNumber) := by
  have version : JsonText (ascii "netflowv" ++ n10 (UInt64.ofNat flowVersion)) :=
    (ascii_text (by decide)).append (n10_text _)
  have named : JsonText (ascii "type") := ascii_text (by decide)
  have value : JsonValue (quotedText true (ascii "netflowv" ++ n10 (UInt64.ofNat flowVersion))) :=
    .string version
  have first : Reads (appendQuoted (ascii "\x7b") "type"
      (ascii "netflowv" ++ n10 (UInt64.ofNat flowVersion)))
      [(ascii "type", quotedText true (ascii "netflowv" ++ n10 (UInt64.ofNat flowVersion)))] := by
    refine ⟨_, .member named value, ?_, readMembers_member named value⟩
    unfold appendQuoted elementPrefix quotedText
    rw [if_neg (by decide)]
    simp only [List.append_assoc]
    rfl
  exact first.element (ascii_text (by decide)) (fits_text (n10_text _))

end Lines

/-! Elements -/

/-- The name and the value that an element is read as, if anything was printed of it. -/
def PrintedElement.pair (element : PrintedElement) : Option (Bytes × Bytes) :=
  if element.printed.length > 0 then
    some (element.element.name, quotedText element.element.quote element.printed.text)
  else none

/-- What the element prints of its bytes may stand in a message. -/
def ElementInput.Suits (input : ElementInput) : Prop :=
  input.element.Presentable ∧ input.element.Admits (input.buffer.slice input.length)

theorem Element.Presentable.name_text {element : Element} (presentable : element.Presentable) :
    JsonText element.name := by
  unfold Element.name
  cases named : element.jsonElementName with
  | none => exact .nil
  | some name => exact .of_plain (presentable.1 name named)

section Elements

variable {globals : ReadOnlyGlobals} (databases : PlainDatabases globals)

include databases in
theorem ElementInput.Suits.exported_fits {input : ElementInput} (suits : input.Suits)
    {cache : FlowCache} (plain : PlainCache cache) {printed : Printed}
    (exported : input.element.exported globals input.buffer input.length cache = .ok printed) :
    (0 < printed.length → Fits (!input.element.quote) printed.text) ∧
      PlainCache printed.cache := by
  obtain ⟨⟨_, bare⟩, admits⟩ := suits
  unfold Element.exported at exported
  cases known : input.element.exportFn with
  | none =>
      rw [known] at exported
      cases exported
      exact ⟨fun some => absurd some (Nat.lt_irrefl 0), plain⟩
  | some exportFn =>
      rw [known] at exported
      have prints := (exportField_prints globals exportFn input.buffer input.length cache).of_ok
        exported
      obtain ⟨text, plainAfter⟩ := prints databases plain (admits exportFn known)
      refine ⟨?_, plainAfter⟩
      intro some
      refine ⟨(text some).1, ?_⟩
      intro unquoted
      exact (text some).2 (bare (by simpa using unquoted) exportFn known)

include databases in
/-- Every element that something was printed of is read, and what was there before is read as it
was. -/
theorem PrintsElements.reads {before after : FlowCache} {elements : List PrintedElement}
    (prints : PrintsElements globals before elements after)
    (suits : ∀ element ∈ elements, element.toElementInput.Suits) (plain : PlainCache before)
    {line : Bytes} {pairs : List (Bytes × Bytes)} (reads : Reads line pairs) :
    Reads (elementsText line elements) (pairs ++ elements.filterMap PrintedElement.pair) ∧
      PlainCache after := by
  induction prints generalizing line pairs with
  | nil =>
      rw [List.filterMap_nil, List.append_nil]
      exact ⟨reads, plain⟩
  | @cons element rest last exported _ ih =>
      obtain ⟨own, others⟩ := List.forall_mem_cons.mp suits
      obtain ⟨fits, plainNext⟩ := own.exported_fits databases plain exported
      unfold elementsText
      rw [List.foldl_cons]
      by_cases kept : 0 < element.printed.length
      · have pair : element.pair = some (element.element.name,
            quotedText element.element.quote element.printed.text) := if_pos kept
        have grown : element.appendTo line =
            elementPrefix line element.element.name element.element.quote ++
              element.printed.text ++ (if element.element.quote then ascii "\"" else []) :=
          if_pos kept
        have more := ih others plainNext (reads.element own.1.name_text (fits kept))
        rw [List.append_assoc pairs, List.singleton_append] at more
        rw [grown, List.filterMap_cons_some pair]
        exact more
      · have pair : element.pair = none := if_neg kept
        have same : element.appendTo line = line := if_neg kept
        rw [same, List.filterMap_cons_none pair]
        exact ih others plainNext reads

end Elements

/-! Records -/

/-- What is printed of the values of a record: the values and what is taken from the flow cache
after them, and what follows from the direction of the flow. -/
structure PrintedValues (context : PacketContext) (observationId : ObservationID)
    (values : List (Option Element × Bytes)) where
  fields : List PrintedElement
  finished : FlowCache
  guessed : FlowCache
  last : List PrintedElement
  ended : FlowCache
  fields_inputs : fields.map PrintedElement.toElementInput =
    (values.flatMap elementsOf).map inputOf ++ cacheInputs [host, referer]
  fields_printed : PrintsElements context.globals
    (withHeaderTimes context.handleIpfix context.flowHeader { observationId }) fields finished
  direction : context.globals.normalizeDirections = true → guessDirection finished = .ok guessed
  last_inputs : last.map PrintedElement.toElementInput =
    if context.globals.normalizeDirections then cacheInputs postTemplates else []
  last_printed : PrintsElements context.globals guessed last ended
  observationId_eq : ended.observationId = observationId

/-- What the sensor is enriched with, as it is read. -/
def enrichmentPairs (observationId : ObservationID) : List (Bytes × Bytes) :=
  (observationId.enrichment.bind fun members => readMembers (cString members)).getD []

namespace PrintedValues

variable {context : PacketContext} {observationId : ObservationID}
  {values : List (Option Element × Bytes)}

/-- The line that all messages of the record start with. -/
def line (printed : PrintedValues context observationId values) (flowSequenceNumber : UInt32) :
    Bytes :=
  printSensorEnrichment
    (elementsText (startText context.flowVersion flowSequenceNumber)
      (printed.fields ++ printed.last)) printed.ended

/-- What is read in it. -/
def pairs (printed : PrintedValues context observationId values) (flowSequenceNumber : UInt32) :
    List (Bytes × Bytes) :=
  openingPairs context.flowVersion flowSequenceNumber ++
    (printed.fields ++ printed.last).filterMap PrintedElement.pair ++
    enrichmentPairs observationId

end PrintedValues

/-- The values may stand in a message where they are printed as they are. -/
def ValuesFit (values : List (Option Element × Bytes)) : Prop :=
  ∀ printed ∈ values.flatMap elementsOf, (inputOf printed).Suits

section Records

variable {context : PacketContext} {observationId : ObservationID}
  {values : List (Option Element × Bytes)}

/-- The messages of a record are made of what is printed of its values. -/
theorem meantRecord_prints {flowSequenceNumber : UInt16} {record : FlowRecord}
    (small : context.flowVersion < 65536)
    (ran : meantRecord context observationId flowSequenceNumber values = .ok record) :
    ∃ printed : PrintedValues context observationId values, ∀ message ∈ record.messages,
      ClosesWith (closingNames context.globals.separateLongFlows)
        (printed.line record.flowSequence) message := by
  unfold meantRecord at ran
  simp only [startRecord_eq context.globals small, Run.ok_bind] at ran
  obtain ⟨fields, ranFields, ran⟩ := Run.bind_eq_ok.mp ran
  obtain ⟨messages, ranMessages, ends⟩ := Run.bind_eq_ok.mp ran
  cases ends
  unfold finishRecord at ranMessages
  obtain ⟨hosted, ranHost, ranMessages⟩ := Run.bind_eq_ok.mp ranMessages
  obtain ⟨referred, ranReferer, ranMessages⟩ := Run.bind_eq_ok.mp ranMessages
  obtain ⟨normalized, ranDirection, ranMessages⟩ := Run.bind_eq_ok.mp ranMessages
  have leavesHost := (printValues_leaves ranFields).append
    (printNetflowRecordWithTemplate_leaves host ranHost)
  have leavesReferer := leavesHost.append
    (printNetflowRecordWithTemplate_leaves referer ranReferer)
  obtain ⟨guessed, direction, leavesLast⟩ := normalizeDirection_leaves ranDirection
  obtain ⟨before, inputsBefore, printsBefore, lineBefore⟩ := leavesReferer
  obtain ⟨last, inputsLast, printsLast, lineLast⟩ := leavesLast
  let printed : PrintedValues context observationId values :=
    { fields := before
      finished := referred.cache
      guessed
      last
      ended := normalized.cache
      fields_inputs := by
        rw [inputsBefore, List.append_assoc]
        rfl
      fields_printed := printsBefore
      direction
      last_inputs := inputsLast
      last_printed := printsLast
      observationId_eq :=
        (normalizeDirection_hasId printsBefore.observationId.2).of_ok ranDirection }
  have whole : printed.line flowSequenceNumber.toUInt32 =
      printSensorEnrichment normalized.line normalized.cache := by
    rw [lineLast, lineBefore]
    unfold PrintedValues.line elementsText
    rw [List.foldl_append]
  refine ⟨printed, ?_⟩
  rw [whole]
  exact timeSplitFlow_closesWith ranMessages

theorem cacheInputs_suit {elements : List Element}
    (listed : Element.EveryOf (fun element => element.Presentable ∧ element.AdmitsAny) elements) :
    ∀ input ∈ cacheInputs elements, input.Suits := by
  intro input member
  obtain ⟨element, inElements, rfl⟩ := List.mem_map.mp member
  obtain ⟨presentable, any⟩ := (Element.everyOf_iff_allOf elements).mp listed element inElements
  exact ⟨presentable, Element.admits_of_any any _⟩

/-- The elements that end a record suit whatever the flow cache has of them. -/
theorem ending_suit :
    (∀ input ∈ cacheInputs [host, referer], input.Suits) ∧
      ∀ input ∈ cacheInputs postTemplates, input.Suits := by
  have listed := ending_presentable
  rw [Element.EveryOf, Element.EveryOf] at listed
  obtain ⟨first, second, others⟩ := listed
  constructor
  · apply cacheInputs_suit
    simpa only [Element.EveryOf, and_true] using ⟨first, second⟩
  · exact cacheInputs_suit others

theorem guessDirection_texts {cache guessed : FlowCache}
    (ran : guessDirection cache = .ok guessed) : guessed.texts = cache.texts := by
  unfold guessDirection at ran
  split at ran
  · cases ran
    rfl
  · obtain ⟨src, _, ran⟩ := Run.bind_eq_ok.mp ran
    obtain ⟨dst, _, ran⟩ := Run.bind_eq_ok.mp ran
    cases guess : ipDirection src.isSome dst.isSome with
    | unset | upstream | downstream | internal =>
        rw [guess] at ran
        cases ran
        rfl

theorem printSensorEnrichment_reads {line : Bytes} {pairs : List (Bytes × Bytes)}
    {cache : FlowCache} (names : PlainNames cache.observationId) (reads : Reads line pairs) :
    Reads (printSensorEnrichment line cache) (pairs ++ enrichmentPairs cache.observationId) := by
  unfold printSensorEnrichment enrichmentPairs
  cases known : cache.observationId.enrichment with
  | none => simpa using reads
  | some members =>
      have contents := names.enrichment members known
      obtain ⟨more, readMore, _⟩ := exists_readMembers contents
      have enriched : ((some members).bind fun members => readMembers (cString members)).getD [] =
          more := by
        rw [Option.bind_some, readMore, Option.getD_some]
      rw [enriched]
      exact reads.append contents readMore

namespace PrintedValues

theorem fields_suit (printed : PrintedValues context observationId values)
    (fits : ValuesFit values) : ∀ element ∈ printed.fields, element.toElementInput.Suits := by
  intro element member
  have input := List.mem_map_of_mem (f := PrintedElement.toElementInput) member
  rw [printed.fields_inputs] at input
  rcases List.mem_append.mp input with value | ending
  · obtain ⟨one, inValues, same⟩ := List.mem_map.mp value
    rw [← same]
    exact fits one inValues
  · exact ending_suit.1 _ ending

theorem last_suit (printed : PrintedValues context observationId values) :
    ∀ element ∈ printed.last, element.toElementInput.Suits := by
  intro element member
  have input := List.mem_map_of_mem (f := PrintedElement.toElementInput) member
  rw [printed.last_inputs] at input
  split at input
  · exact ending_suit.2 _ input
  · exact absurd input List.not_mem_nil

theorem reads (printed : PrintedValues context observationId values)
    (databases : PlainDatabases context.globals) (names : PlainNames observationId)
    (fits : ValuesFit values) (flowSequenceNumber : UInt32) :
    Reads (printed.line flowSequenceNumber) (printed.pairs flowSequenceNumber) := by
  obtain ⟨first, plain⟩ := printed.fields_printed.reads databases (printed.fields_suit fits)
    (.start names context.handleIpfix context.flowHeader)
    (startText_reads context.flowVersion flowSequenceNumber)
  have whole : Reads
      (elementsText (startText context.flowVersion flowSequenceNumber)
        (printed.fields ++ printed.last))
      (openingPairs context.flowVersion flowSequenceNumber ++
        (printed.fields ++ printed.last).filterMap PrintedElement.pair) := by
    unfold elementsText
    rw [List.foldl_append, List.filterMap_append, ← List.append_assoc]
    cases normalizes : context.globals.normalizeDirections with
    | true =>
        have guessed := plain.of_texts (guessDirection_texts (printed.direction normalizes))
        exact (printed.last_printed.reads databases printed.last_suit guessed first).1
    | false =>
        have none : printed.last = [] := by
          have inputs := printed.last_inputs
          rw [normalizes, if_neg Bool.false_ne_true] at inputs
          exact List.map_eq_nil_iff.mp inputs
        rw [none, List.filterMap_nil, List.append_nil]
        exact first
  have enriched := @printSensorEnrichment_reads _ _ printed.ended
    (by rw [printed.observationId_eq]; exact names) whole
  rw [printed.observationId_eq] at enriched
  exact enriched

end PrintedValues

/-- The messages of the record are read as what is printed of its values, in full and in order,
and the numbers that close them. -/
def ReadBack (context : PacketContext) (configured : ObservationID)
    (values : List (Option Element × Bytes)) (record : FlowRecord) : Prop :=
  ∃ observationId, observationId.configuration = configured.configuration ∧
    ∃ printed : PrintedValues context observationId values, ∀ message ∈ record.messages,
      ∃ numbers : List (String × UInt64),
        numbers.map Prod.fst = closingNames context.globals.separateLongFlows ∧
          readObject message.string =
            some (printed.pairs record.flowSequence ++ numbers.map numberPair)

theorem meantRecord_readBack (databases : PlainDatabases context.globals)
    (small : context.flowVersion < 65536) (names : PlainNames observationId)
    (fits : ValuesFit values) {flowSequenceNumber : UInt16} {record : FlowRecord}
    (ran : meantRecord context observationId flowSequenceNumber values = .ok record) :
    ReadBack context observationId values record := by
  obtain ⟨printed, closes⟩ := meantRecord_prints small ran
  refine ⟨observationId, rfl, printed, ?_⟩
  intro message member
  obtain ⟨numbers, named, text⟩ := closes message member
  refine ⟨numbers, named, ?_⟩
  rw [text]
  apply (printed.reads databases names fits record.flowSequence).numbers
  intro number inNumbers
  apply closingNames_text context.globals.separateLongFlows
  rw [← named]
  exact List.mem_map_of_mem inNumbers

theorem meantRecords_readBack (databases : PlainDatabases context.globals)
    (small : context.flowVersion < 65536) (names : PlainNames observationId)
    {all : List (List (Option Element × Bytes))} (fits : ∀ values ∈ all, ValuesFit values)
    {flowSequenceNumber : UInt16} {records : List FlowRecord}
    (ran : meantRecords context observationId flowSequenceNumber all = .ok records) :
    List.Forall₂ (ReadBack context observationId) all records := by
  induction all generalizing flowSequenceNumber records with
  | nil =>
      cases ran
      exact .nil
  | cons values more ih =>
      obtain ⟨own, others⟩ := List.forall_mem_cons.mp fits
      obtain ⟨record, ranRecord, ran⟩ := Run.bind_eq_ok.mp ran
      obtain ⟨rest, ranRest, ends⟩ := Run.bind_eq_ok.mp ran
      cases ends
      exact .cons (meantRecord_readBack databases small names own ranRecord) (ih others ranRest)

end Records

/-! Names that are learned -/

/-- The names among the values of an option record may stand in a message. -/
def NamesFit (values : List (Nat × Bytes)) : Prop :=
  ∀ value ∈ values, value.1 ∈ [96, 335, 82, 83] → JsonText (cString value.2)

structure OptionNames.Fit (names : OptionNames) : Prop where
  appName : ∀ name ∈ names.appName, JsonText (cString name)
  selectorName : ∀ name ∈ names.selectorName, JsonText (cString name)
  snmpName : ∀ name ∈ names.snmpName, JsonText (cString name)
  snmpDescription : ∀ name ∈ names.snmpDescription, JsonText (cString name)

theorem OptionNames.Fit.read {names : OptionNames} (fit : names.Fit) {fieldId : Nat}
    {value : Bytes} (own : fieldId ∈ [96, 335, 82, 83] → JsonText (cString value)) :
    (names.read fieldId value).Fit := by
  fun_cases OptionNames.read names fieldId value with
  | case2 => exact { fit with appName := by simpa using own (by decide) }
  | case4 => exact { fit with selectorName := by simpa using own (by decide) }
  | case6 => exact { fit with snmpName := by simpa using own (by decide) }
  | case7 => exact { fit with snmpDescription := by simpa using own (by decide) }
  | case1 | case3 | case5 | case8 => exact { fit with }

theorem readValues_fit {values : List (Nat × Bytes)} (fits : NamesFit values) :
    (readValues values).Fit := by
  unfold readValues
  have start : ({} : OptionNames).Fit := by
    constructor
    all_goals simp
  generalize ({} : OptionNames) = names at start
  induction values generalizing names with
  | nil => exact start
  | cons value rest ih =>
      obtain ⟨own, others⟩ := List.forall_mem_cons.mp fits
      exact ih others _ (start.read own)

theorem forall_lookup_insert {Entry : Type} {holds : Entry → Prop}
    {table : AList fun _ : UInt64 => Entry} (each : ∀ id, ∀ entry ∈ table.lookup id, holds entry)
    (key : UInt64) {entry : Entry} (own : holds entry) :
    ∀ id, ∀ found ∈ (table.insert key entry).lookup id, holds found := by
  intro id found member
  by_cases same : id = key
  · subst same
    rw [AList.lookup_insert] at member
    cases member
    exact own
  · rw [AList.lookup_insert_ne same] at member
    exact each id found member

theorem learnNames_plain {names : OptionNames} (fit : names.Fit) {before : ObservationID}
    (plain : PlainNames before) :
    Outcome (fun _ => True) PlainNames (learnNames names before) := by
  have application : PlainNames (learnApplication names before) := by
    unfold learnApplication
    split
    · next first rest known =>
        exact { plain with
          applications := forall_lookup_insert plain.applications _ (fit.appName _ known) }
    · exact plain
  have selector : PlainNames (learnSelector names (learnApplication names before)) := by
    unfold learnSelector
    split
    · next first rest known =>
        exact { application with
          selectors := forall_lookup_insert application.selectors _ (fit.selectorName _ known) }
    · exact application
  rw [learnNames, learnInterface]
  split
  · cases named : names.snmpName with
    | none => exact trivial
    | some name =>
        cases described : names.snmpDescription with
        | none => exact trivial
        | some description =>
            exact { selector with
              interfaces := forall_lookup_insert selector.interfaces _
                ⟨fit.snmpName _ named, fit.snmpDescription _ described⟩ }
  · exact selector

/-- Learning changes names and keeps what was configured. -/
theorem learnRecords_plain {fields : List AnnouncedField} {records : List (List Bytes)}
    (fits : ∀ record ∈ records, NamesFit (storedValues fields record))
    {before after : ObservationID} (plain : PlainNames before)
    (learned : learnRecords fields records before = .ok after) :
    PlainNames after ∧ after.configuration = before.configuration := by
  induction records generalizing before with
  | nil =>
      cases learned
      exact ⟨plain, rfl⟩
  | cons record rest ih =>
      obtain ⟨own, others⟩ := List.forall_mem_cons.mp fits
      obtain ⟨between, first, later⟩ := Run.bind_eq_ok.mp learned
      have plainNext := (learnNames_plain (readValues_fit own) plain).of_ok first
      obtain ⟨plainLast, same⟩ := ih others plainNext later
      exact ⟨plainLast, same.trans ((learnNames_configuration _ before).of_ok first)⟩

/-! Sets -/

/-- What an exporter writes may stand in a message where it is printed as it is. -/
def ExportedSet.Fits : ExportedSet → Prop
  | .templates _ => True
  | .optionTemplate _ => True
  | .records announced all =>
      ∀ record ∈ all, ∀ printed ∈ (announced.elements.zip record).flatMap elementsOf,
        printed.1.Admits printed.2
  | .optionRecords announced all =>
      ∀ record ∈ all, NamesFit (storedValues announced.fields record)

theorem Announced.mem_ver9Templates {announced : Announced} {element : Element}
    (listed : some element ∈ announced.elements) : element ∈ ver9Templates := by
  obtain ⟨field, member, known⟩ := List.mem_map.mp listed
  have bare : ∀ field ∈ announced.parsed.fields, field.v9Template = none := by
    intro field member
    obtain ⟨own, _, rfl⟩ := List.mem_map.mp member
    rfl
  exact fromTable_stored bare field member element known

theorem valuesFit_of_admits {announced : Announced} {record : List Bytes}
    (admits : ∀ printed ∈ (announced.elements.zip record).flatMap elementsOf,
      printed.1.Admits printed.2) : ValuesFit (announced.elements.zip record) := by
  intro printed member
  refine ⟨?_, ?_⟩
  · obtain ⟨⟨element, value⟩, inValues, inElements⟩ := List.mem_flatMap.mp member
    obtain ⟨other, inAll, rfl⟩ := List.mem_map.mp inElements
    cases element with
    | none => exact absurd inAll List.not_mem_nil
    | some element =>
        have table := Announced.mem_ver9Templates (List.of_mem_zip inValues).1
        exact (Element.every_iff_all element).mp (ver9Templates_presentable element table) other
          inAll
  · have slice : (inputOf printed).buffer.slice (inputOf printed).length = printed.2 :=
      Mem.slice_ofBytes printed.2
    rw [slice]
    exact admits printed member

theorem PlainNames.saveTemplates {before : ObservationID} (plain : PlainNames before)
    (templates : List FlowSetV9Ipfix) :
    PlainNames (templates.foldl ObservationID.saveTemplate before) := by
  induction templates generalizing before with
  | nil => exact plain
  | cons template rest ih => exact ih { plain with }

/-- The names that were learned may stand in a message, and the rest is as it was configured. -/
structure PlainAs (configured observationId : ObservationID) : Prop where
  names : PlainNames observationId
  configuration : observationId.configuration = configured.configuration

section Sets

variable {configured before after : ObservationID}

theorem ReadBack.configured_as {context : PacketContext} {values : List (Option Element × Bytes)}
    {record : FlowRecord} (same : before.configuration = configured.configuration)
    (back : ReadBack context before values record) : ReadBack context configured values record := by
  obtain ⟨observationId, known, read⟩ := back
  exact ⟨observationId, known.trans same, read⟩

theorem mean_readBack {context : PacketContext} {flowSequenceNumber : UInt16}
    (databases : PlainDatabases context.globals) (small : context.flowVersion < 65536)
    (plain : PlainAs configured before) {set : ExportedSet} (fits : set.Fits)
    {records : List FlowRecord}
    (meant : set.mean context flowSequenceNumber before = .ok (after, records)) :
    PlainAs configured after ∧
      List.Forall₂ (ReadBack context configured) set.dataRecords records := by
  obtain ⟨names, configuration⟩ := plain
  cases set with
  | templates announced =>
      cases meant
      exact ⟨⟨names.saveTemplates _,
        (foldl_saveTemplate_configuration _ before).trans configuration⟩, .nil⟩
  | optionTemplate announced =>
      cases meant
      exact ⟨⟨names.saveTemplates [announced.stored], configuration⟩, .nil⟩
  | records announced all =>
      obtain ⟨printed, ran, ends⟩ := Run.bind_eq_ok.mp meant
      cases ends
      refine ⟨⟨names, configuration⟩, ?_⟩
      have each : ∀ values ∈ all.map fun record => announced.elements.zip record,
          ValuesFit values := by
        intro values member
        obtain ⟨record, inAll, rfl⟩ := List.mem_map.mp member
        exact valuesFit_of_admits (fits record inAll)
      exact (meantRecords_readBack databases small names each ran).imp
        fun _ _ back => back.configured_as configuration
  | optionRecords announced all =>
      obtain ⟨learned, ran, ends⟩ := Run.bind_eq_ok.mp meant
      cases ends
      obtain ⟨plainLearned, same⟩ := learnRecords_plain fits names ran
      exact ⟨⟨plainLearned, same.trans configuration⟩, .nil⟩

theorem meanAll_readBack {received : Received} (databases : PlainDatabases received.globals)
    (plain : PlainAs configured before) {sets : List ExportedSet}
    (fits : ∀ set ∈ sets, set.Fits) {printed : List (List FlowRecord)}
    (meant : ExportedSet.meanAll received before sets = .ok (after, printed)) :
    PlainAs configured after ∧
      List.Forall₂ (ReadBack received.context configured) (sets.flatMap ExportedSet.dataRecords)
        printed.flatten := by
  induction sets generalizing before printed with
  | nil =>
      cases meant
      exact ⟨plain, .nil⟩
  | cons set rest ih =>
      obtain ⟨own, others⟩ := List.forall_mem_cons.mp fits
      obtain ⟨⟨between, first⟩, meantFirst, ran⟩ := Run.bind_eq_ok.mp meant
      obtain ⟨⟨final, later⟩, meantRest, ends⟩ := Run.bind_eq_ok.mp ran
      cases ends
      obtain ⟨plainNext, backFirst⟩ :=
        mean_readBack databases (headerNumber_lt received.buffer 0 2) plain own meantFirst
      obtain ⟨plainLast, backRest⟩ := ih plainNext others meantRest
      rw [List.flatMap_cons, List.flatten_cons]
      exact ⟨plainLast, List.rel_append backFirst backRest⟩

end Sets

/-! Runs -/

/-- What is looked up for a packet of the exporter, and what it writes, may stand in messages. -/
def Arrival.Fits (arrival : Arrival) : Prop :=
  ∀ sets ∈ arrival.sets,
    PlainDatabases arrival.received.globals ∧ ∀ set ∈ sets, set.Fits

/-- The records that the exporter's packets are answered with, each read back for its own
values. -/
def Arrival.ReadBack (configured : ObservationID) (arrival : Arrival)
    (records : List FlowRecord) : Prop :=
  ∀ sets ∈ arrival.sets,
    List.Forall₂ (F2k.ReadBack arrival.received.context configured)
      (sets.flatMap ExportedSet.dataRecords) records

theorem arrival_readBack {configured : ObservationID} {sensor next : Sensor} {domain : UInt32}
    {inUse : InUse} {arrival : Arrival}
    (expected : arrival.Expected sensor.configuredId domain inUse) (fits : arrival.Fits)
    {records : List FlowRecord} (meant : arrival.mean sensor = .ok (next, records))
    {before : ObservationID} (known : sensor.getObservationId domain = some before)
    (plain : PlainAs configured before) :
    (∃ after, next.getObservationId domain = some after ∧ PlainAs configured after) ∧
      arrival.ReadBack configured records := by
  cases expected with
  | @own received sets bytes named consists written usable =>
      subst named
      simp only [Arrival.mean, known] at meant
      obtain ⟨result, ran, ends⟩ := exists_of_map_eq_ok meant
      cases ends
      obtain ⟨databases, setsFit⟩ := fits sets rfl
      obtain ⟨plainAfter, back⟩ := meanAll_readBack databases plain setsFit ran
      refine ⟨⟨result.1, ?_, plainAfter⟩, ?_⟩
      · rw [Sensor.getObservationId_updateObservationId, if_pos rfl]
      · intro own member
        cases member
        exact back
  | @other received apart =>
      obtain ⟨_, still⟩ := (dissectReceived_apart apart).of_ok meant
      refine ⟨⟨before, still.trans known, plain⟩, ?_⟩
      intro own member
      cases member

theorem runSteps_readBack {configured : ObservationID} {sensor final : Sensor} {domain : UInt32}
    {inUse : InUse} {arrivals : List Arrival} {printed : List (List FlowRecord)}
    (listens : Listens sensor.configuredId domain inUse sensor)
    (expected : EachMay (Arrival.Expected sensor.configuredId domain) Arrival.announces inUse
      arrivals)
    (fits : ∀ arrival ∈ arrivals, arrival.Fits)
    (ran : runSteps dissectReceived sensor (arrivals.map Arrival.received) = .ok (final, printed))
    {before : ObservationID} (known : sensor.getObservationId domain = some before)
    (plain : PlainAs configured before) :
    List.Forall₂ (Arrival.ReadBack configured) arrivals printed := by
  generalize named : sensor.configuredId = configuredId at expected listens
  induction arrivals generalizing sensor before inUse printed with
  | nil =>
      cases ran
      exact .nil
  | cons arrival rest ih =>
      obtain ⟨now, later⟩ := expected
      obtain ⟨own, others⟩ := List.forall_mem_cons.mp fits
      obtain ⟨same, keeps⟩ := dissectReceived_arrival listens now
      obtain ⟨⟨next, first⟩, ranFirst, ranLater⟩ := Run.bind_eq_ok.mp ran
      obtain ⟨⟨reached, more⟩, ranRest, ends⟩ := Run.bind_eq_ok.mp ranLater
      cases ends
      rw [same] at ranFirst
      have listensNext := keeps next first ranFirst
      subst named
      obtain ⟨⟨after, knownNext, plainNext⟩, back⟩ :=
        arrival_readBack now own ranFirst known plain
      exact .cons back
        (ih others ranRest knownNext plainNext listensNext.configuredId later listensNext)

theorem plainNames_new (id : UInt32) : PlainNames (.new id) := by
  constructor
  all_goals intros; contradiction

theorem countsArrivals_fit : ∀ arrival ∈ countsArrivals, arrival.Fits := by
  intro arrival member sets own
  cases List.mem_singleton.mp member
  cases own
  refine ⟨plainDatabases_splitting, ?_⟩
  have any : ∀ record ∈ countsSet.records.map EncodedRecord.values,
      ∀ printed ∈ (countsTemplate.elements.zip record).flatMap elementsOf,
        printed.1.AdmitsAny := by
    decide +kernel
  rw [List.forall_mem_cons, List.forall_mem_singleton]
  refine ⟨trivial, ?_⟩
  intro record inRecords printed inPrinted
  exact Element.admits_of_any (any record inRecords printed inPrinted) printed.2

end F2k
