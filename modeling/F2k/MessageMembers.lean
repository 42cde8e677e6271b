import F2k.ObservationCalls

namespace F2k

open Lib

/-! The members of a message: which elements are printed into it, one after another, and
under which names. -/

mutual

/-- An element and all that are printed after it, in the order they are printed. -/
def Element.all : Element → List Element
  | .mk templateElementId quote jsonElementName exportFn postTemplate =>
      .mk templateElementId quote jsonElementName exportFn postTemplate ::
        Element.allOf postTemplate

def Element.allOf : List Element → List Element
  | [] => []
  | element :: rest => Element.all element ++ Element.allOf rest

end

def Element.name (element : Element) : Bytes :=
  cString (element.jsonElementName.getD [])

/-- An element to print, and the bytes to print it from. -/
structure ElementInput where
  element : Element
  buffer : Mem
  length : Nat

/-- What was printed of it, from which flow cache. -/
structure PrintedElement extends ElementInput where
  cache : FlowCache
  printed : Printed

namespace PrintedElement

def appendTo (line : Bytes) (element : PrintedElement) : Bytes :=
  appendPrinted line element.element.name element.element.quote element.printed

/-- The key of the member that the element is, if anything was printed of it. -/
def key (element : PrintedElement) : Option Bytes :=
  if element.printed.length > 0 then some element.element.name else none

end PrintedElement

def elementsText (line : Bytes) (elements : List PrintedElement) : Bytes :=
  elements.foldl PrintedElement.appendTo line

/-- The elements are printed one after another, from the first flow cache to the last. -/
inductive PrintsElements (globals : ReadOnlyGlobals) :
    FlowCache → List PrintedElement → FlowCache → Prop
  | nil (cache : FlowCache) : PrintsElements globals cache [] cache
  | cons {element : PrintedElement} {rest : List PrintedElement} {last : FlowCache}
      (exported : element.element.exported globals element.buffer element.length element.cache =
        .ok element.printed)
      (others : PrintsElements globals element.printed.cache rest last) :
      PrintsElements globals element.cache (element :: rest) last

namespace PrintsElements

variable {globals : ReadOnlyGlobals} {before after : FlowCache} {elements : List PrintedElement}

theorem append {first second : List PrintedElement} {between : FlowCache}
    (one : PrintsElements globals before first between)
    (two : PrintsElements globals between second after) :
    PrintsElements globals before (first ++ second) after := by
  induction one with
  | nil => exact two
  | cons exported _ ih => exact .cons exported (ih two)

theorem split {first second : List PrintedElement}
    (prints : PrintsElements globals before (first ++ second) after) :
    ∃ between, PrintsElements globals before first between ∧
      PrintsElements globals between second after := by
  induction first generalizing before with
  | nil => exact ⟨before, .nil before, prints⟩
  | cons element rest ih =>
      cases prints with
      | cons exported others =>
          obtain ⟨between, one, two⟩ := ih others
          exact ⟨between, .cons exported one, two⟩

theorem exported (prints : PrintsElements globals before elements after) :
    ∀ element ∈ elements,
      element.element.exported globals element.buffer element.length element.cache =
        .ok element.printed := by
  induction prints with
  | nil => exact List.forall_mem_nil _
  | cons own _ ih => exact List.forall_mem_cons.mpr ⟨own, ih⟩

/-- What every element of the list keeps of the flow cache holds all along. -/
theorem invariant {holds : FlowCache → Prop}
    (prints : PrintsElements globals before elements after) (start : holds before)
    (step : ∀ element ∈ elements, holds element.cache → holds element.printed.cache) :
    (∀ element ∈ elements, holds element.cache) ∧ holds after := by
  induction prints with
  | nil => exact ⟨List.forall_mem_nil _, start⟩
  | cons _ _ ih =>
      obtain ⟨own, others⟩ := List.forall_mem_cons.mp step
      obtain ⟨rest, last⟩ := ih (own start) others
      exact ⟨List.forall_mem_cons.mpr ⟨start, rest⟩, last⟩

/-- What every element keeps, once it holds, holds from there on. -/
theorem lasting {holds : FlowCache → Prop}
    (prints : PrintsElements globals before elements after)
    (step : ∀ element ∈ elements, holds element.cache → holds element.printed.cache) :
    elements.Pairwise (fun first second => holds first.printed.cache → holds second.cache) ∧
      ∀ element ∈ elements, holds element.printed.cache → holds after := by
  induction prints with
  | nil => exact ⟨.nil, List.forall_mem_nil _⟩
  | cons _ others ih =>
      obtain ⟨_, rest⟩ := List.forall_mem_cons.mp step
      obtain ⟨pairs, last⟩ := ih rest
      refine ⟨.cons ?_ pairs, List.forall_mem_cons.mpr ⟨?_, last⟩⟩
      · intro second member held
        exact (others.invariant held rest).1 second member
      · intro held
        exact (others.invariant held rest).2

theorem observationId (prints : PrintsElements globals before elements after) :
    (∀ element ∈ elements, element.cache.observationId = before.observationId) ∧
      after.observationId = before.observationId := by
  refine @invariant globals before after elements
    (fun cache => cache.observationId = before.observationId) prints rfl ?_
  intro element member same
  have written := (element.element.exported_writes globals element.buffer element.length
    element.cache).of_ok (prints.exported element member)
  exact written.observationId.trans same

end PrintsElements

/-- The line and the flow cache are those that the elements of the inputs leave. -/
def Leaves (globals : ReadOnlyGlobals) (line : Bytes) (cache : FlowCache)
    (inputs : List ElementInput) (left : Bytes) (after : FlowCache) : Prop :=
  ∃ elements, elements.map PrintedElement.toElementInput = inputs ∧
    PrintsElements globals cache elements after ∧ left = elementsText line elements

section Elements

variable {globals : ReadOnlyGlobals} {line : Bytes} {cache : FlowCache}

theorem Leaves.nil : Leaves globals line cache [] line cache :=
  ⟨[], rfl, .nil cache, rfl⟩

theorem Leaves.append {first second : List ElementInput} {left last : Bytes}
    {between after : FlowCache} (one : Leaves globals line cache first left between)
    (two : Leaves globals left between second last after) :
    Leaves globals line cache (first ++ second) last after := by
  obtain ⟨elements, rfl, ran, rfl⟩ := one
  obtain ⟨others, rfl, ranOthers, rfl⟩ := two
  refine ⟨elements ++ others, List.map_append, ran.append ranOthers, ?_⟩
  unfold elementsText
  rw [List.foldl_append]

theorem printElement_leaves {element : Element} {buffer : Mem} {length : Nat}
    {left : LineState}
    (ran : printElement globals line element buffer length cache = .ok left) :
    Leaves globals line cache [{ element, buffer, length }] left.line left.cache := by
  cases named : element.jsonElementName with
  | none =>
      rw [printElement, named] at ran
      cases ran
  | some name =>
      rw [printElement_eq globals line buffer length cache named] at ran
      cases exported : element.exported globals buffer length cache with
      | error fault =>
          rw [exported] at ran
          cases ran
      | ok printed =>
          rw [exported] at ran
          cases ran
          let one : PrintedElement := { element, buffer, length, cache, printed }
          have printsOne : PrintsElements globals one.cache [one] printed.cache :=
            .cons exported (.nil printed.cache)
          refine ⟨[one], rfl, printsOne, ?_⟩
          change appendPrinted line (cString name) element.quote printed =
            appendPrinted line element.name element.quote printed
          rw [Element.name, named]
          rfl

/-- The inputs of elements that are all printed from the same bytes. -/
def inputsFrom (buffer : Mem) (length : Nat) (elements : List Element) : List ElementInput :=
  elements.map fun element => { element, buffer, length }

variable {buffer : Mem} {length : Nat}

mutual

theorem printNetflowRecordWithTemplate_leaves : ∀ (element : Element) {line : Bytes}
    {cache : FlowCache} {left : LineState},
    printNetflowRecordWithTemplate globals line element buffer length cache = .ok left →
      Leaves globals line cache (inputsFrom buffer length element.all) left.line left.cache
  | .mk templateElementId quote jsonElementName exportFn postTemplate, line, cache, left,
      ran => by
      rw [printNetflowRecordWithTemplate] at ran
      obtain ⟨own, ranOwn, ranRest⟩ := Run.bind_eq_ok.mp ran
      obtain ⟨last, ranLast, same⟩ := Run.bind_eq_ok.mp ranRest
      cases same
      have leavesRest := printPostTemplate_leaves postTemplate ranLast
      rw [Element.all]
      exact (printElement_leaves ranOwn).append leavesRest

theorem printPostTemplate_leaves : ∀ (elements : List Element) {line : Bytes}
    {cache : FlowCache} {left : LineState},
    printPostTemplate globals line elements buffer length cache = .ok left →
      Leaves globals line cache (inputsFrom buffer length (Element.allOf elements)) left.line
        left.cache
  | [], line, cache, left, ran => by
      rw [printPostTemplate] at ran
      cases ran
      rw [Element.allOf]
      exact .nil
  | element :: rest, line, cache, left, ran => by
      rw [printPostTemplate] at ran
      obtain ⟨first, ranFirst, ranRest⟩ := Run.bind_eq_ok.mp ran
      rw [Element.allOf, inputsFrom, List.map_append]
      exact (printNetflowRecordWithTemplate_leaves element ranFirst).append
        (printPostTemplate_leaves rest ranRest)

end

/-! Records -/

def FieldPlace.inputs (buffer : Mem) (place : FieldPlace) : List ElementInput :=
  match place.field.v9Template with
  | some element => inputsFrom (buffer.shift place.place) place.length element.all
  | none => []

theorem printPlaces_leaves {places : List FieldPlace} {left : LineState}
    (ran : printPlaces globals buffer places line cache = .ok left) :
    Leaves globals line cache (places.flatMap fun place => place.inputs buffer) left.line
      left.cache := by
  induction places generalizing line cache with
  | nil =>
      cases ran
      exact .nil
  | cons place rest ih =>
      obtain ⟨first, ranFirst, ranRest⟩ := Run.bind_eq_ok.mp ran
      rw [List.flatMap_cons]
      refine Leaves.append ?_ (ih ranRest)
      unfold FieldPlace.print at ranFirst
      unfold FieldPlace.inputs
      cases known : place.field.v9Template with
      | none =>
          rw [known] at ranFirst
          cases ranFirst
          exact .nil
      | some element =>
          rw [known] at ranFirst
          exact printNetflowRecordWithTemplate_leaves element ranFirst

/-- The elements that are printed from what the flow cache holds. -/
def cacheInputs (elements : List Element) : List ElementInput :=
  inputsFrom (fun _ => 0) 0 (Element.allOf elements)

theorem normalizeDirection_leaves {left : LineState}
    (ran : normalizeDirection globals line cache = .ok left) :
    ∃ guessed, (globals.normalizeDirections = true → guessDirection cache = .ok guessed) ∧
      Leaves globals line guessed
        (if globals.normalizeDirections then cacheInputs postTemplates else []) left.line
        left.cache := by
  unfold normalizeDirection at ran
  cases normalizes : globals.normalizeDirections with
  | false =>
      rw [normalizes, if_neg nofun] at ran
      cases ran
      exact ⟨cache, nofun, .nil⟩
  | true =>
      rw [normalizes, if_pos rfl] at ran
      obtain ⟨guessed, guess, ranAll⟩ := Run.bind_eq_ok.mp ran
      exact ⟨guessed, fun _ => guess, printPostTemplate_leaves postTemplates ranAll⟩

end Elements

/-! Messages -/

def closingNames (separateLongFlows : Bool) : List String :=
  if separateLongFlows then ["bytes", "pkts", "timestamp"]
  else ["first_switched", "timestamp", "bytes", "pkts"]

/-- What is printed of a record: its fields and what is taken from the flow cache after them,
and what follows from its direction. -/
structure RecordElements (context : PacketContext) (buffer : Mem)
    (observationId : ObservationID) (places : List FieldPlace) where
  fields : List PrintedElement
  finished : FlowCache
  guessed : FlowCache
  last : List PrintedElement
  ended : FlowCache
  fields_inputs : fields.map PrintedElement.toElementInput =
    (places.flatMap fun place => place.inputs buffer) ++ cacheInputs [host, referer]
  fields_printed : PrintsElements context.globals
    (withHeaderTimes context.handleIpfix context.flowHeader { observationId }) fields finished
  direction : context.globals.normalizeDirections = true → guessDirection finished = .ok guessed
  last_inputs : last.map PrintedElement.toElementInput =
    if context.globals.normalizeDirections then cacheInputs postTemplates else []
  last_printed : PrintsElements context.globals guessed last ended

namespace RecordElements

variable {context : PacketContext} {buffer : Mem} {observationId : ObservationID}
  {places : List FieldPlace}

def elements (record : RecordElements context buffer observationId places) :
    List PrintedElement :=
  record.fields ++ record.last

/-- A message of the record: its elements come after its type and its sequence number, and some
numbers after them. -/
def Composes (record : RecordElements context buffer observationId places)
    (flowSequenceNumber : UInt16) (message : Message) : Prop :=
  ∃ numbers : List (String × UInt64),
    numbers.map Prod.fst = closingNames context.globals.separateLongFlows ∧
      message.string = numbersText
        (elementsText (startText context.flowVersion flowSequenceNumber.toUInt32) record.elements)
        numbers

/-- The keys of every message of the record. -/
def keys (record : RecordElements context buffer observationId places) : List Bytes :=
  [ascii "type", ascii "flow_sequence"] ++ record.elements.filterMap PrintedElement.key ++
    (closingNames context.globals.separateLongFlows).map ascii

end RecordElements

/-! The numbers that close a message -/

/-- A message is the line it is printed from, closed after numbers of these names. -/
def ClosesWith (names : List String) (line : Bytes) (message : Message) : Prop :=
  ∃ numbers : List (String × UInt64), numbers.map Prod.fst = names ∧
    message.string = numbersText line numbers

section Splitting

variable {globals : ReadOnlyGlobals} {line : Bytes} {messages : List Message}

theorem rbSeparateLongTimeFlow_closesWith {firstTimestamp dSwitched bytes pkts : UInt64}
    (ran : rbSeparateLongTimeFlow globals line firstTimestamp dSwitched 60 60 bytes pkts =
      .ok messages) : ∀ message ∈ messages, ClosesWith (closingNames true) line message := by
  unfold rbSeparateLongTimeFlow at ran
  obtain ⟨final, ranFinal, nodes⟩ := Run.bind_eq_ok.mp ran
  cases nodes
  let counts := intervalCounts globals.firstShare dSwitched 60 60 bytes pkts
  have start : SplitState.Shares counts line []
      { line, lastSentmsg := none, nodes := [] } := ⟨rfl, .inl rfl, rfl⟩
  obtain ⟨intervals, texts⟩ :=
    (splitIntervals_texts globals line (2 ^ 64) firstTimestamp start).of_ok ranFinal
  intro message member
  obtain ⟨node, inNodes, rfl⟩ := List.mem_map.mp member
  have text : node.getD final.line ∈ intervals.map fun interval => interval.text line := by
    rw [← texts]
    exact List.mem_map_of_mem inNodes
  obtain ⟨interval, _, same⟩ := List.mem_map.mp text
  exact ⟨[("bytes", interval.bytes), ("pkts", interval.packets),
    ("timestamp", interval.timestamp)], rfl, same.symm.trans (interval_text_eq line interval)⟩

theorem printWholeFlow_closesWith {firstTimestamp dSwitched bytes pkts clientMac : UInt64}
    (ran : printWholeFlow globals line firstTimestamp dSwitched bytes pkts clientMac =
      .ok messages) : ∀ message ∈ messages, ClosesWith (closingNames false) line message := by
  rw [printWholeFlow_eq] at ran
  cases ran
  intro message member
  rw [List.mem_singleton.mp member]
  exact ⟨[("first_switched", firstTimestamp), ("timestamp", firstTimestamp + dSwitched),
    ("bytes", bytes), ("pkts", pkts)], rfl, rfl⟩

theorem timeSplitFlow_closesWith {cache : FlowCache}
    (ran : timeSplitFlow globals line cache = .ok messages) :
    ∀ message ∈ messages, ClosesWith (closingNames globals.separateLongFlows) line message := by
  unfold timeSplitFlow at ran
  cases separated : globals.separateLongFlows with
  | true =>
      rw [separated, if_pos rfl] at ran
      exact rbSeparateLongTimeFlow_closesWith ran
  | false =>
      rw [separated, if_neg nofun] at ran
      exact printWholeFlow_closesWith ran

end Splitting

theorem printSensorEnrichment_none {line : Bytes} {cache : FlowCache}
    (plain : cache.observationId.enrichment = none) :
    printSensorEnrichment line cache = line := by
  unfold printSensorEnrichment
  rw [plain]

/-- The elements of a record, which every message of the record is composed of. -/
theorem printRecord_composed {context : PacketContext} {buffer : Mem}
    {observationId : ObservationID} {flowSequenceNumber : UInt16} {places : List FieldPlace}
    {record : FlowRecord} (small : context.flowVersion < 65536)
    (plain : observationId.enrichment = none)
    (ran : printRecord context buffer observationId flowSequenceNumber places = .ok record) :
    ∃ printed : RecordElements context buffer observationId places,
      ∀ message ∈ record.messages, printed.Composes flowSequenceNumber message := by
  unfold printRecord at ran
  simp only [startRecord_eq context.globals small, Run.ok_bind] at ran
  obtain ⟨fields, ranFields, ranRest⟩ := Run.bind_eq_ok.mp ran
  obtain ⟨messages, ranMessages, same⟩ := Run.bind_eq_ok.mp ranRest
  cases same
  unfold finishRecord at ranMessages
  obtain ⟨hosted, ranHost, ranMessages⟩ := Run.bind_eq_ok.mp ranMessages
  obtain ⟨referred, ranReferer, ranMessages⟩ := Run.bind_eq_ok.mp ranMessages
  obtain ⟨normalized, ranDirection, ranMessages⟩ := Run.bind_eq_ok.mp ranMessages
  have leavesHost := (printPlaces_leaves ranFields).append
    (printNetflowRecordWithTemplate_leaves host ranHost)
  have leavesReferer := leavesHost.append
    (printNetflowRecordWithTemplate_leaves referer ranReferer)
  obtain ⟨guessed, direction, leavesLast⟩ := normalizeDirection_leaves ranDirection
  obtain ⟨before, inputsBefore, printsBefore, lineBefore⟩ := leavesReferer
  obtain ⟨last, inputsLast, printsLast, lineLast⟩ := leavesLast
  let printed : RecordElements context buffer observationId places :=
    { fields := before
      finished := referred.cache
      guessed
      last
      ended := normalized.cache
      fields_inputs := by
        rw [inputsBefore, List.append_assoc]
        rfl
      fields_printed := printsBefore
      direction
      last_inputs := inputsLast
      last_printed := printsLast }
  refine ⟨printed, ?_⟩
  intro message member
  have known : normalized.cache.observationId = observationId :=
    (normalizeDirection_hasId printsBefore.observationId.2).of_ok ranDirection
  rw [printSensorEnrichment_none (by rw [known, plain])] at ranMessages
  obtain ⟨numbers, names, text⟩ := timeSplitFlow_closesWith ranMessages message member
  refine ⟨numbers, names, ?_⟩
  rw [text, lineLast, lineBefore]
  change _ = numbersText (elementsText _ (before ++ last)) numbers
  unfold elementsText
  rw [List.foldl_append]

end F2k
