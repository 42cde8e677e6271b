import F2k.FlowEndpoints

namespace F2k

open Lib

/-! When a flow started and ended, as records carry it in seconds and in milliseconds. -/

/-- The exporters that keep when the flow started or ended. -/
def ExportFn.setsTimestamp : ExportFn → Bool
  | .saveFirstSecond | .saveLastSecond | .saveFirstMsecond | .saveLastMsecond => true
  | _ => false

def FlowCache.timestamps (cache : FlowCache) : UInt64 × UInt64 :=
  (cache.time.firstTimestampS, cache.time.lastTimestampS)

section Exporters

variable (globals : ReadOnlyGlobals) (buffer : Mem) (length : Nat) (cache : FlowCache)

theorem saveFirstMsecond_eq :
    exportField globals .saveFirstMsecond buffer length cache =
      exportField globals .saveFirstSecond buffer length cache := by
  simp only [exportField, exporterOf, saveFirstMsecond, callbackMiliBuffer, saveFirstSecond,
    net2number_toBe_eight]

theorem saveLastMsecond_eq :
    exportField globals .saveLastMsecond buffer length cache =
      exportField globals .saveLastSecond buffer length cache := by
  simp only [exportField, exporterOf, saveLastMsecond, callbackMiliBuffer, saveLastSecond,
    net2number_toBe_eight]

theorem exportField_timestamps {exportFn : ExportFn} (other : exportFn.setsTimestamp = false) :
    Outcome (fun _ => False) (fun printed => printed.cache.timestamps = cache.timestamps)
      (exportField globals exportFn buffer length cache) := by
  cases exportFn with
  | saveFirstSecond | saveLastSecond | saveFirstMsecond | saveLastMsecond => contradiction
  | saveFirstSwitched | saveLastSwitched => exact rfl
  | _ =>
      refine (exportField_writes globals _ buffer length cache).mono ?_
      intro printed written
      unfold FlowCache.timestamps
      rw [written.time nofun]

end Exporters

/-! Records -/

/-- A field of a record: when the flow started, when it ended, or another one. -/
inductive RecordField
  | start
  | finish
  | other (input : ElementInput)

def RecordField.input (start finish : ElementInput) : RecordField → ElementInput
  | .start => start
  | .finish => finish
  | .other input => input

def ElementInput.exported (input : ElementInput) (globals : ReadOnlyGlobals)
    (cache : FlowCache) : Run Printed :=
  input.element.exported globals input.buffer input.length cache

def ElementInput.SetsTimestamp (input : ElementInput) : Prop :=
  ∃ exportFn ∈ input.element.exportFn, exportFn.setsTimestamp = true

def FlowCache.withFirst (cache : FlowCache) (value : UInt64) : FlowCache :=
  { cache with time := { cache.time with firstTimestampS := value } }

def FlowCache.withLast (cache : FlowCache) (value : UInt64) : FlowCache :=
  { cache with time := { cache.time with lastTimestampS := value } }

theorem ElementInput.exported_timestamps {input : ElementInput} (other : ¬input.SetsTimestamp)
    (globals : ReadOnlyGlobals) (cache : FlowCache) :
    Outcome (fun _ => False) (fun printed => printed.cache.timestamps = cache.timestamps)
      (input.exported globals cache) := by
  unfold ElementInput.exported
  cases exporter : input.element.exportFn with
  | none =>
      unfold Element.exported
      rw [exporter]
      exact rfl
  | some exportFn =>
      rw [Element.exported_eq exporter]
      apply exportField_timestamps
      rw [← Bool.not_eq_true]
      exact fun sets => other ⟨exportFn, exporter, sets⟩

/-- Two fields that are kept as the first and as the last timestamp. -/
structure KeptAs (start finish : ElementInput) (first last : UInt64) : Prop where
  start : ∀ globals cache, start.exported globals cache = (cache.withFirst first).saved
  finish : ∀ globals cache, finish.exported globals cache = (cache.withLast last).saved

section Runs

variable {globals : ReadOnlyGlobals} {start finish : ElementInput} {first last : UInt64}
  {cache after : FlowCache} {elements : List PrintedElement} {record : List RecordField}

/-- What a field makes of the timestamps that are kept. -/
def RecordField.stamp (first last : UInt64) (timestamps : UInt64 × UInt64) :
    RecordField → UInt64 × UInt64
  | .start => (first, timestamps.2)
  | .finish => (timestamps.1, last)
  | .other _ => timestamps

theorem KeptAs.stamps (kept : KeptAs start finish first last) {field : RecordField}
    (other : ∀ input, field = .other input → ¬input.SetsTimestamp) {printed : Printed}
    (exported : (field.input start finish).exported globals cache = .ok printed) :
    printed.cache.timestamps = field.stamp first last cache.timestamps := by
  cases field with
  | start =>
      rw [RecordField.input, kept.start] at exported
      rw [← Except.ok.inj exported]
      rfl
  | finish =>
      rw [RecordField.input, kept.finish] at exported
      rw [← Except.ok.inj exported]
      rfl
  | other input =>
      exact (input.exported_timestamps (other input rfl) globals cache).of_ok exported

theorem KeptAs.timestamps (kept : KeptAs start finish first last)
    (others : ∀ input, .other input ∈ record → ¬input.SetsTimestamp)
    (prints : PrintsElements globals cache elements after)
    (inputs : elements.map PrintedElement.toElementInput =
      record.map (RecordField.input start finish)) :
    after.timestamps = record.foldl (RecordField.stamp first last) cache.timestamps := by
  induction prints generalizing record with
  | nil cache =>
      obtain rfl := List.map_eq_nil_iff.mp inputs.symm
      rfl
  | @cons element rest last' exported _ ih =>
      cases record with
      | nil => cases inputs
      | cons field record =>
          obtain ⟨own, inputsRest⟩ := List.cons.inj inputs
          have exportedInput : (field.input start finish).exported globals element.cache =
              .ok element.printed := by
            rw [← own]
            exact exported
          have stamped := kept.stamps (fun input same => others input (by
            rw [same]
            exact List.mem_cons_self)) exportedInput
          rw [ih (fun input member => others input (List.mem_cons_of_mem field member))
            inputsRest, stamped, List.foldl_cons]

/-- The fields that come last decide. -/
theorem foldl_stamp {timestamps : UInt64 × UInt64}
    (starts : .start ∈ record ∨ timestamps.1 = first)
    (finishes : .finish ∈ record ∨ timestamps.2 = last) :
    record.foldl (RecordField.stamp first last) timestamps = (first, last) := by
  induction record generalizing timestamps with
  | nil =>
      rw [← starts.resolve_left List.not_mem_nil, ← finishes.resolve_left List.not_mem_nil]
      rfl
  | cons field record ih =>
      rw [List.foldl_cons]
      cases field with
      | start => exact ih (.inr rfl) (by simpa [RecordField.stamp] using finishes)
      | finish => exact ih (by simpa [RecordField.stamp] using starts) (.inr rfl)
      | other input =>
          exact ih (by simpa [RecordField.stamp] using starts)
            (by simpa [RecordField.stamp] using finishes)

theorem PrintsElements.uncons {element : PrintedElement}
    (prints : PrintsElements globals cache (element :: elements) after) :
    element.cache = cache ∧
      element.toElementInput.exported globals cache = .ok element.printed ∧
      PrintsElements globals element.printed.cache elements after := by
  cases prints with
  | cons exported others => exact ⟨rfl, exported, others⟩

/-- Fields that are kept alike print the same, and leave the same. -/
theorem KeptAs.alike {start' finish' : ElementInput} (kept : KeptAs start finish first last)
    (kept' : KeptAs start' finish' first last) {field : RecordField}
    {element element' : PrintedElement}
    (own : element.toElementInput = field.input start finish)
    (own' : element'.toElementInput = field.input start' finish')
    (exported : element.toElementInput.exported globals cache = .ok element.printed)
    (exported' : element'.toElementInput.exported globals cache = .ok element'.printed)
    (line : Bytes) :
    element.appendTo line = element'.appendTo line ∧
      element.printed.cache = element'.printed.cache := by
  have saved : ∀ {kept : FlowCache} {element : PrintedElement},
      kept.saved = .ok element.printed →
        element.appendTo line = line ∧ element.printed.cache = kept := by
    intro kept element saved
    unfold PrintedElement.appendTo appendPrinted
    rw [← Except.ok.inj saved]
    exact ⟨rfl, rfl⟩
  cases field with
  | start =>
      rw [own, RecordField.input, kept.start] at exported
      rw [own', RecordField.input, kept'.start] at exported'
      exact ⟨(saved exported).1.trans (saved exported').1.symm,
        (saved exported).2.trans (saved exported').2.symm⟩
  | finish =>
      rw [own, RecordField.input, kept.finish] at exported
      rw [own', RecordField.input, kept'.finish] at exported'
      exact ⟨(saved exported).1.trans (saved exported').1.symm,
        (saved exported).2.trans (saved exported').2.symm⟩
  | other input =>
      have same : element.toElementInput = element'.toElementInput := own.trans own'.symm
      rw [same] at exported
      have printed := Except.ok.inj (exported.symm.trans exported')
      unfold PrintedElement.appendTo
      rw [same, printed]
      exact ⟨rfl, rfl⟩

theorem KeptAs.same {start' finish' : ElementInput} (kept : KeptAs start finish first last)
    (kept' : KeptAs start' finish' first last) {line : Bytes} {elements' : List PrintedElement}
    {after' : FlowCache} (prints : PrintsElements globals cache elements after)
    (prints' : PrintsElements globals cache elements' after')
    (inputs : elements.map PrintedElement.toElementInput =
      record.map (RecordField.input start finish))
    (inputs' : elements'.map PrintedElement.toElementInput =
      record.map (RecordField.input start' finish')) :
    elementsText line elements = elementsText line elements' ∧ after = after' := by
  induction record generalizing elements elements' line cache with
  | nil =>
      obtain rfl := List.map_eq_nil_iff.mp inputs
      obtain rfl := List.map_eq_nil_iff.mp inputs'
      cases prints
      cases prints'
      exact ⟨rfl, rfl⟩
  | cons field record ih =>
      obtain ⟨element, rest, rfl, own, inputsRest⟩ := List.map_eq_cons_iff.mp inputs
      obtain ⟨element', rest', rfl, own', inputsRest'⟩ := List.map_eq_cons_iff.mp inputs'
      obtain ⟨_, exported, others⟩ := prints.uncons
      obtain ⟨_, exported', others'⟩ := prints'.uncons
      obtain ⟨text, left⟩ := kept.alike kept' own own' exported exported' line
      rw [← left] at others'
      have more : elementsText (element.appendTo line) rest =
          elementsText (element.appendTo line) rest' ∧ after = after' :=
        ih others others' inputsRest inputsRest'
      unfold elementsText at more ⊢
      rw [List.foldl_cons, List.foldl_cons, ← text]
      exact more

end Runs

/-! The units -/

/-- A field that has the number of an element in it. -/
structure Carries (input : ElementInput) (templateElementId : UInt16) (value : UInt64) :
    Prop where
  element : findTemplate templateElementId = some input.element
  value : net2number (input.buffer.slice input.length) = value

theorem Carries.exported {input : ElementInput} {templateElementId : UInt16} {value : UInt64}
    (carries : Carries input templateElementId value) {exportFn : ExportFn}
    (table : (findTemplate templateElementId).bind Element.exportFn = some exportFn)
    (globals : ReadOnlyGlobals) (cache : FlowCache) :
    input.exported globals cache =
      exportField globals exportFn input.buffer input.length cache := by
  rw [carries.element] at table
  exact Element.exported_eq table

theorem keptAs_seconds {start finish : ElementInput} {first last : UInt64}
    (starts : Carries start 150 first) (finishes : Carries finish 151 last) :
    KeptAs start finish first last where
  start := by
    intro globals cache
    rw [starts.exported (by decide +kernel : _ = some .saveFirstSecond), ← starts.value]
    rfl
  finish := by
    intro globals cache
    rw [finishes.exported (by decide +kernel : _ = some .saveLastSecond), ← finishes.value]
    rfl

/-- Milliseconds are kept as if they were seconds. -/
theorem keptAs_milliseconds {start finish : ElementInput} {first last : UInt64}
    (starts : Carries start 152 first) (finishes : Carries finish 153 last) :
    KeptAs start finish first last where
  start := by
    intro globals cache
    rw [starts.exported (by decide +kernel : _ = some .saveFirstMsecond), saveFirstMsecond_eq,
      ← starts.value]
    rfl
  finish := by
    intro globals cache
    rw [finishes.exported (by decide +kernel : _ = some .saveLastMsecond), saveLastMsecond_eq,
      ← finishes.value]
    rfl

theorem div_thousand_eq_self_iff (milliseconds : UInt64) :
    milliseconds = milliseconds / 1000 ↔ milliseconds = 0 := by
  rw [← UInt64.toNat_inj, ← UInt64.toNat_inj, UInt64.toNat_div]
  change milliseconds.toNat = milliseconds.toNat / 1000 ↔ milliseconds.toNat = 0
  omega

section Units

variable {globals : ReadOnlyGlobals} {line : Bytes} {cache : FlowCache}
  {record : List RecordField} {m1 m2 : UInt64}
  {startMilliseconds endMilliseconds startSeconds endSeconds : ElementInput}
  {buffer buffer' : Mem} {places places' : List FieldPlace} {left right : LineState}

/-- A record with the start and the end of its flow in milliseconds, and the same record with
them in seconds: the one leaves the timestamps, and the messages, that the other one leaves if and
only if both are zero. -/
theorem milliseconds_agree_iff
    (others : ∀ input, .other input ∈ record → ¬input.SetsTimestamp)
    (starts : .start ∈ record) (finishes : .finish ∈ record)
    (start152 : Carries startMilliseconds 152 m1) (end153 : Carries endMilliseconds 153 m2)
    (start150 : Carries startSeconds 150 (m1 / 1000))
    (end151 : Carries endSeconds 151 (m2 / 1000))
    (inputs : (places.flatMap fun place => place.inputs buffer) =
      record.map (RecordField.input startMilliseconds endMilliseconds))
    (inputs' : (places'.flatMap fun place => place.inputs buffer') =
      record.map (RecordField.input startSeconds endSeconds))
    (ran : printPlaces globals buffer places line cache = .ok left)
    (ran' : printPlaces globals buffer' places' line cache = .ok right) :
    left.cache.time.firstTimestampS = right.cache.time.firstTimestampS ∧
        left.cache.time.lastTimestampS = right.cache.time.lastTimestampS ∧
        finishRecord globals left.line left.cache =
          finishRecord globals right.line right.cache ↔
      m1 = 0 ∧ m2 = 0 := by
  obtain ⟨elements, own, prints, text⟩ := printPlaces_leaves ran
  obtain ⟨elements', own', prints', text'⟩ := printPlaces_leaves ran'
  rw [inputs] at own
  rw [inputs'] at own'
  have kept := keptAs_milliseconds start152 end153
  have kept' := keptAs_seconds start150 end151
  constructor
  · rintro ⟨sameFirst, sameLast, _⟩
    have stamps := (kept.timestamps others prints own).trans
      (foldl_stamp (.inl starts) (.inl finishes))
    have stamps' := (kept'.timestamps others prints' own').trans
      (foldl_stamp (.inl starts) (.inl finishes))
    simp only [FlowCache.timestamps, Prod.mk.injEq] at stamps stamps'
    rw [stamps.1, stamps'.1, div_thousand_eq_self_iff] at sameFirst
    rw [stamps.2, stamps'.2, div_thousand_eq_self_iff] at sameLast
    exact ⟨sameFirst, sameLast⟩
  · rintro ⟨rfl, rfl⟩
    obtain ⟨lines, caches⟩ := @KeptAs.same _ _ _ _ _ _ _ _ _ _ _ kept kept' line _ _ prints
      prints' own own'
    rw [text, text', lines, caches]
    exact ⟨rfl, rfl, rfl⟩

end Units

/-! A record with nothing but these two fields -/

def unitPlaces (startId endId : UInt16) : List FieldPlace :=
  [{ field := { fieldId := startId, fieldLen := 8, v9Template := findTemplate startId }
     place := 0
     length := 8 },
    { field := { fieldId := endId, fieldLen := 8, v9Template := findTemplate endId }
      place := 8
      length := 8 }]

def unitBuffer (start finish : UInt64) : Mem :=
  .ofBytes (toBe 8 start.toNat ++ toBe 8 finish.toNat)

def unitInput (templateElementId : UInt16) (buffer : Mem) (place : Nat) : ElementInput where
  element := (findTemplate templateElementId).getD flowSequence
  buffer := buffer.shift place
  length := 8

def unitLeft (buffer : Mem) : LineState where
  line := ascii "\x7b"
  cache :=
    (noFlowCache.withFirst (net2number ((buffer.shift 0).slice 8))).withLast
      (net2number ((buffer.shift 8).slice 8))
  valueRet := 0

theorem printPlaces_seconds (globals : ReadOnlyGlobals) (buffer : Mem) :
    printPlaces globals buffer (unitPlaces 150 151) (ascii "\x7b") noFlowCache =
      .ok (unitLeft buffer) := rfl

theorem printPlaces_milliseconds (globals : ReadOnlyGlobals) (buffer : Mem) :
    printPlaces globals buffer (unitPlaces 152 153) (ascii "\x7b") noFlowCache =
      .ok (unitLeft buffer) := by
  have ran : printPlaces globals buffer (unitPlaces 152 153) (ascii "\x7b") noFlowCache =
      .ok
        { line := ascii "\x7b"
          cache :=
            (noFlowCache.withFirst
              (net2number (toBe 8 (net2number ((buffer.shift 0).slice 8)).toNat))).withLast
                (net2number (toBe 8 (net2number ((buffer.shift 8).slice 8)).toNat))
          valueRet := 0 } := rfl
  rw [ran, net2number_toBe_eight, net2number_toBe_eight]
  rfl

theorem milliseconds_agree_iff_flow :
    let left := unitLeft (unitBuffer 1500000000000 1500000060000)
    let right := unitLeft (unitBuffer 1500000000 1500000060)
    left.cache.time.firstTimestampS = right.cache.time.firstTimestampS ∧
        left.cache.time.lastTimestampS = right.cache.time.lastTimestampS ∧
        finishRecord splittingGlobals left.line left.cache =
          finishRecord splittingGlobals right.line right.cache ↔
      (1500000000000 : UInt64) = 0 ∧ (1500000060000 : UInt64) = 0 := by
  let milliseconds := unitBuffer 1500000000000 1500000060000
  let seconds := unitBuffer 1500000000 1500000060
  exact @milliseconds_agree_iff splittingGlobals (ascii "\x7b") noFlowCache [.start, .finish]
    1500000000000 1500000060000 (unitInput 152 milliseconds 0) (unitInput 153 milliseconds 8)
    (unitInput 150 seconds 0) (unitInput 151 seconds 8) milliseconds seconds
    (unitPlaces 152 153) (unitPlaces 150 151) _ _ (by simp) (by simp) (by simp)
    ⟨rfl, by decide +kernel⟩ ⟨rfl, by decide +kernel⟩ ⟨rfl, by decide +kernel⟩
    ⟨rfl, by decide +kernel⟩ rfl rfl (printPlaces_milliseconds _ _) (printPlaces_seconds _ _)

/-- July 2017 in milliseconds is a time tens of thousands of years ahead in seconds. -/
theorem not_milliseconds_agree :
    (printPlaces splittingGlobals (unitBuffer 1500000000000 1500000060000) (unitPlaces 152 153)
          (ascii "\x7b") noFlowCache).map (fun left => left.cache.timestamps) =
        .ok (1500000000000, 1500000060000) ∧
      (printPlaces splittingGlobals (unitBuffer 1500000000 1500000060) (unitPlaces 150 151)
          (ascii "\x7b") noFlowCache).map (fun left => left.cache.timestamps) =
        .ok (1500000000, 1500000060) := by
  decide +kernel

end F2k
