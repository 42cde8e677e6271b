import F2k.PrintableFields

namespace F2k

open Lib

/-! Messages as JSON: a line stays an object with members that is not closed yet, and a message
is a line that has been closed. -/

/-! Lines -/

/-- An object that has members, and its end is yet to come. -/
def OpenObject (line : Bytes) : Prop :=
  ∃ members, JsonMembers members ∧ line = [123] ++ members

theorem space_ne_zero {space : Bytes} (spaces : IsSpace space) : ∀ byte ∈ space, byte ≠ 0 := by
  intro byte member
  have known := spaces byte member
  simp only [List.mem_cons, List.not_mem_nil, or_false] at known
  rcases known with rfl | rfl | rfl | rfl <;> decide

theorem members_head {members : Bytes} (contents : JsonMembers members) :
    ∃ first rest, members = first :: rest ∧ first ≠ 0 := by
  refine @JsonMembers.rec (fun _ _ => True) (fun _ _ => True)
    (fun members _ => ∃ first rest, members = first :: rest ∧ first ≠ 0)
    (fun _ => trivial) (fun _ => trivial) (fun _ => trivial) (fun _ => trivial)
    (fun _ _ => trivial) (fun _ => trivial) (fun _ _ => trivial) (fun _ _ _ _ => trivial)
    (fun _ _ _ _ => trivial) ?_ ?_ members contents
  · intro before _ _ _ _ _ spaces _ _ _ _ _ _
    cases before with
    | nil => exact ⟨34, _, rfl, by decide⟩
    | cons first rest => exact ⟨first, _, rfl, space_ne_zero spaces first List.mem_cons_self⟩
  · intro _ _ _ _ head _
    obtain ⟨first, rest, rfl, some⟩ := head
    exact ⟨first, _, rfl, some⟩

theorem OpenObject.not_alone {line : Bytes} (opened : OpenObject line) :
    cString line ≠ ascii "\x7b" := by
  obtain ⟨members, contents, rfl⟩ := opened
  obtain ⟨first, rest, rfl, some⟩ := members_head contents
  intro alone
  have starts : cString ([123] ++ first :: rest) = 123 :: first :: cString rest := by
    simp [cString, some]
  rw [starts] at alone
  cases alone

theorem OpenObject.append {line members : Bytes} (opened : OpenObject line)
    (more : JsonMembers members) : OpenObject (line ++ [44] ++ members) := by
  obtain ⟨before, contents, rfl⟩ := opened
  exact ⟨before ++ [44] ++ members, .more contents more, by simp⟩

theorem OpenObject.close {line : Bytes} (opened : OpenObject line) :
    JsonObject (line ++ ascii "\x7d") := by
  obtain ⟨members, contents, rfl⟩ := opened
  exact ⟨members, rfl, .inr contents⟩

/-- The value of an element, with its quotes if it has them. -/
def quotedText (quote : Bool) (text : Bytes) : Bytes :=
  (if quote then ascii "\"" else []) ++ text ++ (if quote then ascii "\"" else [])

theorem quotedText_value {quote : Bool} {text : Bytes} (fits : Fits (!quote) text) :
    JsonValue (quotedText quote text) := by
  cases quote with
  | true => exact .string fits.1
  | false =>
      have whole : quotedText false text = text := by simp [quotedText]
      rw [whole]
      exact .number (fits.2 rfl)

theorem elementPrefix_append {line : Bytes} (opened : OpenObject line) (name text : Bytes)
    (quote : Bool) :
    elementPrefix line name quote ++ text ++ (if quote then ascii "\"" else []) =
      line ++ [44] ++ ([34] ++ name ++ [34, 58] ++ quotedText quote text) := by
  unfold elementPrefix quotedText
  rw [if_pos opened.not_alone]
  simp only [List.append_assoc]
  rfl

theorem OpenObject.element {line name text : Bytes} {quote : Bool} (opened : OpenObject line)
    (named : JsonText name) (fits : Fits (!quote) text) :
    OpenObject
      (elementPrefix line name quote ++ text ++ (if quote then ascii "\"" else [])) := by
  rw [elementPrefix_append opened]
  exact opened.append (.member named (quotedText_value fits))

theorem OpenObject.appendPrinted {line name : Bytes} {quote : Bool} {printed : Printed}
    (opened : OpenObject line) (named : JsonText name)
    (fits : 0 < printed.length → Fits (!quote) printed.text) :
    OpenObject (appendPrinted line name quote printed) := by
  unfold F2k.appendPrinted
  split
  · next some => exact opened.element named (fits some)
  · exact opened

theorem OpenObject.number {line : Bytes} {name : String} (opened : OpenObject line)
    (named : JsonText (ascii name)) (value : UInt64) :
    OpenObject (appendNumber line name value) := by
  have element := opened.element named (fits_number (!false) value)
  rwa [if_neg Bool.false_ne_true, List.append_nil] at element

theorem numberNames_text : ∀ name ∈ numberNames, (ascii name).all JsonText.isPlain = true := by
  decide

theorem Closes.json {line : Bytes} {message : Message} (closes : Closes line message)
    (opened : OpenObject line) : JsonObject message.string := by
  obtain ⟨numbers, named, text⟩ := closes
  rw [text]
  unfold numbersText
  apply OpenObject.close
  clear text
  induction numbers generalizing line with
  | nil => exact opened
  | cons number rest ih =>
      obtain ⟨first, others⟩ := List.forall_mem_cons.mp named
      exact ih (opened.number (.of_plain (numberNames_text _ first)) number.2) others

theorem startText_open (flowVersion : Nat) (flowSequenceNumber : UInt32) :
    OpenObject (startText flowVersion flowSequenceNumber) := by
  have version : JsonText (ascii "netflowv" ++ n10 (UInt64.ofNat flowVersion)) :=
    (ascii_text (by decide)).append (n10_text _)
  have first : OpenObject (appendQuoted (ascii "\x7b") "type"
      (ascii "netflowv" ++ n10 (UInt64.ofNat flowVersion))) :=
    ⟨_, .member (ascii_text (by decide) : JsonText (ascii "type")) (.string version), by
      unfold appendQuoted elementPrefix
      rw [if_neg (by decide)]
      simp only [List.append_assoc]
      rfl⟩
  exact first.element (ascii_text (by decide)) (fits_text (n10_text _))

/-! Elements -/

/-- The name of the element may stand in a message, and without quotes it prints numbers. -/
def Element.Presentable (element : Element) : Prop :=
  (∀ name ∈ element.jsonElementName, (cString name).all JsonText.isPlain = true) ∧
    (element.quote = false → ∀ exportFn ∈ element.exportFn, exportFn.bare = true)

instance : DecidablePred Element.Presentable :=
  fun _ => inferInstanceAs (Decidable (_ ∧ _))

/-- What the element prints of these bytes may stand in a message. -/
def Element.Admits (field : Bytes) (element : Element) : Prop :=
  ∀ exportFn ∈ element.exportFn, exportFn.admits field

/-- Exporters that print no text of their field. -/
def ExportFn.admitsAny : ExportFn → Bool
  | .printString | .printSsidName | .printHttpUrl | .printHttpHost | .printHttpHostL2
  | .printHttpUserAgent | .printHttpReferer | .printHttpsCommonName => false
  | _ => true

theorem ExportFn.admits_of_any {exportFn : ExportFn} (any : exportFn.admitsAny = true)
    (field : Bytes) : exportFn.admits field := by
  cases exportFn <;> trivial

def Element.AdmitsAny (element : Element) : Prop :=
  ∀ exportFn ∈ element.exportFn, exportFn.admitsAny = true

instance : DecidablePred Element.AdmitsAny :=
  fun _ => inferInstanceAs (Decidable (∀ _ ∈ _, _))

theorem Element.admits_of_any {element : Element} (any : element.AdmitsAny) (field : Bytes) :
    element.Admits field :=
  fun exportFn member => ExportFn.admits_of_any (any exportFn member) field

section Elements

variable {globals : ReadOnlyGlobals} (databases : PlainDatabases globals)

/-- The line and the texts of the flow cache. -/
structure JsonLine (line : Bytes) (cache : FlowCache) : Prop where
  opened : OpenObject line
  plain : PlainCache cache

theorem JsonLine.turned {line : Bytes} {cache : FlowCache} (direction : Direction)
    (json : JsonLine line cache) :
    JsonLine line { cache with macs := { cache.macs with direction } } :=
  ⟨json.opened, json.plain.of_texts rfl⟩

include databases in
theorem printElement_json {element : Element} {buffer : Mem} {realFieldLen : Nat} {line : Bytes}
    {cache : FlowCache} (presentable : element.Presentable)
    (admits : element.Admits (buffer.slice realFieldLen)) (json : JsonLine line cache) :
    Outcome (fun _ => True) (fun printed => JsonLine printed.line printed.cache)
      (printElement globals line element buffer realFieldLen cache) := by
  have exported : Outcome (fun _ => True)
      (fun printed => (0 < printed.length → Fits (!element.quote) printed.text) ∧
        PlainCache printed.cache)
      (element.exported globals buffer realFieldLen cache) := by
    unfold Element.exported
    split
    · exact ⟨fun some => absurd some (Nat.lt_irrefl 0), json.plain⟩
    · next exportFn known =>
        refine ((exportField_prints globals exportFn buffer realFieldLen cache).mono_fails
          fun _ _ => trivial).mono ?_
        intro printed fits
        obtain ⟨text, plain⟩ := fits databases json.plain (admits exportFn known)
        refine ⟨?_, plain⟩
        intro some
        refine ⟨(text some).1, ?_⟩
        intro unquoted
        exact (text some).2 (presentable.2 (by simpa using unquoted) exportFn known)
  refine printElement_outcome (fun _ => trivial) exported ?_
  intro name printed valueRet named both
  obtain ⟨fits, plain⟩ := both
  exact ⟨json.opened.appendPrinted (.of_plain (presentable.1 name named)) fits, plain⟩

include databases in
theorem printNetflowRecordWithTemplate_json {element : Element} {buffer : Mem}
    {realFieldLen : Nat} {line : Bytes} {cache : FlowCache}
    (every : element.Every fun element =>
      element.Presentable ∧ element.Admits (buffer.slice realFieldLen))
    (json : JsonLine line cache) :
    Outcome (fun _ => True) (fun printed => JsonLine printed.line printed.cache)
      (printNetflowRecordWithTemplate globals line element buffer realFieldLen cache) :=
  printNetflowRecordWithTemplate_outcome
    (fun _ _ _ passes json => printElement_json databases passes.1 passes.2 json) element line
    cache every json

end Elements

/-! Records -/

theorem ending_presentable :
    Element.EveryOf (fun element => element.Presentable ∧ element.AdmitsAny)
      (host :: referer :: postTemplates) := by
  decide +kernel

theorem v5TemplateFields_presentable :
    Element.EveryOf (fun element => element.Presentable ∧ element.AdmitsAny)
      v5TemplateFields := by
  decide +kernel

theorem ver9Templates_presentable :
    ∀ element ∈ ver9Templates, element.Every Element.Presentable := by
  decide +kernel

def FlowRecord.Json (record : FlowRecord) : Prop :=
  ∀ message ∈ record.messages, JsonObject message.string

theorem PlainCache.start {observationId : ObservationID} (names : PlainNames observationId)
    (handleIpfix : Bool) (flowHeader : Mem) :
    PlainCache (withHeaderTimes handleIpfix flowHeader { observationId }) := by
  constructor
  · exact names
  all_goals exact nofun

theorem JsonLine.enriched {line : Bytes} {cache : FlowCache} (json : JsonLine line cache) :
    OpenObject (printSensorEnrichment line cache) := by
  unfold printSensorEnrichment
  split
  · next members known =>
      exact json.opened.append (json.plain.names.enrichment members known)
  · exact json.opened

theorem JsonLine.closes {messages : List Message}
    (closed : ∃ line cache, JsonLine line cache ∧
      ∀ message ∈ messages, Closes (printSensorEnrichment line cache) message) :
    ∀ message ∈ messages, JsonObject message.string := by
  obtain ⟨line, cache, json, closes⟩ := closed
  exact fun message member => (closes message member).json json.enriched

section Records

variable {globals : ReadOnlyGlobals} (databases : PlainDatabases globals)
  {observationId : ObservationID} (names : PlainNames observationId)

include databases in
theorem printEnding_json : ∀ element line cache,
    (element.Presentable ∧ element.AdmitsAny) → JsonLine line cache →
      Outcome (fun _ => True) (fun printed => JsonLine printed.line printed.cache)
        (printElement globals line element (fun _ => 0) 0 cache) :=
  fun _ _ _ passes json =>
    printElement_json databases passes.1 (Element.admits_of_any passes.2 _) json

include names in
theorem printRecord_json {context : PacketContext} (databases : PlainDatabases context.globals)
    (small : context.flowVersion < 65536) {buffer : Mem} {flowSequenceNumber : UInt16}
    {places : List FieldPlace}
    (fits : ∀ place ∈ places, ∀ element ∈ place.field.v9Template,
      element.Every fun element => element.Presentable ∧ element.Admits (place.bytes buffer)) :
    Outcome (fun _ => True) FlowRecord.Json
      (printRecord context buffer observationId flowSequenceNumber places) := by
  refine (printRecord_outcome JsonLine (fun element => element.Presentable ∧ element.AdmitsAny)
    small trivial ⟨startText_open _ _, .start names _ _⟩ ?_ (printEnding_json databases)
    (fun _ _ direction json => json.turned direction) ending_presentable).mono ?_
  · intro place member line cache json
    unfold FieldPlace.print
    split
    · next element known =>
        exact printNetflowRecordWithTemplate_json databases (fits place member element known) json
    · exact json
  · exact fun record ⟨_, closed⟩ => JsonLine.closes closed

include databases names in
theorem dissectNetFlowV5Record_json (the5Record : Mem) (flowIdx : Nat) :
    Outcome (fun _ => True) FlowRecord.Json
      (dissectNetFlowV5Record globals the5Record flowIdx observationId) := by
  refine (dissectNetFlowV5Record_outcome JsonLine
    (fun element => element.Presentable ∧ element.AdmitsAny) trivial
    ⟨startText_open _ _, .start names _ _⟩ ?_ (printEnding_json databases)
    (fun _ _ direction json => json.turned direction) ending_presentable).mono ?_
  · intro element member line cache json
    refine dissectNetFlowV5Field_outcome
      (fun _ _ _ _ left right => ⟨left.opened, right.plain⟩) ?_ json
    intro place length _
    apply printNetflowRecordWithTemplate_json databases _ json
    exact Element.every_mono (fun _ passes => ⟨passes.1, Element.admits_of_any passes.2 _⟩) element
      (Element.every_of_mem v5TemplateFields_presentable member)
  · exact fun record closed => JsonLine.closes closed

end Records

/-! Sets and datagrams -/

def TemplateField.FromTable (field : TemplateField) : Prop :=
  ∀ element ∈ field.v9Template, element ∈ ver9Templates

/-- What was received is what is stored of templates. -/
def StoredElements (observationId : ObservationID) : Prop :=
  ∀ id template, observationId.getTemplate id = some template →
    ∀ field ∈ template.fields, field.FromTable

/-- The texts that a data set makes a message print as they are may stand in it. -/
def FieldsFit (context : PacketContext) (observationId : ObservationID) (set : SizedBuffer) :
    Prop :=
  isTemplateSet context.handleIpfix set = false → ∀ template,
    usableTemplate observationId (set.u16 0) = some template →
      template.isOptionTemplate = false → ∀ displ,
        Relation.ReflTransGen
          (RecordTurn context.handleIpfix set.buffer (set.u16 2) template.fields) 4 displ →
        displ + 4 ≤ set.u16 2 →
          ∀ place ∈ (fieldPlaces context.handleIpfix set.buffer (set.u16 2) template.fields
              displ).1,
            ∀ element ∈ place.field.v9Template,
              element.Every (Element.Admits (place.bytes set.buffer))

theorem dissectSet_json {context : PacketContext} (small : context.flowVersion < 65536)
    (databases : PlainDatabases context.globals) (flowSequenceNumber : UInt16)
    {observationId : ObservationID} {set : SizedBuffer} (names : PlainNames observationId)
    (elements : StoredElements observationId) (fits : FieldsFit context observationId set) :
    Outcome (fun _ => True) (fun result => ∀ record ∈ result.2, record.Json)
      (dissectSet context flowSequenceNumber observationId set) := by
  have run := dissectSet_run context flowSequenceNumber observationId set
  generalize dissectSet context flowSequenceNumber observationId set = result at run ⊢
  cases run with
  | idle changed => simp
  | options data usable isOption =>
      apply Outcome.map_iff.mpr
      cases dissectOptionFlowSet _ (optionBody set) observationId with
      | error fault => trivial
      | ok learned => simp
  | @records template data usable isFlow =>
      refine Outcome.map_iff.mpr (dissectRecords_outcome _ trivial ?_ _ _ .refl)
      intro displ flowSequenceNumber reached another
      apply printRecord_json names databases small
      intro place member element known
      have stored := (Option.filter_eq_some_iff.mp usable).1
      have inTable := elements _ template stored place.field (mem_fieldPlaces member) element known
      exact Element.every_and element (ver9Templates_presentable element inTable)
        (fits data template usable isFlow displ reached another place member element known)

end F2k
