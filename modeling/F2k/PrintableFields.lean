import F2k.SetRuns

namespace F2k

open Lib

/-! Which elements reach the printer: two of the table have no name in a message, `IF_NAME` (82)
and `IF_DESCRIPTION` (83), and a flow template may list them like any other. -/

/-- The element and all that are printed after it have names. -/
def Element.AllNamed (element : Element) : Prop :=
  element.Every fun element => element.isNamed = true

instance : DecidablePred Element.AllNamed :=
  fun _ => inferInstanceAs (Decidable (Element.Every _ _))

theorem ver9Templates_allNamed :
    ∀ element ∈ ver9Templates, element.templateElementId = 82 ∨
      element.templateElementId = 83 ∨ element.AllNamed := by
  decide +kernel

theorem findTemplate_eq_some {id : UInt16} {element : Element}
    (found : findTemplate id = some element) :
    element ∈ ver9Templates ∧ element.templateElementId = id := by
  have same := List.find?_some found
  exact ⟨List.mem_of_find?_eq_some found, of_decide_eq_true same⟩

/-- Of the elements that a template may list, the interface's texts alone have no names. -/
theorem findTemplate_allNamed_iff (id : UInt16) :
    (∀ element ∈ findTemplate id, element.AllNamed) ↔ id ≠ 82 ∧ id ≠ 83 := by
  constructor
  · intro named
    constructor
    · rintro rfl
      exact absurd named (by decide +kernel)
    · rintro rfl
      exact absurd named (by decide +kernel)
  · intro both element found
    obtain ⟨notName, notDescription⟩ := both
    obtain ⟨member, same⟩ := findTemplate_eq_some found
    rcases ver9Templates_allNamed element member with name | description | named
    · exact absurd (same.symm.trans name) notName
    · exact absurd (same.symm.trans description) notDescription
    · exact named

/-- No record of a set reaches a field of an element without a name. -/
def NamedFields (context : PacketContext) (observationId : ObservationID) (set : SizedBuffer) :
    Prop :=
  isTemplateSet context.handleIpfix set = false → ∀ template,
    usableTemplate observationId (set.u16 0) = some template →
      template.isOptionTemplate = false → ∀ displ,
        Relation.ReflTransGen
          (RecordTurn context.handleIpfix set.buffer (set.u16 2) template.fields) 4 displ →
        displ + 4 ≤ set.u16 2 →
          ∀ place ∈ (fieldPlaces context.handleIpfix set.buffer (set.u16 2) template.fields
              displ).1,
            ∀ element ∈ place.field.v9Template, element.AllNamed

theorem dissectSet_named {context : PacketContext} (small : context.flowVersion < 65536)
    (flowSequenceNumber : UInt16) (observationId : ObservationID) (set : SizedBuffer)
    (named : NamedFields context observationId set) :
    Outcome (fun fault => fault ≠ .nullElementName) (fun _ => True)
      (dissectSet context flowSequenceNumber observationId set) := by
  have run := dissectSet_run context flowSequenceNumber observationId set
  generalize dissectSet context flowSequenceNumber observationId set = result at run ⊢
  cases run with
  | idle changed => exact trivial
  | options data usable isOption =>
      refine Outcome.map_iff.mpr (dissectOptionFlows_fails (by simp) ?_ _ observationId .refl)
      intro cursor observationId _ _
      refine (learnNames_outcome _ observationId).mono_fails ?_
      rintro fault rfl
      simp
  | records data usable isFlow =>
      refine Outcome.map_iff.mpr (dissectRecords_fails (by simp) ?_ _ _ .refl)
      intro displ flowSequenceNumber reached another
      refine printRecord_fails small (by simp) _ _ _ ?_
      intro place member element known
      have allNamed := named data _ usable isFlow displ reached another place member element known
      exact Element.every_mono (fun _ => Printable.of_isNamed) element allNamed

/-- A record that reaches a field without a name is not printed. -/
theorem printPlaces_nameless {globals : ReadOnlyGlobals} {buffer : Mem} {places : List FieldPlace}
    {place : FieldPlace} {element : Element} (member : place ∈ places)
    (known : place.field.v9Template = some element) (nameless : element.isNamed = false)
    (line : Bytes) (cache : FlowCache) (printed : LineState) :
    printPlaces globals buffer places line cache ≠ .ok printed := by
  induction places generalizing line cache with
  | nil => contradiction
  | cons first rest ih =>
      intro ran
      obtain ⟨own, ranFirst, ranRest⟩ := Run.bind_eq_ok.mp ran
      rcases List.mem_cons.mp member with rfl | inRest
      · have missing : element.jsonElementName = none := by
          simpa [Element.isNamed] using nameless
        rw [FieldPlace.print, known] at ranFirst
        cases element with
        | mk templateElementId quote jsonElementName exportFn postTemplate =>
            cases missing
            simp only [printNetflowRecordWithTemplate, printElement, Element.jsonElementName,
              Run.error_bind] at ranFirst
            contradiction
      · exact ih inRest own.line own.cache ranRest

/-- Where no record reaches a field without a name, no packet makes the printer look for one. -/
theorem runSteps_named {sensor : Sensor} {datagrams : List Received}
    (named : AlongRun dissectReceived
      (fun sensor received => received.EverySet NamedFields sensor) sensor datagrams) :
    runSteps dissectReceived sensor datagrams ≠ .error .nullElementName := by
  intro nameless
  have fine : Outcome (fun fault => fault ≠ .nullElementName) (fun _ => True)
      (runSteps dissectReceived sensor datagrams) := by
    refine dissectDatagrams_fails (by simp) (by simp) ?_ named
    intro received observationId set named
    exact dissectSet_named (headerNumber_lt received.buffer 0 2) _ observationId set named
  exact fine.of_error nameless rfl

theorem mem_fieldPlaces {handleIpfix : Bool} {buffer : Mem} {endFlow : Nat}
    {fields : List TemplateField} {displ : Nat} {place : FieldPlace}
    (member : place ∈ (fieldPlaces handleIpfix buffer endFlow fields displ).1) :
    place.field ∈ fields := by
  induction fields generalizing displ with
  | nil => contradiction
  | cons field rest ih =>
      rw [fieldPlaces] at member
      split at member
      · rcases List.mem_cons.mp member with rfl | inRest
        · exact List.mem_cons_self
        · exact List.mem_cons_of_mem _ (ih inRest)
      · contradiction

theorem namedFields_of_template {context : PacketContext} {observationId : ObservationID}
    {set : SizedBuffer}
    (named : ∀ template, observationId.getTemplate (UInt16.ofNat (set.u16 0)) = some template →
      ∀ field ∈ template.fields, ∀ element ∈ field.v9Template, element.AllNamed) :
    NamedFields context observationId set := by
  intro data template usable isFlow displ reached another place member element known
  have stored := (Option.filter_eq_some_iff.mp usable).1
  exact named template stored place.field (mem_fieldPlaces member) element known

theorem getObservationId_sensorOf {observationId found : ObservationID} {id : UInt32}
    (lookup : (sensorOf observationId).getObservationId id = some found) :
    found = observationId := by
  by_cases known : id = 7
  · subst known
    rw [Sensor.getObservationId, sensorOf, AList.lookup_insert] at lookup
    exact (Option.some.inj lookup).symm
  · rw [Sensor.getObservationId, sensorOf, AList.lookup_insert_ne known] at lookup
    contradiction

/-- A template of one IPv4 address. -/
def addressTemplate : FlowSetV9Ipfix where
  templateId := 256
  isOptionTemplate := false
  fields := [{ fieldId := 8, fieldLen := 4, v9Template := some ipv4SrcAddr }]

def addressObservation : ObservationID :=
  (ObservationID.new 7).addTemplate 256 addressTemplate

def oneSetReceived (set : Bytes) : Received where
  globals := splittingGlobals
  buffer := .ofBytes (v9PacketBytes 1 [set])
  bufferLen := (v9PacketBytes 1 [set]).length

theorem runSteps_named_address :
    runSteps dissectReceived (sensorOf addressObservation)
        [oneSetReceived (setBytes 256 [10, 0, 0, 1])] ≠ .error .nullElementName := by
  apply runSteps_named
  refine ⟨?_, fun _ _ _ => trivial⟩
  intro _ observationId found
  obtain rfl := getObservationId_sensorOf found
  obtain ⟨set, sets⟩ : ∃ set, setsOf (oneSetReceived (setBytes 256 [10, 0, 0, 1])).buffer
      (oneSetReceived (setBytes 256 [10, 0, 0, 1])).bufferLen = [set] :=
    List.length_eq_one_iff.mp (by decide +kernel)
  rw [sets]
  refine ⟨?_, fun _ _ _ => trivial⟩
  apply namedFields_of_template
  intro template stored field member
  have same : template = addressTemplate := by
    by_cases known : UInt16.ofNat (set.u16 0) = 256
    · rw [known, ObservationID.getTemplate, addressObservation, ObservationID.addTemplate,
        AList.lookup_insert] at stored
      exact (Option.some.inj stored).symm
    · rw [ObservationID.getTemplate, addressObservation, ObservationID.addTemplate,
        AList.lookup_insert_ne known] at stored
      contradiction
  subst same
  obtain rfl := List.mem_singleton.mp member
  decide +kernel

/-- A flow template of one field that the table names `IF_NAME`, and then a record of it. -/
def interfaceNameDatagrams : List Received :=
  [oneSetReceived (setBytes 0 (templateBytes 256 [(82, 4)])),
    oneSetReceived (setBytes 256 (ascii "eth0"))]

theorem runSteps_nameless_interfaceName :
    runSteps dissectReceived (sensorOf (.new 7)) interfaceNameDatagrams =
      .error .nullElementName := by
  have mapped : (runSteps dissectReceived (sensorOf (.new 7)) interfaceNameDatagrams).map
      (fun _ => ()) = .error .nullElementName := by
    decide +kernel
  exact eq_error_of_map mapped

end F2k
