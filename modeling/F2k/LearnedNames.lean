import F2k.ExportingProcess

namespace F2k

open Lib

/-! The names of applications, selectors and interfaces that an observation id has once it heard
an exporter: for every id the last one announced, in whichever packet. -/

namespace ExportedSet

section

variable {Text : Type}

/-- What the option records of a set announce, in their order. -/
def announcing (announce : List AnnouncedField → List Bytes → Option (Nat × Text)) :
    ExportedSet → List (Nat × Text)
  | .optionRecords announced all => all.filterMap (announce announced.fields)
  | .templates _ => []
  | .optionTemplate _ => []
  | .records _ _ => []

end

def applications (set : ExportedSet) : List (Nat × Bytes) :=
  set.announcing fun fields record => announcedName fields record 95 96

def selectors (set : ExportedSet) : List (Nat × Bytes) :=
  set.announcing fun fields record => announcedName fields record 302 335

def interfaces (set : ExportedSet) : List (Nat × Bytes × Bytes) :=
  set.announcing announcedInterface

/-- The names of option records are read, if there are records. -/
def Readable (handleIpfix : Bool) : ExportedSet → Prop
  | .optionRecords announced all =>
      (∀ field ∈ announced.fields, field.Allowed handleIpfix) ∧
        (all ≠ [] → NamesRead announced.stored.fields)
  | .templates _ => True
  | .optionTemplate _ => True
  | .records _ _ => True

end ExportedSet

/-- The observation id has what the sets announce, and what it had where they announce nothing. -/
structure Told (sets : List ExportedSet) (before after : ObservationID) : Prop where
  applications : Follows (sets.flatMap ExportedSet.applications) before.applicationTexts
    after.applicationTexts
  selectors : Follows (sets.flatMap ExportedSet.selectors) before.selectorTexts
    after.selectorTexts
  interfaces : Follows (sets.flatMap ExportedSet.interfaces) before.interfaceTexts
    after.interfaceTexts

namespace Told

variable {before between after : ObservationID} {sets later : List ExportedSet}

theorem refl (observationId : ObservationID) : Told [] observationId observationId :=
  ⟨.refl _, .refl _, .refl _⟩

theorem append (first : Told sets before between) (second : Told later between after) :
    Told (sets ++ later) before after := by
  constructor
  · rw [List.flatMap_append]
    exact first.applications.append second.applications
  · rw [List.flatMap_append]
    exact first.selectors.append second.selectors
  · rw [List.flatMap_append]
    exact first.interfaces.append second.interfaces

/-- Templates are no names. -/
theorem saveTemplates (templates : List FlowSetV9Ipfix) (observationId : ObservationID) :
    Told [] observationId (templates.foldl ObservationID.saveTemplate observationId) := by
  induction templates generalizing observationId with
  | nil => exact .refl observationId
  | cons template rest ih =>
      obtain ⟨applications, selectors, interfaces⟩ := ih (observationId.saveTemplate template)
      exact ⟨applications, selectors, interfaces⟩

end Told

section Sets

variable {context : PacketContext} {flowSequenceNumber : UInt16} {before after : ObservationID}
  {set : ExportedSet} {printed : List FlowRecord}

theorem mean_told {bytes : Bytes} (writes : set.Writes context.handleIpfix bytes)
    (readable : set.Readable context.handleIpfix)
    (meant : set.mean context flowSequenceNumber before = .ok (after, printed)) :
    Told [set] before after := by
  cases writes with
  | @templates announced padding wellFormed short some fits =>
      cases meant
      obtain ⟨applications, selectors, interfaces⟩ :=
        Told.saveTemplates (announced.map Announced.parsed) before
      exact ⟨applications, selectors, interfaces⟩
  | @optionTemplate announced padding wellFormed plain short fits =>
      cases meant
      obtain ⟨applications, selectors, interfaces⟩ :=
        Told.saveTemplates [announced.stored] before
      exact ⟨applications, selectors, interfaces⟩
  | records encoded apart some padded read fits =>
      obtain ⟨_, _, same⟩ := Run.bind_eq_ok.mp meant
      cases same
      exact ⟨.refl _, .refl _, .refl _⟩
  | @optionRecords announced records padding apart conform short quiet fits =>
      obtain ⟨allowed, read⟩ := readable
      obtain ⟨learned, ran, same⟩ := Run.bind_eq_ok.mp meant
      cases same
      obtain ⟨reached, ranAgain, teaches⟩ := learnRecords_teaches allowed conform read before
      rw [ranAgain] at ran
      cases ran
      refine ⟨?_, ?_, ?_⟩
      all_goals rw [List.flatMap_cons, List.flatMap_nil, List.append_nil]
      · exact teaches.applications
      · exact teaches.selectors
      · exact teaches.interfaces

end Sets

section Packets

variable {received : Received} {sensor : Sensor} {domain : UInt32}

theorem meanAll_told {sets : List ExportedSet} {bytes : List Bytes}
    (written : List.Forall₂ (ExportedSet.Writes received.handleIpfix) sets bytes)
    (readable : ∀ set ∈ sets, set.Readable received.handleIpfix) {before after : ObservationID}
    {printed : List (List FlowRecord)}
    (meant : ExportedSet.meanAll received before sets = .ok (after, printed)) :
    Told sets before after := by
  induction written generalizing before printed with
  | nil =>
      cases meant
      exact .refl _
  | cons writes _ ih =>
      obtain ⟨own, others⟩ := List.forall_mem_cons.mp readable
      obtain ⟨⟨between, first⟩, meantFirst, rest⟩ := Run.bind_eq_ok.mp meant
      obtain ⟨⟨final, later⟩, meantRest, ends⟩ := Run.bind_eq_ok.mp rest
      cases ends
      have told : Told [_] before between :=
        @mean_told received.context _ before between _ first _ writes own meantFirst
      exact told.append (ih others meantRest)

/-- What an arrival leaves of the names that are known for the domain. -/
theorem arrival_told {configuredId : UInt32 → Option UInt32} {inUse : InUse} {arrival : Arrival}
    (listens : Listens configuredId domain inUse sensor)
    (expected : arrival.Expected configuredId domain inUse)
    (readable : ∀ set ∈ arrival.sets.getD [], set.Readable arrival.received.handleIpfix)
    {next : Sensor} {printed : List FlowRecord} (meant : arrival.mean sensor = .ok (next, printed))
    {before : ObservationID} (known : sensor.getObservationId domain = some before) :
    ∃ after, next.getObservationId domain = some after ∧
      Told (arrival.sets.getD []) before after := by
  cases expected with
  | @own received sets bytes named consists written usable =>
      subst named
      simp only [Arrival.mean, known] at meant
      obtain ⟨result, ran, ends⟩ := exists_of_map_eq_ok meant
      cases ends
      refine ⟨result.1, ?_, meanAll_told written readable ran⟩
      rw [Sensor.getObservationId_updateObservationId, if_pos rfl]
  | @other received apart =>
      rw [← listens.configuredId] at apart
      obtain ⟨_, still⟩ := (dissectReceived_apart apart).of_ok meant
      exact ⟨before, still.trans known, .refl before⟩

end Packets

def applicationRecords (name : Bytes) : List (List Bytes) :=
  [[toBe 4 1, toBe 4 7, name]]

theorem applicationRecords_writes {name : Bytes} (length : name.length = 4) :
    (ExportedSet.optionRecords applicationsOption (applicationRecords name)).Writes false
      (optionDataBytes 256 (applicationRecords name) []) := by
  refine .optionRecords (by decide) ?_ (by decide) (by unfold NoNames; decide) ?_
  · intro record member
    rw [List.mem_singleton.mp member]
    simp only [Conforms, List.map_cons, length, length_toBe]
    rfl
  · rw [@length_optionDataBytes applicationsOption]
    simp only [optionRecordsBytes, applicationRecords, List.flatMap_cons, List.flatMap_nil,
      List.flatten_cons, List.flatten_nil, List.length_append, List.length_nil, length, length_toBe]
    decide

/-- An application is named, and then named anew. -/
def applicationArrivals : List Arrival :=
  [{ received := v9Received
        [optionTemplateSetBytes false [applicationsOption] [],
          optionDataBytes 256 (applicationRecords (ascii "http")) []] []
     sets := some [.optionTemplate applicationsOption,
        .optionRecords applicationsOption (applicationRecords (ascii "http"))] },
    { received := v9Received [optionDataBytes 256 (applicationRecords (ascii "mail")) []] []
      sets := some [.optionRecords applicationsOption (applicationRecords (ascii "mail"))] }]

end F2k
