import F2k.Datagrams
import F2k.Exporters

namespace F2k

open Lib

/-! Which faults may stop the program while it prints, and what follows for packets and runs. -/

section Faults

variable {fails : Fault → Prop}

/-- An element that may be met: one without a name stops the program. -/
def Printable (fails : Fault → Prop) (element : Element) : Prop :=
  element.jsonElementName = none → fails .nullElementName

theorem printElement_fails (globals : ReadOnlyGlobals) (line : Bytes) {element : Element}
    (buffer : Mem) (realFieldLen : Nat) (cache : FlowCache)
    (printable : Printable fails element) :
    Outcome fails (fun _ => True)
      (printElement globals line element buffer realFieldLen cache) := by
  have exported : Outcome fails (fun _ => True)
      (element.exported globals buffer realFieldLen cache) := by
    unfold Element.exported
    split
    · exact trivial
    · next exportFn _ =>
        exact ((exportField_prints globals exportFn buffer realFieldLen cache).mono_fails
          fun _ impossible => impossible.elim).mono fun _ _ => trivial
  exact printElement_outcome printable exported fun _ _ _ _ _ => trivial

theorem printNetflowRecordWithTemplate_fails (globals : ReadOnlyGlobals) (line : Bytes)
    {element : Element} (buffer : Mem) (realFieldLen : Nat) (cache : FlowCache)
    (printable : element.Every (Printable fails)) :
    Outcome fails (fun _ => True)
      (printNetflowRecordWithTemplate globals line element buffer realFieldLen cache) :=
  @printNetflowRecordWithTemplate_outcome globals buffer realFieldLen fails (fun _ _ => True)
    (Printable fails)
    (fun _ line cache printable _ => printElement_fails globals line buffer _ cache printable)
    element line cache printable trivial

mutual

theorem Element.every_mono {holds weaker : Element → Prop}
    (implies : ∀ element, holds element → weaker element) :
    ∀ element : Element, element.Every holds → element.Every weaker
  | .mk _ _ _ _ postTemplate, every => by
      rw [Element.Every] at every ⊢
      exact ⟨implies _ every.1, Element.everyOf_mono implies postTemplate every.2⟩

theorem Element.everyOf_mono {holds weaker : Element → Prop}
    (implies : ∀ element, holds element → weaker element) :
    ∀ elements : List Element, Element.EveryOf holds elements → Element.EveryOf weaker elements
  | [], _ => trivial
  | element :: rest, every => by
      rw [Element.EveryOf] at every ⊢
      exact ⟨Element.every_mono implies element every.1,
        Element.everyOf_mono implies rest every.2⟩

end

theorem Element.every_of_mem {holds : Element → Prop} {elements : List Element}
    (every : Element.EveryOf holds elements) {element : Element} (member : element ∈ elements) :
    element.Every holds := by
  induction elements with
  | nil => contradiction
  | cons first rest ih =>
      obtain ⟨own, others⟩ := every
      rcases List.mem_cons.mp member with rfl | inRest
      · exact own
      · exact ih others inRest

def Element.isNamed (element : Element) : Bool :=
  element.jsonElementName.isSome

theorem Printable.of_isNamed {element : Element} (named : element.isNamed = true) :
    Printable fails element := by
  intro nameless
  rw [Element.isNamed, nameless] at named
  contradiction

/-- All that is printed after the fields of a record has a name. -/
theorem everyOf_ending_printable :
    Element.EveryOf (Printable fails) (host :: referer :: postTemplates) := by
  have named : Element.EveryOf (fun element => element.isNamed = true)
      (host :: referer :: postTemplates) := by
    decide
  exact Element.everyOf_mono (fun _ => Printable.of_isNamed) _ named

theorem printRecord_fails {context : PacketContext} (small : context.flowVersion < 65536)
    (intervals : fails (.endlessLoop .intervals)) (buffer : Mem) (observationId : ObservationID)
    (flowSequenceNumber : UInt16) {places : List FieldPlace}
    (printable : ∀ place ∈ places, ∀ element ∈ place.field.v9Template,
      element.Every (Printable fails)) :
    Outcome fails (fun _ => True)
      (printRecord context buffer observationId flowSequenceNumber places) := by
  refine (printRecord_outcome (fun _ _ => True) (Printable fails) small intervals trivial ?_ ?_ ?_
    everyOf_ending_printable).mono fun _ _ => trivial
  · intro place member line cache _
    unfold FieldPlace.print
    split
    · next element known =>
        exact printNetflowRecordWithTemplate_fails _ _ _ _ _ (printable place member element known)
    · exact trivial
  · exact fun _ line cache printable _ => printElement_fails _ line _ _ cache printable
  · exact fun _ _ _ _ => trivial

theorem dissectNetFlowV5_fails (intervals : fails (.endlessLoop .intervals))
    (globals : ReadOnlyGlobals) (the5Record : Mem) (observationId : ObservationID) :
    Outcome fails (fun _ => True) (dissectNetFlowV5 globals the5Record (some observationId)) := by
  have named : Element.EveryOf (fun element => element.isNamed = true) v5TemplateFields := by
    decide
  have printable := Element.everyOf_mono (fun _ => @Printable.of_isNamed fails _) _ named
  refine (dissectNetFlowV5Records_outcome (fun _ => True) ?_
    (v5NumFlows the5Record) 0).mono fun _ _ => trivial
  intro flowIdx
  refine (dissectNetFlowV5Record_outcome (fun _ _ => True) (Printable fails) intervals trivial ?_
    ?_ ?_ everyOf_ending_printable).mono fun _ _ => trivial
  · intro element member line cache _
    refine dissectNetFlowV5Field_outcome (fun _ _ _ _ _ _ => trivial) ?_ trivial
    intro place length _
    exact printNetflowRecordWithTemplate_fails _ _ _ _ _
      (Element.every_of_mem printable member)
  · exact fun _ line cache printable _ => printElement_fails _ line _ _ cache printable
  · exact fun _ _ _ _ => trivial

/-! Packets and runs -/

variable {holds : PacketContext → ObservationID → SizedBuffer → Prop}

theorem dissectReceived_fails {sensor : Sensor} {received : Received}
    (intervals : fails (.endlessLoop .intervals)) (unknown : fails .nullObservationId)
    (each : ∀ observationId set, holds received.context observationId set →
      Outcome fails (fun _ => True) (received.dissectSet observationId set))
    (every : received.EverySet holds sensor) :
    Outcome fails (fun _ => True) (dissectReceived sensor received) := by
  refine dissectReceived_outcome (fun _ _ => True) (fun _ => trivial) ?_ ?_
  · intro hasSets observationId found
    have ran := runSteps_outcome (fun _ => True) (fun _ => True)
      (fun observationId set _ now =>
        (each observationId set now).mono fun _ _ => ⟨trivial, trivial⟩)
      trivial (every hasSets observationId found)
    exact ran.mono fun _ _ => trivial
  · intro _
    cases sensor.getObservationId received.v5ObservationId with
    | some observationId => exact dissectNetFlowV5_fails intervals _ _ observationId
    | none =>
        rw [dissectNetFlowV5]
        split
        · exact trivial
        · exact unknown

/-- The faults of a run, from the ones of the sets that meet the condition. -/
theorem dissectDatagrams_fails {sensor : Sensor} {datagrams : List Received}
    (intervals : fails (.endlessLoop .intervals)) (unknown : fails .nullObservationId)
    (each : ∀ received : Received, ∀ observationId set,
      holds received.context observationId set →
      Outcome fails (fun _ => True) (received.dissectSet observationId set))
    (along : AlongRun dissectReceived (fun sensor received => received.EverySet holds sensor)
      sensor datagrams) :
    Outcome fails (fun _ => True) (runSteps dissectReceived sensor datagrams) :=
  (runSteps_outcome (fun _ => True) (fun _ => True)
    (fun _ received _ every =>
      (dissectReceived_fails intervals unknown (each received) every).mono
        fun _ _ => ⟨trivial, trivial⟩)
    trivial along).mono fun _ _ => trivial

end Faults

end F2k
