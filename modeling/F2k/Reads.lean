import F2k.DataSet

namespace F2k

open Lib

/-! Which bytes the printing of an element reads: the ones of its field, or the first one
where the exporter asks for no more. -/

def ExportFn.reach (exportFn : ExportFn) (realFieldLen : Nat) : Nat :=
  match exporterOf exportFn with
  | .field _ => realFieldLen
  | .firstByte _ => 1

mutual

/-- How far an element and all that are printed after it read. -/
def Element.reach (realFieldLen : Nat) : Element → Nat
  | .mk _ _ _ exportFn postTemplate =>
      max ((exportFn.map fun exportFn => exportFn.reach realFieldLen).getD 0)
        (Element.reachOf realFieldLen postTemplate)

def Element.reachOf (realFieldLen : Nat) : List Element → Nat
  | [] => 0
  | element :: rest => max (Element.reach realFieldLen element) (Element.reachOf realFieldLen rest)

end

mutual

theorem Element.reach_le (realFieldLen : Nat) :
    ∀ element : Element, element.reach realFieldLen ≤ max realFieldLen 1
  | .mk _ _ _ exportFn postTemplate => by
      rw [Element.reach]
      refine Nat.max_le.mpr ⟨?_, Element.reachOf_le realFieldLen postTemplate⟩
      cases exportFn with
      | none => exact Nat.zero_le _
      | some exportFn =>
          rw [Option.map_some, Option.getD_some, ExportFn.reach]
          split
          · exact Nat.le_max_left _ _
          · exact Nat.le_max_right _ _

theorem Element.reachOf_le (realFieldLen : Nat) :
    ∀ elements : List Element, Element.reachOf realFieldLen elements ≤ max realFieldLen 1
  | [] => Nat.zero_le _
  | element :: rest => by
      rw [Element.reachOf]
      exact Nat.max_le.mpr
        ⟨Element.reach_le realFieldLen element, Element.reachOf_le realFieldLen rest⟩

end

theorem exportField_congr {left right : Mem} {exportFn : ExportFn} {realFieldLen : Nat}
    (agree : Mem.AgreeBelow (exportFn.reach realFieldLen) left right)
    (globals : ReadOnlyGlobals) (cache : FlowCache) :
    exportField globals exportFn left realFieldLen cache =
      exportField globals exportFn right realFieldLen cache := by
  rw [ExportFn.reach] at agree
  rw [exportField, exportField]
  cases kind : exporterOf exportFn with
  | field exporter =>
      rw [kind] at agree
      simp only
      rw [agree.slice_eq (Nat.le_refl _)]
  | firstByte exporter =>
      rw [kind] at agree
      simp only
      rw [agree 0 Nat.one_pos]

theorem printElement_congr {left right : Mem} {element : Element} {realFieldLen : Nat}
    (agree : Mem.AgreeBelow (element.reach realFieldLen) left right)
    (globals : ReadOnlyGlobals) (line : Bytes) (cache : FlowCache) :
    printElement globals line element left realFieldLen cache =
      printElement globals line element right realFieldLen cache := by
  cases element with
  | mk templateElementId quote jsonElementName exportFn postTemplate =>
      rw [Element.reach] at agree
      rw [printElement, printElement]
      cases exportFn with
      | none => rfl
      | some exportFn =>
          have own : Mem.AgreeBelow (exportFn.reach realFieldLen) left right :=
            agree.mono (Nat.le_max_left _ _)
          simp only [Element.exportFn, exportField_congr own]

mutual

theorem printNetflowRecordWithTemplate_congr {left right : Mem} {realFieldLen : Nat}
    (globals : ReadOnlyGlobals) :
    ∀ (element : Element) (line : Bytes) (cache : FlowCache),
      Mem.AgreeBelow (element.reach realFieldLen) left right →
      printNetflowRecordWithTemplate globals line element left realFieldLen cache =
        printNetflowRecordWithTemplate globals line element right realFieldLen cache
  | .mk templateElementId quote jsonElementName exportFn postTemplate, line, cache, agree => by
      rw [printNetflowRecordWithTemplate, printNetflowRecordWithTemplate,
        printElement_congr agree]
      rw [Element.reach] at agree
      have post : Mem.AgreeBelow (Element.reachOf realFieldLen postTemplate) left right :=
        agree.mono (Nat.le_max_right _ _)
      congr 1
      funext own
      rw [printPostTemplate_congr globals postTemplate own.line own.cache post]

theorem printPostTemplate_congr {left right : Mem} {realFieldLen : Nat}
    (globals : ReadOnlyGlobals) :
    ∀ (elements : List Element) (line : Bytes) (cache : FlowCache),
      Mem.AgreeBelow (Element.reachOf realFieldLen elements) left right →
      printPostTemplate globals line elements left realFieldLen cache =
        printPostTemplate globals line elements right realFieldLen cache
  | [], line, cache, _ => by rw [printPostTemplate, printPostTemplate]
  | element :: rest, line, cache, agree => by
      rw [Element.reachOf] at agree
      have own : Mem.AgreeBelow (element.reach realFieldLen) left right :=
        agree.mono (Nat.le_max_left _ _)
      have others : Mem.AgreeBelow (Element.reachOf realFieldLen rest) left right :=
        agree.mono (Nat.le_max_right _ _)
      rw [printPostTemplate, printPostTemplate,
        printNetflowRecordWithTemplate_congr globals element line cache own]
      congr 1
      funext printed
      rw [printPostTemplate_congr globals rest printed.line printed.cache others]

end

namespace FieldPlace

/-- How many bytes are read from where the value of a field starts. -/
def reach (place : FieldPlace) : Nat :=
  (place.field.v9Template.map fun element => element.reach place.length).getD 0

theorem print_congr {left right : Mem} {first second : FieldPlace}
    (field : first.field = second.field) (length : first.length = second.length)
    (agree : Mem.AgreeBelow first.reach (left.shift first.place) (right.shift second.place))
    (globals : ReadOnlyGlobals) (line : Bytes) (cache : FlowCache) :
    first.print globals left line cache = second.print globals right line cache := by
  rw [reach] at agree
  rw [print, print, ← field, ← length]
  cases known : first.field.v9Template with
  | none => rfl
  | some element =>
      rw [known] at agree
      exact printNetflowRecordWithTemplate_congr globals element line cache agree

end FieldPlace

/-- Fields that are printed alike, whatever was printed before them. -/
def PrintAlike (left right : Mem) (first second : FieldPlace) : Prop :=
  ∀ globals line cache, first.print globals left line cache = second.print globals right line cache

section

variable {left right : Mem}

theorem printPlaces_congr {firsts seconds : List FieldPlace}
    (alike : List.Forall₂ (PrintAlike left right) firsts seconds) (globals : ReadOnlyGlobals)
    (line : Bytes) (cache : FlowCache) :
    printPlaces globals left firsts line cache = printPlaces globals right seconds line cache := by
  induction alike generalizing line cache with
  | nil => rfl
  | cons head rest ih =>
      rw [printPlaces, printPlaces, head globals line cache]
      congr 1
      funext printed
      exact ih printed.line printed.cache

theorem printRecord_congr {firsts seconds : List FieldPlace}
    (alike : List.Forall₂ (PrintAlike left right) firsts seconds) (context : PacketContext)
    (observationId : ObservationID) (flowSequenceNumber : UInt16) :
    printRecord context left observationId flowSequenceNumber firsts =
      printRecord context right observationId flowSequenceNumber seconds := by
  rw [printRecord, printRecord]
  congr 1
  funext started
  rw [printPlaces_congr alike]

theorem printRecords_congr {firsts seconds : List (List FieldPlace)}
    (alike : List.Forall₂ (List.Forall₂ (PrintAlike left right)) firsts seconds)
    (context : PacketContext) (observationId : ObservationID) (flowSequenceNumber : UInt16) :
    printRecords context left observationId flowSequenceNumber firsts =
      printRecords context right observationId flowSequenceNumber seconds := by
  induction alike generalizing flowSequenceNumber with
  | nil => rfl
  | cons head rest ih =>
      rw [printRecords, printRecords, printRecord_congr head]
      congr 1
      funext record
      rw [ih]

end

end F2k
