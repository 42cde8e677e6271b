import F2k.FlowEndpoints
import F2k.JsonMessages

namespace F2k

open Lib

/-! The frame of a message that is being printed: a brace and members, with a comma between any
two of them. -/

/-- A name and its value. -/
def memberOf (name value : Bytes) : Bytes :=
  [34] ++ name ++ [34, 58] ++ value

/-- A member whose value is a JSON one, under a name of a kind. -/
def IsMember (named : Bytes → Prop) (text : Bytes) : Prop :=
  ∃ name value, named name ∧ JsonValue value ∧ text = memberOf name value

def framed (members : List Bytes) : Bytes :=
  ascii "\x7b" ++ List.intercalate (ascii ",") members

theorem intercalate_snoc (separator last : Bytes) {texts : List Bytes} (some : texts ≠ []) :
    List.intercalate separator (texts ++ [last]) =
      List.intercalate separator texts ++ separator ++ last := by
  induction texts with
  | nil => contradiction
  | cons first rest ih =>
      cases rest with
      | nil => simp
      | cons second more =>
          rw [List.cons_append, List.cons_append, List.intercalate_cons_cons,
            List.intercalate_cons_cons, ← List.cons_append, ih (List.cons_ne_nil second more)]
          simp only [List.append_assoc]

section Frames

variable {named : Bytes → Prop} {members : List Bytes}

/-- The brace stands alone just when there are no members yet. -/
theorem framed_alone_iff (each : ∀ member ∈ members, IsMember named member) :
    cString (framed members) = ascii "\x7b" ↔ members = [] := by
  cases members with
  | nil => exact iff_of_true rfl rfl
  | cons first rest =>
      refine iff_of_false ?_ (List.cons_ne_nil first rest)
      obtain ⟨name, value, _, _, rfl⟩ := each first List.mem_cons_self
      have starts : ∃ more, List.intercalate (ascii ",") (memberOf name value :: rest) =
          34 :: more := by
        cases rest with
        | nil => exact ⟨_, List.intercalate_singleton⟩
        | cons second more => exact ⟨_, List.intercalate_cons_cons⟩
      obtain ⟨more, text⟩ := starts
      intro alone
      have twice : cString (framed (memberOf name value :: rest)) = 123 :: 34 :: cString more := by
        unfold framed
        rw [text]
        simp [cString, ascii]
      rw [twice] at alone
      cases alone

/-- A comma stands before a member just when others stand before it. -/
theorem elementPrefix_framed (each : ∀ member ∈ members, IsMember named member)
    (name text : Bytes) (quote : Bool) :
    elementPrefix (framed members) name quote ++ text ++ (if quote then ascii "\"" else []) =
      framed (members ++ [memberOf name (quotedText quote text)]) := by
  have alone := framed_alone_iff each
  unfold elementPrefix
  cases members with
  | nil =>
      rw [if_neg (not_not.mpr (alone.mpr rfl))]
      unfold framed memberOf quotedText
      simp [ascii, List.append_assoc]
  | cons first rest =>
      rw [if_pos (mt alone.mp (List.cons_ne_nil first rest))]
      unfold framed
      rw [intercalate_snoc _ _ (List.cons_ne_nil first rest)]
      unfold memberOf quotedText
      simp [ascii, List.append_assoc]

end Frames

/-! Elements -/

/-- The member that an element is printed as, if its exporter reported anything. -/
def PrintedElement.member (element : PrintedElement) : Option Bytes :=
  if element.printed.length > 0 then
    some (memberOf element.element.name
      (quotedText element.element.quote element.printed.text))
  else none

/-- What is kept of an exporter is a JSON value, or the inside of a string where the element has
quotes. -/
def Suits (quote : Bool) (text : Bytes) : Prop :=
  if quote then JsonText text else JsonValue text

theorem Suits.value {quote : Bool} {text : Bytes} (suits : Suits quote text) :
    JsonValue (quotedText quote text) := by
  cases quote with
  | true => exact .string suits
  | false =>
      have whole : quotedText false text = text := by simp [quotedText]
      rw [whole]
      exact suits

def Element.ExportsWell (globals : ReadOnlyGlobals) (buffer : Mem) (length : Nat)
    (element : Element) : Prop :=
  ∀ cache printed, element.exported globals buffer length cache = .ok printed →
    0 < printed.length → Suits element.quote printed.text

mutual

theorem Element.every_iff_all {holds : Element → Prop} : ∀ element : Element,
    element.Every holds ↔ ∀ other ∈ element.all, holds other
  | .mk _ _ _ _ postTemplate => by
      rw [Element.Every, Element.all, List.forall_mem_cons,
        Element.everyOf_iff_allOf postTemplate]

theorem Element.everyOf_iff_allOf {holds : Element → Prop} : ∀ elements : List Element,
    Element.EveryOf holds elements ↔ ∀ other ∈ Element.allOf elements, holds other
  | [] => by
      rw [Element.EveryOf, Element.allOf]
      exact iff_of_true trivial (List.forall_mem_nil holds)
  | element :: rest => by
      rw [Element.EveryOf, Element.allOf, List.forall_mem_append,
        Element.every_iff_all element, Element.everyOf_iff_allOf rest]

end

section Printing

variable {globals : ReadOnlyGlobals} {buffer : Mem} {length : Nat}

theorem elementsText_framed {named : Bytes → Prop} {elements : List PrintedElement}
    {before after : FlowCache} (prints : PrintsElements globals before elements after)
    (inputs : ∀ element ∈ elements, element.buffer = buffer ∧ element.length = length)
    (names : ∀ element ∈ elements, named element.element.name)
    (exports : ∀ element ∈ elements, element.element.ExportsWell globals buffer length)
    {members : List Bytes} (each : ∀ member ∈ members, IsMember named member) :
    elementsText (framed members) elements =
        framed (members ++ elements.filterMap PrintedElement.member) ∧
      ∀ member ∈ members ++ elements.filterMap PrintedElement.member, IsMember named member := by
  induction prints generalizing members with
  | nil =>
      rw [List.filterMap_nil, List.append_nil]
      exact ⟨rfl, each⟩
  | @cons element rest last exported _ ih =>
      obtain ⟨⟨rfl, rfl⟩, inputsRest⟩ := List.forall_mem_cons.mp inputs
      obtain ⟨name, namesRest⟩ := List.forall_mem_cons.mp names
      obtain ⟨own, exportsRest⟩ := List.forall_mem_cons.mp exports
      unfold elementsText
      rw [List.foldl_cons]
      by_cases kept : element.printed.length > 0
      · have text : element.member = some (memberOf element.element.name
            (quotedText element.element.quote element.printed.text)) := if_pos kept
        have line : element.appendTo (framed members) =
            framed (members ++ [memberOf element.element.name
              (quotedText element.element.quote element.printed.text)]) := by
          unfold PrintedElement.appendTo appendPrinted
          rw [if_pos kept]
          exact elementPrefix_framed each _ _ _
        have grown : ∀ member ∈ members ++ [memberOf element.element.name
            (quotedText element.element.quote element.printed.text)], IsMember named member := by
          rw [List.forall_mem_append, List.forall_mem_singleton]
          exact ⟨each, _, _, name, (own _ _ exported kept).value, rfl⟩
        have more := ih inputsRest namesRest exportsRest grown
        rw [List.append_assoc, List.singleton_append] at more
        rw [line, List.filterMap_cons_some text]
        exact more
      · have line : element.appendTo (framed members) = framed members := by
          unfold PrintedElement.appendTo appendPrinted
          exact if_neg kept
        have text : element.member = none := if_neg kept
        rw [line, List.filterMap_cons_none text]
        exact ih inputsRest namesRest exportsRest each

mutual

theorem named_of_printed : ∀ (element : Element) {line : Bytes} {cache : FlowCache}
    {left : LineState},
    printNetflowRecordWithTemplate globals line element buffer length cache = .ok left →
      element.Every fun element => element.jsonElementName ≠ none
  | .mk templateElementId quote jsonElementName exportFn postTemplate, line, cache, left,
      ran => by
      rw [printNetflowRecordWithTemplate] at ran
      obtain ⟨own, ranOwn, ranRest⟩ := Run.bind_eq_ok.mp ran
      obtain ⟨last, ranLast, _⟩ := Run.bind_eq_ok.mp ranRest
      rw [Element.Every]
      refine ⟨?_, allNamed_of_printed postTemplate ranLast⟩
      intro nameless
      unfold printElement at ranOwn
      rw [nameless] at ranOwn
      cases ranOwn

theorem allNamed_of_printed : ∀ (elements : List Element) {line : Bytes} {cache : FlowCache}
    {left : LineState},
    printPostTemplate globals line elements buffer length cache = .ok left →
      Element.EveryOf (fun element => element.jsonElementName ≠ none) elements
  | [], _, _, _, _ => trivial
  | element :: rest, line, cache, left, ran => by
      rw [printPostTemplate] at ran
      obtain ⟨first, ranFirst, ranRest⟩ := Run.bind_eq_ok.mp ran
      rw [Element.EveryOf]
      exact ⟨named_of_printed element ranFirst, allNamed_of_printed rest ranRest⟩

end

theorem exists_printed (element : Element) (line : Bytes) (cache : FlowCache)
    (named : element.Every fun element => element.jsonElementName ≠ none) :
    ∃ left, printNetflowRecordWithTemplate globals line element buffer length cache =
      .ok left := by
  have outcome : Outcome (fun _ => False) (fun _ => True)
      (printNetflowRecordWithTemplate globals line element buffer length cache) := by
    refine @printNetflowRecordWithTemplate_outcome globals buffer length (fun _ => False)
      (fun _ _ => True) (fun element => element.jsonElementName ≠ none) ?_ element line cache
      named trivial
    intro element line cache named _
    exact (printElement_writes named line buffer length cache).mono fun _ _ => trivial
  obtain ⟨left, ran, _⟩ := outcome.exists_ok
  exact ⟨left, ran⟩

/-- The exporters of the tree are called in pre-order, the line keeps its form, and the members
that are new are those of the elements that something was reported for. -/
structure PrintsFramed (globals : ReadOnlyGlobals) (named : Bytes → Prop) (buffer : Mem)
    (length : Nat) (cache : FlowCache) (element : Element) (members : List Bytes)
    (elements : List PrintedElement) (left : LineState) : Prop where
  ran : printNetflowRecordWithTemplate globals (framed members) element buffer length cache =
    .ok left
  preorder : elements.map PrintedElement.toElementInput = inputsFrom buffer length element.all
  exported : PrintsElements globals cache elements left.cache
  line : left.line = framed (members ++ elements.filterMap PrintedElement.member)
  form : ∀ member ∈ members ++ elements.filterMap PrintedElement.member, IsMember named member

theorem printNetflowRecordWithTemplate_framed_iff {named : Bytes → Prop} {element : Element}
    {members : List Bytes} (cache : FlowCache)
    (exports : ∀ other ∈ element.all, other.ExportsWell globals buffer length)
    (names : ∀ other ∈ element.all, ∀ name ∈ other.jsonElementName, named (cString name))
    (each : ∀ member ∈ members, IsMember named member) :
    (∃ elements left,
      PrintsFramed globals named buffer length cache element members elements left) ↔
      ∀ other ∈ element.all, other.jsonElementName ≠ none := by
  rw [← Element.every_iff_all]
  constructor
  · rintro ⟨_, _, prints⟩
    exact named_of_printed element prints.ran
  · intro nameful
    obtain ⟨left, ran⟩ := exists_printed element (framed members) cache nameful
    obtain ⟨elements, preorder, prints, line⟩ :=
      printNetflowRecordWithTemplate_leaves element ran
    have known : ∀ printed ∈ elements,
        (printed.buffer = buffer ∧ printed.length = length) ∧ printed.element ∈ element.all := by
      intro printed member
      have input := List.mem_map_of_mem (f := PrintedElement.toElementInput) member
      rw [preorder] at input
      obtain ⟨other, inAll, same⟩ := List.mem_map.mp input
      rw [← same]
      exact ⟨⟨rfl, rfl⟩, inAll⟩
    have called : ∀ printed ∈ elements, named printed.element.name := by
      intro printed member
      have inAll := (known printed member).2
      obtain ⟨name, some⟩ :=
        Option.ne_none_iff_exists'.mp ((Element.every_iff_all element).mp nameful _ inAll)
      unfold Element.name
      rw [some]
      exact names _ inAll name some
    obtain ⟨text, form⟩ := elementsText_framed prints (fun printed member => (known _ member).1)
      called
      (fun printed member => exports _ (known _ member).2) each
    exact ⟨elements, left, ran, preorder, prints, line.trans text, form⟩

end Printing

/-! An element that prints nothing with a child that does, and one without a name -/

def bytesTree : Element :=
  entity 1 false (some "bytes") (some .saveFlowBytes) [printInBytes]

theorem bytesTree_exportsWell (globals : ReadOnlyGlobals) (buffer : Mem) (length : Nat) :
    ∀ other ∈ bytesTree.all, other.ExportsWell globals buffer length := by
  intro other member cache printed exported kept
  have known : other = bytesTree ∨ other = printInBytes := by
    simpa [bytesTree, entity, Element.all, Element.allOf, printInBytes] using member
  rcases known with rfl | rfl
  · cases exported
    cases kept
  · cases exported
    exact .number (n10_number _)

theorem printNetflowRecordWithTemplate_framed_bytes :
    (∃ elements left,
      PrintsFramed splittingGlobals JsonText (.ofBytes [1, 2]) 2 noFlowCache bytesTree []
        elements left) ↔
      ∀ other ∈ bytesTree.all, other.jsonElementName ≠ none := by
  apply printNetflowRecordWithTemplate_framed_iff noFlowCache (bytesTree_exportsWell _ _ _)
  · intro other member name named
    have known : other = bytesTree ∨ other = printInBytes := by
      simpa [bytesTree, entity, Element.all, Element.allOf, printInBytes] using member
    rcases known with rfl | rfl
    · cases named
      exact .of_plain (by decide)
    · cases named
      exact .of_plain (by decide)
  · exact List.forall_mem_nil _

/-- The exporter of IF_NAME is missing, and its name too. -/
theorem not_framed_ifName :
    ∃ element, findTemplate 82 = some element ∧
      (∀ other ∈ element.all, other.ExportsWell splittingGlobals (.ofBytes [108, 111]) 2) ∧
      ¬∃ elements left,
        PrintsFramed splittingGlobals JsonText (.ofBytes [108, 111]) 2 noFlowCache element []
          elements left := by
  refine ⟨_, rfl, ?_, ?_⟩
  · intro other member cache printed exported kept
    obtain rfl := List.mem_singleton.mp member
    cases exported
    cases kept
  · rintro ⟨_, _, prints⟩
    cases prints.ran

end F2k
