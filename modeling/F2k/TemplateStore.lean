import F2k.PacketSets

namespace F2k

open Lib

/-! The templates of an observation id: which of them is found after some have been saved. -/

abbrev Templates := Table UInt16 FlowSetV9Ipfix

/-- A template as it is stored: flow templates with the elements of their fields. -/
def storedTemplate (template : FlowSetV9Ipfix) : FlowSetV9Ipfix :=
  { template with
    fields :=
      if template.isOptionTemplate then template.fields
      else template.fields.map fun field =>
        { field with v9Template := findTemplate field.fieldId } }

def storeTemplates (templates : Templates) (announced : List FlowSetV9Ipfix) : Templates :=
  announced.foldl
    (fun templates template => templates.insert template.templateId (storedTemplate template))
    templates

theorem saveTemplate_templates (observationId : ObservationID) (template : FlowSetV9Ipfix) :
    (observationId.saveTemplate template).templates =
      observationId.templates.insert template.templateId (storedTemplate template) := rfl

theorem saveTemplates_templates (announced : List FlowSetV9Ipfix)
    (observationId : ObservationID) :
    (announced.foldl ObservationID.saveTemplate observationId).templates =
      storeTemplates observationId.templates announced := by
  induction announced generalizing observationId with
  | nil => rfl
  | cons template rest ih =>
      rw [List.foldl_cons, ih, saveTemplate_templates]
      rfl

theorem learnNames_templates (names : OptionNames) (observationId : ObservationID) :
    Outcome (fun _ => True) (fun learned => learned.templates = observationId.templates)
      (learnNames names observationId) := by
  have learned : (learnSelector names (learnApplication names observationId)).templates =
      observationId.templates := by
    rw [learnSelector, learnApplication]
    split <;> split <;> rfl
  rw [learnNames, learnInterface]
  split
  · cases names.snmpName with
    | none => exact trivial
    | some name =>
        cases names.snmpDescription with
        | none => exact trivial
        | some description => exact learned
  · exact learned

theorem dissectOptionFlows_keeps (part : ObservationID → α)
    (each : ∀ names observationId,
      Outcome (fun _ => True) (fun learned => part learned = part observationId)
        (learnNames names observationId))
    (template : FlowSetV9Ipfix) (sbuffer : SizedBuffer) (turns cursor : Nat)
    (observationId : ObservationID) :
    Outcome (fun _ => True) (fun learned => part learned = part observationId)
      (dissectOptionFlows template sbuffer turns cursor observationId) := by
  induction turns generalizing cursor observationId with
  | zero => exact trivial
  | succ turns ih =>
      rw [dissectOptionFlows]
      split
      · simp only [dissectNf9OptionFlow, bind_assoc]
        refine (each _ observationId).bind ?_
        intro learned _ kept
        rw [← kept]
        exact ih _ learned
      · exact rfl

/-- Option data teaches names, and leaves the templates as they are. -/
theorem dissectOptionFlows_templates (template : FlowSetV9Ipfix) (sbuffer : SizedBuffer)
    (turns cursor : Nat) (observationId : ObservationID) :
    Outcome (fun _ => True) (fun learned => learned.templates = observationId.templates)
      (dissectOptionFlows template sbuffer turns cursor observationId) :=
  dissectOptionFlows_keeps ObservationID.templates learnNames_templates template sbuffer turns
    cursor observationId

/-- The last of the templates with an id. -/
def lastTemplate (templates : List FlowSetV9Ipfix) (id : UInt16) : Option FlowSetV9Ipfix :=
  templates.reverse.find? fun template => template.templateId == id

theorem lastTemplate_append (earlier later : List FlowSetV9Ipfix) (id : UInt16) :
    lastTemplate (earlier ++ later) id = (lastTemplate later id).or (lastTemplate earlier id) := by
  rw [lastTemplate, List.reverse_append, List.find?_append]
  rfl

theorem lastTemplate_eq_none {templates : List FlowSetV9Ipfix} {id : UInt16} :
    lastTemplate templates id = none ↔ ∀ template ∈ templates, template.templateId ≠ id := by
  simp [lastTemplate]

theorem lastTemplate_of_mem {templates : List FlowSetV9Ipfix} {template : FlowSetV9Ipfix}
    (distinct : (templates.map FlowSetV9Ipfix.templateId).Nodup)
    (member : template ∈ templates) :
    lastTemplate templates template.templateId = some template := by
  induction templates with
  | nil => contradiction
  | cons first rest ih =>
      rw [List.map_cons, List.nodup_cons] at distinct
      rw [← List.singleton_append, lastTemplate_append]
      rcases List.mem_cons.mp member with rfl | inRest
      · have absent : lastTemplate rest template.templateId = none := by
          apply lastTemplate_eq_none.mpr
          intro other inRest same
          exact distinct.1 (List.mem_map.mpr ⟨other, inRest, same⟩)
        rw [absent]
        simp [lastTemplate]
      · rw [ih distinct.2 inRest, Option.some_or]

theorem getTemplate_saveTemplate (observationId : ObservationID) (template : FlowSetV9Ipfix)
    (id : UInt16) :
    (observationId.saveTemplate template).getTemplate id =
      if template.templateId = id then some (storedTemplate template)
      else observationId.getTemplate id := by
  rw [ObservationID.getTemplate, saveTemplate_templates]
  split
  · next same =>
      subst same
      exact AList.lookup_insert _
  · next other => exact AList.lookup_insert_ne (Ne.symm other)

theorem getTemplate_foldl_saveTemplate (templates : List FlowSetV9Ipfix)
    (observationId : ObservationID) (id : UInt16) :
    (templates.foldl ObservationID.saveTemplate observationId).getTemplate id =
      ((lastTemplate templates id).map storedTemplate).or
        (observationId.getTemplate id) := by
  induction templates generalizing observationId with
  | nil => rfl
  | cons first rest ih =>
      rw [List.foldl_cons, ih, getTemplate_saveTemplate, ← List.singleton_append (x := first),
        lastTemplate_append]
      cases lastTemplate rest id with
      | some found => rfl
      | none =>
          by_cases same : first.templateId = id
          · simp [lastTemplate, same]
          · simp [lastTemplate, same]

/-- Where the header of a template does not fit, its count of fields is read behind the set. -/
theorem dissectFlowTemplate_short (handleIpfix : Bool) {sbuffer : SizedBuffer}
    (short : sbuffer.size < 4) :
    dissectFlowTemplate handleIpfix sbuffer =
      if sbuffer.u16 2 = 0 then
        (some
          { templateId := UInt16.ofNat (sbuffer.u16 0), isOptionTemplate := false, fields := [] },
          4)
      else (none, sbuffer.size) := by
  rw [dissectFlowTemplate]
  by_cases empty : sbuffer.u16 2 = 0
  · have notPadded : ¬(4 ≤ sbuffer.size ∧ sbuffer.size - 4 < 4) := by omega
    simp only [empty, if_pos, dissectTemplateFields, notPadded, if_neg, not_false_eq_true,
      not_lt_zero, accumulatedLen, List.map_nil, List.sum_nil, gt_iff_lt]
  · have noField : ∀ count, dissectTemplateFields handleIpfix sbuffer (count + 1) 4 = none := by
      intro count
      simp only [dissectTemplateFields]
      apply if_pos
      split <;> omega
    obtain ⟨count, more⟩ := Nat.exists_eq_succ_of_ne_zero empty
    simp only [more, Nat.succ_eq_add_one, noField, Nat.add_one_ne_zero, if_false]
    split <;> rfl

end F2k
