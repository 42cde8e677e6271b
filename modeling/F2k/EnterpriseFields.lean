import F2k.Announcements
import F2k.PrintableFields

namespace F2k

open Lib

/-! Enterprise numbers: the table of elements has one for every element, and an IPFIX template
sends one with every field of an enterprise. Neither is stored. -/

def standardEnterpriseId : UInt32 := 0

def ciscoEnterpriseId : UInt32 := 9

def ntopEnterpriseId : UInt32 := 0x8b30

/-- The elements of Cisco's that can be sent. -/
def ciscoFieldIds : List UInt16 := [12235, 147, 365, 366, 367]

/-- The first column of `X_TEMPLATE_ENTITIES`, which the compiled table leaves out. -/
def Element.enterpriseId (element : Element) : UInt32 :=
  let id := element.templateElementId
  if id ∈ ciscoFieldIds ∨ (privateEntityId 40 ≤ id ∧ id ≤ privateEntityId 80) then
    ciscoEnterpriseId
  else if ntopBaseId ≤ id ∧ id < privateEntityId 0 then ntopEnterpriseId
  else standardEnterpriseId

/-- An element of the standard number space, and not one that the program made up. -/
def Element.IsStandard (element : Element) : Prop :=
  element.enterpriseId = standardEnterpriseId ∧ element.templateElementId < 32768

instance : DecidablePred Element.IsStandard :=
  fun _ => inferInstanceAs (Decidable (_ ∧ _))

namespace AnnouncedField

def enterpriseNumber (field : AnnouncedField) : UInt32 :=
  field.enterprise.getD standardEnterpriseId

/-- A known identifier is sent in the number space that the table has it in. -/
def InOwnSpace (field : AnnouncedField) : Prop :=
  if field.fieldId ∈ ciscoFieldIds then field.enterprise = some ciscoEnterpriseId
  else (findTemplate field.fieldId).isSome →
    field.enterprise = none ∨ field.enterprise = some standardEnterpriseId

instance : DecidablePred InOwnSpace := fun field =>
  if cisco : field.fieldId ∈ ciscoFieldIds then
    decidable_of_iff (field.enterprise = some ciscoEnterpriseId)
      (by rw [InOwnSpace, if_pos cisco])
  else
    decidable_of_iff ((findTemplate field.fieldId).isSome →
        field.enterprise = none ∨ field.enterprise = some standardEnterpriseId)
      (by rw [InOwnSpace, if_neg cisco])

end AnnouncedField

/-! The fields of a template as they are sent -/

def sentField (sbuffer : SizedBuffer) (displ : Nat) : AnnouncedField where
  fieldId := UInt16.ofNat (sbuffer.u16 displ) &&& 0x7fff
  enterprise :=
    if sbuffer.buffer displ &&& 0x80 != 0 then
      some (UInt32.ofNat (beNat ((sbuffer.buffer.shift (displ + 4)).slice 4)))
    else none
  fieldLen := UInt16.ofNat (sbuffer.u16 (displ + 2))

def sentFields (sbuffer : SizedBuffer) : Nat → Nat → List AnnouncedField
  | 0, _ => []
  | fieldCount + 1, displ =>
      let field := sentField sbuffer displ
      field :: sentFields sbuffer fieldCount
        (displ + if field.enterprise.isSome then 8 else 4)

/-- No field is taken for an element of another number space, and so no value of an
enterprise's field is printed as a standard element. -/
structure EnterprisesKept (sent : List AnnouncedField) (template : FlowSetV9Ipfix) : Prop where
  resolved : List.Forall₂
    (fun (sent : AnnouncedField) (field : TemplateField) =>
      ∀ element ∈ field.v9Template, element.enterpriseId = sent.enterpriseNumber)
    sent template.fields
  exported : ∀ (buffer : Mem) (endFlow displ : Nat),
    ∀ printed ∈ sent.zip (fieldPlaces true buffer endFlow template.fields displ).1,
      printed.1.enterpriseNumber ≠ standardEnterpriseId →
        ∀ element ∈ printed.2.field.v9Template,
          element.Every fun element => ¬element.IsStandard

theorem sentField_isSome (sbuffer : SizedBuffer) (displ : Nat) :
    (sentField sbuffer displ).enterprise.isSome = (sbuffer.buffer displ &&& 0x80 != 0) := by
  unfold sentField
  cases sbuffer.buffer displ &&& 0x80 != 0 with
  | false => rfl
  | true => rfl

theorem sentField_parsed (sbuffer : SizedBuffer) (displ : Nat) :
    (sentField sbuffer displ).parsed = fieldAt sbuffer displ 0x7fff := by
  rw [AnnouncedField.parsed, sentField, fieldAt, UInt16.and_assoc, UInt16.and_self]

theorem sentFields_parsed {sbuffer : SizedBuffer} {fieldCount displ after : Nat}
    {fields : List TemplateField}
    (parsed : dissectTemplateFields true sbuffer fieldCount displ = some (fields, after)) :
    fields = (sentFields sbuffer fieldCount displ).map AnnouncedField.parsed := by
  induction fieldCount generalizing displ fields after with
  | zero =>
      cases parsed
      rfl
  | succ fieldCount ih =>
      simp only [dissectTemplateFields, Bool.true_and, ← sentField_isSome] at parsed
      generalize extent : (if (sentField sbuffer displ).enterprise.isSome = true then 8 else 4) =
        length at parsed
      split at parsed
      · contradiction
      · obtain ⟨⟨rest, restAfter⟩, parsedRest, same⟩ := Option.map_eq_some_iff.mp parsed
        cases same
        rw [sentFields, extent, List.map_cons, sentField_parsed, ← ih parsedRest]

theorem dissectFlowTemplate_sent {sbuffer : SizedBuffer} {template : FlowSetV9Ipfix}
    {processed : Nat} (accepted : dissectFlowTemplate true sbuffer = (some template, processed)) :
    template.isOptionTemplate = false ∧
      template.fields =
        (sentFields sbuffer (sbuffer.u16 2) 4).map AnnouncedField.parsed := by
  unfold dissectFlowTemplate at accepted
  simp only at accepted
  split at accepted
  · cases accepted
  · split at accepted
    · cases accepted
    · next fields after parsed =>
        split at accepted
        · cases accepted
        · cases accepted
          exact ⟨rfl, sentFields_parsed parsed⟩

theorem storedTemplate_sent {sbuffer : SizedBuffer} {template : FlowSetV9Ipfix}
    {processed : Nat} (accepted : dissectFlowTemplate true sbuffer = (some template, processed)) :
    (storedTemplate template).fields =
      (sentFields sbuffer (sbuffer.u16 2) 4).map fun sent =>
        { sent.parsed with v9Template := findTemplate sent.parsed.fieldId } := by
  obtain ⟨isFlow, fields⟩ := dissectFlowTemplate_sent accepted
  simp only [storedTemplate, isFlow, fields, Bool.false_eq_true, if_false, List.map_map]
  rfl

/-! Which fields are looked up in their own number space -/

theorem ver9Templates_enterpriseId :
    ∀ element ∈ ver9Templates, element.templateElementId < 32768 →
      element.enterpriseId =
        if element.templateElementId ∈ ciscoFieldIds then ciscoEnterpriseId
        else standardEnterpriseId := by
  decide +kernel

theorem ciscoFieldIds_known : ∀ id ∈ ciscoFieldIds, (findTemplate id).isSome := by
  apply List.all_eq_true.mp
  decide +kernel

/-- What is printed after an element of an enterprise's is none of the standard ones. -/
theorem ver9Templates_apart :
    ∀ element ∈ ver9Templates, element.enterpriseId ≠ standardEnterpriseId →
      element.Every fun element => ¬element.IsStandard := by
  decide +kernel

namespace AnnouncedField

theorem enterpriseNumber_eq_standard {field : AnnouncedField} :
    field.enterpriseNumber = standardEnterpriseId ↔
      field.enterprise = none ∨ field.enterprise = some standardEnterpriseId := by
  unfold enterpriseNumber
  cases field.enterprise with
  | none => simp
  | some number => simp

theorem inOwnSpace_iff {field : AnnouncedField} (short : field.fieldId < 32768) :
    field.InOwnSpace ↔
      ∀ element ∈ findTemplate field.fieldId, element.enterpriseId = field.enterpriseNumber := by
  have declared : ∀ element ∈ findTemplate field.fieldId, element.enterpriseId =
      if field.fieldId ∈ ciscoFieldIds then ciscoEnterpriseId else standardEnterpriseId := by
    intro element found
    obtain ⟨member, same⟩ := findTemplate_eq_some found
    rw [← same] at short ⊢
    exact ver9Templates_enterpriseId element member short
  unfold InOwnSpace
  split
  · next cisco =>
      obtain ⟨element, found⟩ := Option.isSome_iff_exists.mp (ciscoFieldIds_known _ cisco)
      have own : element.enterpriseId = ciscoEnterpriseId := by
        rw [declared element found, if_pos cisco]
      rw [found]
      simp only [Option.mem_some_iff, forall_eq', own, enterpriseNumber]
      cases field.enterprise with
      | none => decide
      | some number => simp [eq_comm]
  · next other =>
      rw [← enterpriseNumber_eq_standard]
      constructor
      · intro standard element found
        rw [declared element found, if_neg other, standard (Option.isSome_of_mem found)]
      · intro own known
        obtain ⟨element, found⟩ := Option.isSome_iff_exists.mp known
        rw [← own element found, declared element found, if_neg other]

end AnnouncedField

theorem sentFields_short (sbuffer : SizedBuffer) (fieldCount displ : Nat) :
    ∀ field ∈ sentFields sbuffer fieldCount displ, field.fieldId < 32768 := by
  induction fieldCount generalizing displ with
  | zero => simp [sentFields]
  | succ fieldCount ih =>
      refine List.forall_mem_cons.mpr ⟨?_, ih _⟩
      have short := and_0x7fff (UInt16.ofNat (sbuffer.u16 displ))
      rw [UInt16.lt_iff_toNat_lt, sentField, short]
      exact Nat.mod_lt _ (by decide)

/-- The fields of a record belong to the first fields of the template. -/
theorem fieldPlaces_prefix (handleIpfix : Bool) (buffer : Mem) (endFlow : Nat)
    (fields : List TemplateField) (displ : Nat) :
    (fieldPlaces handleIpfix buffer endFlow fields displ).1.map FieldPlace.field <+: fields := by
  induction fields generalizing displ with
  | nil => exact List.prefix_rfl
  | cons field rest ih =>
      rw [fieldPlaces]
      split
      · exact List.cons_prefix_cons.mpr ⟨rfl, ih _⟩
      · exact List.nil_prefix

theorem related_of_zip {holds : AnnouncedField → TemplateField → Prop}
    {sent : List AnnouncedField} {fields : List TemplateField} {places : List FieldPlace}
    (related : List.Forall₂ holds sent fields) (first : places.map FieldPlace.field <+: fields) :
    ∀ printed ∈ sent.zip places, holds printed.1 printed.2.field := by
  induction related generalizing places with
  | nil => simp
  | cons own _ ih =>
      cases places with
      | nil => simp
      | cons place rest =>
          rw [List.map_cons, List.cons_prefix_cons] at first
          rw [List.zip_cons_cons, List.forall_mem_cons]
          exact ⟨first.1 ▸ own, ih first.2⟩

/-- Whatever the observation id knew before, a template keeps enterprises apart exactly if all
its known fields are sent in the number space of the table. -/
theorem enterprisesKept_iff {sbuffer : SizedBuffer} {template : FlowSetV9Ipfix} {processed : Nat}
    (accepted : dissectFlowTemplate true sbuffer = (some template, processed)) :
    (∀ observationId : ObservationID, ∃ stored,
        (observationId.saveTemplate template).getTemplate template.templateId = some stored ∧
          EnterprisesKept (sentFields sbuffer (sbuffer.u16 2) 4) stored) ↔
      ∀ field ∈ sentFields sbuffer (sbuffer.u16 2) 4, field.InOwnSpace := by
  have fields := storedTemplate_sent accepted
  have found : ∀ observationId : ObservationID,
      (observationId.saveTemplate template).getTemplate template.templateId =
        some (storedTemplate template) := by
    intro observationId
    rw [getTemplate_saveTemplate, if_pos rfl]
  have resolved : List.Forall₂
      (fun (sent : AnnouncedField) (field : TemplateField) =>
        ∀ element ∈ field.v9Template, element.enterpriseId = sent.enterpriseNumber)
      (sentFields sbuffer (sbuffer.u16 2) 4) (storedTemplate template).fields ↔
        ∀ field ∈ sentFields sbuffer (sbuffer.u16 2) 4, field.InOwnSpace := by
    rw [fields, List.forall₂_map_right_iff, List.forall₂_same]
    refine forall₂_congr fun sent member => ?_
    have short := sentFields_short sbuffer _ _ sent member
    rw [AnnouncedField.inOwnSpace_iff short, AnnouncedField.parsed]
    simp only [(and_0x7fff_eq_iff _).mpr short]
  rw [← resolved]
  constructor
  · intro kept
    obtain ⟨stored, same, known⟩ := kept (.new 0)
    rw [found] at same
    cases same
    exact known.resolved
  · intro known observationId
    refine ⟨_, found observationId, known, ?_⟩
    intro buffer endFlow displ printed member vendor element inField
    have first := fieldPlaces_prefix true buffer endFlow (storedTemplate template).fields displ
    have own := related_of_zip known first printed member element inField
    have stored : printed.2.field ∈ (storedTemplate template).fields :=
      first.subset (List.mem_map_of_mem (List.of_mem_zip member).2)
    rw [fields] at stored
    obtain ⟨sent, _, same⟩ := List.mem_map.mp stored
    rw [← same] at inField
    exact ver9Templates_apart element (findTemplate_eq_some inField).1 (own ▸ vendor)

/-- One field of Cisco's, 366, and an address of the standard number space. -/
def stationTemplate : SizedBuffer where
  buffer := .ofBytes (Announced.bytes ⟨256, [⟨366, some 9, 4⟩, ⟨12, none, 4⟩]⟩)
  size := 16

theorem enterprisesKept_iff_station :
    (∃ template processed, dissectFlowTemplate true stationTemplate = (some template, processed) ∧
      ∀ observationId : ObservationID, ∃ stored,
        (observationId.saveTemplate template).getTemplate template.templateId = some stored ∧
          EnterprisesKept (sentFields stationTemplate 2 4) stored) := by
  have accepted : ∃ template processed,
      dissectFlowTemplate true stationTemplate = (some template, processed) := by
    have some : (dissectFlowTemplate true stationTemplate).1.isSome := by decide +kernel
    obtain ⟨template, found⟩ := Option.isSome_iff_exists.mp some
    exact ⟨template, (dissectFlowTemplate true stationTemplate).2, Prod.ext found rfl⟩
  obtain ⟨template, processed, accepted⟩ := accepted
  exact ⟨template, processed, accepted, (enterprisesKept_iff accepted).mpr (by decide +kernel)⟩

/-- A field that enterprise 29305 has under the number of the protocol. -/
def reverseTemplate : SizedBuffer where
  buffer := .ofBytes (Announced.bytes ⟨256, [⟨4, some 29305, 1⟩]⟩)
  size := 12

def reverseRecord : Mem :=
  .ofBytes (setBytes 256 [17])

/-- The enterprise's value is printed as the number of the protocol. -/
theorem not_enterprisesKept_reverse :
    ∃ template processed, dissectFlowTemplate true reverseTemplate = (some template, processed) ∧
      ∃ stored,
        ((ObservationID.new 7).saveTemplate template).getTemplate template.templateId =
            some stored ∧
          ¬EnterprisesKept (sentFields reverseTemplate 1 4) stored ∧
            (printPlaces splittingGlobals reverseRecord
                (fieldPlaces true reverseRecord 5 stored.fields 4).1 (ascii "\x7b")
                { observationId := .new 7 }).map LineState.line =
              .ok (ascii "\x7b\"l4_proto\":17") := by
  obtain ⟨template, found⟩ : ∃ template,
      (dissectFlowTemplate true reverseTemplate).1 = some template :=
    Option.isSome_iff_exists.mp (by decide +kernel)
  have accepted : dissectFlowTemplate true reverseTemplate =
      (some template, (dissectFlowTemplate true reverseTemplate).2) := Prod.ext found rfl
  have fields := storedTemplate_sent accepted
  refine ⟨template, _, accepted, storedTemplate template, ?_, ?_, ?_⟩
  · rw [getTemplate_saveTemplate, if_pos rfl]
  · intro kept
    have resolved := kept.resolved
    rw [fields, show reverseTemplate.u16 2 = 1 by decide +kernel, List.forall₂_map_right_iff,
      List.forall₂_same] at resolved
    have known : findTemplate (sentField reverseTemplate 4).parsed.fieldId = some protocol := by
      rfl
    have own := resolved (sentField reverseTemplate 4) List.mem_cons_self protocol known
    exact absurd own (by decide +kernel)
  · rw [fields]
    decide +kernel

end F2k
