import F2k.Encode
import F2k.TemplateStore

namespace F2k

open Lib

/-! Template sets as exporters write them, and what an observation id has learned of them once
they are dissected. -/

/-- A field as it is announced: the number of an enterprise comes after it. -/
structure AnnouncedField where
  fieldId : UInt16
  enterprise : Option UInt32
  fieldLen : UInt16

namespace AnnouncedField

/-- The first two bytes: the highest bit says that an enterprise number comes. -/
def header (field : AnnouncedField) : Nat :=
  field.fieldId.toNat + if field.enterprise.isSome then 32768 else 0

def enterpriseBytes (field : AnnouncedField) : Bytes :=
  match field.enterprise with
  | none => []
  | some number => toBe 4 number.toNat

def bytes (field : AnnouncedField) : Bytes :=
  toBe 2 field.header ++ (toBe 2 field.fieldLen.toNat ++ field.enterpriseBytes)

/-- Identifiers have 15 bits in IPFIX, and there are no enterprises in V9. -/
def Allowed (handleIpfix : Bool) (field : AnnouncedField) : Prop :=
  if handleIpfix then field.fieldId < 32768 else field.enterprise = none

instance : ∀ (handleIpfix : Bool) (field : AnnouncedField),
    Decidable (field.Allowed handleIpfix)
  | true, field => inferInstanceAs (Decidable (field.fieldId < 32768))
  | false, field => inferInstanceAs (Decidable (field.enterprise = none))

end AnnouncedField

def fieldsBytes (fields : List AnnouncedField) : Bytes :=
  fields.flatMap AnnouncedField.bytes

def TemplateField.layout (field : TemplateField) : UInt16 × UInt16 :=
  (field.fieldId, field.fieldLen)

def AnnouncedField.layout (field : AnnouncedField) : UInt16 × UInt16 :=
  (field.fieldId, field.fieldLen)

/-- What a template is announced as, of either kind. -/
structure Announced where
  templateId : UInt16
  fields : List AnnouncedField

/-- The observation id knows the announced templates, and what it knew of all others. -/
structure Learned (isOptionTemplate : Bool) (announced : List Announced)
    (before after : ObservationID) : Prop where
  stored : ∀ one ∈ announced, ∃ template,
    after.getTemplate one.templateId = some template ∧
      template.templateId = one.templateId ∧
      template.isOptionTemplate = isOptionTemplate ∧
      template.fields.map TemplateField.layout = one.fields.map AnnouncedField.layout
  others : ∀ id, (∀ one ∈ announced, one.templateId ≠ id) →
    after.getTemplate id = before.getTemplate id

/-! Fields -/

theorem u16_of_startsWith {sbuffer : SizedBuffer} {displ number : Nat}
    (starts : (sbuffer.buffer.shift displ).StartsWith (toBe 2 number)) :
    sbuffer.u16 displ = number % 65536 := by
  rw [Mem.StartsWith, length_toBe] at starts
  rw [SizedBuffer.u16, starts, beNat_toBe]
  rfl

theorem firstByte_of_startsWith {memory : Mem} {number : Nat}
    (starts : memory.StartsWith (toBe 2 number)) : memory 0 = UInt8.ofNat (number / 256) := by
  have first := congrArg List.head? starts
  simpa [Mem.StartsWith, Mem.slice_succ, toBe] using first

theorem highBit_iff (byte : UInt8) : (byte &&& 0x80 != 0) = decide (128 ≤ byte.toNat) := by
  have all : ∀ number : Fin 256,
      (UInt8.ofNat number &&& 0x80 != 0) = decide (128 ≤ number.val) := by
    decide +kernel
  have one := all ⟨byte.toNat, byte.toNat_lt⟩
  rwa [UInt8.ofNat_toNat] at one

theorem and_0x7fff (number : UInt16) : (number &&& 0x7fff).toNat = number.toNat % 32768 := by
  rw [UInt16.toNat_and]
  exact Nat.and_two_pow_sub_one_eq_mod number.toNat 15

theorem and_0xffff (number : UInt16) : number &&& 0xffff = number := by
  apply UInt16.toNat_inj.mp
  rw [UInt16.toNat_and]
  have mod := Nat.and_two_pow_sub_one_eq_mod number.toNat 16
  exact mod.trans (Nat.mod_eq_of_lt number.toNat_lt)

theorem and_0x7fff_eq_iff (number : UInt16) : number &&& 0x7fff = number ↔ number < 32768 := by
  rw [← UInt16.toNat_inj, and_0x7fff, UInt16.lt_iff_toNat_lt, UInt16.toNat_ofNat]
  exact ⟨fun same => same ▸ Nat.mod_lt _ (by decide), fun small => Nat.mod_eq_of_lt small⟩

namespace AnnouncedField

variable {handleIpfix : Bool} {field : AnnouncedField}

theorem Allowed.header_lt (allowed : field.Allowed handleIpfix) : field.header < 65536 := by
  have bound := field.fieldId.toNat_lt
  rw [Allowed] at allowed
  rw [header]
  split at allowed
  · have small : field.fieldId.toNat < 32768 := UInt16.lt_iff_toNat_lt.mp allowed
    split <;> omega
  · rw [allowed]
    simpa using bound

theorem length_enterpriseBytes :
    field.enterpriseBytes.length = if field.enterprise.isSome then 4 else 0 := by
  rw [enterpriseBytes]
  cases field.enterprise with
  | none => rfl
  | some number => exact length_toBe 4 _

theorem length_bytes :
    field.bytes.length = if field.enterprise.isSome then 8 else 4 := by
  rw [bytes, List.length_append, List.length_append, length_enterpriseBytes, length_toBe,
    length_toBe]
  split <;> rfl

/-- What is read of an announced field is its header and its length. -/
theorem fieldAt_eq {sbuffer : SizedBuffer} {displ : Nat} (mask : UInt16)
    (allowed : field.Allowed handleIpfix)
    (starts : (sbuffer.buffer.shift displ).StartsWith field.bytes) :
    fieldAt sbuffer displ mask =
      { fieldId := UInt16.ofNat field.header &&& mask
        fieldLen := field.fieldLen
        v9Template := none } := by
  rw [bytes, Mem.startsWith_append, Mem.startsWith_append, Mem.shift_shift, length_toBe] at starts
  rw [fieldAt, u16_of_startsWith starts.1, u16_of_startsWith starts.2.1,
    Nat.mod_eq_of_lt allowed.header_lt, Nat.mod_eq_of_lt field.fieldLen.toNat_lt,
    UInt16.ofNat_toNat]

theorem highBit_of_startsWith {memory : Mem} (allowed : field.Allowed handleIpfix)
    (starts : memory.StartsWith field.bytes) :
    (handleIpfix && memory 0 &&& 0x80 != 0) = field.enterprise.isSome := by
  rw [bytes, Mem.startsWith_append] at starts
  rw [highBit_iff, firstByte_of_startsWith starts.1]
  have bound := allowed.header_lt
  have byte : (UInt8.ofNat (field.header / 256)).toNat = field.header / 256 := by
    rw [UInt8.toNat_ofNat']
    omega
  rw [byte]
  rw [Allowed] at allowed
  rw [header]
  cases handleIpfix with
  | false => simp only [Bool.false_eq_true, if_false] at allowed; simp [allowed]
  | true =>
      have small : field.fieldId.toNat < 32768 := UInt16.lt_iff_toNat_lt.mp allowed
      cases field.enterprise with
      | none => simp; omega
      | some number => simp; omega

/-- The identifier a flow template is stored with loses its highest bit. -/
theorem masked_header :
    UInt16.ofNat field.header &&& 0x7fff = field.fieldId &&& 0x7fff := by
  apply UInt16.toNat_inj.mp
  rw [and_0x7fff, and_0x7fff, UInt16.toNat_ofNat', header]
  split <;> omega

end AnnouncedField

/-! Flow templates -/

/-- The length of the fields that have one: 65535 is a length in V9. -/
def fixedLength (handleIpfix : Bool) (fields : List AnnouncedField) : Nat :=
  (fields.map fun field =>
    if handleIpfix ∧ field.fieldLen = 65535 then 0 else field.fieldLen.toNat).sum

structure Announced.WellFormed (handleIpfix : Bool) (announced : Announced) : Prop where
  allowed : ∀ field ∈ announced.fields, field.Allowed handleIpfix
  some : 1 ≤ announced.fields.length
  few : announced.fields.length ≤ 128
  short : fixedLength handleIpfix announced.fields ≤ 1500

def Announced.bytes (announced : Announced) : Bytes :=
  toBe 2 announced.templateId.toNat ++
    (toBe 2 announced.fields.length ++ fieldsBytes announced.fields)

def templateSetBytes (handleIpfix : Bool) (announced : List Announced) (padding : Bytes) :
    Bytes :=
  setBytes (if handleIpfix then 2 else 0) (announced.flatMap Announced.bytes ++ padding)

/-- What a field of a flow template is parsed as. -/
def AnnouncedField.parsed (field : AnnouncedField) : TemplateField where
  fieldId := field.fieldId &&& 0x7fff
  fieldLen := field.fieldLen
  v9Template := none

def Announced.parsed (announced : Announced) : FlowSetV9Ipfix where
  templateId := announced.templateId
  isOptionTemplate := false
  fields := announced.fields.map AnnouncedField.parsed

section FlowTemplates

variable {handleIpfix : Bool} {sbuffer : SizedBuffer}

theorem dissectTemplateFields_announced {fields : List AnnouncedField} {displ : Nat}
    (allowed : ∀ field ∈ fields, field.Allowed handleIpfix)
    (starts : (sbuffer.buffer.shift displ).StartsWith (fieldsBytes fields))
    (room : displ + (fieldsBytes fields).length ≤ sbuffer.size) :
    dissectTemplateFields handleIpfix sbuffer fields.length displ =
      some (fields.map AnnouncedField.parsed, displ + (fieldsBytes fields).length) := by
  induction fields generalizing displ with
  | nil => rfl
  | cons field rest ih =>
      obtain ⟨firstAllowed, restAllowed⟩ := List.forall_mem_cons.mp allowed
      rw [fieldsBytes, List.flatMap_cons] at starts room
      obtain ⟨fieldStarts, restStarts⟩ := Mem.startsWith_append.mp starts
      rw [Mem.shift_shift] at restStarts
      rw [List.length_append] at room
      have extent : (if (handleIpfix && sbuffer.buffer displ &&& 0x80 != 0) = true then 8
          else 4) = field.bytes.length := by
        have bit := AnnouncedField.highBit_of_startsWith firstAllowed fieldStarts
        rw [Mem.shift_apply, Nat.add_zero] at bit
        rw [bit, AnnouncedField.length_bytes]
      have parsedRest := ih restAllowed restStarts (by rw [fieldsBytes]; omega)
      have read := AnnouncedField.fieldAt_eq 0x7fff firstAllowed fieldStarts
      rw [AnnouncedField.masked_header] at read
      simp only [List.length_cons, dissectTemplateFields, extent]
      rw [if_neg (by omega), parsedRest, read]
      simp only [Option.map_some, List.map_cons, fieldsBytes, List.flatMap_cons,
        List.length_append, Nat.add_assoc]
      rfl

theorem accumulatedLen_le (fields : List AnnouncedField) :
    accumulatedLen (fields.map AnnouncedField.parsed) ≤ fixedLength handleIpfix fields := by
  induction fields with
  | nil => exact Nat.le_refl 0
  | cons field rest ih =>
      simp only [accumulatedLen, fixedLength, List.map_cons, List.sum_cons] at ih ⊢
      apply Nat.add_le_add _ ih
      rw [AnnouncedField.parsed]
      split
      · exact Nat.zero_le _
      · next fixed => rw [if_neg (fun varies => fixed varies.2)]

theorem dissectFlowTemplate_announced {announced : Announced}
    (wellFormed : announced.WellFormed handleIpfix)
    (starts : sbuffer.buffer.StartsWith announced.bytes)
    (room : announced.bytes.length ≤ sbuffer.size) :
    dissectFlowTemplate handleIpfix sbuffer =
      (some announced.parsed,
        if sbuffer.size - announced.bytes.length < 4 then sbuffer.size
        else announced.bytes.length) := by
  have length : announced.bytes.length = 4 + (fieldsBytes announced.fields).length := by
    rw [Announced.bytes, List.length_append, List.length_append, length_toBe, length_toBe,
      ← Nat.add_assoc]
  rw [Announced.bytes, Mem.startsWith_append, Mem.startsWith_append, length_toBe, length_toBe,
    Mem.shift_shift] at starts
  obtain ⟨idStarts, countStarts, fieldsStart⟩ := starts
  have few := wellFormed.few
  have id : sbuffer.u16 0 = announced.templateId.toNat := by
    rw [u16_of_startsWith idStarts, Nat.mod_eq_of_lt announced.templateId.toNat_lt]
  have count : sbuffer.u16 2 = announced.fields.length := by
    rw [u16_of_startsWith countStarts, Nat.mod_eq_of_lt (by omega)]
  have fields := dissectTemplateFields_announced wellFormed.allowed fieldsStart (by omega)
  have accumulated := Nat.le_trans (accumulatedLen_le announced.fields) wellFormed.short
  rw [dissectFlowTemplate]
  simp only [id, count, if_neg (Nat.not_lt.mpr few), fields, if_neg (Nat.not_lt.mpr accumulated),
    UInt16.ofNat_toNat]
  have within : 4 + (fieldsBytes announced.fields).length ≤ sbuffer.size := by omega
  rw [length]
  simp only [within, true_and]
  rfl

theorem Announced.four_le (announced : Announced) : 4 ≤ announced.bytes.length := by
  rw [Announced.bytes, List.length_append, List.length_append, length_toBe, length_toBe]
  omega

/-- The templates of a set are parsed one after another, unless the set is nothing but
padding. -/
theorem flowTemplates_announced {set : SizedBuffer} {announced : List Announced}
    {padding : Bytes} {turns displ : Nat}
    (wellFormed : ∀ one ∈ announced, one.WellFormed handleIpfix)
    (short : padding.length < 4) (some : announced ≠ [] ∨ padding = [])
    (small : set.size < 2 ^ 64)
    (starts : (set.buffer.shift displ).StartsWith
      (announced.flatMap Announced.bytes ++ padding))
    (ends : set.size = displ + (announced.flatMap Announced.bytes ++ padding).length)
    (enough : set.size < turns + displ) :
    flowTemplates handleIpfix set turns displ = .some (announced.map Announced.parsed) := by
  induction announced generalizing turns displ with
  | nil =>
      obtain rfl : padding = [] := by simpa using some
      rw [List.flatMap_nil, List.append_nil, List.length_nil] at ends
      obtain ⟨more, rfl⟩ : ∃ more, turns = more + 1 := ⟨turns - 1, by omega⟩
      rw [flowTemplates, if_neg (by omega)]
      rfl
  | cons one rest ih =>
      obtain ⟨oneWell, restWell⟩ := List.forall_mem_cons.mp wellFormed
      have four := one.four_le
      rw [List.flatMap_cons, List.append_assoc] at starts ends
      obtain ⟨oneStarts, restStarts⟩ := Mem.startsWith_append.mp starts
      rw [Mem.shift_shift] at restStarts
      rw [List.length_append] at ends
      have left := after_size (show displ ≤ set.size by omega) small
      have parsed := dissectFlowTemplate_announced oneWell oneStarts
        (show one.bytes.length ≤ (set.after displ).size by omega)
      obtain ⟨more, rfl⟩ : ∃ more, turns = more + 1 := ⟨turns - 1, by omega⟩
      have inside : displ < set.size := by omega
      rw [flowTemplates, if_pos inside]
      simp only [parsed]
      cases rest with
      | nil =>
          rw [List.flatMap_nil, List.nil_append] at ends
          have last : (set.after displ).size - one.bytes.length < 4 := by omega
          obtain ⟨again, rfl⟩ : ∃ again, more = again + 1 := ⟨more - 1, by omega⟩
          rw [if_pos last, flowTemplates, if_neg (by omega)]
          rfl
      | cons next later =>
          have nextFour := next.four_le
          have another : ¬(set.after displ).size - one.bytes.length < 4 := by
            rw [List.flatMap_cons, List.append_assoc, List.length_append] at ends
            omega
          have rest := ih restWell (.inl (List.cons_ne_nil _ _)) restStarts (by omega)
            (show set.size < more + (displ + one.bytes.length) by omega)
          rw [if_neg another, rest]
          rfl

end FlowTemplates

theorem stored_layouts (announced : Announced) :
    (storedTemplate announced.parsed).fields.map TemplateField.layout =
      announced.fields.map fun field => (field.fieldId &&& 0x7fff, field.fieldLen) := by
  simp [Announced.parsed, storedTemplate, AnnouncedField.parsed, TemplateField.layout,
    Function.comp_def]

theorem stored_layouts_eq_iff (announced : Announced) :
    (storedTemplate announced.parsed).fields.map TemplateField.layout =
        announced.fields.map AnnouncedField.layout ↔
      ∀ field ∈ announced.fields, field.fieldId < 32768 := by
  rw [stored_layouts]
  constructor
  · intro same field member
    have one := List.map_inj_left.mp same field member
    exact (and_0x7fff_eq_iff _).mp (Prod.mk.inj one).1
  · intro small
    apply List.map_congr_left
    intro field member
    rw [(and_0x7fff_eq_iff _).mpr (small field member)]
    rfl

/-- What the fold over the parsed templates leaves is what was announced, when the identifiers
of the fields have 15 bits. -/
theorem learned_iff {announced : List Announced} (observationId : ObservationID)
    (distinct : (announced.map Announced.templateId).Nodup) :
    Learned false announced observationId
        ((announced.map Announced.parsed).foldl ObservationID.saveTemplate observationId) ↔
      ∀ one ∈ announced, ∀ field ∈ one.fields, field.fieldId < 32768 := by
  have parsedDistinct :
      ((announced.map Announced.parsed).map FlowSetV9Ipfix.templateId).Nodup := by
    rw [List.map_map]
    exact distinct
  have found : ∀ one ∈ announced,
      ((announced.map Announced.parsed).foldl ObservationID.saveTemplate
        observationId).getTemplate one.templateId = some (storedTemplate one.parsed) := by
    intro one member
    rw [getTemplate_foldl_saveTemplate]
    have last := lastTemplate_of_mem parsedDistinct (List.mem_map_of_mem member)
    rw [show one.templateId = one.parsed.templateId from rfl, last]
    rfl
  constructor
  · intro learned one member
    obtain ⟨template, stored, _, _, layouts⟩ := learned.stored one member
    rw [found one member] at stored
    obtain rfl := Option.some.inj stored
    exact (stored_layouts_eq_iff one).mp layouts
  · intro small
    constructor
    · intro one member
      exact ⟨storedTemplate one.parsed, found one member, rfl, rfl,
        (stored_layouts_eq_iff one).mpr (small one member)⟩
    · intro id absent
      rw [getTemplate_foldl_saveTemplate]
      have none : lastTemplate (announced.map Announced.parsed) id = none := by
        apply lastTemplate_eq_none.mpr
        intro template member
        obtain ⟨one, inAnnounced, rfl⟩ := List.mem_map.mp member
        exact absent one inAnnounced
      rw [none]
      rfl

section TemplateSet

variable {handleIpfix : Bool} {buffer : Mem} {announced : List Announced} {padding : Bytes}

theorem setBytes_startsWith {id : Nat} {body : Bytes}
    (starts : buffer.StartsWith (setBytes id body)) :
    buffer 1 = UInt8.ofNat id ∧ (buffer.shift 4).StartsWith body := by
  rw [setBytes, Mem.startsWith_append, Mem.startsWith_append, length_toBe, List.length_append,
    length_toBe, length_toBe] at starts
  refine ⟨?_, starts.2⟩
  have second := congrArg (fun bytes => bytes[1]?) starts.1.1
  simpa [Mem.StartsWith, Mem.slice_succ, toBe] using second

theorem announcedTemplates_flow
    (starts : buffer.StartsWith (templateSetBytes handleIpfix announced padding)) (size : Nat) :
    announcedTemplates handleIpfix { buffer, size } =
        (flowTemplates handleIpfix { buffer, size } (size + 1) 4).getD [] ∧
      (buffer.shift 4).StartsWith (announced.flatMap Announced.bytes ++ padding) := by
  obtain ⟨kind, body⟩ := setBytes_startsWith starts
  refine ⟨?_, body⟩
  rw [announcedTemplates, if_neg]
  simp only
  rw [kind]
  cases handleIpfix <;> decide

/-- No header of a template is read beyond a set that has none: its count of fields is there
for chance. -/
def NoStrayHeader (announced : List Announced) (padding : Bytes) (buffer : Mem) : Prop :=
  announced = [] → padding ≠ [] → beNat ((buffer.shift 6).slice 2) ≠ 0

theorem length_templateSetBytes :
    (templateSetBytes handleIpfix announced padding).length =
      4 + (announced.flatMap Announced.bytes ++ padding).length := by
  rw [templateSetBytes, setBytes, List.length_append, List.length_append, length_toBe,
    length_toBe]

/-- A set of nothing but padding stores a template without fields where it finds one. -/
theorem announcedTemplates_padding (short : padding.length < 4) (some : padding ≠ [])
    (starts : buffer.StartsWith (templateSetBytes handleIpfix [] padding)) :
    announcedTemplates handleIpfix
        { buffer, size := (templateSetBytes handleIpfix [] padding).length } =
      if beNat ((buffer.shift 6).slice 2) = 0 then
        [{ templateId := UInt16.ofNat (beNat ((buffer.shift 4).slice 2))
           isOptionTemplate := false
           fields := [] }]
      else [] := by
  have positive := List.length_pos_of_ne_nil some
  rw [(announcedTemplates_flow starts _).1, length_templateSetBytes, List.flatMap_nil,
    List.nil_append]
  let set : SizedBuffer := { buffer, size := 4 + padding.length }
  have whole : set.size = 4 + padding.length := rfl
  have left : (set.after 4).size = padding.length := by
    rw [after_size (by omega) (by omega), whole, Nat.add_sub_cancel_left]
  have count : (set.after 4).u16 2 = beNat ((buffer.shift 6).slice 2) := by
    rw [SizedBuffer.u16, SizedBuffer.after, Mem.shift_shift]
  have id : (set.after 4).u16 0 = beNat ((buffer.shift 4).slice 2) := by
    rw [SizedBuffer.u16, SizedBuffer.after, Mem.shift_shift]
  have header := dissectFlowTemplate_short handleIpfix
    (show (set.after 4).size < 4 by omega)
  rw [count, id, left] at header
  have ended : ∀ displ, set.size ≤ displ →
      flowTemplates handleIpfix set (4 + padding.length) displ = .some [] := by
    intro displ beyond
    obtain ⟨more, turns⟩ : ∃ more, 4 + padding.length = more + 1 :=
      ⟨3 + padding.length, by omega⟩
    rw [turns, flowTemplates, if_neg (Nat.not_lt.mpr beyond)]
  change (flowTemplates handleIpfix set (4 + padding.length + 1) 4).getD [] = _
  rw [flowTemplates, if_pos (by omega), header]
  by_cases empty : beNat ((buffer.shift 6).slice 2) = 0
  · simp only [if_pos empty, ended (4 + 4) (by omega)]
    rfl
  · simp only [if_neg empty, ended (4 + padding.length) (by omega)]
    rfl

/-- Every template of the set is learned as it was announced, and nothing else is. -/
theorem dissectNetFlowV9V10TemplateSet_learns_iff
    (wellFormed : ∀ one ∈ announced, one.WellFormed handleIpfix)
    (distinct : (announced.map Announced.templateId).Nodup) (short : padding.length < 4)
    (fits : (templateSetBytes handleIpfix announced padding).length < 65536)
    (starts : buffer.StartsWith (templateSetBytes handleIpfix announced padding)) :
    (∀ observationId, ∃ after,
        dissectNetFlowV9V10TemplateSet handleIpfix
            { buffer, size := (templateSetBytes handleIpfix announced padding).length }
            observationId = .ok after ∧
          Learned false announced observationId after) ↔
      (handleIpfix = true ∨
          ∀ one ∈ announced, ∀ field ∈ one.fields, field.fieldId < 32768) ∧
        NoStrayHeader announced padding buffer := by
  let set : SizedBuffer :=
    { buffer, size := (templateSetBytes handleIpfix announced padding).length }
  have small : set.size < 2 ^ 64 := by
    change (templateSetBytes handleIpfix announced padding).length < 2 ^ 64
    omega
  have run := fun observationId =>
    dissectNetFlowV9V10TemplateSet_eq handleIpfix small observationId
  have ids : (handleIpfix = true ∨
      ∀ one ∈ announced, ∀ field ∈ one.fields, field.fieldId < 32768) ↔
      ∀ one ∈ announced, ∀ field ∈ one.fields, field.fieldId < 32768 := by
    constructor
    · rintro (rfl | small)
      · exact fun one member field inFields => by
          simpa [AnnouncedField.Allowed] using (wellFormed one member).allowed field inFields
      · exact small
    · exact .inr
  rw [ids]
  change (∀ observationId, ∃ after,
    dissectNetFlowV9V10TemplateSet handleIpfix set observationId = .ok after ∧ _) ↔ _
  simp only [run, Except.ok.injEq, exists_eq_left']
  by_cases onlyPadding : announced = [] ∧ padding ≠ []
  · obtain ⟨rfl, padded⟩ := onlyPadding
    rw [announcedTemplates_padding short padded starts]
    constructor
    · intro learned
      refine ⟨by simp, fun _ _ zero => ?_⟩
      have others := (learned (.new 0)).others (UInt16.ofNat (beNat ((buffer.shift 4).slice 2)))
        (by simp)
      rw [if_pos zero, List.foldl_cons, List.foldl_nil, getTemplate_saveTemplate, if_pos rfl]
        at others
      cases others
    · intro both observationId
      obtain ⟨_, noStray⟩ := both
      rw [if_neg (noStray rfl padded)]
      exact ⟨by simp, fun _ _ => rfl⟩
  · have some : announced ≠ [] ∨ padding = [] := by
      by_contra neither
      rw [not_or, not_not] at neither
      exact onlyPadding neither
    have parsed := flowTemplates_announced wellFormed short some small
      (announcedTemplates_flow starts 0).2 length_templateSetBytes
      (show set.size < set.size + 1 + 4 by omega)
    rw [(announcedTemplates_flow starts _).1, parsed, Option.getD_some]
    have noStray : NoStrayHeader announced padding buffer := by
      intro empty padded
      exact absurd ⟨empty, padded⟩ onlyPadding
    simp only [learned_iff _ distinct, noStray, and_true]
    exact ⟨fun all => all (.new 0), fun small _ => small⟩

end TemplateSet

theorem learns_variableField :
    let announced : List Announced := [⟨256, [⟨8, none, 4⟩, ⟨40, some 9, 65535⟩]⟩]
    let bytes := templateSetBytes true announced [0]
    (∀ observationId, ∃ after,
        dissectNetFlowV9V10TemplateSet true { buffer := .ofBytes bytes, size := bytes.length }
            observationId = .ok after ∧
          Learned false announced observationId after) ↔
      (true = true ∨ ∀ one ∈ announced, ∀ field ∈ one.fields, field.fieldId < 32768) ∧
        NoStrayHeader announced [0] (.ofBytes bytes) := by
  apply dissectNetFlowV9V10TemplateSet_learns_iff
  · intro one member
    obtain rfl := List.mem_singleton.mp member
    exact ⟨by decide, by decide, by decide, by decide⟩
  · decide
  · decide
  · decide
  · exact Mem.startsWith_ofBytes _

/-- A field of V9 whose identifier has 16 bits is stored under another one. -/
theorem forgets_highBit :
    let announced : List Announced := [⟨256, [⟨40000, none, 4⟩]⟩]
    let bytes := templateSetBytes false announced []
    ¬∃ after,
      dissectNetFlowV9V10TemplateSet false { buffer := .ofBytes bytes, size := bytes.length }
          (.new 7) = .ok after ∧
        Learned false announced (.new 7) after := by
  intro announced bytes both
  obtain ⟨after, ran, learned⟩ := both
  obtain ⟨template, found, _, _, layouts⟩ := learned.stored _ List.mem_cons_self
  have stored : (dissectNetFlowV9V10TemplateSet false
      { buffer := .ofBytes (templateSetBytes false [⟨256, [⟨40000, none, 4⟩]⟩] [])
        size := (templateSetBytes false [⟨256, [⟨40000, none, 4⟩]⟩] []).length }
      (.new 7)).map (fun after =>
        (after.getTemplate 256).map fun template =>
          template.fields.map TemplateField.layout) = .ok (some [(7232, 4)]) := by
    decide +kernel
  rw [ran] at stored
  have layout : (after.getTemplate 256).map (fun template =>
      template.fields.map TemplateField.layout) = some [(7232, 4)] := Except.ok.inj stored
  replace found : after.getTemplate 256 = some template := found
  rw [found, Option.map_some, Option.some.injEq, layouts] at layout
  exact absurd layout (by decide)

/-! Option templates -/

structure AnnouncedOption where
  templateId : UInt16
  scope : List AnnouncedField
  options : List AnnouncedField

namespace AnnouncedOption

def fields (announced : AnnouncedOption) : List AnnouncedField :=
  announced.scope ++ announced.options

def toAnnounced (announced : AnnouncedOption) : Announced where
  templateId := announced.templateId
  fields := announced.fields

structure WellFormed (handleIpfix : Bool) (announced : AnnouncedOption) : Prop where
  allowed : ∀ field ∈ announced.fields, field.Allowed handleIpfix
  few : announced.fields.length ≤ 4

/-- V9 says how many bytes the fields of each kind have, IPFIX how many fields there are and
how many of them are scopes. -/
def counts (handleIpfix : Bool) (announced : AnnouncedOption) : Nat × Nat :=
  if handleIpfix then (announced.fields.length, announced.scope.length)
  else (4 * announced.scope.length, 4 * announced.options.length)

def bytes (handleIpfix : Bool) (announced : AnnouncedOption) : Bytes :=
  toBe 2 announced.templateId.toNat ++
    (toBe 2 (announced.counts handleIpfix).1 ++
      (toBe 2 (announced.counts handleIpfix).2 ++ fieldsBytes announced.fields))

end AnnouncedOption

def optionTemplateSetBytes (handleIpfix : Bool) (announced : List AnnouncedOption)
    (padding : Bytes) : Bytes :=
  setBytes (if handleIpfix then 3 else 1)
    (announced.flatMap (AnnouncedOption.bytes handleIpfix) ++ padding)

section OptionTemplates

variable {handleIpfix : Bool} {sbuffer : SizedBuffer}

/-- The fields of an option template from `displ` on, as they are read: four bytes each. -/
def optionFields (sbuffer : SizedBuffer) (count displ : Nat) : List TemplateField :=
  (List.range count).map fun index => fieldAt sbuffer (displ + 4 * index) 0xffff

theorem optionFields_succ (sbuffer : SizedBuffer) (count displ : Nat) :
    optionFields sbuffer (count + 1) displ =
      fieldAt sbuffer displ 0xffff :: optionFields sbuffer count (displ + 4) := by
  rw [optionFields, List.range_succ_eq_map, List.map_cons, List.map_map]
  refine List.cons_eq_cons.mpr ⟨by rw [Nat.mul_zero, Nat.add_zero], ?_⟩
  apply List.map_congr_left
  intro index _
  have place : displ + 4 * index.succ = displ + 4 + 4 * index := by omega
  rw [Function.comp_apply, place]

theorem fieldsBytes_length_le (fields : List AnnouncedField) :
    4 * fields.length ≤ (fieldsBytes fields).length := by
  induction fields with
  | nil => exact Nat.le_refl 0
  | cons field rest ih =>
      rw [fieldsBytes] at ih
      rw [fieldsBytes, List.flatMap_cons, List.length_append, AnnouncedField.length_bytes,
        List.length_cons]
      split <;> omega

/-- The fields are read as they were announced, unless one has the number of an enterprise. -/
theorem optionFields_layouts_iff (sbuffer : SizedBuffer) {fields : List AnnouncedField}
    (displ : Nat)
    (allowed : ∀ field ∈ fields, field.Allowed handleIpfix)
    (starts : (sbuffer.buffer.shift displ).StartsWith (fieldsBytes fields)) :
    (optionFields sbuffer fields.length displ).map TemplateField.layout =
        fields.map AnnouncedField.layout ↔
      ∀ field ∈ fields, field.enterprise = none := by
  induction fields generalizing displ with
  | nil => simp [optionFields]
  | cons field rest ih =>
      obtain ⟨firstAllowed, restAllowed⟩ := List.forall_mem_cons.mp allowed
      rw [fieldsBytes, List.flatMap_cons] at starts
      obtain ⟨fieldStarts, restStarts⟩ := Mem.startsWith_append.mp starts
      rw [Mem.shift_shift, AnnouncedField.length_bytes] at restStarts
      have read := AnnouncedField.fieldAt_eq 0xffff firstAllowed fieldStarts
      rw [and_0xffff] at read
      have same : UInt16.ofNat field.header = field.fieldId ↔ field.enterprise = none := by
        have bound := field.fieldId.toNat_lt
        rw [← UInt16.toNat_inj, UInt16.toNat_ofNat', AnnouncedField.header]
        cases field.enterprise with
        | none => simp
        | some number => simp; omega
      rw [List.length_cons, optionFields_succ, List.map_cons, List.map_cons, List.cons.injEq,
        List.forall_mem_cons, read]
      simp only [TemplateField.layout, AnnouncedField.layout, Prod.mk.injEq, and_true, same]
      refine and_congr_right fun noEnterprise => ?_
      simp only [noEnterprise, Option.isSome_none, Bool.false_eq_true, if_false] at restStarts
      exact ih (displ + 4) restAllowed restStarts

theorem dissectOptionTemplate_announced {announced : AnnouncedOption}
    (wellFormed : announced.WellFormed handleIpfix)
    (starts : sbuffer.buffer.StartsWith (announced.bytes handleIpfix))
    (room : (announced.bytes handleIpfix).length ≤ sbuffer.size) :
    dissectOptionTemplate handleIpfix sbuffer =
      some
        { templateId := announced.templateId
          isOptionTemplate := true
          fields := optionFields sbuffer announced.fields.length 6 } := by
  have few := wellFormed.few
  have split : announced.fields.length = announced.scope.length + announced.options.length :=
    List.length_append
  have enough := fieldsBytes_length_le announced.fields
  rw [AnnouncedOption.bytes, List.length_append, List.length_append, List.length_append,
    length_toBe, length_toBe, length_toBe] at room
  rw [AnnouncedOption.bytes, Mem.startsWith_append, Mem.startsWith_append,
    Mem.startsWith_append, length_toBe, length_toBe, length_toBe, Mem.shift_shift,
    Mem.shift_shift] at starts
  obtain ⟨idStarts, firstStarts, secondStarts, _⟩ := starts
  have id : sbuffer.u16 0 = announced.templateId.toNat := by
    rw [u16_of_startsWith idStarts, Nat.mod_eq_of_lt announced.templateId.toNat_lt]
  have first := u16_of_startsWith firstStarts
  have second : sbuffer.u16 4 = _ := u16_of_startsWith secondStarts
  have long : ¬sbuffer.size < optionTemplateHeaderSize := by
    rw [optionTemplateHeaderSize]
    omega
  have fits : ¬sbuffer.size < optionTemplateHeaderSize + 4 * announced.fields.length := by
    rw [optionTemplateHeaderSize]
    omega
  have notMore : ¬announced.fields.length > maxNumEntries := Nat.not_lt.mpr few
  have total : ((if handleIpfix = true then dissectIpfixOptionTemplateParams sbuffer
      else dissectNf9OptionTemplateParams sbuffer).scopeFieldCount +
      (if handleIpfix = true then dissectIpfixOptionTemplateParams sbuffer
      else dissectNf9OptionTemplateParams sbuffer).fieldCount) % 2 ^ 16 =
      announced.fields.length := by
    cases handleIpfix with
    | true =>
        simp only [AnnouncedOption.counts, if_true] at first second
        simp only [if_true, dissectIpfixOptionTemplateParams, first, second]
        omega
    | false =>
        simp only [AnnouncedOption.counts, Bool.false_eq_true, if_false] at first second
        simp only [Bool.false_eq_true, if_false, dissectNf9OptionTemplateParams, first, second]
        omega
  have templateId : (if handleIpfix = true then dissectIpfixOptionTemplateParams sbuffer
      else dissectNf9OptionTemplateParams sbuffer).templateId =
      announced.templateId.toNat := by
    cases handleIpfix with
    | true => exact id
    | false => exact id
  simp only [dissectOptionTemplate, long, if_false, total, notMore, fits, templateId,
    UInt16.ofNat_toNat]
  rfl

theorem AnnouncedOption.fields_startsWith {announced : AnnouncedOption} {memory : Mem}
    (starts : memory.StartsWith (announced.bytes handleIpfix)) :
    (memory.shift 6).StartsWith (fieldsBytes announced.fields) := by
  rw [AnnouncedOption.bytes, Mem.startsWith_append, Mem.startsWith_append,
    Mem.startsWith_append, length_toBe, length_toBe, length_toBe, Mem.shift_shift,
    Mem.shift_shift] at starts
  exact starts.2.2.2

end OptionTemplates

section OptionTemplateSet

variable {handleIpfix : Bool} {buffer : Mem} {announced : List AnnouncedOption}
  {padding : Bytes}

/-- A set of option templates announces the first of them, and no other. -/
theorem announcedTemplates_option
    (wellFormed : ∀ one ∈ announced, one.WellFormed handleIpfix) (short : padding.length < 4)
    (fits : (optionTemplateSetBytes handleIpfix announced padding).length < 65536)
    (starts : buffer.StartsWith (optionTemplateSetBytes handleIpfix announced padding)) :
    announcedTemplates handleIpfix
        { buffer, size := (optionTemplateSetBytes handleIpfix announced padding).length } =
      (announced.take 1).map fun one =>
        { templateId := one.templateId
          isOptionTemplate := true
          fields :=
            optionFields
              (SizedBuffer.after
                { buffer, size := (optionTemplateSetBytes handleIpfix announced padding).length }
                4)
              one.fields.length 6 } := by
  obtain ⟨kind, body⟩ := setBytes_startsWith starts
  have length : (optionTemplateSetBytes handleIpfix announced padding).length =
      4 + (announced.flatMap (AnnouncedOption.bytes handleIpfix) ++ padding).length := by
    rw [optionTemplateSetBytes, setBytes, List.length_append, List.length_append, length_toBe,
      length_toBe]
  have isOption : (buffer 1 != 0 && !(handleIpfix && buffer 1 == 2)) = true := by
    rw [kind]
    cases handleIpfix <;> decide
  let set : SizedBuffer :=
    { buffer, size := (optionTemplateSetBytes handleIpfix announced padding).length }
  have whole : set.size = (optionTemplateSetBytes handleIpfix announced padding).length := rfl
  have left : (set.after 4).size =
      (announced.flatMap (AnnouncedOption.bytes handleIpfix) ++ padding).length := by
    rw [after_size (by omega) (by omega)]
    omega
  change announcedTemplates handleIpfix set = _
  rw [announcedTemplates, if_pos isOption]
  cases announced with
  | nil =>
      rw [dissectOptionTemplate, if_pos]
      · rfl
      · rw [left, List.flatMap_nil, List.nil_append, optionTemplateHeaderSize]
        omega
  | cons one rest =>
      rw [List.flatMap_cons, List.append_assoc] at body left
      rw [List.length_append] at left
      rw [dissectOptionTemplate_announced (wellFormed one List.mem_cons_self)
        (Mem.startsWith_append.mp body).1
        (show (one.bytes handleIpfix).length ≤ (set.after 4).size by omega)]
      rfl

theorem dissectNetFlowV9V10TemplateSet_learnsOptions_iff
    (wellFormed : ∀ one ∈ announced, one.WellFormed handleIpfix)
    (distinct : (announced.map AnnouncedOption.templateId).Nodup)
    (short : padding.length < 4)
    (fits : (optionTemplateSetBytes handleIpfix announced padding).length < 65536)
    (starts : buffer.StartsWith (optionTemplateSetBytes handleIpfix announced padding)) :
    (∀ observationId, ∃ after,
        dissectNetFlowV9V10TemplateSet handleIpfix
            { buffer, size := (optionTemplateSetBytes handleIpfix announced padding).length }
            observationId = .ok after ∧
          Learned true (announced.map AnnouncedOption.toAnnounced) observationId after) ↔
      announced.length ≤ 1 ∧
        ∀ one ∈ announced, ∀ field ∈ one.fields, field.enterprise = none := by
  let set : SizedBuffer :=
    { buffer, size := (optionTemplateSetBytes handleIpfix announced padding).length }
  have small : set.size < 2 ^ 64 := by
    change (optionTemplateSetBytes handleIpfix announced padding).length < 2 ^ 64
    omega
  have run := fun observationId =>
    dissectNetFlowV9V10TemplateSet_eq handleIpfix small observationId
  change (∀ observationId, ∃ after,
    dissectNetFlowV9V10TemplateSet handleIpfix set observationId = .ok after ∧ _) ↔ _
  simp only [run, set, announcedTemplates_option wellFormed short fits starts, Except.ok.injEq,
    exists_eq_left']
  cases announced with
  | nil =>
      constructor
      · exact fun _ => ⟨by simp, by simp⟩
      · exact fun _ observationId => ⟨by simp, fun _ _ => rfl⟩
  | cons one rest =>
      have body := (setBytes_startsWith starts).2
      rw [List.flatMap_cons, List.append_assoc] at body
      have fieldsStart := AnnouncedOption.fields_startsWith (Mem.startsWith_append.mp body).1
      have layouts := optionFields_layouts_iff (set.after 4) 6
        (wellFormed one List.mem_cons_self).allowed fieldsStart
      simp only [List.take_succ_cons, List.take_zero, List.map_cons, List.map_nil,
        List.foldl_cons, List.foldl_nil]
      constructor
      · intro learned
        have only : rest = [] := by
          cases rest with
          | nil => rfl
          | cons two later =>
              obtain ⟨template, found, _⟩ :=
                (learned (.new 0)).stored two.toAnnounced (by simp)
              have apart : one.templateId ≠ two.templateId := by
                intro same
                simp [same] at distinct
              rw [getTemplate_saveTemplate, if_neg (by exact apart)] at found
              cases found
        subst only
        obtain ⟨template, found, _, _, same⟩ :=
          (learned (.new 0)).stored one.toAnnounced (by simp)
        rw [getTemplate_saveTemplate, if_pos (by rfl)] at found
        obtain rfl := Option.some.inj found
        refine ⟨by simp, fun other member => ?_⟩
        obtain rfl := List.mem_singleton.mp member
        exact layouts.mp same
      · intro both observationId
        obtain ⟨few, plain⟩ := both
        obtain rfl : rest = [] := by
          cases rest with
          | nil => rfl
          | cons two later => simp at few
        constructor
        · intro other member
          obtain rfl := List.mem_singleton.mp member
          refine ⟨_, by rw [getTemplate_saveTemplate, if_pos (by rfl)], rfl, rfl, ?_⟩
          exact layouts.mpr (plain one List.mem_cons_self)
        · intro id absent
          have apart := absent one.toAnnounced (by simp)
          rw [getTemplate_saveTemplate, if_neg (by exact apart)]

end OptionTemplateSet

theorem learns_oneOption :
    let announced : List AnnouncedOption := [⟨257, [⟨1, none, 4⟩], [⟨10, none, 4⟩]⟩]
    let bytes := optionTemplateSetBytes false announced [0, 0]
    (∀ observationId, ∃ after,
        dissectNetFlowV9V10TemplateSet false { buffer := .ofBytes bytes, size := bytes.length }
            observationId = .ok after ∧
          Learned true (announced.map AnnouncedOption.toAnnounced) observationId after) ↔
      announced.length ≤ 1 ∧
        ∀ one ∈ announced, ∀ field ∈ one.fields, field.enterprise = none := by
  apply dissectNetFlowV9V10TemplateSet_learnsOptions_iff
  · intro one member
    obtain rfl := List.mem_singleton.mp member
    exact ⟨by decide, by decide⟩
  · decide
  · decide
  · decide
  · exact Mem.startsWith_ofBytes _

/-- Of two option templates in a set, the second is not stored. -/
theorem forgets_secondOption :
    let announced : List AnnouncedOption :=
      [⟨257, [⟨1, none, 4⟩], [⟨10, none, 4⟩]⟩, ⟨258, [⟨1, none, 4⟩], [⟨10, none, 4⟩]⟩]
    let bytes := optionTemplateSetBytes false announced []
    ¬∃ after,
      dissectNetFlowV9V10TemplateSet false { buffer := .ofBytes bytes, size := bytes.length }
          (.new 7) = .ok after ∧
        Learned true (announced.map AnnouncedOption.toAnnounced) (.new 7) after := by
  intro announced bytes both
  obtain ⟨after, ran, learned⟩ := both
  obtain ⟨template, found, _⟩ := learned.stored
    ⟨258, [⟨1, none, 4⟩, ⟨10, none, 4⟩]⟩ (List.mem_cons_of_mem _ List.mem_cons_self)
  have stored : (dissectNetFlowV9V10TemplateSet false
      { buffer := .ofBytes (optionTemplateSetBytes false announced [])
        size := (optionTemplateSetBytes false announced []).length }
      (.new 7)).map (fun after => (after.getTemplate 258).isSome) = .ok false := by
    decide +kernel
  rw [ran] at stored
  have missing : (after.getTemplate 258).isSome = false := Except.ok.inj stored
  replace found : after.getTemplate 258 = some template := found
  rw [found] at missing
  cases missing

end F2k
