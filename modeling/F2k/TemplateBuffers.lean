import F2k.Escaping
import F2k.TemplateLoads

namespace F2k

open Lib

/-! Templates in buffers, where header and fields are as the memory of the host has them. -/

/-- An element is the address of its row; the last member is followed by four bytes of padding. -/
structure V9V10TemplateField where
  v9Template : UInt64
  fieldId : UInt16
  fieldLen : UInt16
  padding : UInt32

namespace V9V10TemplateField

def bytes (field : V9V10TemplateField) : Bytes :=
  hostBytes 8 field.v9Template.toNat ++
    (hostBytes 2 field.fieldId.toNat ++
      (hostBytes 2 field.fieldLen.toNat ++ hostBytes 4 field.padding.toNat))

def ofBytes (bytes : Bytes) : V9V10TemplateField where
  v9Template := UInt64.ofNat (hostNat (bytes.take 8))
  fieldId := UInt16.ofNat (hostNat ((bytes.drop 8).take 2))
  fieldLen := UInt16.ofNat (hostNat ((bytes.drop 10).take 2))
  padding := UInt32.ofNat (hostNat ((bytes.drop 12).take 4))

/-- As `calloc` leaves it. -/
def zero : V9V10TemplateField where
  v9Template := 0
  fieldId := 0
  fieldLen := 0
  padding := 0

def cleared (field : V9V10TemplateField) : V9V10TemplateField :=
  { field with v9Template := 0 }

def layout (field : V9V10TemplateField) : UInt16 × UInt16 :=
  (field.fieldId, field.fieldLen)

end V9V10TemplateField

structure BufferTemplate where
  templateInfo : SimpleTemplate
  fields : List V9V10TemplateField

structure SerializableTemplate extends BufferTemplate where
  counted : fields.length = templateInfo.fieldCount.toNat

def SerializableTemplate.newBufferSize (template : SerializableTemplate) : Nat :=
  16 + template.templateInfo.fieldCount.toNat * 16

def serializeFields (newbufsize : Nat) : List V9V10TemplateField → Nat → Bytes
  | [], _ => []
  | field :: fields, cursor =>
      if cursor < newbufsize then
        field.cleared.bytes ++ serializeFields newbufsize fields (cursor + 16)
      else []

def serializeTemplate (template : SerializableTemplate) : Bytes :=
  template.templateInfo.fileBytes ++ serializeFields template.newBufferSize template.fields 16

/-- The fields behind the end of the buffer stay zero. -/
def deserializeFields (buf : Bytes) : Nat → Nat → Except BeyondEnd (List V9V10TemplateField)
  | 0, _ => .ok []
  | left + 1, cursor =>
      if cursor < buf.length then do
        let field ← readBytes buf cursor 16
        let fields ← deserializeFields buf left (cursor + 16)
        .ok (.ofBytes field :: fields)
      else .ok (List.replicate (left + 1) .zero)

/-- The count of the fields is read from the buffer in any case. A buffer that does not have as
many fields is only told of in a trace. -/
def deserializeTemplate (buf : Bytes) : Except BeyondEnd (Option BufferTemplate) := do
  let _fieldCount ← readBytes buf 10 2
  let templateInfo ← readBytes buf 0 16
  let fields ← deserializeFields buf (SimpleTemplate.ofBytes templateInfo).fieldCount.toNat 16
  .ok (some { templateInfo := .ofBytes templateInfo, fields })

/-! What is written is read back -/

theorem SimpleTemplate.ofBytes_fileBytes (info : SimpleTemplate) :
    SimpleTemplate.ofBytes info.fileBytes = info := by
  have ip : hostNat (hostBytes 4 info.netflowDeviceIp.toNat) = _ :=
    hostNat_hostBytes info.netflowDeviceIp.toNat_lt
  have domain : hostNat (hostBytes 4 info.observationDomainId.toNat) = _ :=
    hostNat_hostBytes info.observationDomainId.toNat_lt
  have id : hostNat (hostBytes 2 info.templateId.toNat) = _ :=
    hostNat_hostBytes info.templateId.toNat_lt
  have count : hostNat (hostBytes 2 info.fieldCount.toNat) = _ :=
    hostNat_hostBytes info.fieldCount.toNat_lt
  have scope : hostNat (hostBytes 2 info.scopeFieldLen.toNat) = _ :=
    hostNat_hostBytes info.scopeFieldLen.toNat_lt
  have flag : ((if info.isOptionTemplate then (1 : UInt8) else 0) != 0) = info.isOptionTemplate := by
    cases info.isOptionTemplate <;> rfl
  unfold SimpleTemplate.ofBytes SimpleTemplate.fileBytes
  simp [List.drop_append, List.drop_of_length_le, ip, domain, id, count, scope, flag]

namespace V9V10TemplateField

theorem length_bytes (field : V9V10TemplateField) : field.bytes.length = 16 := by
  simp [bytes]

theorem ofBytes_bytes (field : V9V10TemplateField) : ofBytes field.bytes = field := by
  have element : hostNat (hostBytes 8 field.v9Template.toNat) = _ :=
    hostNat_hostBytes field.v9Template.toNat_lt
  have id : hostNat (hostBytes 2 field.fieldId.toNat) = _ :=
    hostNat_hostBytes field.fieldId.toNat_lt
  have len : hostNat (hostBytes 2 field.fieldLen.toNat) = _ :=
    hostNat_hostBytes field.fieldLen.toNat_lt
  have padding : hostNat (hostBytes 4 field.padding.toNat) = _ :=
    hostNat_hostBytes field.padding.toNat_lt
  unfold ofBytes bytes
  simp [List.drop_append, List.drop_of_length_le, List.take_of_length_le, element, id, len, padding]

end V9V10TemplateField

section

variable {buf front back : Bytes} {fields : List V9V10TemplateField} {cursor left count : Nat}

theorem serializeFields_whole {newbufsize : Nat} (room : cursor + 16 * fields.length ≤ newbufsize) :
    serializeFields newbufsize fields cursor = fields.flatMap fun field => field.cleared.bytes := by
  induction fields generalizing cursor with
  | nil => rfl
  | cons field fields ih =>
      rw [List.length_cons] at room
      unfold serializeFields
      rw [if_pos (by omega), ih (by omega), List.flatMap_cons]

theorem length_serializeFields :
    (fields.flatMap fun field => field.cleared.bytes).length = 16 * fields.length := by
  induction fields with
  | nil => rfl
  | cons field fields ih =>
      rw [List.flatMap_cons, List.length_append, ih, V9V10TemplateField.length_bytes,
        List.length_cons]
      omega

theorem serializeTemplate_eq (template : SerializableTemplate) :
    serializeTemplate template =
      template.templateInfo.fileBytes ++
        template.fields.flatMap fun field => field.cleared.bytes := by
  have counted := template.counted
  unfold serializeTemplate
  rw [serializeFields_whole]
  unfold SerializableTemplate.newBufferSize
  omega

theorem length_serializeTemplate (template : SerializableTemplate) :
    (serializeTemplate template).length = template.newBufferSize := by
  rw [serializeTemplate_eq, List.length_append, SimpleTemplate.length_fileBytes,
    length_serializeFields, template.counted, Nat.mul_comm]
  rfl

theorem readBytes_whole {middle : Bytes} :
    readBytes (front ++ (middle ++ back)) front.length middle.length = .ok middle := by
  rw [readBytes_drop List.drop_left (by rw [List.length_append]; omega), List.take_left]

theorem deserializeFields_written :
    deserializeFields (front ++ fields.flatMap fun field => field.cleared.bytes) fields.length
      front.length = .ok (fields.map V9V10TemplateField.cleared) := by
  induction fields generalizing front with
  | nil => rfl
  | cons field fields ih =>
      have length := field.cleared.length_bytes
      have read := @readBytes_whole front (fields.flatMap fun field => field.cleared.bytes)
        field.cleared.bytes
      have rest := @ih (front ++ field.cleared.bytes)
      rw [List.append_assoc, List.length_append] at rest
      rw [length] at read rest
      rw [List.length_cons, List.flatMap_cons]
      unfold deserializeFields
      rw [if_pos (by simp only [List.length_append, length]; omega), read]
      dsimp only [bind, Except.bind]
      rw [rest, V9V10TemplateField.ofBytes_bytes]
      rfl

theorem deserializeTemplate_header (header : 16 ≤ buf.length) :
    deserializeTemplate buf =
      (deserializeFields buf (SimpleTemplate.ofBytes (buf.take 16)).fieldCount.toNat 16).map
        fun fields => some { templateInfo := .ofBytes (buf.take 16), fields } := by
  have fieldCount := @readBytes_drop buf _ 10 2 rfl (by rw [List.length_drop]; omega)
  have templateInfo := @readBytes_drop buf buf 0 16 List.drop_zero header
  unfold deserializeTemplate
  rw [fieldCount, templateInfo]
  rfl

theorem deserializeTemplate_serialized (template : SerializableTemplate) :
    deserializeTemplate (serializeTemplate template) =
      .ok (some
        { templateInfo := template.templateInfo
          fields := template.fields.map V9V10TemplateField.cleared }) := by
  have header := template.templateInfo.length_fileBytes
  have fields := @deserializeFields_written template.templateInfo.fileBytes template.fields
  rw [header, template.counted] at fields
  have enough : 16 ≤ (serializeTemplate template).length := by
    rw [length_serializeTemplate]
    exact Nat.le_add_right 16 _
  rw [deserializeTemplate_header enough, serializeTemplate_eq, List.take_left' header,
    SimpleTemplate.ofBytes_fileBytes, fields]
  rfl

/-! What is read of other buffers -/

theorem readBytes_beyond (some : 0 < count) (beyond : buf.length < cursor + count) :
    ∃ fault, readBytes buf cursor count = .error fault := by
  induction count generalizing cursor with
  | zero => contradiction
  | succ count ih =>
      rcases Nat.lt_or_ge cursor buf.length with inside | outside
      · obtain ⟨fault, reads⟩ := @ih (cursor + 1) (by omega) (by omega)
        have byte : readByte buf cursor = .ok buf[cursor] := by
          unfold readByte
          rw [List.getElem?_eq_getElem inside]
        refine ⟨fault, ?_⟩
        unfold readBytes
        rw [byte, reads]
        rfl
      · have byte : readByte buf cursor = .error { index := cursor } := by
          unfold readByte
          rw [List.getElem?_eq_none outside]
        refine ⟨{ index := cursor }, ?_⟩
        unfold readBytes
        rw [byte]
        rfl

theorem not_fault {α : Type} (result : α) :
    ¬∃ fault : BeyondEnd, Except.ok result = .error fault := by
  rintro ⟨fault, same⟩
  contradiction

/-- A field is read beyond the end when the buffer has a part of it. -/
theorem deserializeFields_faults (inside : cursor ≤ buf.length) :
    (∃ fault, deserializeFields buf left cursor = .error fault) ↔
      buf.length < cursor + 16 * left ∧ (buf.length - cursor) % 16 ≠ 0 := by
  induction left generalizing cursor with
  | zero => exact iff_of_false (not_fault _) (by omega)
  | succ left ih =>
      unfold deserializeFields
      rcases Nat.lt_or_ge cursor buf.length with before | ended
      · rw [if_pos before]
        rcases Nat.lt_or_ge buf.length (cursor + 16) with part | whole
        · obtain ⟨fault, reads⟩ := readBytes_beyond (Nat.succ_pos 15) part
          rw [reads]
          exact iff_of_true ⟨fault, rfl⟩ (by omega)
        · have reads := @readBytes_drop buf _ cursor 16 rfl (by rw [List.length_drop]; omega)
          have faults := ih whole
          rw [reads]
          dsimp only [bind, Except.bind]
          cases rest : deserializeFields buf left (cursor + 16) with
          | error fault =>
              rw [rest] at faults
              have beyond := faults.mp ⟨fault, rfl⟩
              exact iff_of_true ⟨fault, rfl⟩ (by omega)
          | ok fields =>
              rw [rest] at faults
              have within := faults.not.mp (not_fault fields)
              exact iff_of_false (not_fault _) (by omega)
      · rw [if_neg (Nat.not_lt.mpr ended)]
        exact iff_of_false (not_fault _) (by omega)

/-- The count of fields in the header, as far as the buffer has it. -/
def announcedFields (buf : Bytes) : Nat :=
  (UInt16.ofNat (hostNat ((buf.drop 10).take 2))).toNat

def TooShort (buf : Bytes) : Prop :=
  buf.length < 16 + announcedFields buf * 16

instance (buf : Bytes) : Decidable (TooShort buf) :=
  inferInstanceAs (Decidable (_ < _))

theorem announcedFields_header :
    (SimpleTemplate.ofBytes (buf.take 16)).fieldCount.toNat = announcedFields buf := by
  unfold SimpleTemplate.ofBytes announcedFields
  dsimp only
  rw [List.drop_take, List.take_take]
  rfl

/-- What is read beyond the end is the header or a part of a field. -/
theorem deserializeTemplate_faults (buf : Bytes) :
    (∃ fault, deserializeTemplate buf = .error fault) ↔
      TooShort buf ∧ (buf.length < 16 ∨ buf.length % 16 ≠ 0) := by
  unfold TooShort
  rcases Nat.lt_or_ge buf.length 16 with cut | header
  · refine iff_of_true ?_ (by omega)
    obtain ⟨fault, reads⟩ := @readBytes_beyond buf 0 16 (Nat.succ_pos 15) (by omega)
    unfold deserializeTemplate
    rw [reads]
    cases readBytes buf 10 2 with
    | error first => exact ⟨first, rfl⟩
    | ok fieldCount => exact ⟨fault, rfl⟩
  · have faults := @deserializeFields_faults buf 16 (announcedFields buf) header
    rw [deserializeTemplate_header header, announcedFields_header]
    cases fields : deserializeFields buf (announcedFields buf) 16 with
    | error fault =>
        rw [fields] at faults
        have beyond := faults.mp ⟨fault, rfl⟩
        exact iff_of_true ⟨fault, rfl⟩ (by omega)
    | ok fields' =>
        rw [fields] at faults
        have within := faults.not.mp (not_fault fields')
        exact iff_of_false (not_fault _) (by omega)

end

/-- A template that the buffer was written from is in it, and a buffer that is too short is
rejected without a look beyond its end. -/
structure DeserializesBuffer (buf : Bytes) : Prop where
  written : ∀ template, serializeTemplate template = buf →
    ∃ loaded, deserializeTemplate buf = .ok (some loaded) ∧
      loaded.templateInfo = template.templateInfo ∧
      loaded.fields.map V9V10TemplateField.layout =
        template.fields.map V9V10TemplateField.layout ∧
      ∀ field ∈ loaded.fields, field.v9Template = 0
  rejected : TooShort buf → deserializeTemplate buf = .ok none

theorem deserializeTemplate_ne_null (buf : Bytes) : deserializeTemplate buf ≠ .ok none := by
  rcases Nat.lt_or_ge buf.length 16 with cut | header
  · obtain ⟨fault, reads⟩ := (deserializeTemplate_faults buf).mpr
      ⟨Nat.lt_of_lt_of_le cut (Nat.le_add_right 16 _), .inl cut⟩
    rw [reads]
    intro same
    cases same
  · rw [deserializeTemplate_header header]
    cases deserializeFields buf (SimpleTemplate.ofBytes (buf.take 16)).fieldCount.toNat 16 with
    | error fault =>
        intro same
        cases same
    | ok fields =>
        intro same
        cases same

/-- Short buffers are told of and then used. -/
theorem deserializesBuffer_iff (buf : Bytes) : DeserializesBuffer buf ↔ ¬TooShort buf := by
  constructor
  · intro deserializes short
    exact deserializeTemplate_ne_null buf (deserializes.rejected short)
  · intro enough
    refine { written := ?_, rejected := fun short => absurd short enough }
    rintro template rfl
    refine ⟨_, deserializeTemplate_serialized template, rfl, ?_, ?_⟩
    · rw [List.map_map]
      rfl
    · intro field cleared
      obtain ⟨field, _, rfl⟩ := List.mem_map.mp cleared
      rfl

/-- The header of a template with a field, and nothing else. -/
def headerOnly : Bytes :=
  oneFieldTemplate.templateInfo.fileBytes

theorem not_deserializesBuffer : ¬DeserializesBuffer headerOnly := by
  intro deserializes
  exact deserializeTemplate_ne_null headerOnly (deserializes.rejected (by decide))

end F2k
