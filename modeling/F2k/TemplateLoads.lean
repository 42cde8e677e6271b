import F2k.Announcements
import F2k.Lib.Heap
import F2k.TemplateNames

namespace F2k

open Lib

/-! A template file and the memory block that it is loaded into: the block has the template and,
behind it, its fields. -/

/-- `V9IpfixSimpleTemplate`, with the byte behind its last member. -/
structure SimpleTemplate where
  netflowDeviceIp : UInt32
  observationDomainId : UInt32
  templateId : UInt16
  fieldCount : UInt16
  scopeFieldLen : UInt16
  isOptionTemplate : Bool
  padding : UInt8

structure CountedTemplate where
  templateInfo : SimpleTemplate
  fields : List TemplateField
  counted : fields.length = templateInfo.fieldCount.toNat

def SimpleTemplate.fileBytes (info : SimpleTemplate) : Bytes :=
  hostBytes 4 info.netflowDeviceIp.toNat ++
    (hostBytes 4 info.observationDomainId.toNat ++
      (hostBytes 2 info.templateId.toNat ++
        (hostBytes 2 info.fieldCount.toNat ++
          (hostBytes 2 info.scopeFieldLen.toNat ++
            [if info.isOptionTemplate then 1 else 0, info.padding]))))

def saveTemplateInFilef (template : CountedTemplate) : Bytes :=
  template.templateInfo.fileBytes ++ template.fields.flatMap TemplateField.fileBytes

/-! Reading a file -/

/-- One item of this size, if the file has as much, and what is left of the file. -/
def fread (size : Nat) (file : Bytes) : Option Bytes × Bytes :=
  if size ≤ file.length then (some (file.take size), file.drop size) else (none, [])

def SimpleTemplate.ofBytes (bytes : Bytes) : SimpleTemplate where
  netflowDeviceIp := UInt32.ofNat (hostNat (bytes.take 4))
  observationDomainId := UInt32.ofNat (hostNat ((bytes.drop 4).take 4))
  templateId := UInt16.ofNat (hostNat ((bytes.drop 8).take 2))
  fieldCount := UInt16.ofNat (hostNat ((bytes.drop 10).take 2))
  scopeFieldLen := UInt16.ofNat (hostNat ((bytes.drop 12).take 2))
  isOptionTemplate := bytes.getD 14 0 != 0
  padding := bytes.getD 15 0

def zeroField : TemplateField where
  fieldId := 0
  fieldLen := 0
  v9Template := none

/-- The block as `calloc` and the copy of the header leave it. -/
def CountedTemplate.ofInfo (info : SimpleTemplate) : CountedTemplate where
  templateInfo := info
  fields := List.replicate info.fieldCount.toNat zeroField
  counted := List.length_replicate

def CountedTemplate.modifyField (template : CountedTemplate) (index : Nat)
    (change : TemplateField → TemplateField) : CountedTemplate where
  templateInfo := template.templateInfo
  fields := template.fields.modify index change
  counted := by rw [List.length_modify, template.counted]

structure BlockPointer where
  block : Nat
  offset : Nat
deriving DecidableEq

inductive BlockFault
  | heap (fault : NotLive)
  /-- A pointer into a block was freed. -/
  | interior (pointer : BlockPointer)
  | beyondBlock

abbrev TemplateHeap := Heap CountedTemplate

namespace TemplateHeap

def free (heap : TemplateHeap) (pointer : BlockPointer) : Except BlockFault TemplateHeap :=
  if pointer.offset = 0 then (Heap.free heap pointer.block).mapError .heap
  else .error (.interior pointer)

def writeField (heap : TemplateHeap) (fields : BlockPointer) (index : Nat)
    (change : TemplateField → TemplateField) : Except BlockFault TemplateHeap := do
  let template ← (heap.read fields.block).mapError .heap
  if index < template.fields.length then
    (heap.write fields.block (template.modifyField index change)).mapError .heap
  else .error .beyondBlock

/-- From this field on; with the heap, whether the fields are still there. A field that is not
read whole has them freed. -/
def loadTemplateFieldsFromFile (fields : BlockPointer) :
    Nat → Nat → TemplateHeap → Bytes → Except BlockFault (TemplateHeap × Bool)
  | 0, _, heap, _ => .ok (heap, true)
  | left + 1, index, heap, file =>
      match fread 2 file with
      | (none, _) => do
          let heap ← heap.free fields
          .ok (heap, false)
      | (some fieldId, file) => do
          let heap ← heap.writeField fields index fun field =>
            { field with fieldId := UInt16.ofNat (hostNat fieldId) }
          match fread 2 file with
          | (none, _) => do
              let heap ← heap.free fields
              .ok (heap, false)
          | (some fieldLen, file) => do
              let heap ← heap.writeField fields index fun field =>
                { field with fieldLen := UInt16.ofNat (hostNat fieldLen) }
              loadTemplateFieldsFromFile fields left (index + 1) heap file

/-- The fields are freed as the start of the template's block plus the size of its head. -/
def loadTemplateFromFile (heap : TemplateHeap) (file : Bytes) :
    Except BlockFault (TemplateHeap × Option BlockPointer) :=
  match fread 16 file with
  | (none, _) => .ok (heap, none)
  | (some templateInfo, file) => do
      let info := SimpleTemplate.ofBytes templateInfo
      let template : BlockPointer := { block := heap.next, offset := 0 }
      let fields : BlockPointer := { block := heap.next, offset := 40 }
      let (heap, fieldsRc) ← loadTemplateFieldsFromFile fields info.fieldCount.toNat 0
        (heap.alloc (.ofInfo info)) file
      if fieldsRc then .ok (heap, some template)
      else do
        let heap ← heap.free template
        .ok (heap, none)

end TemplateHeap

def CountedTemplate.saved (template : CountedTemplate) : SavedTemplate where
  netflowDeviceIp := template.templateInfo.netflowDeviceIp
  observationDomainId := template.templateInfo.observationDomainId
  template :=
    { templateId := template.templateInfo.templateId
      isOptionTemplate := template.templateInfo.isOptionTemplate
      fields := template.fields }

/-! One field after the other -/

section

variable {heap : TemplateHeap} {fields : BlockPointer} {template : CountedTemplate} {file : Bytes}
variable {index left size : Nat}

theorem fread_some (enough : size ≤ file.length) :
    fread size file = (some (file.take size), file.drop size) :=
  if_pos enough

theorem fread_none (short : file.length < size) : fread size file = (none, []) :=
  if_neg (Nat.not_le.mpr short)

theorem TemplateHeap.writeField_live (live : heap.cells fields.block = some template)
    (inside : index < template.fields.length) (change : TemplateField → TemplateField) :
    ∃ after, heap.writeField fields index change = .ok after ∧ after.next = heap.next ∧
      after.cells =
        Function.update heap.cells fields.block (some (template.modifyField index change)) := by
  obtain ⟨after, wrote, next, cells⟩ :=
    @Heap.write_live _ heap fields.block (template.modifyField index change) template live
  refine ⟨after, ?_, next, cells⟩
  unfold writeField
  rw [Heap.read_live live]
  change (if index < template.fields.length then _ else _) = _
  rw [if_pos inside, wrote]
  rfl

theorem TemplateHeap.free_interior (interior : fields.offset ≠ 0) :
    heap.free fields = .error (.interior fields) :=
  if_neg interior

theorem TemplateHeap.loadField (live : heap.cells fields.block = some template)
    (inside : index < template.fields.length) (enough : 4 ≤ file.length) :
    ∃ after loaded,
      loadTemplateFieldsFromFile fields (left + 1) index heap file =
        loadTemplateFieldsFromFile fields left (index + 1) after (file.drop 4) ∧
      after.next = heap.next ∧
      after.cells = Function.update heap.cells fields.block (some loaded) ∧
      loaded.templateInfo = template.templateInfo ∧
      loaded.fields = template.fields.modify index fun field =>
        { field with
          fieldId := UInt16.ofNat (hostNat (file.take 2))
          fieldLen := UInt16.ofNat (hostNat ((file.drop 2).take 2)) } := by
  obtain ⟨first, wroteId, next, cells⟩ := writeField_live live inside fun field =>
    { field with fieldId := UInt16.ofNat (hostNat (file.take 2)) }
  have liveFirst := (congrFun cells fields.block).trans (Function.update_self ..)
  obtain ⟨after, wroteLen, next', cells'⟩ := writeField_live liveFirst
    (show index < _ by
      rw [CountedTemplate.modifyField, List.length_modify]
      exact inside)
    fun field => { field with fieldLen := UInt16.ofNat (hostNat ((file.drop 2).take 2)) }
  rw [cells, Function.update_idem] at cells'
  refine ⟨after, _, ?_, next'.trans next, cells', rfl, ?_⟩
  · rw [loadTemplateFieldsFromFile, fread_some (by omega)]
    dsimp only
    rw [wroteId]
    dsimp only [bind, Except.bind]
    rw [fread_some (by rw [List.length_drop]; omega)]
    dsimp only
    rw [wroteLen, List.drop_drop]
  · simp only [CountedTemplate.modifyField, List.modify_modify_eq]
    rfl

theorem TemplateHeap.loadField_short (live : heap.cells fields.block = some template)
    (inside : index < template.fields.length) (interior : fields.offset ≠ 0)
    (short : file.length < 4) :
    loadTemplateFieldsFromFile fields (left + 1) index heap file = .error (.interior fields) := by
  rw [loadTemplateFieldsFromFile]
  rcases Nat.lt_or_ge file.length 2 with none' | one
  · rw [fread_none none']
    dsimp only
    rw [free_interior interior]
    rfl
  · obtain ⟨first, wroteId, _, _⟩ := writeField_live live inside fun field =>
      { field with fieldId := UInt16.ofNat (hostNat (file.take 2)) }
    rw [fread_some one]
    dsimp only
    rw [wroteId]
    dsimp only [bind, Except.bind]
    rw [fread_none (by rw [List.length_drop]; omega)]
    dsimp only
    rw [free_interior interior]

theorem modify_next {done rest : List TemplateField} (field : TemplateField)
    (change : TemplateField → TemplateField) :
    (done ++ field :: rest).modify done.length change = done ++ change field :: rest := by
  induction done with
  | nil => rfl
  | cons first done ih => exact congrArg (first :: ·) ih

theorem loadTemplateFieldsFromFile_short (short : file.length < 4) :
    loadTemplateFieldsFromFile file.length (left + 1) (.ofBytes file) = none := by
  rw [loadTemplateFieldsFromFile, if_pos short]

theorem loadTemplateFieldsFromFile_some (enough : 4 ≤ file.length) :
    loadTemplateFieldsFromFile file.length (left + 1) (.ofBytes file) =
      (loadTemplateFieldsFromFile (file.drop 4).length left (.ofBytes (file.drop 4))).map
        ({ fieldId := UInt16.ofNat (hostNat (file.take 2))
           fieldLen := UInt16.ofNat (hostNat ((file.drop 2).take 2))
           v9Template := none } :: ·) := by
  rw [loadTemplateFieldsFromFile, if_neg (Nat.not_lt.mpr enough), Mem.shift_ofBytes,
    Mem.shift_ofBytes, Mem.slice_ofBytes_take (by omega),
    Mem.slice_ofBytes_take (by rw [List.length_drop]; omega), List.length_drop]

theorem TemplateHeap.loadFields_whole {done more : List TemplateField}
    (live : heap.cells fields.block = some template)
    (shape : template.fields = done ++ List.replicate left zeroField)
    (read : F2k.loadTemplateFieldsFromFile file.length left (.ofBytes file) = some more) :
    ∃ after loaded,
      loadTemplateFieldsFromFile fields left done.length heap file = .ok (after, true) ∧
      after.cells = Function.update heap.cells fields.block (some loaded) ∧
      loaded.templateInfo = template.templateInfo ∧ loaded.fields = done ++ more := by
  induction left generalizing heap template file done more with
  | zero =>
      obtain rfl := Option.some.inj read
      refine ⟨heap, template, rfl, ?_, rfl, shape⟩
      rw [← live, Function.update_eq_self]
  | succ left ih =>
      rcases Nat.lt_or_ge file.length 4 with short | enough
      · rw [loadTemplateFieldsFromFile_short short] at read
        contradiction
      · rw [loadTemplateFieldsFromFile_some enough, Option.map_eq_some_iff] at read
        obtain ⟨more, read, rfl⟩ := read
        rw [List.replicate_succ] at shape
        have inside : done.length < template.fields.length := by
          rw [shape, List.length_append, List.length_cons]
          omega
        obtain ⟨first, next, ran, _, cells, info, changed⟩ := loadField live inside enough
        rw [shape, modify_next, List.append_cons] at changed
        have liveFirst := (congrFun cells fields.block).trans (Function.update_self ..)
        obtain ⟨after, loaded, ran', cells', info', fields'⟩ := ih liveFirst changed read
        rw [List.length_append, List.length_singleton] at ran'
        refine ⟨after, loaded, ran.trans ran', ?_, info'.trans info, ?_⟩
        · rw [cells', cells, Function.update_idem]
        · rw [fields', List.append_assoc]
          rfl

theorem TemplateHeap.loadFields_short (live : heap.cells fields.block = some template)
    (inside : index + left ≤ template.fields.length) (interior : fields.offset ≠ 0)
    (read : F2k.loadTemplateFieldsFromFile file.length left (.ofBytes file) = none) :
    loadTemplateFieldsFromFile fields left index heap file = .error (.interior fields) := by
  induction left generalizing heap template file index with
  | zero => contradiction
  | succ left ih =>
      rcases Nat.lt_or_ge file.length 4 with short | enough
      · exact loadField_short live (by omega) interior short
      · rw [loadTemplateFieldsFromFile_some enough, Option.map_eq_none_iff] at read
        obtain ⟨first, next, ran, _, cells, _, changed⟩ :=
          @loadField heap fields template file index left live (by omega) enough
        have liveFirst := (congrFun cells fields.block).trans (Function.update_self ..)
        rw [ran]
        apply ih liveFirst _ read
        rw [changed, List.length_modify]
        omega

/-! Whole files -/

theorem hostNat_lt (bytes : Bytes) : hostNat bytes < 256 ^ bytes.length := by
  have lt := beNat_lt bytes.reverse
  rwa [List.length_reverse] at lt

theorem loadTemplateFromFile_some (enough : 16 ≤ file.length) :
    loadTemplateFromFile file =
      (loadTemplateFieldsFromFile (file.drop 16).length
        (SimpleTemplate.ofBytes (file.take 16)).fieldCount.toNat
        (.ofBytes (file.drop 16))).map fun fields =>
          { netflowDeviceIp := (SimpleTemplate.ofBytes (file.take 16)).netflowDeviceIp
            observationDomainId := (SimpleTemplate.ofBytes (file.take 16)).observationDomainId
            template :=
              { templateId := (SimpleTemplate.ofBytes (file.take 16)).templateId
                isOptionTemplate := (SimpleTemplate.ofBytes (file.take 16)).isOptionTemplate
                fields } } := by
  have slices : ∀ start length, start + length ≤ 16 →
      ((Mem.ofBytes file).shift start).slice length =
        ((file.take 16).drop start).take length := by
    intro start length inside
    rw [Mem.shift_ofBytes, Mem.slice_ofBytes_take (by rw [List.length_drop]; omega),
      List.drop_take, List.take_take, Nat.min_eq_left (by omega)]
  have front := slices 0 4 (by decide)
  rw [Mem.shift_zero, List.drop_zero] at front
  have count : (UInt16.ofNat (hostNat (((file.take 16).drop 10).take 2))).toNat =
      hostNat (((file.take 16).drop 10).take 2) := by
    apply UInt16.toNat_ofNat_of_lt'
    have lt := hostNat_lt (((file.take 16).drop 10).take 2)
    have length : (((file.take 16).drop 10).take 2).length = 2 := by
      simp only [List.length_take, List.length_drop]
      omega
    rw [length] at lt
    exact lt
  have flag : Mem.ofBytes file 14 = (file.take 16).getD 14 0 := by
    simp [Mem.ofBytes]
  unfold loadTemplateFromFile SimpleTemplate.ofBytes
  dsimp only
  rw [if_neg (Nat.not_lt.mpr enough), slices 10 2 (by decide), slices 4 4 (by decide),
    slices 8 2 (by decide), front, count, flag, Mem.shift_ofBytes, List.length_drop]

theorem TemplateHeap.loadTemplateFromFile_loads {saved : SavedTemplate}
    (read : F2k.loadTemplateFromFile file = some saved) :
    ∃ after loaded,
      heap.loadTemplateFromFile file = .ok (after, some { block := heap.next, offset := 0 }) ∧
      after.cells = Function.update heap.cells heap.next (some loaded) ∧
      loaded.saved = saved := by
  rcases Nat.lt_or_ge file.length 16 with short | enough
  · unfold F2k.loadTemplateFromFile at read
    rw [if_pos short] at read
    contradiction
  · rw [loadTemplateFromFile_some enough, Option.map_eq_some_iff] at read
    obtain ⟨more, read, rfl⟩ := read
    obtain ⟨after, loaded, ran, cells, info, fields⟩ :=
      @loadFields_whole _ { block := heap.next, offset := 40 } _ _ _ [] more
        (@Heap.alloc_self _ heap (.ofInfo (SimpleTemplate.ofBytes (file.take 16)))) rfl read
    refine ⟨after, loaded, ?_, ?_, ?_⟩
    · unfold loadTemplateFromFile
      rw [fread_some enough]
      dsimp only
      rw [List.length_nil] at ran
      rw [ran]
      rfl
    · rw [cells]
      exact Function.update_idem ..
    · unfold CountedTemplate.saved
      rw [info, fields]
      rfl

theorem TemplateHeap.loadTemplateFromFile_fails
    (read : F2k.loadTemplateFromFile file = none) :
    heap.loadTemplateFromFile file =
      if file.length < 16 then .ok (heap, none)
      else .error (.interior { block := heap.next, offset := 40 }) := by
  rcases Nat.lt_or_ge file.length 16 with short | enough
  · unfold loadTemplateFromFile
    rw [fread_none short, if_pos short]
  · rw [loadTemplateFromFile_some enough, Option.map_eq_none_iff] at read
    unfold loadTemplateFromFile
    rw [fread_some enough, if_neg (Nat.not_lt.mpr enough)]
    dsimp only
    rw [@loadFields_short _ { block := heap.next, offset := 40 } _ _ 0 _
      (@Heap.alloc_self _ heap (.ofInfo (SimpleTemplate.ofBytes (file.take 16))))
      (by rw [Nat.zero_add]; exact Nat.le_of_eq List.length_replicate.symm) (Nat.succ_ne_zero 39) read]
    rfl

end

/-! What is written -/

/-- The file is loaded into a new block, which has what is known of the template. -/
def LoadsAs (heap : TemplateHeap) (file : Bytes) (template : CountedTemplate) : Prop :=
  ∃ after loaded,
    heap.loadTemplateFromFile file = .ok (after, some { block := heap.next, offset := 0 }) ∧
    after.cells = Function.update heap.cells heap.next (some loaded) ∧
    loaded.templateInfo.templateId = template.templateInfo.templateId ∧
    loaded.templateInfo.observationDomainId = template.templateInfo.observationDomainId ∧
    loaded.templateInfo.netflowDeviceIp = template.templateInfo.netflowDeviceIp ∧
    loaded.templateInfo.isOptionTemplate = template.templateInfo.isOptionTemplate ∧
    loaded.fields.map TemplateField.layout = template.fields.map TemplateField.layout

/-- Nothing is loaded: what was allocated is freed, and nothing else. -/
def LoadsNothing (heap : TemplateHeap) (file : Bytes) : Prop :=
  ∃ after, heap.loadTemplateFromFile file = .ok (after, none) ∧ after.cells = heap.cells

/-- The device, the observation domain and the template id. -/
def CountedTemplate.key (template : CountedTemplate) : UInt32 × UInt32 × UInt16 :=
  (template.templateInfo.netflowDeviceIp, template.templateInfo.observationDomainId,
    template.templateInfo.templateId)

/-- Of the file of a template, so many bytes are there when it is loaded. -/
structure KeepsTemplate (heap : TemplateHeap) (template : CountedTemplate) (kept : Nat) :
    Prop where
  whole : (saveTemplateInFilef template).length ≤ kept →
    LoadsAs heap ((saveTemplateInFilef template).take kept) template
  cut : kept < (saveTemplateInFilef template).length →
    LoadsNothing heap ((saveTemplateInFilef template).take kept)
  named : ∀ path, ∃ name, NamedIn (templateFilename path template.saved) name ∧
    (∀ other, NamedIn (templateFilename path template.saved) other → other = name) ∧
      validTemplateFilename name = true
  apart : ∀ path other, CountedTemplate.key other ≠ template.key →
    templateFilename path other.saved ≠ templateFilename path template.saved

section

variable {heap : TemplateHeap} {template : CountedTemplate} {kept : Nat}

theorem SimpleTemplate.length_fileBytes (info : SimpleTemplate) : info.fileBytes.length = 16 := by
  simp [fileBytes]

theorem length_saveTemplateInFilef (template : CountedTemplate) :
    (saveTemplateInFilef template).length = 16 + 4 * template.fields.length := by
  rw [saveTemplateInFilef, List.length_append, SimpleTemplate.length_fileBytes, length_fileBytes]

theorem loadTemplateFromFile_written (template : CountedTemplate) :
    loadTemplateFromFile (saveTemplateInFilef template) = some template.saved.withoutElements := by
  have few : template.fields.length < 65536 := by
    rw [template.counted]
    exact template.templateInfo.fieldCount.toNat_lt
  have read := @loadTemplateFromFile_of_info template.saved
    (hostBytes 2 template.templateInfo.scopeFieldLen.toNat) _ template.templateInfo.padding few
    (length_hostBytes _ _) (flagByte template.templateInfo.isOptionTemplate)
  rw [← read]
  unfold saveTemplateInFilef SimpleTemplate.fileBytes
  rw [← template.counted]
  rfl

theorem loadsAs_written (heap : TemplateHeap) (template : CountedTemplate) :
    LoadsAs heap (saveTemplateInFilef template) template := by
  obtain ⟨after, loaded, ran, cells, same⟩ :=
    @TemplateHeap.loadTemplateFromFile_loads heap _ _ (loadTemplateFromFile_written template)
  have layouts := congrArg (fun saved => saved.template.fields.map TemplateField.layout) same
  refine ⟨after, loaded, ran, cells, congrArg (·.template.templateId) same,
    congrArg (·.observationDomainId) same, congrArg (·.netflowDeviceIp) same,
    congrArg (·.template.isOptionTemplate) same, layouts.trans ?_⟩
  simp only [SavedTemplate.withoutElements, List.map_map]
  rfl

theorem loadTemplateFieldsFromFile_length {size left : Nat} {memory : Mem}
    {more : List TemplateField} (read : loadTemplateFieldsFromFile size left memory = some more) :
    more.length = left ∧ 4 * left ≤ size := by
  induction left generalizing size memory more with
  | zero =>
      obtain rfl := Option.some.inj read
      exact ⟨rfl, Nat.zero_le _⟩
  | succ left ih =>
      unfold loadTemplateFieldsFromFile at read
      split at read
      · contradiction
      · next enough =>
          dsimp only at read
          rw [Option.map_eq_some_iff] at read
          obtain ⟨rest, read, rfl⟩ := read
          obtain ⟨length, fits⟩ := ih read
          exact ⟨congrArg (· + 1) length, by omega⟩

/-- The file of a template counts its fields. -/
theorem counted_fileBytes (template : CountedTemplate) :
    (SimpleTemplate.ofBytes ((saveTemplateInFilef template).take 16)).fieldCount.toNat =
      template.fields.length := by
  have length := length_saveTemplateInFilef template
  have read := loadTemplateFromFile_written template
  rw [loadTemplateFromFile_some (by omega), Option.map_eq_some_iff] at read
  obtain ⟨more, read, same⟩ := read
  have fields := congrArg (·.template.fields.length) same
  rw [← (loadTemplateFieldsFromFile_length read).1]
  exact fields.trans (List.length_map _)

/-- A file that is cut has less fields than its head counts. -/
theorem loadTemplateFromFile_cut (cut : kept < (saveTemplateInFilef template).length) :
    loadTemplateFromFile ((saveTemplateInFilef template).take kept) = none := by
  have length := length_saveTemplateInFilef template
  have left : ((saveTemplateInFilef template).take kept).length = kept :=
    List.length_take_of_le (Nat.le_of_lt cut)
  rcases Nat.lt_or_ge kept 16 with short | enough
  · unfold loadTemplateFromFile
    rw [if_pos (by omega)]
  · rw [loadTemplateFromFile_some (by omega), List.take_take, Nat.min_eq_left enough,
      counted_fileBytes, Option.map_eq_none_iff]
    cases read : loadTemplateFieldsFromFile _ template.fields.length _ with
    | none => rfl
    | some more =>
        have fits := (loadTemplateFieldsFromFile_length read).2
        rw [List.length_drop] at fits
        omega

theorem CountedTemplate.key_eq_iff {other : CountedTemplate} :
    other.key = template.key ↔
      createTemplateFilename other.saved = createTemplateFilename template.saved := by
  rw [createTemplateFilename_inj]
  unfold key
  rw [Prod.mk.injEq, Prod.mk.injEq]
  rfl

/-- The file is loaded when it is whole, and left alone when its head is not. Between the two, a
pointer into the block is freed. -/
theorem keepsTemplate_iff (heap : TemplateHeap) (template : CountedTemplate) (kept : Nat) :
    KeepsTemplate heap template kept ↔ kept < 16 ∨ 16 + 4 * template.fields.length ≤ kept := by
  have length := length_saveTemplateInFilef template
  rw [← length]
  constructor
  · intro keeps
    rcases Nat.lt_or_ge kept (saveTemplateInFilef template).length with cut | whole
    · obtain ⟨after, ran, _⟩ := keeps.cut cut
      rw [TemplateHeap.loadTemplateFromFile_fails (loadTemplateFromFile_cut cut)] at ran
      split at ran
      · next short =>
          rw [List.length_take_of_le (Nat.le_of_lt cut)] at short
          exact .inl short
      · cases ran
    · exact .inr whole
  · intro condition
    refine { whole := ?_, cut := ?_, named := ?_, apart := ?_ }
    · intro whole
      rw [List.take_of_length_le whole]
      exact loadsAs_written heap template
    · intro cut
      have short : kept < 16 := by omega
      refine ⟨heap, ?_, rfl⟩
      rw [TemplateHeap.loadTemplateFromFile_fails (loadTemplateFromFile_cut cut), if_pos]
      rwa [List.length_take_of_le (Nat.le_of_lt cut)]
    · intro path
      have named := namedIn_templateFilename path template.saved
      exact ⟨_, named, fun other => named.unique, validTemplateFilename_created template.saved⟩
    · intro path other differ same
      rw [templateFilename_eq, templateFilename_eq] at same
      have names := (List.cons.inj (List.append_cancel_left same)).2
      exact differ (CountedTemplate.key_eq_iff.mpr names)

def oneFieldTemplate : CountedTemplate where
  templateInfo :=
    { netflowDeviceIp := 0x7f000001
      observationDomainId := 0
      templateId := 256
      fieldCount := 1
      scopeFieldLen := 0
      isOptionTemplate := false
      padding := 0 }
  fields := [{ fieldId := 1, fieldLen := 8, v9Template := none }]
  counted := rfl

/-- One field, of which the file has three bytes. -/
theorem not_keepsTemplate : ¬KeepsTemplate .empty oneFieldTemplate 19 := by
  intro keeps
  have length : (saveTemplateInFilef oneFieldTemplate).length = 20 :=
    length_saveTemplateInFilef oneFieldTemplate
  have cut : 19 < (saveTemplateInFilef oneFieldTemplate).length := by omega
  obtain ⟨after, ran, _⟩ := keeps.cut cut
  rw [TemplateHeap.loadTemplateFromFile_fails (loadTemplateFromFile_cut cut),
    List.length_take_of_le (Nat.le_of_lt cut)] at ran
  cases ran

end

end F2k
