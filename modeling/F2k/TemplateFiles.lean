import F2k.NetAddress
import F2k.Lib.Table
import F2k.Template

namespace F2k

open Lib

/-! Templates in files, one for each template of an observation domain. -/

structure SavedTemplate where
  netflowDeviceIp : UInt32
  observationDomainId : UInt32
  template : FlowSetV9Ipfix

/-- Integers are written as the host has them in memory. -/
def hostBytes (length number : Nat) : Bytes :=
  (toBe length number).reverse

def hostNat (bytes : Bytes) : Nat :=
  beNat bytes.reverse

def TemplateField.fileBytes (field : TemplateField) : Bytes :=
  hostBytes 2 field.fieldId.toNat ++ hostBytes 2 field.fieldLen.toNat

namespace SavedTemplate

/-- `V9IpfixSimpleTemplate`; the length of the scope is always zero, and one byte is padding. -/
def templateInfo (saved : SavedTemplate) : Bytes :=
  hostBytes 4 saved.netflowDeviceIp.toNat ++
    (hostBytes 4 saved.observationDomainId.toNat ++
      (hostBytes 2 saved.template.templateId.toNat ++
        (hostBytes 2 saved.template.fieldCount ++
          (hostBytes 2 0 ++ [if saved.template.isOptionTemplate then 1 else 0, 0]))))

end SavedTemplate

def saveTemplateInFile (saved : SavedTemplate) : Bytes :=
  saved.templateInfo ++ saved.template.fields.flatMap TemplateField.fileBytes

/-- The name of the file in its directory. -/
def createTemplateFilename (saved : SavedTemplate) : Bytes :=
  showIpv4 saved.netflowDeviceIp.toBitVec ++
    (ascii "_" ++
      (decimal saved.observationDomainId.toNat ++
        (ascii "_" ++ decimal saved.template.templateId.toNat))) ++ ascii ".dat"

/-! Reading them back -/

def loadTemplateFieldsFromFile (size : Nat) : Nat → Mem → Option (List TemplateField)
  | 0, _ => some []
  | fieldCount + 1, file =>
      if size < 4 then none
      else
        let field : TemplateField :=
          { fieldId := UInt16.ofNat (hostNat (file.slice 2))
            fieldLen := UInt16.ofNat (hostNat ((file.shift 2).slice 2))
            v9Template := none }
        (loadTemplateFieldsFromFile (size - 4) fieldCount (file.shift 4)).map (field :: ·)

def loadTemplateFromFile (file : Bytes) : Option SavedTemplate :=
  if file.length < 16 then none
  else
    let info : Mem := .ofBytes file
    (loadTemplateFieldsFromFile (file.length - 16) (hostNat ((info.shift 10).slice 2))
        (info.shift 16)).map fun fields =>
      { netflowDeviceIp := UInt32.ofNat (hostNat (info.slice 4))
        observationDomainId := UInt32.ofNat (hostNat ((info.shift 4).slice 4))
        template :=
          { templateId := UInt16.ofNat (hostNat ((info.shift 8).slice 2))
            isOptionTemplate := info 14 != 0
            fields } }

def allowedByte (byte : UInt8) : Bool :=
  isDigit byte || byte == 95 || byte == 46

def validTemplateFilename (name : Bytes) : Bool :=
  decide (4 ≤ name.length) && (name.take (name.length - 4)).all allowedByte

/-- The files of the directory, by their names in it. -/
abbrev Directory := Table Bytes Bytes

/-- `fopen` of the path and the name, as many bytes of them as the buffer has room for. -/
def Directory.openFile (directory : Directory) (path name : Bytes) : Option Bytes :=
  if path.length < 1022 then directory.lookup (name.take (1022 - path.length)) else none

/-- The templates that `loadTemplates` hands on, in the order in which the directory is read. -/
def loadedTemplates (path : Bytes) (directory : Directory) (names : List Bytes) :
    List SavedTemplate :=
  if path = [] then []
  else
    names.filterMap fun name =>
      if name = ascii "." ∨ name = ascii ".." then none
      else if validTemplateFilename name then
        (directory.openFile path name).bind loadTemplateFromFile
      else none

/-! What is written is read back -/

theorem hostNat_hostBytes {length number : Nat} (fits : number < 256 ^ length) :
    hostNat (hostBytes length number) = number := by
  rw [hostNat, hostBytes, List.reverse_reverse, beNat_toBe, Nat.mod_eq_of_lt fits]

@[simp] theorem length_hostBytes (length number : Nat) :
    (hostBytes length number).length = length := by
  rw [hostBytes, List.length_reverse, length_toBe]

theorem hostNat_of_startsWith {memory : Mem} {length number : Nat} (fits : number < 256 ^ length)
    (starts : memory.StartsWith (hostBytes length number)) :
    hostNat (memory.slice length) = number := by
  rw [Mem.StartsWith, length_hostBytes] at starts
  rw [starts, hostNat_hostBytes fits]

def TemplateField.withoutElement (field : TemplateField) : TemplateField :=
  { field with v9Template := none }

/-- The elements are looked up again when the template is saved. -/
def SavedTemplate.withoutElements (saved : SavedTemplate) : SavedTemplate :=
  { saved with
    template :=
      { saved.template with
        fields := saved.template.fields.map TemplateField.withoutElement } }

theorem loadTemplateFieldsFromFile_saved {fields : List TemplateField} {file : Mem} {size : Nat}
    (starts : file.StartsWith (fields.flatMap TemplateField.fileBytes))
    (room : 4 * fields.length ≤ size) :
    loadTemplateFieldsFromFile size fields.length file =
      some (fields.map TemplateField.withoutElement) := by
  induction fields generalizing file size with
  | nil => rfl
  | cons field rest ih =>
      rw [List.length_cons] at room
      rw [List.flatMap_cons, TemplateField.fileBytes, List.append_assoc, Mem.startsWith_append,
        Mem.startsWith_append, Mem.shift_shift, length_hostBytes, length_hostBytes] at starts
      obtain ⟨idStarts, lenStarts, restStarts⟩ := starts
      have id := hostNat_of_startsWith field.fieldId.toNat_lt idStarts
      have len := hostNat_of_startsWith field.fieldLen.toNat_lt lenStarts
      have more := ih restStarts (show 4 * rest.length ≤ size - 4 by omega)
      simp only [List.length_cons, loadTemplateFieldsFromFile]
      rw [if_neg (by omega), id, len, more]
      simp only [Option.map_some, List.map_cons, UInt16.ofNat_toNat]
      rfl

theorem length_fileBytes (fields : List TemplateField) :
    (fields.flatMap TemplateField.fileBytes).length = 4 * fields.length := by
  induction fields with
  | nil => rfl
  | cons field rest ih =>
      rw [List.flatMap_cons, List.length_append, ih, TemplateField.fileBytes, List.length_append,
        length_hostBytes, length_hostBytes, List.length_cons]
      omega

theorem flagByte (flag : Bool) : ((if flag then 1 else 0 : UInt8) != 0) = flag := by
  cases flag with
  | false => rfl
  | true => rfl

/-- Whatever stands for the scope and behind the flag. -/
theorem loadTemplateFromFile_of_info {saved : SavedTemplate} {scope : Bytes} {flag padding : UInt8}
    (few : saved.template.fieldCount < 65536) (scopeLength : scope.length = 2)
    (flagged : (flag != 0) = saved.template.isOptionTemplate) :
    loadTemplateFromFile
        ((hostBytes 4 saved.netflowDeviceIp.toNat ++
          (hostBytes 4 saved.observationDomainId.toNat ++
            (hostBytes 2 saved.template.templateId.toNat ++
              (hostBytes 2 saved.template.fieldCount ++ (scope ++ [flag, padding]))))) ++
          saved.template.fields.flatMap TemplateField.fileBytes) = some saved.withoutElements := by
  generalize infoBytes : hostBytes 4 saved.netflowDeviceIp.toNat ++ _ = written
  have infoLength : written.length = 16 := by
    simp [← infoBytes, scopeLength]
  have starts := Mem.startsWith_ofBytes
    (written ++ saved.template.fields.flatMap TemplateField.fileBytes)
  have length : (written ++ saved.template.fields.flatMap TemplateField.fileBytes).length =
      16 + 4 * saved.template.fieldCount := by
    rw [List.length_append, infoLength, length_fileBytes]
    rfl
  have fieldsStart := (Mem.startsWith_append.mp starts).2
  rw [infoLength] at fieldsStart
  have fields := loadTemplateFieldsFromFile_saved fieldsStart
    (show 4 * saved.template.fields.length ≤
        (written ++ saved.template.fields.flatMap TemplateField.fileBytes).length - 16 by
      rw [length, FlowSetV9Ipfix.fieldCount]
      omega)
  have info := (Mem.startsWith_append.mp starts).1
  simp only [← infoBytes, Mem.startsWith_append, Mem.shift_shift, length_hostBytes] at info
  rw [infoBytes] at info
  obtain ⟨ip, domain, id, count, _, kind⟩ := info
  rw [scopeLength] at kind
  have isOption : Mem.ofBytes (written ++ saved.template.fields.flatMap TemplateField.fileBytes)
      14 = flag := by
    have first := congrArg List.head? kind
    simpa [Mem.slice_succ] using first
  have ipRead := hostNat_of_startsWith saved.netflowDeviceIp.toNat_lt ip
  have domainRead := hostNat_of_startsWith saved.observationDomainId.toNat_lt domain
  have idRead := hostNat_of_startsWith saved.template.templateId.toNat_lt id
  have countRead := hostNat_of_startsWith few count
  simp only [loadTemplateFromFile]
  rw [if_neg (by omega), countRead, ipRead, domainRead, idRead, isOption]
  change (loadTemplateFieldsFromFile _ saved.template.fields.length _).map _ = _
  rw [fields]
  simp only [Option.map_some, UInt32.ofNat_toNat, UInt16.ofNat_toNat, flagged]
  rfl

theorem loadTemplateFromFile_saved {saved : SavedTemplate}
    (few : saved.template.fieldCount < 65536) :
    loadTemplateFromFile (saveTemplateInFile saved) = some saved.withoutElements :=
  loadTemplateFromFile_of_info few (length_hostBytes 2 0) (flagByte saved.template.isOptionTemplate)

/-! Names -/

theorem isDigit_decimal (number : Nat) : ∀ byte ∈ decimal number, isDigit byte = true := by
  intro byte member
  obtain ⟨character, digit, rfl⟩ := List.mem_map.mp member
  have known := Nat.isDigit_of_mem_toDigits (by decide) (by decide) digit
  obtain ⟨low, high⟩ := (Bool.and_eq_true _ _).mp known
  have lowNat : 48 ≤ character.toNat := of_decide_eq_true low
  have highNat : character.toNat ≤ 57 := of_decide_eq_true high
  have number : (UInt8.ofNat character.toNat).toNat = character.toNat := by
    rw [UInt8.toNat_ofNat']
    omega
  rw [isDigit, Bool.and_eq_true, decide_eq_true_eq, decide_eq_true_eq, UInt8.le_iff_toNat_le,
    UInt8.le_iff_toNat_le, number]
  exact ⟨lowNat, highNat⟩

theorem allowedByte_decimal (number : Nat) : (decimal number).all allowedByte = true := by
  rw [List.all_eq_true]
  intro byte member
  rw [allowedByte, isDigit_decimal number byte member]
  rfl

/-- Every name that is written is one that is read. -/
theorem validTemplateFilename_created (saved : SavedTemplate) :
    validTemplateFilename (createTemplateFilename saved) = true := by
  unfold createTemplateFilename validTemplateFilename
  generalize stem : showIpv4 saved.netflowDeviceIp.toBitVec ++ _ = name
  have suffix : (ascii ".dat").length = 4 := rfl
  rw [List.length_append, suffix, Nat.add_sub_cancel, List.take_left', Bool.and_eq_true]
  · refine ⟨decide_eq_true (Nat.le_add_left _ _), ?_⟩
    have mark : ascii "_" = [95] := rfl
    have dot : ascii "." = [46] := rfl
    simp only [← stem, showIpv4, mark, dot, List.all_append, allowedByte_decimal]
    rfl
  · rfl

theorem four_le_length_createTemplateFilename (saved : SavedTemplate) :
    4 ≤ (createTemplateFilename saved).length := by
  have suffix : (ascii ".dat").length = 4 := rfl
  rw [createTemplateFilename, List.length_append, suffix]
  exact Nat.le_add_left 4 _

theorem length_decimal_le {number digits : Nat} (some : 0 < digits)
    (small : number < 10 ^ digits) : (decimal number).length ≤ digits := by
  rw [decimal, List.length_map]
  exact (Nat.length_toDigits_le_iff (by decide) some).mpr small

theorem length_showIpv4_le (bits : BitVec 32) : (showIpv4 bits).length ≤ 15 := by
  have octet : ∀ byte : BitVec 8, (decimal byte.toNat).length ≤ 3 := by
    intro byte
    have lt := byte.isLt
    exact length_decimal_le (by decide) (by omega)
  have first := octet ((bits >>> (24 - 8 * 0)).setWidth 8)
  have second := octet ((bits >>> (24 - 8 * 1)).setWidth 8)
  have third := octet ((bits >>> (24 - 8 * 2)).setWidth 8)
  have fourth := octet ((bits >>> (24 - 8 * 3)).setWidth 8)
  have dot : (ascii ".").length = 1 := rfl
  simp only [showIpv4, List.length_append, dot]
  omega

theorem length_createTemplateFilename_le (saved : SavedTemplate) :
    (createTemplateFilename saved).length ≤ 36 := by
  have ip := length_showIpv4_le saved.netflowDeviceIp.toBitVec
  have domainLt := saved.observationDomainId.toNat_lt
  have idLt := saved.template.templateId.toNat_lt
  have domain : (decimal saved.observationDomainId.toNat).length ≤ 10 :=
    length_decimal_le (by decide) (by omega)
  have id : (decimal saved.template.templateId.toNat).length ≤ 5 :=
    length_decimal_le (by decide) (by omega)
  have mark : (ascii "_").length = 1 := rfl
  have suffix : (ascii ".dat").length = 4 := rfl
  simp only [createTemplateFilename, List.length_append, mark, suffix]
  omega

/-- A template whose file is there is loaded, when the path leaves room for its name. -/
theorem loadedTemplates_of_saved {path : Bytes} {directory : Directory} {names : List Bytes}
    {saved : SavedTemplate} (few : saved.template.fieldCount < 65536) (set : path ≠ [])
    (room : path.length < 987)
    (stored : directory.lookup (createTemplateFilename saved) = some (saveTemplateInFile saved))
    (listed : createTemplateFilename saved ∈ names) :
    saved.withoutElements ∈ loadedTemplates path directory names := by
  have long := four_le_length_createTemplateFilename saved
  have notLonger := length_createTemplateFilename_le saved
  have valid := validTemplateFilename_created saved
  have own : createTemplateFilename saved ≠ ascii "." ∧
      createTemplateFilename saved ≠ ascii ".." := by
    constructor
    · intro same
      rw [same] at long
      exact absurd long (by decide)
    · intro same
      rw [same] at long
      exact absurd long (by decide)
  have opened : directory.openFile path (createTemplateFilename saved) =
      some (saveTemplateInFile saved) := by
    rw [Directory.openFile, if_pos (by omega), List.take_of_length_le (by omega), stored]
  rw [loadedTemplates, if_neg set, List.mem_filterMap]
  refine ⟨_, listed, ?_⟩
  rw [if_neg (not_or.mpr own), if_pos valid, opened, Option.bind_some,
    loadTemplateFromFile_saved few]

end F2k
