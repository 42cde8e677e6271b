import F2k.Lib.Decimal
import F2k.TemplateFiles

namespace F2k

open Lib

/-! The names of template files: each is one that is read, and tells its template from others. -/

/-- `templates_database_path`, an array of `PATH_MAX` bytes. -/
structure TemplatesDatabasePath where
  text : Bytes
  fits : text.length < 4096

/-- `create_template_filename` with a buffer of `BUFSIZ` bytes. -/
def templateFilename (databasePath : TemplatesDatabasePath) (saved : SavedTemplate) : Bytes :=
  (databasePath.text ++ 47 :: createTemplateFilename saved).take (8192 - 1)

/-- The file of this path is listed in its directory under this name. -/
def NamedIn (path name : Bytes) : Prop :=
  ∃ directory, path = directory ++ 47 :: name ∧ 47 ∉ name

section

variable {one other back back' : Bytes} {number : Nat} {separator : UInt8}

theorem separated_inj (plain : separator ∉ one) (plain' : separator ∉ other)
    (same : one ++ separator :: back = other ++ separator :: back') :
    one = other ∧ back = back' := by
  rcases List.append_eq_append_iff.mp same with ⟨more, rfl, rest⟩ | ⟨more, rfl, rest⟩
  · cases more with
    | nil => exact ⟨(List.append_nil one).symm, (List.cons.inj rest).2⟩
    | cons first more =>
        rw [(List.cons.inj rest).1] at plain'
        exact absurd (List.mem_append_right one List.mem_cons_self) plain'
  · cases more with
    | nil => exact ⟨List.append_nil other, (List.cons.inj rest).2.symm⟩
    | cons first more =>
        rw [(List.cons.inj rest).1] at plain
        exact absurd (List.mem_append_right other List.mem_cons_self) plain

theorem decimal_inj {number other : Nat} (same : decimal number = decimal other) :
    number = other := by
  rw [← decimalValue_decimal number, same, decimalValue_decimal]

theorem decimal_plain {byte : UInt8} (noDigit : isDigit byte = false) : byte ∉ decimal number := by
  intro member
  rw [isDigit_decimal number byte member] at noDigit
  contradiction

theorem octet_eq {one other : BitVec 32} (index : Nat)
    (same : decimal ((one >>> index).setWidth 8).toNat =
      decimal ((other >>> index).setWidth 8).toNat) :
    one.toNat / 2 ^ index % 256 = other.toNat / 2 ^ index % 256 := by
  have octets := decimal_inj same
  simpa [Nat.shiftRight_eq_div_pow] using octets

theorem showIpv4_inj {one other : BitVec 32} (same : showIpv4 one = showIpv4 other) :
    one = other := by
  have dot : ascii "." = [46] := rfl
  have plain : ∀ number, (46 : UInt8) ∉ decimal number := fun number => decimal_plain rfl
  simp only [showIpv4, dot, List.append_assoc, List.cons_append, List.nil_append] at same
  obtain ⟨first, same⟩ := separated_inj (plain _) (plain _) same
  obtain ⟨second, same⟩ := separated_inj (plain _) (plain _) same
  obtain ⟨third, fourth⟩ := separated_inj (plain _) (plain _) same
  have first := octet_eq _ first
  have second := octet_eq _ second
  have third := octet_eq _ third
  have fourth := octet_eq _ fourth
  have oneLt := one.isLt
  have otherLt := other.isLt
  apply BitVec.eq_of_toNat_eq
  omega

theorem showIpv4_plain {byte : UInt8} (noDigit : isDigit byte = false) (noDot : byte ≠ 46)
    (bits : BitVec 32) : byte ∉ showIpv4 bits := by
  have dot : ascii "." = [46] := rfl
  simp only [showIpv4, dot, List.mem_append, List.mem_singleton, noDot, or_false,
    decimal_plain noDigit, not_false_eq_true]

/-- The three numbers are what the name is made of. -/
theorem createTemplateFilename_inj {one other : SavedTemplate} :
    createTemplateFilename one = createTemplateFilename other ↔
      one.netflowDeviceIp = other.netflowDeviceIp ∧
        one.observationDomainId = other.observationDomainId ∧
          one.template.templateId = other.template.templateId := by
  constructor
  · intro same
    have mark : ascii "_" = [95] := rfl
    have plain : ∀ number, (95 : UInt8) ∉ decimal number := fun number => decimal_plain rfl
    have ipPlain : ∀ bits, (95 : UInt8) ∉ showIpv4 bits := showIpv4_plain rfl (by decide)
    unfold createTemplateFilename at same
    have same := List.append_cancel_right same
    simp only [mark, List.singleton_append] at same
    obtain ⟨ip, same⟩ := separated_inj (ipPlain _) (ipPlain _) same
    obtain ⟨domain, id⟩ := separated_inj (plain _) (plain _) same
    exact ⟨UInt32.toBitVec_inj.mp (showIpv4_inj ip), UInt32.toNat_inj.mp (decimal_inj domain),
      UInt16.toNat_inj.mp (decimal_inj id)⟩
  · intro same
    obtain ⟨ip, domain, id⟩ := same
    unfold createTemplateFilename
    rw [ip, domain, id]

end

/-! Where the file is -/

section

variable {path name other : Bytes}

theorem NamedIn.unique (named : NamedIn path name) (named' : NamedIn path other) :
    other = name := by
  obtain ⟨directory, rfl, plain⟩ := named
  obtain ⟨directory', same, plain'⟩ := named'
  have reversed := congrArg List.reverse same
  simp only [List.reverse_append, List.reverse_cons, List.append_assoc, List.singleton_append]
    at reversed
  have names := separated_inj (by simpa using plain) (by simpa using plain') reversed
  exact (List.reverse_inj.mp names.1).symm

theorem templateFilename_eq (databasePath : TemplatesDatabasePath) (saved : SavedTemplate) :
    templateFilename databasePath saved =
      databasePath.text ++ 47 :: createTemplateFilename saved := by
  have notLonger := length_createTemplateFilename_le saved
  have fits := databasePath.fits
  unfold templateFilename
  apply List.take_of_length_le
  rw [List.length_append, List.length_cons]
  omega

theorem namedIn_templateFilename (databasePath : TemplatesDatabasePath) (saved : SavedTemplate) :
    NamedIn (templateFilename databasePath saved) (createTemplateFilename saved) := by
  refine ⟨databasePath.text, templateFilename_eq databasePath saved, ?_⟩
  have mark : ascii "_" = [95] := rfl
  have suffix : ascii ".dat" = [46, 100, 97, 116] := rfl
  unfold createTemplateFilename
  simp only [mark, suffix, List.mem_append, showIpv4_plain (show isDigit 47 = false from rfl)
    (show (47 : UInt8) ≠ 46 by decide), decimal_plain (show isDigit 47 = false from rfl)]
  decide

end

end F2k
