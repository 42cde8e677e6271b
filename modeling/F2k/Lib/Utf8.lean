import F2k.Lib.Memory

namespace F2k.Lib

/-! Texts in UTF-8, as bytes. -/

namespace Utf8

def IsTail (byte : UInt8) : Prop :=
  128 ≤ byte.toNat ∧ byte.toNat < 192

instance : DecidablePred IsTail := fun _ => inferInstanceAs (Decidable (_ ∧ _))

/-- Second bytes that the first one of three leaves room for: no shorter form, no surrogate. -/
def SecondOfThree (first second : UInt8) : Prop :=
  (first.toNat = 0xe0 → 0xa0 ≤ second.toNat) ∧ (first.toNat = 0xed → second.toNat < 0xa0)

/-- Second bytes that the first one of four leaves room for: no shorter form, and no more than
there are characters. -/
def SecondOfFour (first second : UInt8) : Prop :=
  (first.toNat = 0xf0 → 0x90 ≤ second.toNat) ∧ (first.toNat = 0xf4 → second.toNat < 0x90)

def IsCharacter : Bytes → Prop
  | [first] => first.toNat < 0x80
  | [first, second] => 0xc2 ≤ first.toNat ∧ first.toNat < 0xe0 ∧ IsTail second
  | [first, second, third] =>
      0xe0 ≤ first.toNat ∧ first.toNat < 0xf0 ∧ IsTail second ∧ SecondOfThree first second ∧
        IsTail third
  | [first, second, third, fourth] =>
      0xf0 ≤ first.toNat ∧ first.toNat < 0xf5 ∧ IsTail second ∧ SecondOfFour first second ∧
        IsTail third ∧ IsTail fourth
  | _ => False

theorem isCharacter_encode (character : Char) : IsCharacter (String.utf8EncodeChar character) := by
  have valid := character.valid
  simp only [UInt32.isValidChar, Nat.isValidChar] at valid
  fun_cases String.utf8EncodeChar character with
  | case1 value =>
      simp only [IsCharacter, UInt8.toNat_ofNat']
      omega
  | case2 value =>
      simp only [IsCharacter, IsTail, UInt8.toNat_ofNat']
      omega
  | case3 value =>
      simp only [IsCharacter, IsTail, SecondOfThree, UInt8.toNat_ofNat']
      omega
  | case4 value =>
      simp only [IsCharacter, IsTail, SecondOfFour, UInt8.toNat_ofNat']
      omega

theorem exists_char {value : Nat} (valid : value.isValidChar) :
    ∃ character : Char, character.val.toNat = value :=
  ⟨Char.ofNatAux value valid, rfl⟩

theorem ofNat_eq_of_toNat {byte : UInt8} {value : Nat} (same : value = byte.toNat) :
    UInt8.ofNat value = byte := by
  rw [same, UInt8.ofNat_toNat]

theorem exists_encode_one {first : UInt8} (shape : IsCharacter [first]) :
    ∃ character, String.utf8EncodeChar character = [first] := by
  simp only [IsCharacter] at shape
  have valid : first.toNat.isValidChar := .inl (by omega)
  obtain ⟨character, code⟩ := exists_char valid
  refine ⟨character, ?_⟩
  unfold String.utf8EncodeChar
  simp only [code]
  rw [if_pos (by omega), UInt8.ofNat_toNat]

theorem exists_encode_two {first second : UInt8} (shape : IsCharacter [first, second]) :
    ∃ character, String.utf8EncodeChar character = [first, second] := by
  simp only [IsCharacter, IsTail] at shape
  have valid : (first.toNat % 32 * 64 + second.toNat % 64).isValidChar := .inl (by omega)
  obtain ⟨character, code⟩ := exists_char valid
  refine ⟨character, ?_⟩
  unfold String.utf8EncodeChar
  simp only [code]
  rw [if_neg (by omega), if_pos (by omega)]
  congr 1
  · exact ofNat_eq_of_toNat (by omega)
  · congr 1
    exact ofNat_eq_of_toNat (by omega)

theorem exists_encode_three {first second third : UInt8}
    (shape : IsCharacter [first, second, third]) :
    ∃ character, String.utf8EncodeChar character = [first, second, third] := by
  simp only [IsCharacter, IsTail, SecondOfThree] at shape
  have valid : (first.toNat % 16 * 4096 + second.toNat % 64 * 64 +
      third.toNat % 64).isValidChar := by
    unfold Nat.isValidChar
    omega
  obtain ⟨character, code⟩ := exists_char valid
  refine ⟨character, ?_⟩
  unfold String.utf8EncodeChar
  simp only [code]
  rw [if_neg (by omega), if_neg (by omega), if_pos (by omega)]
  congr 1
  · exact ofNat_eq_of_toNat (by omega)
  · congr 1
    · exact ofNat_eq_of_toNat (by omega)
    · congr 1
      exact ofNat_eq_of_toNat (by omega)

theorem exists_encode_four {first second third fourth : UInt8}
    (shape : IsCharacter [first, second, third, fourth]) :
    ∃ character, String.utf8EncodeChar character = [first, second, third, fourth] := by
  simp only [IsCharacter, IsTail, SecondOfFour] at shape
  have valid : (first.toNat % 8 * 262144 + second.toNat % 64 * 4096 + third.toNat % 64 * 64 +
      fourth.toNat % 64).isValidChar := by
    unfold Nat.isValidChar
    omega
  obtain ⟨character, code⟩ := exists_char valid
  refine ⟨character, ?_⟩
  unfold String.utf8EncodeChar
  simp only [code]
  rw [if_neg (by omega), if_neg (by omega), if_neg (by omega)]
  congr 1
  · exact ofNat_eq_of_toNat (by omega)
  · congr 1
    · exact ofNat_eq_of_toNat (by omega)
    · congr 1
      · exact ofNat_eq_of_toNat (by omega)
      · congr 1
        exact ofNat_eq_of_toNat (by omega)

/-- The bytes of a character are the ones that `IsCharacter` allows. -/
theorem isCharacter_iff {bytes : Bytes} :
    IsCharacter bytes ↔ ∃ character, String.utf8EncodeChar character = bytes := by
  constructor
  · intro shape
    fun_cases IsCharacter bytes with
    | case1 first => exact exists_encode_one shape
    | case2 first second => exact exists_encode_two shape
    | case3 first second third => exact exists_encode_three shape
    | case4 first second third fourth => exact exists_encode_four shape
    | case5 bytes one two three four =>
        rw [IsCharacter] at shape
        · contradiction
        · exact one
        · exact two
        · exact three
        · exact four
  · intro encoded
    obtain ⟨character, rfl⟩ := encoded
    exact isCharacter_encode character

theorem encode_ascii {character : Char} (small : character.val.toNat < 0x80) :
    String.utf8EncodeChar character = [UInt8.ofNat character.val.toNat] := by
  unfold String.utf8EncodeChar
  rw [if_pos (Nat.le_of_lt_succ small)]

theorem encode_ne_nil (character : Char) : String.utf8EncodeChar character ≠ [] := by
  have some := character.utf8Size_pos
  rw [← String.length_utf8EncodeChar] at some
  exact List.ne_nil_of_length_pos some

theorem toByteArray_append (first second : Bytes) :
    (first ++ second).toByteArray = first.toByteArray ++ second.toByteArray := by
  simp

/-- No character is the start of another one's bytes. -/
theorem encode_append_inj {first second : Char} {rest more : Bytes}
    (same : String.utf8EncodeChar first ++ rest = String.utf8EncodeChar second ++ more) :
    first = second ∧ rest = more := by
  have left := @ByteArray.utf8DecodeChar?_utf8EncodeChar_append rest.toByteArray first
  have right := @ByteArray.utf8DecodeChar?_utf8EncodeChar_append more.toByteArray second
  rw [← toByteArray_append] at left right
  rw [same, right] at left
  obtain rfl := Option.some.inj left
  exact ⟨rfl, List.append_cancel_left same⟩

def WellFormed (text : Bytes) : Prop :=
  ∃ characters : List Char, text = characters.flatMap String.utf8EncodeChar

namespace WellFormed

theorem nil : WellFormed [] :=
  ⟨[], rfl⟩

theorem character (character : Char) : WellFormed (String.utf8EncodeChar character) :=
  ⟨[character], (List.flatMap_singleton _ _).symm⟩

theorem append {first second : Bytes} (left : WellFormed first) (right : WellFormed second) :
    WellFormed (first ++ second) := by
  obtain ⟨characters, rfl⟩ := left
  obtain ⟨others, rfl⟩ := right
  exact ⟨characters ++ others, List.flatMap_append.symm⟩

theorem of_ascii {text : Bytes} (small : ∀ byte ∈ text, byte.toNat < 0x80) :
    WellFormed text := by
  induction text with
  | nil => exact nil
  | cons byte rest ih =>
      obtain ⟨own, others⟩ := List.forall_mem_cons.mp small
      obtain ⟨single, encoded⟩ := @exists_encode_one byte own
      have first := character single
      rw [encoded] at first
      exact first.append (ih others)

end WellFormed

end Utf8

end F2k.Lib
