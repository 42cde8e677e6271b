import F2k.Lib.Text

namespace F2k.Lib

/-! Well-formed JSON texts, as bytes in UTF-8. -/

def IsDigit (byte : UInt8) : Prop :=
  48 ≤ byte ∧ byte ≤ 57

def IsHexDigit (byte : UInt8) : Prop :=
  IsDigit byte ∨ (65 ≤ byte ∧ byte ≤ 70) ∨ (97 ≤ byte ∧ byte ≤ 102)

/-- What may stand between the quotes of a string. -/
inductive JsonText : Bytes → Prop
  | nil : JsonText []
  | character {rest : Bytes} (character : Char) (printable : 0x20 ≤ character.val)
      (bare : character ≠ '"' ∧ character ≠ '\\') (more : JsonText rest) :
      JsonText (String.utf8EncodeChar character ++ rest)
  | escape {rest : Bytes} {letter : UInt8} (known : letter ∈ ascii "\"\\/bfnrt")
      (more : JsonText rest) : JsonText (92 :: letter :: rest)
  | unicode {digits rest : Bytes} (four : digits.length = 4)
      (hexadecimal : ∀ digit ∈ digits, IsHexDigit digit) (more : JsonText rest) :
      JsonText (92 :: 117 :: (digits ++ rest))

def IsDigits (digits : Bytes) : Prop :=
  digits ≠ [] ∧ ∀ digit ∈ digits, IsDigit digit

/-- Digits without a zero in front of others. -/
def IsWhole (digits : Bytes) : Prop :=
  IsDigits digits ∧ (digits.head? = some 48 → digits = [48])

def IsExponent (exponent : Bytes) : Prop :=
  ∃ letter ∈ [ascii "e", ascii "E"], ∃ sign ∈ [[], ascii "+", ascii "-"], ∃ digits,
    IsDigits digits ∧ exponent = letter ++ sign ++ digits

inductive JsonNumber : Bytes → Prop
  | mk {sign whole fraction exponent : Bytes} (signed : sign = [] ∨ sign = [45])
      (digits : IsWhole whole)
      (fractional : fraction = [] ∨ ∃ digits, IsDigits digits ∧ fraction = 46 :: digits)
      (scaled : exponent = [] ∨ IsExponent exponent) :
      JsonNumber (sign ++ whole ++ fraction ++ exponent)

def IsSpace (bytes : Bytes) : Prop :=
  ∀ byte ∈ bytes, byte ∈ ([32, 9, 10, 13] : Bytes)

mutual

inductive JsonValue : Bytes → Prop
  | literal {text : Bytes} (known : text ∈ [ascii "true", ascii "false", ascii "null"]) :
      JsonValue text
  | number {text : Bytes} (number : JsonNumber text) : JsonValue text
  | string {text : Bytes} (contents : JsonText text) : JsonValue ([34] ++ text ++ [34])
  | emptyArray {space : Bytes} (spaces : IsSpace space) : JsonValue ([91] ++ space ++ [93])
  | array {elements : Bytes} (contents : JsonElements elements) :
      JsonValue ([91] ++ elements ++ [93])
  | emptyObject {space : Bytes} (spaces : IsSpace space) : JsonValue ([123] ++ space ++ [125])
  | object {members : Bytes} (contents : JsonMembers members) :
      JsonValue ([123] ++ members ++ [125])

inductive JsonElements : Bytes → Prop
  | one {before value after : Bytes} (spaceBefore : IsSpace before) (element : JsonValue value)
      (spaceAfter : IsSpace after) : JsonElements (before ++ value ++ after)
  | more {first rest : Bytes} (elements : JsonElements first) (others : JsonElements rest) :
      JsonElements (first ++ [44] ++ rest)

inductive JsonMembers : Bytes → Prop
  | one {before name gap space value after : Bytes} (spaceBefore : IsSpace before)
      (named : JsonText name) (spaceGap : IsSpace gap) (spaceValue : IsSpace space)
      (member : JsonValue value) (spaceAfter : IsSpace after) :
      JsonMembers (before ++ [34] ++ name ++ [34] ++ gap ++ [58] ++ space ++ value ++ after)
  | more {first rest : Bytes} (members : JsonMembers first) (others : JsonMembers rest) :
      JsonMembers (first ++ [44] ++ rest)

end

def JsonObject (text : Bytes) : Prop :=
  ∃ contents, text = [123] ++ contents ++ [125] ∧ (IsSpace contents ∨ JsonMembers contents)

@[simp] theorem isSpace_nil : IsSpace [] := by
  intro byte member
  contradiction

theorem JsonMembers.member {name value : Bytes} (named : JsonText name)
    (member : JsonValue value) : JsonMembers ([34] ++ name ++ [34, 58] ++ value) := by
  have whole := JsonMembers.one isSpace_nil named isSpace_nil isSpace_nil member isSpace_nil
  simpa [List.append_assoc] using whole

namespace JsonText

theorem append {first second : Bytes} (left : JsonText first) (right : JsonText second) :
    JsonText (first ++ second) := by
  induction left with
  | nil => exact right
  | character character printable bare more ih =>
      rw [List.append_assoc]
      exact .character character printable bare ih
  | escape known more ih => exact .escape known ih
  | unicode four hexadecimal more ih =>
      rw [List.cons_append, List.cons_append, List.append_assoc]
      exact .unicode four hexadecimal ih

/-- Bytes that mean themselves within a string: printable ASCII but quotes and backslashes. -/
def isPlain (byte : UInt8) : Bool :=
  32 ≤ byte && byte < 128 && byte != 34 && byte != 92

theorem utf8EncodeChar_ofUInt8 {byte : UInt8} (small : byte < 128) :
    String.utf8EncodeChar (Char.ofUInt8 byte) = [byte] := by
  have size : (Char.ofUInt8 byte).utf8Size = 1 := by
    have le : byte.toUInt32 ≤ 127 := by
      have bound := UInt8.lt_iff_toNat_lt.mp small
      rw [UInt32.le_iff_toNat_le]
      exact Nat.le_of_lt_succ bound
    exact Char.utf8Size_eq_one_iff.mpr le
  have value : (Char.ofUInt8 byte).val = byte.toUInt32 := rfl
  rw [String.utf8EncodeChar_eq_singleton size, value, UInt8.toUInt8_toUInt32]

theorem plain {byte : UInt8} (plain : isPlain byte = true) {rest : Bytes}
    (more : JsonText rest) : JsonText (byte :: rest) := by
  simp only [isPlain, Bool.and_eq_true, decide_eq_true_eq, bne_iff_ne, ne_eq] at plain
  obtain ⟨⟨⟨printable, small⟩, noQuote⟩, noBackslash⟩ := plain
  have same : ∀ other : UInt8, Char.ofUInt8 byte = Char.ofUInt8 other → byte = other := by
    intro other equal
    have values : byte.toUInt32.toUInt8 = other.toUInt32.toUInt8 :=
      congrArg (fun character => character.val.toUInt8) equal
    rwa [UInt8.toUInt8_toUInt32, UInt8.toUInt8_toUInt32] at values
  have encoded := JsonText.character (Char.ofUInt8 byte) (by
      rw [UInt32.le_iff_toNat_le]
      exact UInt8.le_iff_toNat_le.mp printable)
    ⟨fun quote => noQuote (same 34 quote), fun backslash => noBackslash (same 92 backslash)⟩ more
  rwa [utf8EncodeChar_ofUInt8 small] at encoded

/-- Characters of more than one byte need no escape. -/
theorem wide {character : Char} (long : 1 < (String.utf8EncodeChar character).length)
    {rest : Bytes} (more : JsonText rest) :
    JsonText (String.utf8EncodeChar character ++ rest) := by
  have high : 127 < character.val := by
    rw [String.length_utf8EncodeChar] at long
    have notOne : ¬character.utf8Size = 1 := by omega
    rw [Char.utf8Size_eq_one_iff] at notOne
    exact UInt32.not_le.mp notOne
  refine .character character (UInt32.le_trans (by decide) (UInt32.le_of_lt high)) ?_ more
  constructor
  · rintro rfl
    exact absurd high (by decide)
  · rintro rfl
    exact absurd high (by decide)

theorem of_plain {text : Bytes} (plain : text.all isPlain = true) : JsonText text := by
  induction text with
  | nil => exact .nil
  | cons byte rest ih =>
      rw [List.all_cons, Bool.and_eq_true] at plain
      exact JsonText.plain plain.1 (ih plain.2)

theorem intercalate {separator : Bytes} {texts : List Bytes} (between : JsonText separator)
    (each : ∀ text ∈ texts, JsonText text) : JsonText (List.intercalate separator texts) := by
  induction texts with
  | nil => exact .nil
  | cons first rest ih =>
      have later := ih fun text member => each text (List.mem_cons_of_mem _ member)
      cases rest with
      | nil =>
          rw [List.intercalate_singleton]
          exact each first List.mem_cons_self
      | cons second others =>
          rw [List.intercalate_cons_cons]
          exact ((each first List.mem_cons_self).append between).append later

end JsonText

theorem JsonNumber.integer {negative : Bool} {digits : Bytes} (whole : IsWhole digits) :
    JsonNumber ((if negative then [45] else []) ++ digits) := by
  have signed : (if negative then [45] else [] : Bytes) = [] ∨
      (if negative then [45] else [] : Bytes) = [45] := by
    cases negative
    · exact .inl rfl
    · exact .inr rfl
  have number := JsonNumber.mk signed whole (.inl rfl) (.inl rfl)
  simpa using number

end F2k.Lib
