import F2k.Lib.Json

namespace F2k.Lib

/-! The bytes of JSON texts: digits need no escape, and no two commas stand together outside of
strings. -/

theorem mem_toDigits {base number : Nat} (large : 1 < base) {character : Char}
    (member : character ∈ Nat.toDigits base number) :
    ∃ digit < base, character = Nat.digitChar digit := by
  induction number using Nat.strongRecOn with
  | ind number ih =>
      rw [Nat.toDigits_eq_if large] at member
      split at member
      · next small => exact ⟨number, small, List.mem_singleton.mp member⟩
      · rcases List.mem_append.mp member with front | last
        · exact ih (number / base) (Nat.div_lt_self (by omega) large) front
        · exact ⟨number % base, Nat.mod_lt number (by omega), List.mem_singleton.mp last⟩

theorem isPlain_digitChar :
    ∀ digit < 16, JsonText.isPlain (UInt8.ofNat (Nat.digitChar digit).toNat) = true := by
  decide

theorem toDigits_isPlain {base : Nat} (large : 1 < base) (known : base ≤ 16) (number : Nat) :
    ((Nat.toDigits base number).map fun character =>
      UInt8.ofNat character.toNat).all JsonText.isPlain = true := by
  rw [List.all_eq_true]
  intro byte member
  obtain ⟨character, digit, rfl⟩ := List.mem_map.mp member
  obtain ⟨value, small, rfl⟩ := mem_toDigits large digit
  exact isPlain_digitChar value (by omega)

theorem decimal_isPlain (number : Nat) : (decimal number).all JsonText.isPlain = true :=
  toDigits_isPlain (by decide) (by decide) number

theorem hexadecimal_isPlain (number : Nat) : (hexadecimal number).all JsonText.isPlain = true :=
  toDigits_isPlain (by decide) (by decide) number

theorem isPlain_intercalate {separator : Bytes} {texts : List Bytes}
    (between : separator.all JsonText.isPlain = true)
    (each : ∀ text ∈ texts, text.all JsonText.isPlain = true) :
    (List.intercalate separator texts).all JsonText.isPlain = true := by
  induction texts with
  | nil => rfl
  | cons first rest ih =>
      obtain ⟨own, others⟩ := List.forall_mem_cons.mp each
      cases rest with
      | nil =>
          rw [List.intercalate_singleton]
          exact own
      | cons second later =>
          rw [List.intercalate_cons_cons, List.all_append, List.all_append, own, between,
            ih others]
          rfl

/-! Commas -/

/-- What stands before a byte of a text: a comma, something else outside of strings, or a part of
a string; and whether two commas have stood together. -/
inductive Before
  | comma
  | outside
  | inside
  | backslash
  | commas
deriving DecidableEq

namespace Before

def next (before : Before) (byte : UInt8) : Before :=
  match before with
  | commas => commas
  | backslash => inside
  | inside => if byte = 34 then outside else if byte = 92 then backslash else inside
  | comma | outside =>
      if byte = 44 then (if before = comma then commas else comma)
      else if byte = 34 then inside
      else if byte ∈ ([32, 9, 10, 13] : Bytes) then before
      else outside

def after (before : Before) (text : Bytes) : Before :=
  text.foldl next before

theorem after_append (before : Before) (first second : Bytes) :
    before.after (first ++ second) = (before.after first).after second :=
  List.foldl_append

/-- Outside of strings, where no two commas have stood together. -/
def Open (before : Before) : Prop :=
  before = comma ∨ before = outside

theorem after_space {before : Before} (opened : before.Open) {space : Bytes}
    (spaces : IsSpace space) : before.after space = before := by
  induction space with
  | nil => rfl
  | cons byte rest ih =>
      obtain ⟨first, others⟩ := List.forall_mem_cons.mp spaces
      have same : before.next byte = before := by
        simp only [List.mem_cons, List.not_mem_nil, or_false] at first
        rcases opened with rfl | rfl <;> rcases first with rfl | rfl | rfl | rfl <;> decide
      change (before.next byte).after rest = before
      rw [same]
      exact ih others

/-- The bytes of a longer character are not ASCII. -/
theorem utf8EncodeChar_ascii {character : Char} {byte : UInt8}
    (member : byte ∈ String.utf8EncodeChar character) (small : byte < 128) :
    character.val.toNat = byte.toNat := by
  replace small : byte.toNat < 128 := UInt8.lt_iff_toNat_lt.mp small
  revert member
  fun_cases String.utf8EncodeChar character <;>
    simp only [List.mem_cons, List.not_mem_nil, or_false]
  case case1 short =>
    rintro rfl
    simp only [UInt8.toNat_ofNat']
    omega
  case case2 =>
    rintro (rfl | rfl) <;> simp only [UInt8.toNat_ofNat'] at small <;> omega
  case case3 =>
    rintro (rfl | rfl | rfl) <;> simp only [UInt8.toNat_ofNat'] at small <;> omega
  case case4 =>
    rintro (rfl | rfl | rfl | rfl) <;> simp only [UInt8.toNat_ofNat'] at small <;> omega

theorem character_ne {character : Char} {other : Char} (short : other.val < 128)
    (different : character ≠ other) :
    ∀ byte ∈ String.utf8EncodeChar character, byte.toNat ≠ other.val.toNat := by
  intro byte member same
  apply different
  have small : byte < 128 := by
    rw [UInt8.lt_iff_toNat_lt, same]
    exact UInt32.lt_iff_toNat_lt.mp short
  rw [← Char.val_inj, ← UInt32.toNat_inj, utf8EncodeChar_ascii member small, same]

theorem after_inside {text : Bytes} (noQuote : ∀ byte ∈ text, byte ≠ 34)
    (noBackslash : ∀ byte ∈ text, byte ≠ 92) : inside.after text = inside := by
  induction text with
  | nil => rfl
  | cons byte rest ih =>
      obtain ⟨first, others⟩ := List.forall_mem_cons.mp noQuote
      obtain ⟨second, more⟩ := List.forall_mem_cons.mp noBackslash
      change (inside.next byte).after rest = inside
      rw [next, if_neg first, if_neg second]
      exact ih others more

theorem after_text {text : Bytes} (contents : JsonText text) : inside.after text = inside := by
  induction contents with
  | nil => rfl
  | @character rest character printable bare more ih =>
      rw [after_append, after_inside, ih]
      · intro byte member same
        exact character_ne (by decide) bare.1 byte member (by rw [same]; rfl)
      · intro byte member same
        exact character_ne (by decide) bare.2 byte member (by rw [same]; rfl)
  | escape known more ih => exact ih
  | @unicode digits rest four hexadecimal more ih =>
      change inside.after (digits ++ rest) = inside
      rw [after_append, after_inside, ih]
      · rintro byte member rfl
        exact absurd (hexadecimal 34 member) (by unfold IsHexDigit IsDigit; decide)
      · rintro byte member rfl
        exact absurd (hexadecimal 92 member) (by unfold IsHexDigit IsDigit; decide)

/-- Bytes that leave nothing but themselves before the next. -/
def Ordinary (byte : UInt8) : Prop :=
  byte ∉ ([44, 34, 32, 9, 10, 13] : Bytes)

instance : DecidablePred Ordinary :=
  fun _ => inferInstanceAs (Decidable (_ ∉ _))

theorem next_ordinary {before : Before} (opened : before.Open) {byte : UInt8}
    (ordinary : Ordinary byte) : before.next byte = outside := by
  simp only [Ordinary, List.mem_cons, List.not_mem_nil, or_false, not_or] at ordinary
  obtain ⟨comma, quote, space, tab, newline, carriage⟩ := ordinary
  rcases opened with rfl | rfl <;> simp [next, *]

theorem after_ordinary {before : Before} (opened : before.Open) {text : Bytes} (some : text ≠ [])
    (ordinary : ∀ byte ∈ text, Ordinary byte) : before.after text = outside := by
  induction text generalizing before with
  | nil => contradiction
  | cons byte rest ih =>
      obtain ⟨first, others⟩ := List.forall_mem_cons.mp ordinary
      change (before.next byte).after rest = outside
      rw [next_ordinary opened first]
      cases rest with
      | nil => rfl
      | cons second later => exact ih (.inr rfl) (by simp) others

theorem ordinary_digit {digits : Bytes} (known : IsDigits digits) :
    ∀ byte ∈ digits, Ordinary byte := by
  intro byte member listed
  have digit := known.2 byte member
  simp only [List.mem_cons, List.not_mem_nil, or_false] at listed
  rcases listed with rfl | rfl | rfl | rfl | rfl | rfl <;>
    exact absurd digit (by unfold IsDigit; decide)

theorem ordinary_number {text : Bytes} (number : JsonNumber text) :
    text ≠ [] ∧ ∀ byte ∈ text, Ordinary byte := by
  obtain ⟨signed, digits, fractional, scaled⟩ := number
  constructor
  · simp [digits.1.1]
  · simp only [List.forall_mem_append]
    refine ⟨⟨⟨?_, ordinary_digit digits.1⟩, ?_⟩, ?_⟩
    · rcases signed with rfl | rfl <;> simp [Ordinary]
    · rcases fractional with rfl | ⟨digits, known, rfl⟩
      · simp
      · exact List.forall_mem_cons.mpr ⟨by decide, ordinary_digit known⟩
    · rcases scaled with rfl | ⟨letter, letters, sign, signs, digits, known, rfl⟩
      · simp
      · simp only [List.forall_mem_append]
        refine ⟨⟨?_, ?_⟩, ordinary_digit known⟩
        · simp only [List.mem_cons, List.not_mem_nil, or_false] at letters
          rcases letters with rfl | rfl <;> decide +kernel
        · simp only [List.mem_cons, List.not_mem_nil, or_false] at signs
          rcases signs with rfl | rfl | rfl <;> decide +kernel

mutual

theorem after_value {before : Before} (opened : before.Open) :
    ∀ {value : Bytes}, JsonValue value → before.after value = outside
  | _, .literal known => by
      simp only [List.mem_cons, List.not_mem_nil, or_false] at known
      rcases opened with rfl | rfl <;> rcases known with rfl | rfl | rfl <;> decide
  | _, .number number => by
      obtain ⟨some, ordinary⟩ := ordinary_number number
      exact after_ordinary opened some ordinary
  | _, .string contents => by
      rw [after_append, after_append]
      have quoted : before.after [34] = inside := by
        rcases opened with rfl | rfl <;> decide
      rw [quoted, after_text contents]
      rfl
  | _, .emptyArray spaces => by
      rw [after_append, after_append, after_ordinary opened (by simp) (by simp [Ordinary]),
        after_space (.inr rfl) spaces]
      decide
  | _, .array contents => by
      rw [after_append, after_append, after_ordinary opened (by simp) (by simp [Ordinary]),
        after_elements (.inr rfl) contents]
      decide
  | _, .emptyObject spaces => by
      rw [after_append, after_append, after_ordinary opened (by simp) (by simp [Ordinary]),
        after_space (.inr rfl) spaces]
      decide
  | _, .object contents => by
      rw [after_append, after_append, after_ordinary opened (by simp) (by simp [Ordinary]),
        after_members (.inr rfl) contents]
      decide

theorem after_elements {before : Before} (opened : before.Open) :
    ∀ {elements : Bytes}, JsonElements elements → before.after elements = outside
  | _, .one spaceBefore element spaceAfter => by
      rw [after_append, after_append, after_space opened spaceBefore, after_value opened element,
        after_space (.inr rfl) spaceAfter]
  | _, .more elements others => by
      rw [after_append, after_append, after_elements opened elements]
      exact after_elements (.inl rfl) others

theorem after_members {before : Before} (opened : before.Open) :
    ∀ {members : Bytes}, JsonMembers members → before.after members = outside
  | _, .one spaceBefore named spaceGap spaceValue member spaceAfter => by
      have quoted : before.after [34] = inside := by
        rcases opened with rfl | rfl <;> decide
      have closed : inside.after [34] = outside := rfl
      have colon : outside.after [58] = outside := by decide
      simp only [after_append]
      rw [after_space opened spaceBefore, quoted, after_text named, closed,
        after_space (.inr rfl) spaceGap, colon, after_space (.inr rfl) spaceValue,
        after_value (.inr rfl) member, after_space (.inr rfl) spaceAfter]
  | _, .more members others => by
      rw [after_append, after_append, after_members opened members]
      exact after_members (.inl rfl) others

end

/-- In an object no two commas stand together outside of strings. -/
theorem after_object {text : Bytes} (object : JsonObject text) : outside.after text = outside := by
  obtain ⟨contents, rfl, empty | members⟩ := object
  · exact after_value (.inr rfl) (.emptyObject empty)
  · exact after_value (.inr rfl) (.object members)

end Before

end F2k.Lib
