import F2k.Export
import F2k.Lib.Json

namespace F2k

open Lib

/-! The texts that exporters append: which of them are JSON numbers, and which may stand
between quotes. -/

/-! Numbers -/

theorem tdiv_ten (value : Int) :
    ∃ size : Nat, (value = size ∧ value.tdiv 10 = (size / 10 : Nat)) ∨
      (value = -size ∧ value.tdiv 10 = -(size / 10 : Nat)) := by
  obtain ⟨size, rfl | rfl⟩ := value.eq_nat_or_neg
  · exact ⟨size, .inl ⟨rfl, rfl⟩⟩
  · exact ⟨size, .inr ⟨rfl, by rw [Int.neg_tdiv]; rfl⟩⟩

theorem itoaDigit_eq {remainder : Int} (small : remainder.natAbs < 10) :
    itoaDigit remainder = 48 + UInt8.ofNat remainder.natAbs := by
  have digits : ∀ digit : Fin 10, itoaDigit (digit.val : Int) = 48 + UInt8.ofNat digit.val ∧
      itoaDigit (-(digit.val : Int)) = 48 + UInt8.ofNat digit.val := by decide
  obtain ⟨positive, negative⟩ := digits ⟨remainder.natAbs, small⟩
  rcases Int.natAbs_eq remainder with same | same
  · rw [← positive, ← same]
  · rw [← negative, ← same]

theorem itoaDigit_isDigit {remainder : Int} (small : remainder.natAbs < 10) :
    IsDigit (itoaDigit remainder) ∧ (itoaDigit remainder = 48 → remainder = 0) := by
  have digits : ∀ digit : Fin 10, IsDigit (48 + UInt8.ofNat digit.val) ∧
      (48 + UInt8.ofNat digit.val = 48 → digit.val = 0) := by
    simp only [IsDigit]
    decide
  obtain ⟨isDigit, zero⟩ := digits ⟨remainder.natAbs, small⟩
  rw [itoaDigit_eq small]
  exact ⟨isDigit, fun same => Int.natAbs_eq_zero.mp (zero same)⟩

theorem itoa10From_eq {turns : Nat} {value : Int} (text : Bytes) (some : 0 < turns)
    (fits : value.natAbs < 10 ^ turns) :
    ∃ digits, itoa10From turns value text =
        (if decide (value < 0) then [45] else []) ++ digits ++ text ∧
      IsDigits digits ∧ (digits.head? = .some 48 → value = 0 ∧ digits = [48]) := by
  induction turns generalizing value text with
  | zero => contradiction
  | succ turns ih =>
      obtain ⟨size, parts⟩ := tdiv_ten value
      let digit := itoaDigit (value - value.tdiv 10 * 10)
      have small : (value - value.tdiv 10 * 10).natAbs < 10 := by omega
      obtain ⟨isDigit, zeroDigit⟩ := itoaDigit_isDigit small
      simp only [itoa10From]
      by_cases more : value.tdiv 10 ≠ 0
      · have nextFits : (value.tdiv 10).natAbs < 10 ^ turns := by
          rw [Nat.pow_succ] at fits
          omega
        have nextSome : 0 < turns := by
          rcases Nat.eq_zero_or_pos turns with rfl | positive
          · simp only [Nat.pow_zero] at nextFits
            omega
          · exact positive
        obtain ⟨digits, written, isDigits, head⟩ := ih (digit :: text) nextSome nextFits
        refine ⟨digits ++ [digit], ?_, ?_, ?_⟩
        · have sign : decide (value.tdiv 10 < 0) = decide (value < 0) :=
            decide_eq_decide.mpr (by omega)
          rw [if_pos more, written, sign]
          simp
        · constructor
          · simp
          · intro byte member
            rcases List.mem_append.mp member with inDigits | last
            · exact isDigits.2 byte inDigits
            · rw [List.mem_singleton.mp last]
              exact isDigit
        · intro zero
          rw [List.head?_append_of_ne_nil _ isDigits.1] at zero
          exact absurd (head zero).1 more
      · rw [if_neg more]
        refine ⟨[digit], ?_, ⟨by simp, by simpa using isDigit⟩, ?_⟩
        · by_cases negative : value < 0
          · simp [negative, digit]
          · simp [negative, digit]
        · intro zero
          have noRemainder := zeroDigit (Option.some.inj zero)
          exact ⟨by omega, by rw [Option.some.inj zero]⟩

theorem n10_eq (value : UInt64) :
    ∃ (negative : Bool) (digits : Bytes),
      n10 value = (if negative then [45] else []) ++ digits ∧ IsWhole digits := by
  have fits : value.toInt64.toInt.natAbs < 10 ^ 63 := by
    have low := value.toInt64.le_toInt
    have high := value.toInt64.toInt_lt
    omega
  obtain ⟨digits, written, isDigits, head⟩ := itoa10From_eq [] (by decide) fits
  rw [List.append_nil] at written
  exact ⟨_, digits, written, isDigits, fun zero => (head zero).2⟩

theorem n10_number (value : UInt64) : JsonNumber (n10 value) := by
  obtain ⟨negative, digits, written, whole⟩ := n10_eq value
  rw [written]
  exact .integer whole

theorem isPlain_of_isDigit {byte : UInt8} (digit : IsDigit byte) :
    JsonText.isPlain byte = true := by
  have low := UInt8.le_iff_toNat_le.mp digit.1
  have high := UInt8.le_iff_toNat_le.mp digit.2
  simp only [UInt8.toNat_ofNat] at low high
  simp only [JsonText.isPlain, Bool.and_eq_true, decide_eq_true_eq, bne_iff_ne, ne_eq,
    UInt8.le_iff_toNat_le, UInt8.lt_iff_toNat_lt, ← UInt8.toNat_inj, UInt8.toNat_ofNat]
  omega

theorem n10_text (value : UInt64) : JsonText (n10 value) := by
  obtain ⟨negative, digits, written, whole⟩ := n10_eq value
  have plain : JsonText digits := by
    apply JsonText.of_plain
    rw [List.all_eq_true]
    exact fun byte member => isPlain_of_isDigit (whole.1.2 byte member)
  rw [written]
  cases negative with
  | false => exact plain
  | true => exact .plain (by decide) plain

/-! Octets and addresses -/

theorem forall_byte {holds : UInt8 → Prop} (each : ∀ number : Fin 256, holds (UInt8.ofNat number)) :
    ∀ byte, holds byte := by
  intro byte
  have number := each ⟨byte.toNat, byte.toNat_lt⟩
  rwa [UInt8.ofNat_toNat] at number

theorem byteTexts_plain : ∀ byte : UInt8, (n16 byte).all JsonText.isPlain = true ∧
    (octetText byte).all JsonText.isPlain = true ∧
      (tcpFlagsText byte).all JsonText.isPlain = true :=
  forall_byte (by decide +kernel)

theorem n16_text (value : UInt8) : JsonText (n16 value) :=
  .of_plain (byteTexts_plain value).1

theorem octetText_text (byte : UInt8) : JsonText (octetText byte) :=
  .of_plain (byteTexts_plain byte).2.1

theorem ascii_text {text : String} (plain : (ascii text).all JsonText.isPlain = true) :
    JsonText (ascii text) :=
  .of_plain plain

theorem intoaV4_text (address : UInt32) : JsonText (intoaV4 address) := by
  have dot : JsonText (ascii ".") := ascii_text (by decide)
  exact ((((((octetText_text _).append dot).append (octetText_text _)).append dot).append
    (octetText_text _)).append dot).append (octetText_text _)

theorem ipv6Text_text (address : Bytes) : JsonText (ipv6Text address) := by
  apply JsonText.intercalate (ascii_text (by decide))
  intro text member
  obtain ⟨index, _, rfl⟩ := List.mem_map.mp member
  exact (n16_text _).append (n16_text _)

theorem macText_text (mac : Bytes) : JsonText (macText mac) := by
  apply JsonText.intercalate (ascii_text (by decide))
  intro text member
  obtain ⟨octet, _, rfl⟩ := List.mem_map.mp member
  exact n16_text octet

theorem flowCacheAddrText_text (address : Bytes) : JsonText (flowCacheAddrText address) := by
  rw [flowCacheAddrText]
  split
  · exact intoaV4_text _
  · exact ipv6Text_text address

theorem tcpFlagsText_text (flags : UInt8) : JsonText (tcpFlagsText flags) :=
  .of_plain (byteTexts_plain flags).2.2

/-! Escaped strings -/

/-- What `append_escaped` does not repair: control characters that it has no escape for, and
sequences of bytes that it takes for a character and UTF-8 does not know. -/
def EscapesChar (first : UInt8) (rest : Bytes) : Prop :=
  match validUtf8Char first rest with
  | none => True
  | some 1 => 0x20 ≤ first ∨ first ∈ toEscapeChars
  | some utf8Length =>
      ∃ character : Char, String.utf8EncodeChar character = first :: rest.take (utf8Length - 1)

def EscapesWell (text : Bytes) : Prop :=
  ∀ first rest, first :: rest <:+ text → EscapesChar first rest

theorem EscapesWell.suffix {text tail : Bytes} (well : EscapesWell text) (suffix : tail <:+ text) :
    EscapesWell tail :=
  fun first rest within => well first rest (within.trans suffix)

theorem low_of_and_eq_zero : ∀ byte : UInt8, byte &&& 0x80 = 0 → byte < 0x80 :=
  forall_byte (by decide +kernel)

theorem checkMultibyteCharacters_append {text : Bytes} {nchar : Nat} (more : Bytes)
    (valid : checkMultibyteCharacters text nchar = true) :
    checkMultibyteCharacters (text ++ more) nchar = true ∧
      (text ++ more).take nchar = text.take nchar := by
  simp only [checkMultibyteCharacters, Bool.and_eq_true, decide_eq_true_eq] at valid ⊢
  have same : (text ++ more).take nchar = text.take nchar := List.take_append_of_le_length valid.1
  rw [same, List.length_append]
  exact ⟨⟨by omega, valid.2⟩, rfl⟩

/-- A character of one byte, or of as many bytes as are there to follow it. -/
theorem validUtf8Char_eq_some {first : UInt8} {rest : Bytes} {utf8Length : Nat}
    (valid : validUtf8Char first rest = some utf8Length) :
    (utf8Length = 1 ∧ first < 0x80) ∨
      (1 < utf8Length ∧ checkMultibyteCharacters rest (utf8Length - 1) = true) := by
  have follows : ∀ more, (if checkMultibyteCharacters rest (more + 1) = true then
      some (more + 2) else none) = some utf8Length →
      1 < utf8Length ∧ checkMultibyteCharacters rest (utf8Length - 1) = true := by
    intro more taken
    split at taken
    · next followed =>
        obtain rfl := Option.some.inj taken
        exact ⟨by omega, followed⟩
    · contradiction
  rw [validUtf8Char] at valid
  split at valid
  · next ascii =>
      obtain rfl := Option.some.inj valid
      exact .inl ⟨rfl, low_of_and_eq_zero first ascii⟩
  · right
    split at valid
    · contradiction
    · split at valid
      · exact follows 0 valid
      · split at valid
        · exact follows 1 valid
        · split at valid
          · exact follows 2 valid
          · contradiction

theorem validUtf8Char_append {first : UInt8} {rest : Bytes} {utf8Length : Nat} (more : Bytes)
    (valid : validUtf8Char first rest = some utf8Length) :
    validUtf8Char first (rest ++ more) = some utf8Length := by
  have keeps : ∀ nchar, (if checkMultibyteCharacters rest nchar = true then
      some (nchar + 1) else none) = some utf8Length →
      (if checkMultibyteCharacters (rest ++ more) nchar = true then
        some (nchar + 1) else none) = some utf8Length := by
    intro nchar taken
    split at taken
    · next followed => rwa [if_pos (checkMultibyteCharacters_append more followed).1]
    · contradiction
  rw [validUtf8Char] at valid ⊢
  split at valid
  · next ascii => rwa [if_pos ascii]
  · next notAscii =>
      rw [if_neg notAscii]
      split at valid
      · contradiction
      · next notOverlong =>
          rw [if_neg notOverlong]
          split at valid
          · next two => rw [if_pos two]; exact keeps 1 valid
          · next notTwo =>
              rw [if_neg notTwo]
              split at valid
              · next three => rw [if_pos three]; exact keeps 2 valid
              · next notThree =>
                  rw [if_neg notThree]
                  split at valid
                  · next four => rw [if_pos four]; exact keeps 3 valid
                  · contradiction

/-- What a part of the text is made of was there in the whole of it. -/
theorem EscapesWell.part {text part : Bytes} (well : EscapesWell text) (within : part <:+: text) :
    EscapesWell part := by
  obtain ⟨before, after, rfl⟩ := within
  intro first rest suffix
  obtain ⟨start, rfl⟩ := suffix
  have whole := well first (rest ++ after) ⟨before ++ start, by simp⟩
  rw [EscapesChar] at whole ⊢
  cases valid : validUtf8Char first rest with
  | none => exact trivial
  | some utf8Length =>
      rw [validUtf8Char_append after valid] at whole
      rcases validUtf8Char_eq_some valid with ⟨rfl, _⟩ | ⟨long, followed⟩
      · exact whole
      · have same := (checkMultibyteCharacters_append after followed).2
        obtain ⟨more, rfl⟩ : ∃ more, utf8Length = more + 2 := ⟨utf8Length - 2, by omega⟩
        simp only at whole ⊢
        rwa [same] at whole

theorem escaped_letter : ∀ byte ∈ toEscapeChars,
    escapedChars.getD (toEscapeChars.idxOf byte) 0 ∈ ascii "\"\\/bfnrt" := by
  decide +kernel

theorem isPlain_of_ascii {byte : UInt8} (small : byte < 0x80) (bare : byte ∉ toEscapeChars)
    (printable : 0x20 ≤ byte) : JsonText.isPlain byte = true := by
  simp only [toEscapeChars, List.mem_cons, not_or] at bare
  simp only [JsonText.isPlain, Bool.and_eq_true, decide_eq_true_eq, bne_iff_ne, ne_eq]
  exact ⟨⟨⟨printable, small⟩, bare.1⟩, bare.2.1⟩

theorem appendEscapedFrom_text (turns : Nat) {text : Bytes} (well : EscapesWell text) :
    JsonText (appendEscapedFrom turns text) := by
  induction turns generalizing text with
  | zero => exact .nil
  | succ turns ih =>
      cases text with
      | nil => exact .nil
      | cons first rest =>
          have restWell : EscapesWell rest := well.suffix (List.suffix_cons first rest)
          have character := well first rest (List.suffix_refl _)
          rw [EscapesChar] at character
          rw [appendEscapedFrom]
          cases valid : validUtf8Char first rest with
          | none => exact ((ascii_text (by decide)).append (n16_text first)).append (ih restWell)
          | some utf8Length =>
              rw [valid] at character
              simp only
              split
              · next escaped => exact .escape (escaped_letter first escaped.2) (ih restWell)
              · next bare =>
                  rcases validUtf8Char_eq_some valid with ⟨rfl, small⟩ | ⟨long, followed⟩
                  · have notEscaped : first ∉ toEscapeChars := fun member => bare ⟨rfl, member⟩
                    have printable := character.resolve_right notEscaped
                    exact .plain (isPlain_of_ascii small notEscaped printable) (ih restWell)
                  · obtain ⟨more, rfl⟩ : ∃ more, utf8Length = more + 2 :=
                      ⟨utf8Length - 2, by omega⟩
                    obtain ⟨character, encoded⟩ := character
                    have later : EscapesWell (rest.drop (more + 1)) :=
                      restWell.suffix (List.drop_suffix _ _)
                    simp only [checkMultibyteCharacters, Bool.and_eq_true,
                      decide_eq_true_eq] at followed
                    have wide : 1 < (String.utf8EncodeChar character).length := by
                      rw [encoded, List.length_cons, List.length_take]
                      omega
                    have written := JsonText.wide wide (ih later)
                    rw [encoded] at written
                    exact written

theorem appendEscaped_text {text : Bytes} (well : EscapesWell text) :
    JsonText (appendEscaped text) :=
  appendEscapedFrom_text text.length well

theorem l2Host_suffix (hostname : Bytes) : l2Host hostname <:+ hostname := by
  rw [l2Host]
  simp only
  split
  · exact (List.dropWhile_suffix _).trans (List.drop_suffix _ _)
  · exact List.dropWhile_suffix _

theorem httpL2DomainFrom_isInfix (globals : ReadOnlyGlobals) (turns : Nat) (hostname : Bytes) :
    httpL2DomainFrom globals turns hostname <:+: hostname := by
  induction turns generalizing hostname with
  | zero => exact List.infix_refl hostname
  | succ turns ih =>
      rw [httpL2DomainFrom]
      split
      · exact (ih _).trans (List.drop_suffix _ _).isInfix
      · split
        · exact (ih _).trans (List.drop_suffix _ _).isInfix
        · split
          · exact (ih _).trans (List.takeWhile_prefix _).isInfix
          · split
            · exact List.infix_refl hostname
            · exact (l2Host_suffix hostname).isInfix

theorem EscapesWell.httpL2Domain {hostname : Bytes} (well : EscapesWell hostname)
    (globals : ReadOnlyGlobals) : EscapesWell (httpL2Domain globals hostname) :=
  well.part (httpL2DomainFrom_isInfix globals _ hostname)

end F2k
