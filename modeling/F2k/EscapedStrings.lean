import F2k.Escaping
import F2k.Lib.JsonStrings

namespace F2k

open Lib

/-! What `append_escaped` makes of a string: characters are kept, those with an escape in JSON as
that escape, and what is no character is written in percent notation. -/

def escapeLetter (character : Char) : Option UInt8 :=
  match character.val.toNat with
  | 34 => some 34
  | 92 => some 92
  | 47 => some 47
  | 8 => some 98
  | 12 => some 102
  | 10 => some 110
  | 13 => some 114
  | 9 => some 116
  | _ => none

/-- The character as it is to stand in a string in JSON. -/
def jsonCharacter (character : Char) : Bytes :=
  match escapeLetter character with
  | some letter => [92, letter]
  | none => String.utf8EncodeChar character

/-- Bytes with the shape of a character that UTF-8 does not have: longer forms of others,
surrogates, and values beyond the last character. -/
def Mistakable : Bytes → Prop
  | [first, second, third] =>
      Utf8.IsTail second ∧ Utf8.IsTail third ∧
        ((first.toNat = 0xe0 ∧ second.toNat < 0xa0) ∨ (first.toNat = 0xed ∧ 0xa0 ≤ second.toNat))
  | [first, second, third, fourth] =>
      Utf8.IsTail second ∧ Utf8.IsTail third ∧ Utf8.IsTail fourth ∧
        ((first.toNat = 0xf0 ∧ second.toNat < 0x90) ∨
          (first.toNat = 0xf4 ∧ 0x90 ≤ second.toNat) ∨
            (0xf5 ≤ first.toNat ∧ first.toNat < 0xf8))
  | _ => False

/-! Which bytes are taken for a character -/

theorem byte_ranges : ∀ byte : UInt8,
    (byte &&& 0x80 = 0 ↔ byte.toNat < 0x80) ∧
      (byte &&& 0xc0 = 0x80 ↔ 0x80 ≤ byte.toNat ∧ byte.toNat < 0xc0) ∧
        (byte &&& 0xe0 = 0xc0 ↔ 0xc0 ≤ byte.toNat ∧ byte.toNat < 0xe0) ∧
          (byte &&& 0xf0 = 0xe0 ↔ 0xe0 ≤ byte.toNat ∧ byte.toNat < 0xf0) ∧
            (byte &&& 0xf8 = 0xf0 ↔ 0xf0 ≤ byte.toNat ∧ byte.toNat < 0xf8) :=
  forall_byte (by decide +kernel)

@[simp] theorem checkMultibyteCharacters_zero (text : Bytes) :
    checkMultibyteCharacters text 0 = true := by
  simp [checkMultibyteCharacters]

@[simp] theorem checkMultibyteCharacters_nil (nchar : Nat) :
    checkMultibyteCharacters [] (nchar + 1) = false := rfl

theorem checkMultibyteCharacters_cons {byte : UInt8} {rest : Bytes} {nchar : Nat} :
    checkMultibyteCharacters (byte :: rest) (nchar + 1) = true ↔
      Utf8.IsTail byte ∧ checkMultibyteCharacters rest nchar = true := by
  simp only [checkMultibyteCharacters, List.length_cons, List.take_succ_cons, List.all_cons,
    Bool.and_eq_true, decide_eq_true_eq, beq_iff_eq, (byte_ranges byte).2.1, Utf8.IsTail,
    Nat.succ_le_succ_iff]
  constructor
  · intro checked
    exact ⟨checked.2.1, checked.1, checked.2.2⟩
  · intro checked
    exact ⟨checked.2.1, checked.1, checked.2.2⟩

/-- Which first bytes are taken, and how long their characters are. -/
def Leads (first : UInt8) (utf8Length : Nat) : Prop :=
  (utf8Length = 1 ∧ first.toNat < 0x80) ∨
    (utf8Length = 2 ∧ 0xc2 ≤ first.toNat ∧ first.toNat < 0xe0) ∨
      (utf8Length = 3 ∧ 0xe0 ≤ first.toNat ∧ first.toNat < 0xf0) ∨
        (utf8Length = 4 ∧ 0xf0 ≤ first.toNat ∧ first.toNat < 0xf8)

theorem validUtf8Char_eq (first : UInt8) (rest : Bytes) :
    validUtf8Char first rest =
      if first.toNat < 0x80 then some 1
      else if first.toNat < 0xc2 then none
      else if first.toNat < 0xe0 then
        if checkMultibyteCharacters rest 1 then some 2 else none
      else if first.toNat < 0xf0 then
        if checkMultibyteCharacters rest 2 then some 3 else none
      else if first.toNat < 0xf8 then
        if checkMultibyteCharacters rest 3 then some 4 else none
      else none := by
  obtain ⟨one, tail, two, three, four⟩ := byte_ranges first
  have overlong : first = 0xc0 ∨ first = 0xc1 ↔ first.toNat = 0xc0 ∨ first.toNat = 0xc1 := by
    rw [← UInt8.toNat_inj, ← UInt8.toNat_inj]
    rfl
  unfold validUtf8Char
  simp only [one, two, three, four, overlong]
  split_ifs <;> first | rfl | omega

theorem validUtf8Char_eq_some_iff {first : UInt8} {rest : Bytes} {utf8Length : Nat} :
    validUtf8Char first rest = some utf8Length ↔
      Leads first utf8Length ∧ checkMultibyteCharacters rest (utf8Length - 1) = true := by
  rw [validUtf8Char_eq]
  constructor
  · intro valid
    unfold Leads
    split_ifs at valid <;> obtain rfl := Option.some.inj valid
    · exact ⟨by omega, checkMultibyteCharacters_zero rest⟩
    all_goals exact ⟨by omega, by assumption⟩
  · intro both
    obtain ⟨leads, continued⟩ := both
    unfold Leads at leads
    obtain ⟨rfl, _⟩ | ⟨rfl, _⟩ | ⟨rfl, _⟩ | ⟨rfl, _⟩ := leads
    · rw [if_pos (by omega)]
    · rw [if_neg (by omega), if_neg (by omega), if_pos (by omega), if_pos continued]
    · rw [if_neg (by omega), if_neg (by omega), if_neg (by omega), if_pos (by omega),
        if_pos continued]
    · rw [if_neg (by omega), if_neg (by omega), if_neg (by omega), if_neg (by omega),
        if_pos (by omega), if_pos continued]

/-- A first byte, and as many others as it asks for. -/
def Led (first : UInt8) (tails : Bytes) : Prop :=
  Leads first (tails.length + 1) ∧ ∀ byte ∈ tails, Utf8.IsTail byte

theorem checkMultibyteCharacters_tails {tails : Bytes}
    (continued : ∀ byte ∈ tails, Utf8.IsTail byte) (more : Bytes) :
    checkMultibyteCharacters (tails ++ more) tails.length = true := by
  induction tails with
  | nil => exact checkMultibyteCharacters_zero more
  | cons byte tails ih =>
      obtain ⟨own, others⟩ := List.forall_mem_cons.mp continued
      exact checkMultibyteCharacters_cons.mpr ⟨own, ih others⟩

theorem Led.valid {first : UInt8} {tails : Bytes} (led : Led first tails) (more : Bytes) :
    validUtf8Char first (tails ++ more) = some (tails.length + 1) :=
  validUtf8Char_eq_some_iff.mpr ⟨led.1, checkMultibyteCharacters_tails led.2 more⟩

theorem exists_led_of_isCharacter {bytes : Bytes} (shape : Utf8.IsCharacter bytes) :
    ∃ first tails, bytes = first :: tails ∧ Led first tails := by
  fun_cases Utf8.IsCharacter bytes with
  | case1 first => exact ⟨first, [], rfl, .inl ⟨rfl, shape⟩, by simp⟩
  | case2 first second =>
      obtain ⟨least, most, tail⟩ := shape
      exact ⟨first, [second], rfl, .inr (.inl ⟨rfl, least, most⟩), by simp [tail]⟩
  | case3 first second third =>
      obtain ⟨least, most, tail, _, other⟩ := shape
      exact ⟨first, [second, third], rfl, .inr (.inr (.inl ⟨rfl, least, most⟩)),
        by simp [tail, other]⟩
  | case4 first second third fourth =>
      obtain ⟨least, most, tail, _, other, last⟩ := shape
      exact ⟨first, [second, third, fourth], rfl,
        .inr (.inr (.inr ⟨rfl, least, Nat.lt_trans most (by decide)⟩)), by simp [tail, other, last]⟩
  | case5 bytes one two three four =>
      rw [Utf8.IsCharacter] at shape
      · contradiction
      · exact one
      · exact two
      · exact three
      · exact four

theorem exists_led_of_mistakable {bytes : Bytes} (mistakable : Mistakable bytes) :
    ∃ first tails, bytes = first :: tails ∧ Led first tails ∧ 0xe0 ≤ first.toNat := by
  fun_cases Mistakable bytes with
  | case1 first second third =>
      obtain ⟨tail, other, range⟩ := mistakable
      exact ⟨first, [second, third], rfl,
        ⟨.inr (.inr (.inl ⟨rfl, by omega, by omega⟩)), by simp [tail, other]⟩, by omega⟩
  | case2 first second third fourth =>
      obtain ⟨tail, other, last, range⟩ := mistakable
      exact ⟨first, [second, third, fourth], rfl,
        ⟨.inr (.inr (.inr ⟨rfl, by omega, by omega⟩)), by simp [tail, other, last]⟩, by omega⟩
  | case3 bytes three four =>
      rw [Mistakable] at mistakable
      · contradiction
      · exact three
      · exact four

theorem exists_led_of_character (character : Char) :
    ∃ first tails, String.utf8EncodeChar character = first :: tails ∧ Led first tails :=
  exists_led_of_isCharacter (Utf8.isCharacter_encode character)

theorem validUtf8Char_of_character {character : Char} {first : UInt8} {rest more : Bytes}
    (starts : String.utf8EncodeChar character ++ more = first :: rest) :
    validUtf8Char first rest = some (String.utf8EncodeChar character).length := by
  obtain ⟨own, tails, bytes, led⟩ := exists_led_of_character character
  rw [bytes] at starts ⊢
  obtain ⟨rfl, rfl⟩ := List.cons.inj starts
  exact led.valid more

theorem exists_cons_of_check {text : Bytes} {nchar : Nat}
    (continued : checkMultibyteCharacters text (nchar + 1) = true) :
    ∃ byte rest, text = byte :: rest ∧ Utf8.IsTail byte ∧
      checkMultibyteCharacters rest nchar = true := by
  cases text with
  | nil => contradiction
  | cons byte rest => exact ⟨byte, rest, rfl, checkMultibyteCharacters_cons.mp continued⟩

/-- What is taken for a character is one, or one of those that it can be mistaken for. -/
theorem isCharacter_or_mistakable {first : UInt8} {rest : Bytes} {utf8Length : Nat}
    (valid : validUtf8Char first rest = some utf8Length) :
    Utf8.IsCharacter (first :: rest.take (utf8Length - 1)) ∨
      Mistakable (first :: rest.take (utf8Length - 1)) := by
  obtain ⟨leads, continued⟩ := validUtf8Char_eq_some_iff.mp valid
  unfold Leads at leads
  obtain ⟨rfl, small⟩ | ⟨rfl, least, most⟩ | ⟨rfl, least, most⟩ | ⟨rfl, least, most⟩ := leads
  · exact .inl small
  · obtain ⟨second, rest, rfl, tail, _⟩ := exists_cons_of_check continued
    exact .inl ⟨least, most, tail⟩
  · obtain ⟨second, rest, rfl, secondTail, continued⟩ := exists_cons_of_check continued
    obtain ⟨third, rest, rfl, thirdTail, _⟩ := exists_cons_of_check continued
    simp only [Nat.reduceSub, List.take_succ_cons, List.take_zero, Utf8.IsCharacter, Mistakable,
      Utf8.SecondOfThree]
    simp only [secondTail, thirdTail, true_and, and_true]
    omega
  · obtain ⟨second, rest, rfl, secondTail, continued⟩ := exists_cons_of_check continued
    obtain ⟨third, rest, rfl, thirdTail, continued⟩ := exists_cons_of_check continued
    obtain ⟨fourth, rest, rfl, fourthTail, _⟩ := exists_cons_of_check continued
    simp only [Nat.reduceSub, List.take_succ_cons, List.take_zero, Utf8.IsCharacter, Mistakable,
      Utf8.SecondOfFour]
    simp only [secondTail, thirdTail, fourthTail, true_and, and_true]
    omega

theorem not_isCharacter_of_mistakable {bytes : Bytes} (mistakable : Mistakable bytes) :
    ¬Utf8.IsCharacter bytes := by
  fun_cases Mistakable bytes with
  | case1 first second third =>
      simp only [Mistakable, Utf8.IsCharacter, Utf8.SecondOfThree] at mistakable ⊢
      omega
  | case2 first second third fourth =>
      simp only [Mistakable, Utf8.IsCharacter, Utf8.SecondOfFour] at mistakable ⊢
      omega
  | case3 bytes three four =>
      rw [Mistakable] at mistakable
      · contradiction
      · exact three
      · exact four

/-! The turn for a character -/

theorem escapeTurn_ascii : ∀ byte : UInt8, byte.toNat < 0x80 →
    (if byte ∈ toEscapeChars then
        [92] ++ [escapedChars.getD (toEscapeChars.idxOf byte) 0]
      else [byte]) = jsonCharacter (Char.ofUInt8 byte) :=
  forall_byte (by decide +kernel)

theorem jsonCharacter_wide {character : Char}
    (wide : 1 < (String.utf8EncodeChar character).length) :
    jsonCharacter character = String.utf8EncodeChar character := by
  have big : 0x7f < character.val.toNat := by
    rw [String.length_utf8EncodeChar] at wide
    have notOne : ¬character.utf8Size = 1 := Nat.ne_of_gt wide
    rw [Char.utf8Size_eq_one_iff] at notOne
    exact UInt32.lt_iff_toNat_lt.mp (UInt32.not_le.mp notOne)
  have unescaped : escapeLetter character = none := by
    unfold escapeLetter
    split <;> first | rfl | omega
  unfold jsonCharacter
  rw [unescaped]

theorem escapeTurn_character {character : Char} {first : UInt8} {rest more : Bytes}
    (starts : String.utf8EncodeChar character ++ more = first :: rest) :
    escapeTurn first rest =
      (jsonCharacter character, (String.utf8EncodeChar character).length) := by
  have some := String.length_utf8EncodeChar character ▸ character.utf8Size_pos
  unfold escapeTurn
  rw [validUtf8Char_of_character starts]
  obtain one | wide := Nat.eq_or_lt_of_le (Nat.succ_le_of_lt some)
  · obtain ⟨byte, single⟩ := List.length_eq_one_iff.mp one.symm
    have shape := Utf8.isCharacter_encode character
    rw [single] at shape starts ⊢
    obtain ⟨rfl, rfl⟩ := List.cons.inj starts
    have small : byte < 128 := UInt8.lt_iff_toNat_lt.mpr shape
    have same : Char.ofUInt8 byte = character := by
      have encoded := JsonText.utf8EncodeChar_ofUInt8 small
      exact (Utf8.encode_append_inj (congrArg (· ++ []) (encoded.trans single.symm))).1
    have turn := escapeTurn_ascii byte shape
    rw [same] at turn
    rw [← turn]
    dsimp only [List.length_singleton]
    split
    · next escaped => rw [if_pos escaped.2]
    · next bare => rw [if_neg fun escaped => bare ⟨rfl, escaped⟩]; rfl
  · dsimp only
    rw [if_neg fun escaped => Nat.ne_of_gt wide escaped.1, jsonCharacter_wide wide]
    cases bytes : String.utf8EncodeChar character with
    | nil => exact absurd bytes (Utf8.encode_ne_nil character)
    | cons byte tail =>
        rw [bytes] at starts
        obtain ⟨rfl, rfl⟩ := List.cons.inj starts
        have kept : (tail ++ more).take tail.length = tail := List.take_left
        rw [List.length_cons, Nat.add_sub_cancel]
        exact congrArg (fun bytes => (byte :: bytes, tail.length + 1)) kept

theorem appendEscapedFrom_character {character : Char} {turns : Nat} (more : Bytes) :
    appendEscapedFrom (turns + 1) (String.utf8EncodeChar character ++ more) =
      jsonCharacter character ++ appendEscapedFrom turns more := by
  cases bytes : String.utf8EncodeChar character with
  | nil => exact absurd bytes (Utf8.encode_ne_nil character)
  | cons byte tail =>
      have turn := @escapeTurn_character character byte (tail ++ more) more (by rw [bytes]; rfl)
      rw [List.cons_append, appendEscapedFrom_cons, turn, bytes, List.length_cons,
        Nat.add_sub_cancel, List.drop_left]

theorem appendEscaped_character (character : Char) (more : Bytes) :
    appendEscaped (String.utf8EncodeChar character ++ more) =
      jsonCharacter character ++ appendEscaped more := by
  have some := String.length_utf8EncodeChar character ▸ character.utf8Size_pos
  have enough : more.length ≤
      (String.utf8EncodeChar character ++ more).length - 1 := by
    rw [List.length_append]
    omega
  have turns : (String.utf8EncodeChar character ++ more).length =
      (String.utf8EncodeChar character ++ more).length - 1 + 1 := by
    rw [List.length_append]
    omega
  unfold appendEscaped
  rw [turns, appendEscapedFrom_character, appendEscapedFrom_enough enough (Nat.le_refl _)]

theorem appendEscaped_characters (characters : List Char) :
    appendEscaped (characters.flatMap String.utf8EncodeChar) =
      characters.flatMap jsonCharacter := by
  induction characters with
  | nil => rfl
  | cons character others ih =>
      rw [List.flatMap_cons, List.flatMap_cons, appendEscaped_character, ih]

theorem appendEscaped_invalid {first : UInt8} {rest : Bytes}
    (invalid : validUtf8Char first rest = none) :
    appendEscaped (first :: rest) = ascii "%" ++ n16 first ++ appendEscaped rest := by
  unfold appendEscaped
  rw [List.length_cons, appendEscapedFrom_cons, escapeTurn, invalid]
  rfl

/-- A byte that is not ASCII is copied with the others of its character. -/
theorem head_appendEscaped {first : UInt8} {rest : Bytes} {utf8Length : Nat}
    (valid : validUtf8Char first rest = some utf8Length) (large : 0x80 ≤ first.toNat) :
    (appendEscaped (first :: rest)).head? = some first := by
  have leads := (validUtf8Char_eq_some_iff.mp valid).1
  unfold Leads at leads
  unfold appendEscaped
  rw [List.length_cons, appendEscapedFrom_cons, escapeTurn, valid]
  dsimp only
  rw [if_neg (by omega)]
  rfl

/-! Every byte string -/

/-- The characters of the text stand as they are to stand in a string in JSON, and each byte that
starts none in percent notation. -/
inductive PercentEscaped : Bytes → Bytes → Prop
  | nil : PercentEscaped [] []
  | character {rest escaped : Bytes} (character : Char) (more : PercentEscaped rest escaped) :
      PercentEscaped (String.utf8EncodeChar character ++ rest)
        (jsonCharacter character ++ escaped)
  | percent {rest escaped : Bytes} (byte : UInt8)
      (stray : ∀ character more, String.utf8EncodeChar character ++ more ≠ byte :: rest)
      (more : PercentEscaped rest escaped) :
      PercentEscaped (byte :: rest) (ascii "%" ++ n16 byte ++ escaped)

theorem percentEscaped_appendEscaped {text : Bytes}
    (clear : ∀ part, part <:+: text → ¬Mistakable part) :
    PercentEscaped text (appendEscaped text) := by
  induction size : text.length using Nat.strongRecOn generalizing text with
  | ind size ih =>
      subst size
      cases text with
      | nil => exact .nil
      | cons first rest =>
          cases valid : validUtf8Char first rest with
          | none =>
              rw [appendEscaped_invalid valid]
              refine .percent first ?_ (ih rest.length (Nat.lt_succ_self _) ?_ rfl)
              · intro character more starts
                rw [validUtf8Char_of_character starts] at valid
                contradiction
              · exact fun part within => clear part (List.infix_cons within)
          | some utf8Length =>
              have whole : first :: rest.take (utf8Length - 1) ++ rest.drop (utf8Length - 1) =
                  first :: rest := by
                rw [List.cons_append, List.take_append_drop]
              obtain shape | mistakable := isCharacter_or_mistakable valid
              · obtain ⟨character, bytes⟩ := Utf8.isCharacter_iff.mp shape
                rw [← bytes] at whole
                rw [← whole, appendEscaped_character]
                refine .character character (ih _ ?_ ?_ rfl)
                · rw [List.length_drop, List.length_cons]
                  omega
                · intro part within
                  exact clear part
                    (List.infix_cons (within.trans (List.drop_suffix _ _).isInfix))
              · exact absurd mistakable (clear _ ⟨[], _, whole⟩)

theorem mistakable_after_tails {part tails rest : Bytes} (mistakable : Mistakable part)
    (continued : ∀ byte ∈ tails, Utf8.IsTail byte) (within : part <:+: tails ++ rest) :
    part <:+: rest := by
  induction tails with
  | nil => exact within
  | cons byte tails ih =>
      obtain ⟨own, others⟩ := List.forall_mem_cons.mp continued
      obtain ⟨more, starts⟩ | later := List.infix_cons_iff.mp within
      · obtain ⟨first, _, rfl, _, large⟩ := exists_led_of_mistakable mistakable
        obtain ⟨rfl, _⟩ := List.cons.inj starts
        exact absurd own.2 (by omega)
      · exact ih others later

theorem valid_of_mistakable {part more rest : Bytes} {first : UInt8}
    (mistakable : Mistakable part) (starts : part ++ more = first :: rest) :
    validUtf8Char first rest = some part.length := by
  obtain ⟨own, tails, rfl, led, _⟩ := exists_led_of_mistakable mistakable
  obtain ⟨rfl, rfl⟩ := List.cons.inj starts
  exact led.valid more

/-- What can be mistaken for a character is not a part of one. -/
theorem mistakable_after_character {part rest : Bytes} (mistakable : Mistakable part)
    {character : Char} (within : part <:+: String.utf8EncodeChar character ++ rest) :
    part <:+: rest := by
  obtain ⟨first, tails, bytes, led⟩ := exists_led_of_character character
  rw [bytes] at within
  obtain ⟨more, starts⟩ | later := List.infix_cons_iff.mp within
  · have lengths := (valid_of_mistakable mistakable starts).symm.trans (led.valid rest)
    have same : part = first :: tails :=
      (List.append_inj (starts.trans (List.cons_append).symm) (Option.some.inj lengths)).1
    rw [same, ← bytes] at mistakable
    exact absurd (Utf8.isCharacter_encode character) (not_isCharacter_of_mistakable mistakable)
  · exact mistakable_after_tails mistakable led.2 later

theorem PercentEscaped.clear {text escaped : Bytes} (percent : PercentEscaped text escaped)
    (same : escaped = appendEscaped text) : ∀ part, part <:+: text → ¬Mistakable part := by
  induction percent with
  | nil =>
      intro part within
      rw [List.infix_nil.mp within]
      exact id
  | character character more ih =>
      rw [appendEscaped_character] at same
      intro part within mistakable
      exact ih (List.append_cancel_left same) part
        (mistakable_after_character mistakable within) mistakable
  | @percent rest escaped byte stray more ih =>
      intro part within mistakable
      cases valid : validUtf8Char byte rest with
      | none =>
          rw [appendEscaped_invalid valid] at same
          obtain ⟨after, starts⟩ | later := List.infix_cons_iff.mp within
          · rw [valid_of_mistakable mistakable starts] at valid
            contradiction
          · exact ih (List.append_cancel_left same) part later mistakable
      | some utf8Length =>
          have whole : byte :: rest.take (utf8Length - 1) ++ rest.drop (utf8Length - 1) =
              byte :: rest := by
            rw [List.cons_append, List.take_append_drop]
          obtain shape | mistaken := isCharacter_or_mistakable valid
          · obtain ⟨character, bytes⟩ := Utf8.isCharacter_iff.mp shape
            rw [← bytes] at whole
            exact stray character _ whole
          · obtain ⟨_, _, starts, _, large⟩ := exists_led_of_mistakable mistaken
            obtain ⟨rfl, _⟩ := List.cons.inj starts
            have copied := head_appendEscaped valid (by omega)
            rw [← same] at copied
            obtain rfl := Option.some.inj copied
            exact absurd large (by decide)

theorem n16_ascii : ∀ value : UInt8, ∀ byte ∈ n16 value, byte.toNat < 0x80 := by
  intro value byte member
  have plain := List.all_eq_true.mp (byteTexts_plain value).1 byte member
  simp only [JsonText.isPlain, Bool.and_eq_true, decide_eq_true_eq] at plain
  exact UInt8.lt_iff_toNat_lt.mp plain.1.1.2

theorem escapeLetter_ascii {character : Char} {letter : UInt8}
    (escaped : escapeLetter character = some letter) : letter.toNat < 0x80 := by
  unfold escapeLetter at escaped
  split at escaped <;> cases escaped <;> decide

theorem jsonCharacter_wellFormed (character : Char) :
    Utf8.WellFormed (jsonCharacter character) := by
  unfold jsonCharacter
  split
  · next letter escaped =>
      apply Utf8.WellFormed.of_ascii
      simp [escapeLetter_ascii escaped]
  · exact .character character

theorem PercentEscaped.wellFormed {text escaped : Bytes} (percent : PercentEscaped text escaped) :
    Utf8.WellFormed escaped := by
  induction percent with
  | nil => exact .nil
  | character character more ih => exact (jsonCharacter_wellFormed character).append ih
  | percent byte stray more ih =>
      have sign : Utf8.WellFormed (ascii "%") := .of_ascii (List.forall_mem_singleton.mpr (by decide))
      exact (sign.append (.of_ascii (n16_ascii byte))).append ih

/-- What is appended is in UTF-8: the characters of the string, and percent notation for the bytes
between them. -/
def AppendsUtf8 (string : Bytes) : Prop :=
  ∀ buffer, ∃ escaped, AppendsEscaped buffer string (buffer ++ escaped) escaped.length ∧
    PercentEscaped string escaped ∧ Utf8.WellFormed escaped

theorem AppendsUtf8.clear {string : Bytes} (appends : AppendsUtf8 string) :
    ∀ part, part <:+: string → ¬Mistakable part := by
  obtain ⟨escaped, ran, percent, _⟩ := appends []
  exact percent.clear (ran.of_short ran.isShort).1

theorem appendEscaped_utf8_iff {string : Bytes} (short : string.length < 2 ^ 32) :
    AppendsUtf8 string ↔ ∀ part, part <:+: string → ¬Mistakable part := by
  constructor
  · exact AppendsUtf8.clear
  · intro clear buffer
    have percent := percentEscaped_appendEscaped clear
    exact ⟨appendEscaped string, appendsEscaped_short short buffer, percent, percent.wellFormed⟩

theorem appendEscaped_utf8_euro :
    AppendsUtf8 [0xe2, 0x82, 0xac, 0xff] ↔
      ∀ part, part <:+: [0xe2, 0x82, 0xac, 0xff] → ¬Mistakable part :=
  appendEscaped_utf8_iff (by decide)

/-- The surrogate `U+D800` is copied as it is. -/
theorem not_appendsUtf8_surrogate : ¬AppendsUtf8 [0xed, 0xa0, 0x80] := by
  intro appends
  refine appends.clear [0xed, 0xa0, 0x80] (List.infix_refl _) ?_
  unfold Mistakable Utf8.IsTail
  decide

/-! Texts in UTF-8 -/

/-- What is appended stands for the string in JSON. -/
def RoundTrips (string : Bytes) : Prop :=
  ∀ buffer, ∃ escaped, AppendsEscaped buffer string (buffer ++ escaped) escaped.length ∧
    JsonText escaped ∧ JsonString.read escaped = some string

/-- The control characters that have a letter of their own. -/
def lettered : Bytes := [8, 9, 10, 12, 13]

/-- The character is printable, or has an escape. -/
def Escapable (character : Char) : Prop :=
  0x20 ≤ character.val.toNat ∨ escapeLetter character ≠ none

theorem escapeLetter_known {character : Char} {letter : UInt8}
    (escaped : escapeLetter character = some letter) :
    letter ∈ ascii "\"\\/bfnrt" ∧ ∃ byte, JsonString.letterByte letter = some byte ∧
      String.utf8EncodeChar character = [byte] := by
  unfold escapeLetter at escaped
  split at escaped <;> cases escaped <;> next value =>
    refine ⟨by decide +kernel, _, rfl, ?_⟩
    rw [Utf8.encode_ascii (by omega), value]
    rfl

theorem jsonCharacter_text {character : Char} (escapable : Escapable character) :
    JsonText (jsonCharacter character) := by
  unfold jsonCharacter
  cases escaped : escapeLetter character with
  | some letter => exact .escape (escapeLetter_known escaped).1 .nil
  | none =>
      have printable := escapable.resolve_right (not_not.mpr escaped)
      have text := JsonText.character character (UInt32.le_iff_toNat_le.mpr printable) ?_ .nil
      · rwa [List.append_nil] at text
      · constructor
        · rintro rfl
          contradiction
        · rintro rfl
          contradiction

theorem read_jsonCharacter {character : Char} (escapable : Escapable character) (rest : Bytes) :
    JsonString.read (jsonCharacter character ++ rest) =
      (JsonString.read rest).map (String.utf8EncodeChar character ++ ·) := by
  unfold jsonCharacter
  cases escaped : escapeLetter character with
  | some letter =>
      obtain ⟨_, byte, known, encoded⟩ := escapeLetter_known escaped
      rw [encoded]
      exact JsonString.read_letter known rest
  | none =>
      have printable := escapable.resolve_right (not_not.mpr escaped)
      apply JsonString.read_bares
      intro byte member
      rw [UInt8.le_iff_toNat_le]
      obtain small | large := Nat.lt_or_ge byte.toNat 128
      · have value := Before.utf8EncodeChar_ascii member (UInt8.lt_iff_toNat_lt.mpr small)
        refine ⟨by rwa [← value], ?_, ?_⟩
        · rintro rfl
          unfold escapeLetter at escaped
          rw [value] at escaped
          contradiction
        · rintro rfl
          unfold escapeLetter at escaped
          rw [value] at escaped
          contradiction
      · refine ⟨Nat.le_trans (by decide) large, ?_, ?_⟩
        · rintro rfl
          contradiction
        · rintro rfl
          contradiction

theorem read_jsonCharacters {characters : List Char}
    (escapable : ∀ character ∈ characters, Escapable character) :
    JsonText (characters.flatMap jsonCharacter) ∧
      JsonString.read (characters.flatMap jsonCharacter) =
        some (characters.flatMap String.utf8EncodeChar) := by
  induction characters with
  | nil => exact ⟨.nil, rfl⟩
  | cons character others ih =>
      obtain ⟨own, rest⟩ := List.forall_mem_cons.mp escapable
      obtain ⟨text, read⟩ := ih rest
      rw [List.flatMap_cons, List.flatMap_cons]
      refine ⟨(jsonCharacter_text own).append text, ?_⟩
      rw [read_jsonCharacter own, read]
      rfl

theorem RoundTrips.escapable {characters : List Char}
    (trips : RoundTrips (characters.flatMap String.utf8EncodeChar)) :
    ∀ character ∈ characters, Escapable character := by
  intro character member
  obtain ⟨escaped, ran, text, _⟩ := trips []
  have same := (ran.of_short ran.isShort).1
  rw [List.nil_append, List.nil_append, appendEscaped_characters] at same
  subst same
  cases known : escapeLetter character with
  | some letter => exact .inr (by rw [known]; exact Option.some_ne_none letter)
  | none =>
      left
      obtain small | large := Nat.lt_or_ge character.val.toNat 0x80
      · have copied : UInt8.ofNat character.val.toNat ∈ characters.flatMap jsonCharacter := by
          apply List.mem_flatMap_of_mem member
          unfold jsonCharacter
          rw [known, Utf8.encode_ascii small]
          exact List.mem_singleton_self _
        have printable := UInt8.le_iff_toNat_le.mp (text.printable _ copied)
        rwa [UInt8.toNat_ofNat_of_lt' (Nat.lt_trans small (by decide))] at printable
      · exact Nat.le_trans (by decide) large

theorem mem_lettered {byte : UInt8} :
    byte ∈ lettered ↔ byte.toNat = 8 ∨ byte.toNat = 9 ∨ byte.toNat = 10 ∨ byte.toNat = 12 ∨
      byte.toNat = 13 := by
  simp only [lettered, List.mem_cons, List.not_mem_nil, or_false, ← UInt8.toNat_inj]
  rfl

theorem escapable_iff {character : Char} :
    Escapable character ↔
      ∀ byte ∈ String.utf8EncodeChar character, byte < 0x20 → byte ∈ lettered := by
  constructor
  · intro escapable byte member control
    have small := Nat.lt_trans (UInt8.lt_iff_toNat_lt.mp control) (by decide : 0x20 < 128)
    have value := Before.utf8EncodeChar_ascii member (UInt8.lt_iff_toNat_lt.mpr small)
    replace control : byte.toNat < 0x20 := UInt8.lt_iff_toNat_lt.mp control
    have letter := escapable.resolve_left (by omega)
    unfold escapeLetter at letter
    rw [value] at letter
    rw [mem_lettered]
    split at letter <;> first | omega | contradiction
  · intro known
    obtain control | printable := Nat.lt_or_ge character.val.toNat 0x20
    · right
      have number : (UInt8.ofNat character.val.toNat).toNat = character.val.toNat :=
        UInt8.toNat_ofNat_of_lt' (Nat.lt_trans control (by decide))
      rw [Utf8.encode_ascii (Nat.lt_trans control (by decide)), List.forall_mem_singleton,
        mem_lettered, UInt8.lt_iff_toNat_lt, number] at known
      obtain value | value | value | value | value := known control <;> simp [escapeLetter, value]
    · exact .inl printable

/-- A text in UTF-8 comes back if its length fits in 32 bits and all of its control characters
have a letter. -/
theorem appendEscaped_roundTrips_iff {string : Bytes} (wellFormed : Utf8.WellFormed string) :
    RoundTrips string ↔
      string.length < 2 ^ 32 ∧ ∀ byte ∈ string, byte < 0x20 → byte ∈ lettered := by
  obtain ⟨characters, rfl⟩ := wellFormed
  have every : (∀ character ∈ characters, Escapable character) ↔
      ∀ byte ∈ characters.flatMap String.utf8EncodeChar, byte < 0x20 → byte ∈ lettered := by
    simp only [List.forall_mem_flatMap, escapable_iff]
  rw [← every]
  constructor
  · intro trips
    obtain ⟨_, ran, _⟩ := trips []
    exact ⟨ran.isShort, trips.escapable⟩
  · intro both buffer
    obtain ⟨short, escapable⟩ := both
    obtain ⟨text, read⟩ := read_jsonCharacters escapable
    rw [← appendEscaped_characters] at text read
    exact ⟨_, appendsEscaped_short short buffer, text, read⟩

theorem roundTrips_newline :
    RoundTrips [97, 10] ↔
      ([97, 10] : Bytes).length < 2 ^ 32 ∧
        ∀ byte ∈ ([97, 10] : Bytes), byte < 0x20 → byte ∈ lettered :=
  appendEscaped_roundTrips_iff (.of_ascii (by simp))

/-- A zero byte is copied as it is. -/
theorem not_roundTrips_zero : Utf8.WellFormed [0] ∧ ¬RoundTrips [0] := by
  refine ⟨.of_ascii (by simp), ?_⟩
  intro trips
  have escapable := @RoundTrips.escapable [Char.ofNat 0] trips _ (List.mem_singleton_self _)
  revert escapable
  unfold Escapable
  decide

end F2k
