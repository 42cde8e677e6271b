import F2k.Lib.Outcome
import F2k.Texts

namespace F2k

open Lib

/-! The loop of `append_escaped`: its index has 32 bits, and every byte it takes from the string
is looked for below the end of it. -/

/-- A byte was read that the string does not have. -/
structure BeyondEnd where
  index : Nat
deriving DecidableEq

def readByte (string : Bytes) (index : Nat) : Except BeyondEnd UInt8 :=
  match string[index]? with
  | some byte => .ok byte
  | none => .error { index }

def readBytes (string : Bytes) (index : Nat) : Nat → Except BeyondEnd Bytes
  | 0 => .ok []
  | count + 1 => do
      let byte ← readByte string index
      let bytes ← readBytes string (index + 1) count
      .ok (byte :: bytes)

/-- The loop of `check_multibyte_characters`. -/
def checkContinued (string : Bytes) (index : Nat) : Nat → Except BeyondEnd Bool
  | 0 => .ok true
  | count + 1 => do
      let byte ← readByte string index
      if byte &&& 0xc0 ≠ 0x80 then .ok false else checkContinued string (index + 1) count

def checkMultibyteAt (string : Bytes) (index strLen nchar : Nat) : Except BeyondEnd Bool :=
  if strLen < nchar then .ok false else checkContinued string index (min strLen nchar)

def continuedBy (string : Bytes) (cursor toEnd more : Nat) : Except BeyondEnd (Option Nat) := do
  let continued ← checkMultibyteAt string (cursor + 1) (toEnd - 1) more
  .ok (if continued then some (more + 1) else none)

def validUtf8CharAt (string : Bytes) (cursor toEnd : Nat) : Except BeyondEnd (Option Nat) := do
  let b ← readByte string cursor
  if b &&& 0x80 = 0 then .ok (some 1)
  else if b = 0xc0 ∨ b = 0xc1 then .ok none
  else if b &&& 0xe0 = 0xc0 then continuedBy string cursor toEnd 1
  else if b &&& 0xf0 = 0xe0 then continuedBy string cursor toEnd 2
  else if b &&& 0xf8 = 0xf0 then continuedBy string cursor toEnd 3
  else .ok none

structure Escaping where
  buffer : Bytes
  i : UInt32

def Escaping.append (escaping : Escaping) (text : Bytes) (utf8Length : Nat) : Escaping where
  buffer := escaping.buffer ++ text
  i := escaping.i + UInt32.ofNat utf8Length

/-- The text that a turn of the loop appends, and how many bytes it has dealt with then. -/
def escapeAt (string : Bytes) (i : Nat) : Except BeyondEnd (Bytes × Nat) := do
  let utf8Length ← validUtf8CharAt string i (string.length - i)
  let byte ← readByte string i
  match utf8Length with
  | none => .ok (ascii "%" ++ n16 byte, 1)
  | some utf8Length =>
      if utf8Length = 1 ∧ byte ∈ toEscapeChars then
        .ok ([92] ++ [escapedChars.getD (toEscapeChars.idxOf byte) 0], 1)
      else do
        let text ← readBytes string i utf8Length
        .ok (text, utf8Length)

/-- So many turns of the loop; there is no result when it has not ended by then. -/
def appendEscapedLoop (string : Bytes) :
    Nat → Escaping → Except BeyondEnd (Option Escaping)
  | 0, _ => .ok none
  | turns + 1, escaping =>
      if escaping.i.toNat < string.length then do
        let turn ← escapeAt string escaping.i.toNat
        appendEscapedLoop string turns (escaping.append turn.1 turn.2)
      else .ok (some escaping)

/-- The call ends, with this text in the buffer and this result. -/
def AppendsEscaped (buffer string after : Bytes) (returned : Nat) : Prop :=
  ∃ turns final, appendEscapedLoop string turns { buffer, i := 0 } = .ok (some final) ∧
    after = final.buffer ∧ returned = final.buffer.length - buffer.length

/-! What one turn does -/

/-- The turn of the loop for the bytes that are left. -/
def escapeTurn (first : UInt8) (rest : Bytes) : Bytes × Nat :=
  match validUtf8Char first rest with
  | none => (ascii "%" ++ n16 first, 1)
  | some utf8Length =>
      if utf8Length = 1 ∧ first ∈ toEscapeChars then
        ([92] ++ [escapedChars.getD (toEscapeChars.idxOf first) 0], 1)
      else (first :: rest.take (utf8Length - 1), utf8Length)

theorem appendEscapedFrom_cons (turns : Nat) (first : UInt8) (rest : Bytes) :
    appendEscapedFrom (turns + 1) (first :: rest) =
      (escapeTurn first rest).1 ++
        appendEscapedFrom turns (rest.drop ((escapeTurn first rest).2 - 1)) := by
  rw [appendEscapedFrom, escapeTurn]
  cases validUtf8Char first rest with
  | none => rfl
  | some utf8Length =>
      dsimp only
      split
      · rfl
      · rfl

theorem escapeTurn_fits (first : UInt8) (rest : Bytes) :
    0 < (escapeTurn first rest).2 ∧ (escapeTurn first rest).2 ≤ rest.length + 1 := by
  unfold escapeTurn
  cases valid : validUtf8Char first rest with
  | none => exact ⟨Nat.one_pos, Nat.le_add_left 1 rest.length⟩
  | some utf8Length =>
      dsimp only
      split
      · exact ⟨Nat.one_pos, Nat.le_add_left 1 rest.length⟩
      · obtain ⟨rfl, _⟩ | ⟨long, followed⟩ := validUtf8Char_eq_some valid
        · exact ⟨Nat.one_pos, Nat.le_add_left 1 rest.length⟩
        · simp only [checkMultibyteCharacters, Bool.and_eq_true, decide_eq_true_eq] at followed
          exact ⟨by omega, by omega⟩

theorem appendEscapedFrom_enough {turns others : Nat} {text : Bytes}
    (enough : text.length ≤ turns) (alsoEnough : text.length ≤ others) :
    appendEscapedFrom turns text = appendEscapedFrom others text := by
  induction turns generalizing others text with
  | zero =>
      obtain rfl := List.length_eq_zero_iff.mp (Nat.le_zero.mp enough)
      cases others <;> rfl
  | succ turns ih =>
      cases text with
      | nil => cases others <;> rfl
      | cons first rest =>
          cases others with
          | zero => contradiction
          | succ others =>
              have left : (rest.drop ((escapeTurn first rest).2 - 1)).length ≤ rest.length := by
                rw [List.length_drop]
                exact Nat.sub_le _ _
              rw [List.length_cons] at enough alsoEnough
              rw [appendEscapedFrom_cons, appendEscapedFrom_cons, ih (by omega)]
              omega

section

variable {string text : Bytes} {index : Nat}

theorem readByte_drop {first : UInt8} {rest : Bytes}
    (left : string.drop index = first :: rest) : readByte string index = .ok first := by
  have found : string[index]? = some first := by
    rw [← List.head?_drop, left]
    rfl
  unfold readByte
  rw [found]

theorem drop_succ_eq {first : UInt8} {rest : Bytes} (left : string.drop index = first :: rest) :
    string.drop (index + 1) = rest := by
  rw [← List.drop_drop, left]
  rfl

theorem checkContinued_drop {count : Nat} (left : string.drop index = text)
    (fits : count ≤ text.length) :
    checkContinued string index count =
      .ok ((text.take count).all fun byte => byte &&& 0xc0 == 0x80) := by
  induction count generalizing index text with
  | zero => rfl
  | succ count ih =>
      cases text with
      | nil => contradiction
      | cons first rest =>
          unfold checkContinued
          rw [readByte_drop left]
          change (if first &&& 0xc0 ≠ 0x80 then .ok false else checkContinued string (index + 1) count)
            = _
          rw [List.take_succ_cons, List.all_cons]
          split
          · next notContinued => simp [beq_eq_false_iff_ne.mpr notContinued]
          · next continued =>
              rw [ih (drop_succ_eq left) (Nat.le_of_succ_le_succ fits),
                beq_iff_eq.mpr (not_not.mp continued), Bool.true_and]

theorem readBytes_drop {count : Nat} (left : string.drop index = text)
    (fits : count ≤ text.length) : readBytes string index count = .ok (text.take count) := by
  induction count generalizing index text with
  | zero => rfl
  | succ count ih =>
      cases text with
      | nil => contradiction
      | cons first rest =>
          unfold readBytes
          rw [readByte_drop left, ih (drop_succ_eq left) (Nat.le_of_succ_le_succ fits)]
          rfl

theorem length_of_drop (left : string.drop index = text) (inside : text ≠ []) :
    index + text.length = string.length := by
  have some := List.length_pos_iff.mpr inside
  rw [← left, List.length_drop] at some ⊢
  omega

theorem continuedBy_drop {first : UInt8} {rest : Bytes} (left : string.drop index = first :: rest)
    (more : Nat) :
    continuedBy string index (string.length - index) more =
      .ok (if checkMultibyteCharacters rest more then some (more + 1) else none) := by
  have lengths := length_of_drop left (List.cons_ne_nil _ _)
  have toEnd : string.length - index - 1 = rest.length := by
    rw [List.length_cons] at lengths
    omega
  unfold continuedBy checkMultibyteAt checkMultibyteCharacters
  rw [toEnd]
  split
  · next short =>
      have tooMany : decide (more ≤ rest.length) = false := decide_eq_false (Nat.not_le.mpr short)
      rw [tooMany]
      rfl
  · next long =>
      have fits := Nat.not_lt.mp long
      rw [Nat.min_eq_right fits, checkContinued_drop (drop_succ_eq left) fits,
        decide_eq_true fits, Bool.true_and]
      rfl

theorem validUtf8CharAt_drop {first : UInt8} {rest : Bytes}
    (left : string.drop index = first :: rest) :
    validUtf8CharAt string index (string.length - index) = .ok (validUtf8Char first rest) := by
  unfold validUtf8CharAt validUtf8Char
  rw [readByte_drop left]
  simp only [continuedBy_drop left]
  change (if first &&& 0x80 = 0 then _ else _) = _
  repeat' split
  all_goals rfl

theorem escapeAt_drop {first : UInt8} {rest : Bytes} (left : string.drop index = first :: rest) :
    escapeAt string index = .ok (escapeTurn first rest) := by
  have fits := escapeTurn_fits first rest
  unfold escapeAt
  rw [validUtf8CharAt_drop left, readByte_drop left]
  unfold escapeTurn at fits ⊢
  cases valid : validUtf8Char first rest with
  | none => rfl
  | some utf8Length =>
      rw [valid] at fits
      change (if utf8Length = 1 ∧ first ∈ toEscapeChars then _ else _) = _
      dsimp only at fits ⊢
      split
      · rfl
      · next bare =>
          rw [if_neg bare] at fits
          obtain ⟨more, rfl⟩ : ∃ more, utf8Length = more + 1 := ⟨utf8Length - 1, by omega⟩
          rw [readBytes_drop left fits.2]
          rfl

end

/-! Whole calls -/

section

variable {string : Bytes}

theorem appendEscapedLoop_more {turns : Nat} {escaping final : Escaping}
    (ran : appendEscapedLoop string turns escaping = .ok (some final)) (more : Nat) :
    appendEscapedLoop string (turns + more) escaping = .ok (some final) := by
  induction turns generalizing escaping with
  | zero =>
      unfold appendEscapedLoop at ran
      cases ran
  | succ turns ih =>
      rw [Nat.add_right_comm]
      unfold appendEscapedLoop at ran ⊢
      split
      · next inside =>
          rw [if_pos inside] at ran
          cases turn : escapeAt string escaping.i.toNat with
          | error beyond =>
              rw [turn] at ran
              contradiction
          | ok turn' =>
              rw [turn] at ran
              exact ih ran
      · next outside => rwa [if_neg outside] at ran

/-- The index never gets as far as the length. -/
theorem appendEscapedLoop_long (long : 2 ^ 32 ≤ string.length) (turns : Nat)
    (escaping final : Escaping) :
    appendEscapedLoop string turns escaping ≠ .ok (some final) := by
  induction turns generalizing escaping with
  | zero => exact Except.ok.inj.mt (Option.some_ne_none final).symm
  | succ turns ih =>
      have inside : escaping.i.toNat < string.length :=
        Nat.lt_of_lt_of_le escaping.i.toNat_lt long
      unfold appendEscapedLoop
      rw [if_pos inside]
      cases escapeAt string escaping.i.toNat with
      | error beyond =>
          intro ran
          contradiction
      | ok turn => exact ih _

theorem appendEscapedLoop_short (short : string.length < 2 ^ 32) {turns index : Nat}
    (inside : index ≤ string.length) (enough : string.length - index ≤ turns) (buffer : Bytes) :
    appendEscapedLoop string (turns + 1) { buffer, i := UInt32.ofNat index } =
      .ok (some
        { buffer := buffer ++ appendEscapedFrom turns (string.drop index)
          i := UInt32.ofNat string.length }) := by
  have position : (UInt32.ofNat index).toNat = index :=
    UInt32.toNat_ofNat_of_lt' (Nat.lt_of_le_of_lt inside short)
  induction turns generalizing index buffer with
  | zero =>
      obtain rfl : index = string.length := by omega
      unfold appendEscapedLoop appendEscapedFrom
      rw [position, if_neg (Nat.lt_irrefl _), List.append_nil]
  | succ turns ih =>
      unfold appendEscapedLoop
      rw [position]
      cases left : string.drop index with
      | nil =>
          have ended : string.length ≤ index := List.drop_eq_nil_iff.mp left
          obtain rfl : index = string.length := by omega
          rw [if_neg (Nat.lt_irrefl _)]
          unfold appendEscapedFrom
          rw [List.append_nil]
      | cons first rest =>
          have lengths := length_of_drop left (List.cons_ne_nil _ _)
          have fits := escapeTurn_fits first rest
          rw [List.length_cons] at lengths
          rw [if_pos (by omega), escapeAt_drop left, appendEscapedFrom_cons]
          have next : string.drop (index + (escapeTurn first rest).2) =
              rest.drop ((escapeTurn first rest).2 - 1) := by
            obtain ⟨more, taken⟩ : ∃ more, (escapeTurn first rest).2 = more + 1 :=
              ⟨(escapeTurn first rest).2 - 1, by omega⟩
            rw [taken, ← List.drop_drop, left]
            rfl
          have later := @ih (index + (escapeTurn first rest).2) (by omega) (by omega)
            (buffer ++ (escapeTurn first rest).1)
            (UInt32.toNat_ofNat_of_lt' (Nat.lt_of_le_of_lt (by omega) short))
          rw [next, List.append_assoc, UInt32.ofNat_add] at later
          exact later

theorem appendsEscaped_short (short : string.length < 2 ^ 32) (buffer : Bytes) :
    AppendsEscaped buffer string (buffer ++ appendEscaped string)
      (appendEscaped string).length := by
  have ran := appendEscapedLoop_short short (Nat.zero_le _) (Nat.le_refl _) buffer
  exact ⟨_, _, ran, rfl, by simp [appendEscaped]⟩

theorem AppendsEscaped.of_short (short : string.length < 2 ^ 32) {buffer after : Bytes}
    {returned : Nat} (appends : AppendsEscaped buffer string after returned) :
    after = buffer ++ appendEscaped string ∧ returned = (appendEscaped string).length := by
  obtain ⟨turns, final, ran, rfl, rfl⟩ := appends
  have whole := appendEscapedLoop_short short (Nat.zero_le _) (Nat.le_refl _) buffer
  have start : UInt32.ofNat 0 = 0 := rfl
  rw [start] at whole
  have later := appendEscapedLoop_more ran (string.length - 0 + 1)
  rw [Nat.add_comm, appendEscapedLoop_more whole turns] at later
  obtain rfl := Option.some.inj (Except.ok.inj later)
  exact ⟨rfl, by simp [appendEscaped]⟩

theorem AppendsEscaped.isShort {buffer after : Bytes} {returned : Nat}
    (appends : AppendsEscaped buffer string after returned) : string.length < 2 ^ 32 := by
  obtain ⟨turns, final, ran, _, _⟩ := appends
  exact Nat.not_le.mp fun long => appendEscapedLoop_long long turns _ final ran

end

end F2k
