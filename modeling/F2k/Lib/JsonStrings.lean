import F2k.Lib.JsonBytes
import F2k.Lib.Utf8

namespace F2k.Lib

/-! What a string in JSON stands for: the bytes in UTF-8 of the text between its quotes. -/

namespace JsonString

def hexValue (digit : UInt8) : Option Nat :=
  if 48 ≤ digit ∧ digit ≤ 57 then some (digit.toNat - 48)
  else if 65 ≤ digit ∧ digit ≤ 70 then some (digit.toNat - 55)
  else if 97 ≤ digit ∧ digit ≤ 102 then some (digit.toNat - 87)
  else none

def codeUnit (a b c d : UInt8) : Option Nat := do
  let a ← hexValue a
  let b ← hexValue b
  let c ← hexValue c
  let d ← hexValue d
  some (((a * 16 + b) * 16 + c) * 16 + d)

def letterByte (letter : UInt8) : Option UInt8 :=
  if letter = 34 ∨ letter = 92 ∨ letter = 47 then some letter
  else if letter = 98 then some 8
  else if letter = 102 then some 12
  else if letter = 110 then some 10
  else if letter = 114 then some 13
  else if letter = 116 then some 9
  else none

/-- Two halves are one character beyond the first 65536. -/
def surrogates (high low : Nat) : Option Char :=
  if 0xdc00 ≤ low ∧ low < 0xe000 then
    some (Char.ofNat ((high - 0xd800) * 1024 + (low - 0xdc00) + 0x10000))
  else none

/-- Nothing is read from bytes that may not stand between quotes. -/
def read : Bytes → Option Bytes
  | [] => some []
  | byte :: rest =>
      if byte < 0x20 ∨ byte = 34 then none
      else if byte ≠ 92 then (read rest).map (byte :: ·)
      else
        match rest with
        | [] => none
        | 117 :: a :: b :: c :: d :: rest =>
            (codeUnit a b c d).bind fun unit =>
              if 0xd800 ≤ unit ∧ unit < 0xdc00 then
                match rest with
                | 92 :: 117 :: e :: f :: g :: h :: rest =>
                    ((codeUnit e f g h).bind fun low => surrogates unit low).bind
                      fun character => (read rest).map (String.utf8EncodeChar character ++ ·)
                | _ => none
              else if unit.isValidChar then
                (read rest).map (String.utf8EncodeChar (Char.ofNat unit) ++ ·)
              else none
        | letter :: rest => (letterByte letter).bind fun byte => (read rest).map (byte :: ·)

theorem read_bare {byte : UInt8} (printable : 0x20 ≤ byte) (bare : byte ≠ 34 ∧ byte ≠ 92)
    (rest : Bytes) : read (byte :: rest) = (read rest).map (byte :: ·) := by
  rw [read.eq_def]
  simp only
  rw [if_neg, if_pos bare.2]
  rw [not_or, UInt8.not_lt]
  exact ⟨printable, bare.1⟩

theorem read_bares {bytes : Bytes}
    (bare : ∀ byte ∈ bytes, 0x20 ≤ byte ∧ byte ≠ 34 ∧ byte ≠ 92) (rest : Bytes) :
    read (bytes ++ rest) = (read rest).map (bytes ++ ·) := by
  induction bytes with
  | nil => simp
  | cons byte bytes ih =>
      obtain ⟨own, others⟩ := List.forall_mem_cons.mp bare
      rw [List.cons_append, read_bare own.1 own.2, ih others, Option.map_map]
      rfl

theorem read_letter {letter byte : UInt8} (known : letterByte letter = some byte)
    (rest : Bytes) : read (92 :: letter :: rest) = (read rest).map (byte :: ·) := by
  have notUnicode : letter ≠ 117 := by
    rintro rfl
    contradiction
  rw [read, known]
  · rfl
  · rintro _ _ _ _ _ rfl
    contradiction

end JsonString

theorem IsHexDigit.printable {digit : UInt8} (hexadecimal : IsHexDigit digit) :
    0x20 ≤ digit := by
  unfold IsHexDigit IsDigit at hexadecimal
  simp only [UInt8.le_iff_toNat_le, UInt8.toNat_ofNat] at hexadecimal ⊢
  omega

theorem letters_printable : ∀ letter ∈ ascii "\"\\/bfnrt", (0x20 : UInt8) ≤ letter := by
  have checked : (ascii "\"\\/bfnrt").all (fun letter => decide (0x20 ≤ letter)) = true := by
    decide +kernel
  exact fun letter member => of_decide_eq_true (List.all_eq_true.mp checked letter member)

/-- Control characters do not stand in a text as they are. -/
theorem JsonText.printable {text : Bytes} (contents : JsonText text) :
    ∀ byte ∈ text, 0x20 ≤ byte := by
  induction contents with
  | nil => simp
  | @character rest character printable bare more ih =>
      rw [List.forall_mem_append]
      refine ⟨?_, ih⟩
      intro byte member
      rw [UInt8.le_iff_toNat_le]
      obtain small | large := Nat.lt_or_ge byte.toNat 128
      · have value := Before.utf8EncodeChar_ascii member (UInt8.lt_iff_toNat_lt.mpr small)
        rw [← value]
        exact UInt32.le_iff_toNat_le.mp printable
      · exact Nat.le_trans (by decide) large
  | @escape rest letter known more ih =>
      simp only [List.forall_mem_cons]
      exact ⟨by decide, letters_printable letter known, ih⟩
  | @unicode digits rest four hexadecimal more ih =>
      simp only [List.forall_mem_cons, List.forall_mem_append]
      exact ⟨by decide, by decide, fun digit member => (hexadecimal digit member).printable, ih⟩

end F2k.Lib
