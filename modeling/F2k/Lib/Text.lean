import F2k.Lib.Memory
import Mathlib.Data.List.TakeWhile

namespace F2k.Lib

/-! Byte texts: literals, decimal and hexadecimal numbers, and strings as the C library
reads them. -/

def ascii (text : String) : Bytes :=
  text.toList.map fun character => UInt8.ofNat character.toNat

def decimal (number : Nat) : Bytes :=
  (Nat.toDigits 10 number).map fun character => UInt8.ofNat character.toNat

def hexadecimal (number : Nat) : Bytes :=
  (Nat.toDigits 16 number).map fun character => UInt8.ofNat character.toNat

/-- The bytes up to the first zero byte, which is what `strlen` and `strcmp` see. -/
def cString (bytes : Bytes) : Bytes :=
  bytes.takeWhile fun byte => byte != 0

theorem cString_ne_zero {bytes : Bytes} {byte : UInt8} (member : byte ∈ cString bytes) :
    byte ≠ 0 := by
  have kept := List.mem_takeWhile_imp member
  simpa using kept

theorem mem_of_mem_cString {bytes : Bytes} {byte : UInt8} (member : byte ∈ cString bytes) :
    byte ∈ bytes :=
  List.takeWhile_subset _ member

theorem cString_append {text behind : Bytes} (clean : ∀ byte ∈ text, byte ≠ 0) :
    cString (text ++ behind) = text ++ cString behind := by
  unfold cString
  apply List.takeWhile_append_of_pos
  simpa using clean

theorem cString_head {text : Bytes} {byte : UInt8} (first : byte ∈ (cString text).head?) :
    byte ∈ text.head? := by
  unfold cString at first
  cases text with
  | nil => cases first
  | cons head tail =>
      rw [List.takeWhile_cons] at first
      split at first
      · exact first
      · cases first

theorem takeWhile_until {accepted : UInt8 → Bool} {text behind : Bytes}
    (inside : ∀ byte ∈ text, accepted byte = true)
    (stops : ∀ byte ∈ behind.head?, accepted byte = false) :
    (text ++ behind).takeWhile accepted = text ∧
      (text ++ behind).dropWhile accepted = behind := by
  rw [List.takeWhile_append_of_pos inside, List.dropWhile_append_of_pos inside]
  cases behind with
  | nil => exact ⟨List.append_nil _, rfl⟩
  | cons byte rest =>
      have stopped := stops byte rfl
      simp [stopped]

end F2k.Lib
