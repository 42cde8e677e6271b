import F2k.Lib.JsonBytes

namespace F2k.Lib

/-! Decimal texts, and the numbers their digits stand for. -/

def decimalValue (digits : Bytes) : Nat :=
  digits.foldl (fun number digit => number * 10 + (digit.toNat - 48)) 0

theorem decimal_eq (number : Nat) :
    decimal number =
      (if number < 10 then [] else decimal (number / 10)) ++ [48 + UInt8.ofNat (number % 10)] := by
  have digit : ∀ digit : Fin 10,
      UInt8.ofNat (Nat.digitChar digit.val).toNat = 48 + UInt8.ofNat digit.val := by
    decide
  unfold decimal
  rw [Nat.toDigits_eq_if (by decide)]
  split
  · next small =>
      rw [Nat.mod_eq_of_lt small, ← digit ⟨number, small⟩]
      rfl
  · rw [List.map_append, ← digit ⟨number % 10, Nat.mod_lt number (by decide)⟩]
    rfl

theorem decimal_isDigits (number : Nat) : IsDigits (decimal number) := by
  constructor
  · rw [decimal_eq]
    simp
  · intro byte member
    obtain ⟨character, digit, rfl⟩ := List.mem_map.mp member
    obtain ⟨value, small, rfl⟩ := mem_toDigits (by decide) digit
    have every : ∀ digit : Fin 10, IsDigit (UInt8.ofNat (Nat.digitChar digit.val).toNat) := by
      unfold IsDigit
      decide
    exact every ⟨value, small⟩

theorem decimal_no_sign (number : Nat) : (45 : UInt8) ∉ decimal number := by
  intro member
  have digit := (decimal_isDigits number).2 45 member
  exact absurd digit (by unfold IsDigit; decide)

theorem decimalValue_decimal (number : Nat) : decimalValue (decimal number) = number := by
  induction number using Nat.strongRecOn with
  | ind number ih =>
      have last : (48 + UInt8.ofNat (number % 10)).toNat - 48 = number % 10 := by
        have every : ∀ digit : Fin 10, (48 + UInt8.ofNat digit.val).toNat - 48 = digit.val := by
          decide
        exact every ⟨number % 10, Nat.mod_lt number (by decide)⟩
      have front : decimalValue (if number < 10 then [] else decimal (number / 10)) =
          number / 10 := by
        split
        · next small => exact (Nat.div_eq_of_lt small).symm
        · next large => exact ih (number / 10) (Nat.div_lt_self (by omega) (by decide))
      unfold decimalValue at front ⊢
      rw [decimal_eq, List.foldl_append, front]
      simp only [List.foldl_cons, List.foldl_nil, last]
      omega

end F2k.Lib
