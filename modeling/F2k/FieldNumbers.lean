import F2k.Lib.Decimal
import F2k.NamesRead

namespace F2k

open Lib

/-! The numbers of fields: as they are printed, and as the flow cache keeps them. -/

theorem itoa10From_nat {turns number : Nat} (some : 0 < turns) (fits : number < 10 ^ turns)
    (text : Bytes) : itoa10From turns (number : Int) text = decimal number ++ text := by
  induction turns generalizing number text with
  | zero => contradiction
  | succ turns ih =>
      have quotient : (number : Int).tdiv 10 = (number / 10 : Nat) := rfl
      have remainder : (number : Int) - (number / 10 : Nat) * 10 = (number % 10 : Nat) := by omega
      have digit : itoaDigit (number % 10 : Nat) = 48 + UInt8.ofNat (number % 10) := by
        rw [itoaDigit_eq (by omega)]
        rfl
      rw [decimal_eq]
      simp only [itoa10From, quotient, remainder, digit]
      obtain small | large := Nat.lt_or_ge number 10
      · have none : number / 10 = 0 := Nat.div_eq_of_lt small
        rw [if_pos small, none]
        simp
      · have more : ((number / 10 : Nat) : Int) ≠ 0 := by omega
        have nextFits : number / 10 < 10 ^ turns := by
          rw [Nat.pow_succ] at fits
          omega
        have nextSome : 0 < turns := by
          cases turns with
          | zero => omega
          | succ turns => exact Nat.succ_pos turns
        rw [if_neg (Nat.not_lt.mpr large), if_pos more, ih nextSome nextFits]
        simp

theorem toInt64_toInt_of_lt {value : UInt64} (small : value.toNat < 2 ^ 63) :
    value.toInt64.toInt = value.toNat := by
  have small' : 2 * value.toBitVec.toNat < 2 ^ 64 := by
    rw [UInt64.toNat_toBitVec]
    omega
  unfold Int64.toInt
  rw [UInt64.toBitVec_toInt64, BitVec.toInt_eq_toNat_of_lt small', UInt64.toNat_toBitVec]

theorem toInt64_toInt_of_le {value : UInt64} (large : 2 ^ 63 ≤ value.toNat) :
    value.toInt64.toInt < 0 := by
  unfold Int64.toInt
  rw [UInt64.toBitVec_toInt64, BitVec.toInt_neg_iff, UInt64.toNat_toBitVec]
  omega

/-- Numbers are printed as signed ones. -/
theorem n10_eq_decimal_iff (value : UInt64) :
    n10 value = decimal value.toNat ↔ value.toNat < 2 ^ 63 := by
  unfold n10 itoa10
  constructor
  · intro same
    apply Nat.lt_of_not_le
    intro large
    have negative := toInt64_toInt_of_le large
    have low := value.toInt64.le_toInt
    obtain ⟨digits, written, _⟩ := @itoa10From_eq 63 value.toInt64.toInt [] (by decide) (by omega)
    apply decimal_no_sign value.toNat
    rw [← same, written, decide_eq_true negative]
    exact List.mem_cons_self
  · intro small
    have bound : value.toNat < 10 ^ 63 := Nat.lt_trans small (by decide)
    rw [toInt64_toInt_of_lt small, itoa10From_nat (by decide) bound, List.append_nil]

/-- Numbers are read from fields of the lengths that are known, and are zero in all others. -/
theorem net2number_toNat_iff {field : Bytes} (short : field.length < 65536) :
    (net2number field).toNat = beNat field ↔
      NumberRead (some field.length) ∨ beNat field = 0 := by
  constructor
  · intro same
    apply or_iff_not_imp_left.mpr
    intro unread
    rw [← same, net2number_eq_zero unread short]
    rfl
  · intro known
    rcases Classical.em (NumberRead (some field.length)) with read | unread
    · exact net2number_toNat read
    · rw [net2number_eq_zero unread short, known.resolve_left unread]
      rfl

/-! What the exporters make of a number -/

def SavesNumber (run : Run Printed) (kept : FlowCache → UInt64) (number : Nat) : Prop :=
  ∃ printed, run = .ok printed ∧ printed.text = [] ∧ (kept printed.cache).toNat = number

/-- The number of the field is printed, and kept as a count or as a time; uptimes are sent in
milliseconds and kept in seconds. -/
structure NumberExact (globals : ReadOnlyGlobals) (cache : FlowCache) (field : Bytes) : Prop where
  printed : printNumber globals field cache = cache.printed (decimal (beNat field))
  bytes : SavesNumber (saveFlowBytes globals field cache) (·.bytes) (beNat field)
  packets : SavesNumber (saveFlowPkts globals field cache) (·.packets) (beNat field)
  first : SavesNumber (saveFirstSecond globals field cache) (·.time.firstTimestampS)
    (beNat field)
  last : SavesNumber (saveLastSecond globals field cache) (·.time.lastTimestampS) (beNat field)
  firstUptime : SavesNumber (saveFirstSwitched globals field cache)
    (·.time.firstSwitchedUptimeS) (beNat field / 1000)
  lastUptime : SavesNumber (saveLastSwitched globals field cache)
    (·.time.lastSwitchedUptimeS) (beNat field / 1000)

section Fields

variable {globals : ReadOnlyGlobals} {cache : FlowCache} {field : Bytes}

theorem NumberExact.of_read (read : (net2number field).toNat = beNat field)
    (signed : beNat field < 2 ^ 63) : NumberExact globals cache field := by
  have uptime : (net2number field / 1000).toNat = beNat field / 1000 := by
    rw [UInt64.toNat_div, read]
    rfl
  refine
    { printed := ?_
      bytes := ⟨_, rfl, rfl, read⟩
      packets := ⟨_, rfl, rfl, read⟩
      first := ⟨_, rfl, rfl, read⟩
      last := ⟨_, rfl, rfl, read⟩
      firstUptime := ⟨_, rfl, rfl, uptime⟩
      lastUptime := ⟨_, rfl, rfl, uptime⟩ }
  have text : n10 (net2number field) = decimal (beNat field) := by
    rw [← read, n10_eq_decimal_iff, read]
    exact signed
  rw [← text]
  rfl

theorem NumberExact.read (exact : NumberExact globals cache field) :
    (net2number field).toNat = beNat field := by
  obtain ⟨printed, ran, _, kept⟩ := exact.bytes
  rw [← Except.ok.inj ran] at kept
  exact kept

theorem NumberExact.signed (exact : NumberExact globals cache field) : beNat field < 2 ^ 63 := by
  have text := congrArg Printed.text (Except.ok.inj exact.printed)
  rw [← exact.read] at text ⊢
  exact (n10_eq_decimal_iff _).mp text

theorem numberExact_iff (some : 1 ≤ field.length) (short : field.length ≤ 8) :
    NumberExact globals cache field ↔
      beNat field < 2 ^ 63 ∧ (field.length ∈ [1, 2, 4, 6, 8] ∨ beNat field = 0) := by
  have lengths : NumberRead (.some field.length) ↔ field.length ∈ [1, 2, 4, 6, 8] := by
    unfold NumberRead
    simp only [List.mem_cons, List.not_mem_nil, or_false, Option.some.injEq, exists_eq_right']
    omega
  have known := @net2number_toNat_iff field (by omega)
  rw [lengths] at known
  constructor
  · intro exact
    exact ⟨exact.signed, known.mp exact.read⟩
  · intro sound
    obtain ⟨signed, read⟩ := sound
    exact .of_read (known.mpr read) signed

end Fields

theorem numberExact_iff_long :
    NumberExact splittingGlobals noFlowCache [0, 0, 1, 0] ↔
      beNat [0, 0, 1, 0] < 2 ^ 63 ∧
        (([0, 0, 1, 0] : Bytes).length ∈ [1, 2, 4, 6, 8] ∨ beNat [0, 0, 1, 0] = 0) :=
  numberExact_iff (by decide) (by decide)

/-- The highest bit of eight bytes makes a negative number, and three bytes have none. -/
theorem not_numberExact :
    ¬NumberExact splittingGlobals noFlowCache [128, 0, 0, 0, 0, 0, 0, 0] ∧
      ¬NumberExact splittingGlobals noFlowCache [1, 0, 0] := by
  constructor
  · intro exact
    exact absurd exact.signed (by decide)
  · intro exact
    exact absurd exact.read (by decide)

end F2k
