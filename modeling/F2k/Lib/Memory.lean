import Mathlib.Data.Nat.Basic
import Mathlib.Tactic.Ring

namespace F2k.Lib

/-! Byte memory seen from a pointer: every offset has a byte, whether or not the
program is entitled to read it. -/

abbrev Bytes := List UInt8

abbrev Mem := Nat → UInt8

namespace Mem

def shift (memory : Mem) (offset : Nat) : Mem :=
  fun index => memory (offset + index)

def slice (memory : Mem) (length : Nat) : Bytes :=
  (List.range length).map memory

def ofBytes (bytes : Bytes) : Mem :=
  fun index => bytes.getD index 0

def AgreeBelow (bound : Nat) (left right : Mem) : Prop :=
  ∀ index, index < bound → left index = right index

@[simp] theorem shift_apply (memory : Mem) (offset index : Nat) :
    memory.shift offset index = memory (offset + index) := rfl

@[simp] theorem shift_shift (memory : Mem) (first second : Nat) :
    (memory.shift first).shift second = memory.shift (first + second) := by
  funext index
  simp [shift, Nat.add_assoc]

@[simp] theorem shift_zero (memory : Mem) : memory.shift 0 = memory := by
  funext index
  simp [shift]

@[simp] theorem length_slice (memory : Mem) (length : Nat) :
    (memory.slice length).length = length := by
  simp [slice]

@[simp] theorem slice_zero (memory : Mem) : memory.slice 0 = [] := rfl

@[simp] theorem getElem_slice (memory : Mem) {length index : Nat}
    (inside : index < (memory.slice length).length) :
    (memory.slice length)[index] = memory index := by
  simp [slice]

theorem slice_succ (memory : Mem) (length : Nat) :
    memory.slice (length + 1) = memory 0 :: (memory.shift 1).slice length := by
  simp only [slice, List.range_succ_eq_map, List.map_cons, List.map_map]
  congr 1
  apply List.map_congr_left
  intro index _
  simp [shift, Nat.add_comm]

theorem slice_add (memory : Mem) (first second : Nat) :
    memory.slice (first + second) =
      memory.slice first ++ (memory.shift first).slice second := by
  induction first generalizing memory with
  | zero => simp
  | succ first ih =>
      have rearranged : first + 1 + second = (first + second) + 1 := by omega
      rw [rearranged, slice_succ, slice_succ, ih, List.cons_append, shift_shift,
        Nat.add_comm 1 first]

theorem slice_ofBytes (bytes : Bytes) : (ofBytes bytes).slice bytes.length = bytes := by
  induction bytes with
  | nil => rfl
  | cons head tail ih =>
      have moved : (ofBytes (head :: tail)).shift 1 = ofBytes tail := by
        funext index
        simp [shift, ofBytes, Nat.add_comm 1 index]
      rw [List.length_cons, slice_succ, moved, ih]
      rfl

theorem take_slice (memory : Mem) {length longer : Nat} (le : length ≤ longer) :
    (memory.slice longer).take length = memory.slice length := by
  obtain ⟨more, rfl⟩ := Nat.exists_eq_add_of_le le
  rw [slice_add]
  exact List.take_left' (memory.length_slice length)

theorem drop_slice (memory : Mem) (length longer : Nat) :
    (memory.slice longer).drop length = (memory.shift length).slice (longer - length) := by
  rcases Nat.le_total length longer with le | ge
  · obtain ⟨more, rfl⟩ := Nat.exists_eq_add_of_le le
    rw [slice_add, Nat.add_sub_cancel_left]
    exact List.drop_left' (memory.length_slice length)
  · rw [Nat.sub_eq_zero_of_le ge, List.drop_eq_nil_of_le (by simpa using ge)]
    rfl

def StartsWith (memory : Mem) (bytes : Bytes) : Prop :=
  memory.slice bytes.length = bytes

instance (memory : Mem) (bytes : Bytes) : Decidable (memory.StartsWith bytes) :=
  inferInstanceAs (Decidable (_ = _))

@[simp] theorem startsWith_nil (memory : Mem) : memory.StartsWith [] := rfl

theorem startsWith_append {memory : Mem} {first second : Bytes} :
    memory.StartsWith (first ++ second) ↔
      memory.StartsWith first ∧ (memory.shift first.length).StartsWith second := by
  rw [StartsWith, StartsWith, StartsWith, List.length_append, slice_add]
  constructor
  · intro whole
    exact List.append_inj whole (by simp)
  · intro both
    obtain ⟨left, right⟩ := both
    rw [left, right]

theorem startsWith_ofBytes (bytes : Bytes) : (ofBytes bytes).StartsWith bytes :=
  slice_ofBytes bytes

theorem shift_ofBytes (bytes : Bytes) (offset : Nat) :
    (ofBytes bytes).shift offset = ofBytes (bytes.drop offset) := by
  funext index
  simp [shift, ofBytes]

theorem slice_ofBytes_take {bytes : Bytes} {length : Nat} (inside : length ≤ bytes.length) :
    (ofBytes bytes).slice length = bytes.take length := by
  have starts := startsWith_ofBytes bytes
  rw [← List.take_append_drop length bytes, startsWith_append, List.take_append_drop] at starts
  have front := starts.1
  rwa [StartsWith, List.length_take_of_le inside] at front

namespace AgreeBelow

theorem mono {small large : Nat} {left right : Mem}
    (agree : AgreeBelow large left right) (le : small ≤ large) :
    AgreeBelow small left right :=
  fun index inside => agree index (by omega)

theorem shift {offset bound : Nat} {left right : Mem}
    (agree : AgreeBelow (offset + bound) left right) :
    AgreeBelow bound (left.shift offset) (right.shift offset) :=
  fun index inside => agree (offset + index) (by omega)

theorem slice_eq {bound length : Nat} {left right : Mem}
    (agree : AgreeBelow bound left right) (le : length ≤ bound) :
    left.slice length = right.slice length := by
  apply List.map_congr_left
  intro index member
  exact agree index (by have := List.mem_range.mp member; omega)

end AgreeBelow

theorem agreeBelow_of_slice_eq {length : Nat} {left right : Mem}
    (equal : left.slice length = right.slice length) :
    AgreeBelow length left right := by
  intro index inside
  have element := congrArg (fun bytes => bytes[index]?) equal
  simpa [inside] using element

def overlay (bound : Nat) (memory other : Mem) : Mem :=
  fun index => if index < bound then memory index else other index

end Mem

/-! Big-endian numbers. -/

def beNat (bytes : Bytes) : Nat :=
  bytes.foldl (fun number byte => number * 256 + byte.toNat) 0

/-- The big-endian byte string of the given length; higher digits are lost. -/
def toBe : Nat → Nat → Bytes
  | 0, _ => []
  | length + 1, number =>
      UInt8.ofNat (number / 256 ^ length) :: toBe length number

private theorem beNat_foldl (bytes : Bytes) (start : Nat) :
    bytes.foldl (fun number byte => number * 256 + byte.toNat) start =
      start * 256 ^ bytes.length + beNat bytes := by
  induction bytes generalizing start with
  | nil => simp [beNat]
  | cons head tail ih =>
      simp only [beNat, List.foldl_cons, List.length_cons, Nat.zero_mul, Nat.zero_add]
      rw [ih (start * 256 + head.toNat), ih head.toNat, Nat.pow_succ]
      ring

@[simp] theorem beNat_nil : beNat [] = 0 := rfl

theorem beNat_cons (head : UInt8) (tail : Bytes) :
    beNat (head :: tail) = head.toNat * 256 ^ tail.length + beNat tail := by
  simp only [beNat, List.foldl_cons, Nat.zero_mul, Nat.zero_add]
  exact beNat_foldl tail head.toNat

theorem beNat_lt (bytes : Bytes) : beNat bytes < 256 ^ bytes.length := by
  induction bytes with
  | nil => simp
  | cons head tail ih =>
      have digit : head.toNat + 1 ≤ 256 := head.toNat_lt
      have scaled := Nat.mul_le_mul_right (256 ^ tail.length) digit
      rw [beNat_cons, List.length_cons, Nat.pow_succ]
      rw [Nat.add_mul, Nat.one_mul] at scaled
      omega

theorem beNat_injective {first second : Bytes} (length : first.length = second.length)
    (same : beNat first = beNat second) : first = second := by
  induction first generalizing second with
  | nil => exact (List.length_eq_zero_iff.mp length.symm).symm
  | cons head tail ih =>
      cases second with
      | nil => cases length
      | cons head' tail' =>
          have length := Nat.succ.inj length
          have bound := beNat_lt tail
          have bound' := beNat_lt tail'
          rw [beNat_cons, beNat_cons, ← length] at same
          rw [← length] at bound'
          have heads := congrArg (· / 256 ^ tail.length) same
          have tails := congrArg (· % 256 ^ tail.length) same
          have positive : 0 < 256 ^ tail.length := Nat.pow_pos (by decide)
          simp only [Nat.mod_eq_of_lt bound, Nat.mod_eq_of_lt bound',
            Nat.mul_comm _ (256 ^ tail.length), Nat.mul_add_div positive,
            Nat.div_eq_of_lt bound, Nat.div_eq_of_lt bound', Nat.add_zero,
            Nat.mul_add_mod] at heads tails
          rw [UInt8.toNat_inj.mp heads, ih length tails]

@[simp] theorem length_toBe (length number : Nat) : (toBe length number).length = length := by
  induction length with
  | zero => rfl
  | succ length ih => simp [toBe, ih]

theorem beNat_toBe (length number : Nat) :
    beNat (toBe length number) = number % 256 ^ length := by
  induction length with
  | zero => simp [toBe, Nat.mod_one]
  | succ length ih =>
      rw [toBe, beNat_cons, length_toBe, ih]
      have digit : (UInt8.ofNat (number / 256 ^ length)).toNat =
          number / 256 ^ length % 256 := by simp
      rw [digit, Nat.pow_succ, Nat.mod_mul, Nat.mul_comm (256 ^ length)]
      omega

end F2k.Lib
