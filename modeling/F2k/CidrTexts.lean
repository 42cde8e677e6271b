import F2k.Lib.Decimal
import F2k.NetAddress

namespace F2k

open Lib

/-! Which texts are accepted as networks, and as which. -/

/-- The address that a host text stands for, and how many bits its family has. -/
inductive HostAddress (inetPton : InetPton) (host : Bytes) : BitVec 128 → Nat → Prop
  | ipv6 {bits : BitVec 128} (given : inetPton.ipv6 host = some bits) :
      HostAddress inetPton host bits 128
  | ipv4 {bits : BitVec 32} (other : inetPton.ipv6 host = none)
      (given : inetPton.ipv4 host = some bits) :
      HostAddress inetPton host (ipv4Mapped bits) 32

/-- An address, alone or with the length of a prefix behind a slash. -/
inductive CidrText (inetPton : InetPton) : Bytes → NetAddress → Prop
  | address {host : Bytes} {network : BitVec 128} {width : Nat} (whole : 47 ∉ host)
      (given : HostAddress inetPton host network width) :
      CidrText inetPton host { network, networkMask := prefixMask 128 128 }
  | network {host digits : Bytes} {network : BitVec 128} {width : Nat} (whole : 47 ∉ host)
      (given : HostAddress inetPton host network width) (decimal : IsDigits digits)
      (inside : decimalValue digits ≤ width) :
      CidrText inetPton (host ++ 47 :: digits)
        { network, networkMask := prefixMask 128 (128 - width + decimalValue digits) }

/-- A number between these bounds is only read from a text that is nothing but its digits. -/
def ReadsPlainly (mask : Bytes) (low high : Int) : Prop :=
  ∀ number, sscanfInt mask = some number → low ≤ number.toInt → number.toInt ≤ high →
    IsDigits mask ∧ (decimalValue mask : Int) ≤ high

/-- A text without an address has a slash, and no number behind it that 128 bits are enough for.
Behind an address, a number that its bits are enough for is written plainly; there the number may
be negative, down to -96 for an IPv4 address. -/
structure ToldApart (inetPton : InetPton) (text : Bytes) : Prop where
  alone : 47 ∉ text → ∃ network width, HostAddress inetPton text network width
  noAddress : ∀ host mask, text = host ++ 47 :: mask → 47 ∉ host →
    (∀ network width, ¬HostAddress inetPton host network width) →
      ∀ number, sscanfInt mask = some number → ¬(0 ≤ number.toInt ∧ number.toInt ≤ 128)
  plain : ∀ host mask network width, text = host ++ 47 :: mask → 47 ∉ host →
    HostAddress inetPton host network width → ReadsPlainly mask (width - 128) width

/-! Masks -/

theorem int2bits_eq_some_iff {number : Int32} {mask : BitVec 128} :
    int2bits number = some mask ↔
      0 ≤ number.toInt ∧ number.toInt ≤ 128 ∧ mask = prefixMask 128 number.toInt.toNat := by
  have high : number > 128 ↔ 128 < number.toInt := Int32.lt_iff_toInt_lt
  have low : number < 0 ↔ number.toInt < 0 := Int32.lt_iff_toInt_lt
  unfold int2bits
  split
  · next outside =>
      rw [high, low] at outside
      constructor
      · intro absent
        cases absent
      · intro inside
        omega
  · next inside =>
      rw [high, low] at inside
      have shifted := shiftedHalves_eq (128 - number.toInt.toNat) (by omega)
      have length : 128 - (128 - number.toInt.toNat) = number.toInt.toNat := by omega
      simp only [shifted, length, Option.some.injEq]
      constructor
      · intro same
        exact ⟨by omega, by omega, same.symm⟩
      · intro known
        exact known.2.2.symm

theorem int2bits_whole : int2bits 128 = some (prefixMask 128 128) :=
  int2bits_eq_some_iff.mpr ⟨by decide, by decide, by decide⟩

theorem toInt_add_offset {number : Int32} {length : Int} (low : 0 ≤ length)
    (high : length ≤ 128) : (number + 96).toInt = length ↔ number.toInt + 96 = length := by
  have least := number.le_toInt
  have greatest := number.toInt_lt
  have sum : (number + 96).toInt = (number.toInt + 96).bmod (2 ^ 32) := Int32.toInt_add _ _
  rw [Int.bmod_def] at sum
  omega

/-- The prefix of an address with so many bits. -/
theorem dotted2bits_eq_some_iff {mask : Bytes} {width : Nat} (known : width = 128 ∨ width = 32)
    {bits : BitVec 128} :
    dotted2bits mask (width == 32) = some bits ↔
      ∃ number, sscanfInt mask = some number ∧
        (width : Int) - 128 ≤ number.toInt ∧ number.toInt ≤ width ∧
          bits = prefixMask 128 (number.toInt + (128 - width)).toNat := by
  unfold dotted2bits
  rw [Option.bind_eq_some_iff]
  apply exists_congr
  intro number
  apply and_congr_right
  intro _
  rw [int2bits_eq_some_iff]
  rcases known with rfl | rfl
  · have same : number.toInt + (128 - (128 : Nat)) = number.toInt := by omega
    rw [same]
    rfl
  · have offset : (if (32 == 32) = true then number + 96 else number) = number + 96 := rfl
    rw [offset]
    constructor
    · intro inside
      obtain ⟨low, high, same⟩ := inside
      have moved := (toInt_add_offset low high).mp rfl
      refine ⟨by omega, by omega, ?_⟩
      rw [same, ← moved]
      rfl
    · intro inside
      obtain ⟨low, high, same⟩ := inside
      have moved := (@toInt_add_offset number (number.toInt + 96) (by omega) (by omega)).mpr rfl
      rw [moved]
      exact ⟨by omega, by omega, same⟩

/-! Numbers behind the slash -/

theorem isDigit_iff (byte : UInt8) : isDigit byte = true ↔ IsDigit byte := by
  unfold isDigit IsDigit
  rw [Bool.and_eq_true, decide_eq_true_iff, decide_eq_true_iff]

theorem IsDigits.takeWhile {digits : Bytes} (plain : IsDigits digits) :
    digits.takeWhile isDigit = digits :=
  List.takeWhile_eq_self_iff.mpr fun byte member => (isDigit_iff byte).mpr (plain.2 byte member)

theorem IsDigit.bare {byte : UInt8} (digit : IsDigit byte) :
    isBlank byte = false ∧ byte ≠ 45 ∧ byte ≠ 43 := by
  obtain ⟨low, high⟩ := digit
  rw [UInt8.le_iff_toNat_le] at low high
  have low : 48 ≤ byte.toNat := low
  have notBlank : byte ≠ 32 := by
    rintro rfl
    contradiction
  have notSpace : ¬byte ≤ 13 := by
    rw [UInt8.le_iff_toNat_le]
    intro high
    have high : byte.toNat ≤ 13 := high
    omega
  refine ⟨?_, ?_, ?_⟩
  · unfold isBlank
    simp [notBlank, notSpace]
  · rintro rfl
    contradiction
  · rintro rfl
    contradiction

theorem sscanfInt_digits {digits : Bytes} (plain : IsDigits digits) :
    sscanfInt digits =
      some (Int32.ofInt (max (-2 ^ 63) (min (2 ^ 63 - 1) (decimalValue digits : Int)))) := by
  have whole := IsDigits.takeWhile plain
  cases digits with
  | nil => exact absurd rfl plain.1
  | cons first rest =>
      obtain ⟨notBlank, notMinus, notPlus⟩ := IsDigit.bare (plain.2 first List.mem_cons_self)
      unfold sscanfInt
      rw [List.dropWhile_cons_of_neg (by simp [notBlank])]
      simp [notMinus, notPlus, whole, decimalValue]

theorem sscanfInt_small {digits : Bytes} (plain : IsDigits digits)
    (small : decimalValue digits < 2 ^ 31) :
    ∃ number, sscanfInt digits = some number ∧ number.toInt = decimalValue digits := by
  refine ⟨_, sscanfInt_digits plain, ?_⟩
  have kept : max (-2 ^ 63) (min (2 ^ 63 - 1) (decimalValue digits : Int)) =
      decimalValue digits := by
    omega
  rw [kept]
  exact Int32.toInt_ofInt_of_le (by omega) (by omega)

/-! Accepted texts -/

section Texts

variable {inetPton : InetPton} {host mask text : Bytes} {before address : NetAddress}
  {network : BitVec 128} {width : Nat}

theorem HostAddress.width_eq (given : HostAddress inetPton host network width) :
    width = 128 ∨ width = 32 := by
  cases given with
  | ipv6 => exact .inl rfl
  | ipv4 => exact .inr rfl

theorem HostAddress.unique {network' : BitVec 128} {width' : Nat}
    (given : HostAddress inetPton host network width)
    (given' : HostAddress inetPton host network' width') : network = network' ∧ width = width' := by
  cases given with
  | ipv6 given =>
      cases given' with
      | ipv6 given' => exact ⟨Option.some.inj (given.symm.trans given'), rfl⟩
      | ipv4 other => cases given.symm.trans other
  | ipv4 other given =>
      cases given' with
      | ipv6 given' => cases given'.symm.trans other
      | ipv4 _ given' =>
          rw [Option.some.inj (given.symm.trans given')]
          exact ⟨rfl, rfl⟩

theorem no_answers (none' : ∀ network width, ¬HostAddress inetPton host network width) :
    inetPton.ipv6 host = none ∧ inetPton.ipv4 host = none := by
  cases ipv6 : inetPton.ipv6 host with
  | some bits => exact absurd (.ipv6 ipv6) (none' _ _)
  | none =>
      cases ipv4 : inetPton.ipv4 host with
      | some bits => exact absurd (.ipv4 ipv6 ipv4) (none' _ _)
      | none => exact ⟨rfl, rfl⟩

theorem notSlash (whole : 47 ∉ host) : ∀ byte ∈ host, (byte != 47) = true := by
  intro byte member
  rw [bne_iff_ne]
  rintro rfl
  exact whole member

theorem takeWhile_slash (whole : 47 ∉ host) :
    (host ++ 47 :: mask).takeWhile (fun byte => byte != 47) = host ∧
      (host ++ 47 :: mask).dropWhile (fun byte => byte != 47) = 47 :: mask := by
  rw [List.takeWhile_append_of_pos (notSlash whole), List.dropWhile_append_of_pos (notSlash whole)]
  exact ⟨List.append_nil host, rfl⟩

theorem parseAddress_alone (whole : 47 ∉ host) (given : HostAddress inetPton host network width) :
    parseAddress inetPton host before = some { network, networkMask := prefixMask 128 128 } := by
  unfold parseAddress
  rw [List.takeWhile_eq_self_iff.mpr (notSlash whole),
    List.dropWhile_eq_nil_iff.mpr (notSlash whole)]
  simp only [int2bits_whole, Option.map_some]
  cases given with
  | ipv6 given => rw [given]
  | ipv4 other given =>
      rw [other, given]
      rfl

theorem parseAddress_alone_isSome (whole : 47 ∉ host) :
    ∃ address, parseAddress inetPton host before = some address := by
  unfold parseAddress
  rw [List.takeWhile_eq_self_iff.mpr (notSlash whole),
    List.dropWhile_eq_nil_iff.mpr (notSlash whole)]
  simp only [int2bits_whole, Option.map_some]
  exact ⟨_, rfl⟩

theorem parseAddress_slash_eq (whole : 47 ∉ host)
    (given : HostAddress inetPton host network width) :
    parseAddress inetPton (host ++ 47 :: mask) before =
      (dotted2bits mask (width == 32)).map fun networkMask => { network, networkMask } := by
  obtain ⟨front, back⟩ := @takeWhile_slash _ mask whole
  unfold parseAddress
  simp only [front, back]
  cases given with
  | ipv6 given =>
      rw [given]
      rfl
  | ipv4 other given =>
      rw [other, given]
      rfl

theorem parseAddress_slash (whole : 47 ∉ host)
    (given : HostAddress inetPton host network width) :
    parseAddress inetPton (host ++ 47 :: mask) before = some address ↔
      ∃ number, sscanfInt mask = some number ∧
        (width : Int) - 128 ≤ number.toInt ∧ number.toInt ≤ width ∧
          address =
            { network
              networkMask := prefixMask 128 (number.toInt + (128 - width)).toNat } := by
  rw [parseAddress_slash_eq whole given, Option.map_eq_some_iff]
  constructor
  · intro accepted
    obtain ⟨bits, read, rfl⟩ := accepted
    obtain ⟨number, scanned, low, high, rfl⟩ := (dotted2bits_eq_some_iff given.width_eq).mp read
    exact ⟨number, scanned, low, high, rfl⟩
  · intro accepted
    obtain ⟨number, scanned, low, high, rfl⟩ := accepted
    exact ⟨_, (dotted2bits_eq_some_iff given.width_eq).mpr ⟨number, scanned, low, high, rfl⟩, rfl⟩

theorem parseAddress_noAddress (whole : 47 ∉ host)
    (none' : ∀ network width, ¬HostAddress inetPton host network width) :
    parseAddress inetPton (host ++ 47 :: mask) before = some address ↔
      ∃ number, sscanfInt mask = some number ∧ 0 ≤ number.toInt ∧ number.toInt ≤ 128 ∧
        address =
          { network := before.network
            networkMask := prefixMask 128 number.toInt.toNat } := by
  obtain ⟨ipv6, ipv4⟩ := no_answers none'
  obtain ⟨front, back⟩ := @takeWhile_slash _ mask whole
  have read := @dotted2bits_eq_some_iff mask 128 (.inl rfl)
  simp only [Nat.cast_ofNat, Int.sub_self, Int.add_zero] at read
  unfold parseAddress
  simp only [front, back, ipv6, ipv4]
  rw [Option.map_eq_some_iff]
  constructor
  · intro accepted
    obtain ⟨bits, masked, rfl⟩ := accepted
    obtain ⟨number, scanned, low, high, rfl⟩ := read.mp masked
    exact ⟨number, scanned, low, high, rfl⟩
  · intro accepted
    obtain ⟨number, scanned, low, high, rfl⟩ := accepted
    exact ⟨_, read.mpr ⟨number, scanned, low, high, rfl⟩, rfl⟩

theorem split_unique {host' mask' : Bytes} (whole : 47 ∉ host) (whole' : 47 ∉ host')
    (same : host ++ 47 :: mask = host' ++ 47 :: mask') : host = host' ∧ mask = mask' := by
  obtain ⟨front, back⟩ := @takeWhile_slash _ mask whole
  obtain ⟨front', back'⟩ := @takeWhile_slash _ mask' whole'
  rw [same] at front back
  exact ⟨front.symm.trans front', (List.cons.inj (back.symm.trans back')).2⟩

theorem CidrText.alone (whole : 47 ∉ text) :
    CidrText inetPton text address ↔ ∃ network width, HostAddress inetPton text network width ∧
      address = { network, networkMask := prefixMask 128 128 } := by
  constructor
  · intro cidr
    cases cidr with
    | address _ given => exact ⟨_, _, given, rfl⟩
    | network => exact absurd (List.mem_append_right _ List.mem_cons_self) whole
  · intro known
    obtain ⟨network, width, given, rfl⟩ := known
    exact .address whole given

theorem CidrText.slash (whole : 47 ∉ host) :
    CidrText inetPton (host ++ 47 :: mask) address ↔
      ∃ network width, HostAddress inetPton host network width ∧ IsDigits mask ∧
        decimalValue mask ≤ width ∧
          address =
            { network, networkMask := prefixMask 128 (128 - width + decimalValue mask) } := by
  constructor
  · intro cidr
    generalize same : host ++ 47 :: mask = text at cidr
    cases cidr with
    | address whole' =>
        rw [← same] at whole'
        exact absurd (List.mem_append_right _ List.mem_cons_self) whole'
    | network whole' given decimal inside =>
        obtain ⟨rfl, rfl⟩ := split_unique whole whole' same
        exact ⟨_, _, given, decimal, inside, rfl⟩
  · intro known
    obtain ⟨network, width, given, decimal, inside, rfl⟩ := known
    exact .network whole given decimal inside

theorem ToldApart.of_cidr
    (exact : ∀ address, parseAddress inetPton text before = some address ↔
      CidrText inetPton text address) : ToldApart inetPton text := by
  refine ⟨?_, ?_, ?_⟩
  · intro whole
    obtain ⟨address, accepted⟩ := @parseAddress_alone_isSome inetPton text before whole
    obtain ⟨network, width, given, _⟩ := (CidrText.alone whole).mp ((exact address).mp accepted)
    exact ⟨network, width, given⟩
  · rintro host mask rfl whole none' number scanned ⟨low, high⟩
    have cidr := (exact _).mp
      ((parseAddress_noAddress whole none').mpr ⟨number, scanned, low, high, rfl⟩)
    obtain ⟨network, width, given, _⟩ := (CidrText.slash whole).mp cidr
    exact none' network width given
  · rintro host mask network width rfl whole given number scanned low high
    have cidr := (exact _).mp
      ((parseAddress_slash whole given).mpr ⟨number, scanned, low, high, rfl⟩)
    obtain ⟨_, width', given', decimal, inside, _⟩ := (CidrText.slash whole).mp cidr
    obtain ⟨_, rfl⟩ := given.unique given'
    exact ⟨decimal, Int.ofNat_le.mpr inside⟩

theorem ToldApart.cidr_slash (apart : ToldApart inetPton (host ++ 47 :: mask))
    (whole : 47 ∉ host) (given : HostAddress inetPton host network width) :
    parseAddress inetPton (host ++ 47 :: mask) before = some address ↔
      CidrText inetPton (host ++ 47 :: mask) address := by
  have bound : width ≤ 128 := by
    rcases given.width_eq with rfl | rfl <;> decide
  have read : ∀ {number : Int32}, number.toInt = decimalValue mask →
      (number.toInt + (128 - width)).toNat = 128 - width + decimalValue mask := by
    intro number same
    omega
  rw [parseAddress_slash whole given, CidrText.slash whole]
  constructor
  · intro accepted
    obtain ⟨number, scanned, low, high, rfl⟩ := accepted
    obtain ⟨decimal, inside⟩ :=
      apart.plain host mask network width rfl whole given number scanned low high
    obtain ⟨number', scanned', same⟩ := sscanfInt_small decimal (by omega)
    obtain rfl := Option.some.inj (scanned.symm.trans scanned')
    exact ⟨network, width, given, decimal, by omega, by rw [read same]⟩
  · intro cidr
    obtain ⟨network', width', given', decimal, inside, rfl⟩ := cidr
    obtain ⟨rfl, rfl⟩ := given.unique given'
    obtain ⟨number, scanned, same⟩ := sscanfInt_small decimal (by omega)
    exact ⟨number, scanned, by omega, by omega, by rw [read same]⟩

theorem ToldApart.cidr (apart : ToldApart inetPton text) :
    parseAddress inetPton text before = some address ↔ CidrText inetPton text address := by
  rcases Classical.em (47 ∈ text) with slash | whole
  · obtain ⟨host, mask, rfl, whole⟩ := List.eq_append_cons_of_mem slash
    rcases Classical.em (∃ network width, HostAddress inetPton host network width) with
      given | none'
    · obtain ⟨network, width, given⟩ := given
      exact apart.cidr_slash whole given
    · have none' : ∀ network width, ¬HostAddress inetPton host network width :=
        fun network width given => none' ⟨network, width, given⟩
      rw [parseAddress_noAddress whole none', CidrText.slash whole]
      constructor
      · intro accepted
        obtain ⟨number, scanned, low, high, _⟩ := accepted
        exact absurd ⟨low, high⟩ (apart.noAddress host mask rfl whole none' number scanned)
      · intro cidr
        obtain ⟨network, width, given, _⟩ := cidr
        exact absurd given (none' network width)
  · obtain ⟨network, width, given⟩ := apart.alone whole
    rw [parseAddress_alone whole given, CidrText.alone whole]
    constructor
    · intro accepted
      exact ⟨network, width, given, (Option.some.inj accepted).symm⟩
    · intro cidr
      obtain ⟨network', width', given', rfl⟩ := cidr
      rw [(given.unique given').1]

end Texts

/-- Networks are accepted as what their texts stand for, as long as texts are told apart. -/
theorem parseAddress_cidr_iff (inetPton : InetPton) (text : Bytes) (before : NetAddress) :
    (∀ address, parseAddress inetPton text before = some address ↔
        CidrText inetPton text address) ↔
      ToldApart inetPton text :=
  ⟨.of_cidr, fun apart _ => apart.cidr⟩

/-- An `inet_pton` for the texts of one address. -/
def inetPtonTen : InetPton where
  ipv6 _ := none
  ipv4 text := if text = ascii "10.0.0.0" then some 0x0a000000 else none

/-- A text that is no address is a network, and so is a prefix below zero. -/
theorem not_parseAddress_cidr :
    ¬(∀ address, parseAddress inetPtonTen (ascii "lan") { network := 0, networkMask := 0 } =
          some address ↔
        CidrText inetPtonTen (ascii "lan") address) ∧
      ¬∀ address, parseAddress inetPtonTen (ascii "10.0.0.0/-88")
            { network := 0, networkMask := 0 } = some address ↔
          CidrText inetPtonTen (ascii "10.0.0.0/-88") address := by
  constructor
  · intro exact
    have accepted : parseAddress inetPtonTen (ascii "lan") { network := 0, networkMask := 0 } =
        some { network := 0, networkMask := prefixMask 128 128 } := by
      decide +kernel
    obtain ⟨_, _, given, _⟩ :=
      (CidrText.alone (by decide +kernel)).mp ((exact _).mp accepted)
    cases given with
    | ipv6 given => cases given
    | ipv4 _ given =>
        have none' : inetPtonTen.ipv4 (ascii "lan") = none := by decide +kernel
        cases none'.symm.trans given
  · intro exact
    have whole : 47 ∉ ascii "10.0.0.0" := by decide +kernel
    have accepted : parseAddress inetPtonTen (ascii "10.0.0.0/-88")
        { network := 0, networkMask := 0 } =
          some { network := ipv4Mapped 0x0a000000, networkMask := prefixMask 128 8 } := by
      decide +kernel
    have same : ascii "10.0.0.0/-88" = ascii "10.0.0.0" ++ 47 :: ascii "-88" := by
      decide +kernel
    have cidr := (exact _).mp accepted
    rw [same] at cidr
    obtain ⟨_, _, _, decimal, _⟩ := (CidrText.slash whole).mp cidr
    exact absurd (decimal.2 45 (by decide +kernel)) (by unfold IsDigit; decide)

end F2k
