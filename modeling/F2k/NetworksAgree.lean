import F2k.Export
import F2k.HomeNetwork
import F2k.NetAddress

namespace F2k

open Lib

/-! A home network of an observation id and an entry of the list of networks, both made from
one text: which addresses either of them contains. -/

/-- The home network is the only one of the observation id, and is found for the address. -/
def InHomeNetwork (id : UInt32) (name : Bytes) (address : NetAddress) (bits : BitVec 128) :
    Prop :=
  ∃ network found,
    Network.new (.v6 address.network) (.v6 address.networkMask) name = .ok network ∧
      ((ObservationID.new id).addNetwork network).getNetwork (.v6 bits) = .ok (some found)

def networksEntry (number name : Bytes) (address : NetAddress) : IPNameAssoc where
  network := toBe 16 address.network.toNat
  networkMask := toBe 16 address.networkMask.toNat
  number
  name

def InNetworksList (number name : Bytes) (address : NetAddress) (bits : BitVec 128) : Prop :=
  (ipInList (toBe 16 bits.toNat) [networksEntry number name address]).isSome

/-- Either both know the address or neither does. -/
def NetworksAgree (address : NetAddress) (bits : BitVec 128) : Prop :=
  ∀ id name number,
    InHomeNetwork id name address bits ↔ InNetworksList number name address bits

/-! The list compares octets -/

theorem and_byte (first second : Nat) :
    UInt8.ofNat first &&& UInt8.ofNat second = UInt8.ofNat (first &&& second) := by
  apply UInt8.toNat_inj.mp
  simp only [UInt8.toNat_and, UInt8.toNat_ofNat']
  exact Nat.and_mod_two_pow.symm

theorem zipWith_and_toBe (length first second : Nat) :
    List.zipWith (fun octet mask => octet &&& mask) (toBe length first) (toBe length second) =
      toBe length (first &&& second) := by
  induction length with
  | zero => rfl
  | succ length ih =>
      have high : (first &&& second) / 256 ^ length =
          first / 256 ^ length &&& second / 256 ^ length := by
        have power : 256 ^ length = 2 ^ (8 * length) := (Nat.pow_mul 2 8 length).symm
        rw [power]
        exact Nat.and_div_two_pow
      rw [toBe, toBe, toBe, List.zipWith_cons_cons, ih, and_byte, high]

theorem toBe_injective {first second : BitVec 128}
    (same : toBe 16 first.toNat = toBe 16 second.toNat) : first = second := by
  have numbers := congrArg beNat same
  rw [beNat_toBe, beNat_toBe, Nat.mod_eq_of_lt, Nat.mod_eq_of_lt] at numbers
  · exact BitVec.eq_of_toNat_eq numbers
  · exact second.isLt
  · exact first.isLt

theorem inNetworksList_iff (number name : Bytes) (address : NetAddress) (bits : BitVec 128) :
    InNetworksList number name address bits ↔
      bits &&& address.networkMask = address.network := by
  unfold InNetworksList ipInList
  rw [List.find?_isSome]
  simp only [List.mem_singleton, exists_eq_left, networksEntry, zipWith_and_toBe,
    ← BitVec.toNat_and, decide_eq_true_eq]
  exact ⟨toBe_injective, congrArg fun bits => toBe 16 (BitVec.toNat bits)⟩

/-! The observation id compares addresses of one family -/

theorem getNetwork_single (id : UInt32) (network : Network) (ip : IpAddr) :
    ((ObservationID.new id).addNetwork network).getNetwork ip =
      if ip.foldIpv4.isIpv4 && network.netmask.isIpv4 ||
          !ip.foldIpv4.isIpv4 && !network.netmask.isIpv4 then
        (applyNetmask ip.foldIpv4 network.netmask).map fun masked =>
          if masked = network.network then some network else none
      else .ok none := by
  have values : ((ObservationID.new id).addNetwork network).networks.values = [network] := rfl
  have lookup : ∀ masked, ((ObservationID.new id).addNetwork network).networks.lookup masked =
      if masked = network.network then some network else none := by
    intro masked
    split
    · next same =>
        subst same
        exact AList.lookup_insert _
    · next other => exact AList.lookup_insert_ne other
  rw [ObservationID.getNetwork, ObservationID.getNetworkOrdered, values,
    ObservationID.getNetworkIn]
  split
  · cases applyNetmask ip.foldIpv4 network.netmask with
    | error fault => rfl
    | ok masked =>
        rw [Run.ok_bind, lookup]
        by_cases same : masked = network.network
        · simp only [if_pos same, Except.map]
          rfl
        · simp only [if_neg same, Except.map]
          rfl
  · rfl

/-- A home network under an IPv4 base contains the addresses that fold to IPv4 ones like it. -/
theorem inHomeNetwork_iff_of_some {address : NetAddress} {low : BitVec 32}
    (folds : toIpv4 address.network = some low) (id : UInt32) (name : Bytes)
    (bits : BitVec 128) :
    InHomeNetwork id name address bits ↔
      ∃ folded, toIpv4 bits = some folded ∧
        folded &&& address.networkMask.setWidth 32 = low &&& address.networkMask.setWidth 32 := by
  obtain ⟨network, made, base, mask⟩ :=
    Network.new_of_some folds address.networkMask name
  unfold InHomeNetwork
  simp only [made, Except.ok.injEq, exists_and_left, exists_eq_left', getNetwork_single,
    IpAddr.foldIpv4, base, mask]
  cases toIpv4 bits with
  | none => simp [IpAddr.isIpv4]
  | some folded => simp [IpAddr.isIpv4, Except.map]

/-- One under an IPv6 base contains only addresses that stay IPv6 ones. -/
theorem inHomeNetwork_iff_of_none {address : NetAddress} (unfolded : toIpv4 address.network = none)
    (id : UInt32) (name : Bytes) (bits : BitVec 128) :
    InHomeNetwork id name address bits ↔
      toIpv4 bits = none ∧
        bits &&& address.networkMask = address.network &&& address.networkMask := by
  obtain ⟨network, made, base, mask⟩ :=
    Network.new_of_none unfolded address.networkMask name
  unfold InHomeNetwork
  simp only [made, Except.ok.injEq, exists_and_left, exists_eq_left', getNetwork_single,
    IpAddr.foldIpv4, base, mask]
  cases toIpv4 bits with
  | none => simp [IpAddr.isIpv4, Except.map]
  | some folded => simp [IpAddr.isIpv4]

/-! Bases, addresses and masks by their first twelve octets and the four after them -/

theorem append_inj {high otherHigh : BitVec 96} {low otherLow : BitVec 32} :
    (high ++ low : BitVec 128) = otherHigh ++ otherLow ↔ high = otherHigh ∧ low = otherLow := by
  constructor
  · intro same
    have numbers := congrArg BitVec.toNat same
    rw [toNat_append_low, toNat_append_low] at numbers
    have lowLt := low.isLt
    have otherLt := otherLow.isLt
    exact ⟨BitVec.eq_of_toNat_eq (by omega), BitVec.eq_of_toNat_eq (by omega)⟩
  · rintro ⟨rfl, rfl⟩
    rfl

theorem prefixMask_of_long {length : Nat} (long : 96 ≤ length) :
    prefixMask 128 length = BitVec.allOnes 96 ++ prefixMask 32 (length - 96) := by
  apply BitVec.eq_of_getLsbD_eq
  intro index inside
  rw [getLsbD_prefixMask, BitVec.getLsbD_append, getLsbD_prefixMask, BitVec.getLsbD_allOnes]
  split
  · next low =>
      simp only [low, inside, decide_true, Bool.true_and, decide_eq_decide]
      omega
  · next high =>
      have covered : 128 - length ≤ index := by omega
      have within : index - 32 < 96 := by omega
      simp [inside, covered, within]

theorem prefixMask_of_short {length : Nat} (short : length < 96) :
    ∃ high : BitVec 96, prefixMask 128 length = high ++ (0 : BitVec 32) ∧
      high.getLsbD 0 = false := by
  refine ⟨(prefixMask 128 length >>> 32).setWidth 96, ?_, ?_⟩
  · apply BitVec.eq_of_getLsbD_eq
    intro index inside
    rw [getLsbD_prefixMask, BitVec.getLsbD_append]
    split
    · next low =>
        have uncovered : ¬128 - length ≤ index := by omega
        simp [uncovered]
    · next high =>
        have within : index - 32 < 96 := by omega
        have back : 32 + (index - 32) = index := by omega
        simp [getLsbD_prefixMask, within, back]
  · have uncovered : ¬128 - length ≤ 32 := by omega
    rw [BitVec.getLsbD_setWidth, BitVec.getLsbD_ushiftRight, getLsbD_prefixMask]
    simp [uncovered]

/-- A prefix mask keeps all of the first twelve octets, or none of the last four and not all of
the mark of a mapped address. -/
theorem prefixMask_cases (length : Nat) :
    (∃ low : BitVec 32, prefixMask 128 length = BitVec.allOnes 96 ++ low) ∨
      ∃ high : BitVec 96, prefixMask 128 length = high ++ (0 : BitVec 32) ∧
        0xffff &&& high ≠ 0xffff := by
  rcases Nat.lt_or_ge length 96 with short | long
  · obtain ⟨high, split, lowest⟩ := prefixMask_of_short short
    refine .inr ⟨high, split, ?_⟩
    intro kept
    have bit := congrArg (fun bits => bits.getLsbD 0) kept
    simp only [BitVec.getLsbD_and, lowest, Bool.and_false] at bit
    exact absurd bit (by decide)
  · exact .inl ⟨_, prefixMask_of_long long⟩

def IsCompatible (bits : BitVec 128) : Prop :=
  ∃ low, bits = ipv4Compatible low

theorem toIpv4_cases (bits : BitVec 128) :
    IsMapped bits ∨ IsCompatible bits ∨ toIpv4 bits = none := by
  obtain ⟨high, low, rfl⟩ := exists_append bits
  by_cases mapped : high = 0xffff
  · exact .inl ⟨low, by rw [mapped]; rfl⟩
  · by_cases compatible : high = 0
    · exact .inr (.inl ⟨low, by rw [compatible]; rfl⟩)
    · right
      right
      rw [toIpv4_append, if_neg fun either => either.elim compatible mapped]

theorem not_isCompatible_of_none {bits : BitVec 128} (unfolded : toIpv4 bits = none) :
    ¬IsCompatible bits := by
  rintro ⟨low, rfl⟩
  rw [toIpv4_ipv4Compatible] at unfolded
  contradiction

theorem not_isCompatible_ipv4Mapped (low : BitVec 32) : ¬IsCompatible (ipv4Mapped low) := by
  rintro ⟨other, same⟩
  have high := (append_inj.mp same).1
  exact absurd high (by decide)

/-! The two networks of one text -/

section Agreement

variable {address : NetAddress} {length : Nat}
  (prefixed : address.networkMask = prefixMask 128 length)

/-- An IPv6 base that no mapped address is masked to. -/
def Ipv6Apart (address : NetAddress) : Prop :=
  toIpv4 address.network = none ∧ ipv4Mapped 0 &&& address.networkMask ≠ address.network

theorem networksAgree_iff_same {bits : BitVec 128} {inside : Prop}
    (home : ∀ id name, InHomeNetwork id name address bits ↔ inside) :
    NetworksAgree address bits ↔
      (inside ↔ bits &&& address.networkMask = address.network) := by
  unfold NetworksAgree
  simp only [home, inNetworksList_iff, forall_const]

include prefixed in
/-- A network of an IPv6 base agrees with the entry when the base has no host bits and no
mapped address. -/
theorem agree_of_ipv6Apart (apart : Ipv6Apart address)
    (aligned : address.network &&& address.networkMask = address.network) (bits : BitVec 128) :
    NetworksAgree address bits := by
  obtain ⟨unfolded, unmapped⟩ := apart
  rw [networksAgree_iff_same fun id name => inHomeNetwork_iff_of_none unfolded id name bits,
    aligned]
  constructor
  · intro inside
    exact inside.2
  · intro listed
    refine ⟨?_, listed⟩
    rcases toIpv4_cases bits with ⟨low, rfl⟩ | ⟨low, rfl⟩ | apart
    · rw [prefixed] at listed unmapped
      rcases prefixMask_cases length with ⟨mask, split⟩ | ⟨mask, split, _⟩
      · rw [split, ipv4Mapped, BitVec.and_append, BitVec.and_allOnes] at listed
        rw [← listed, toIpv4_append] at unfolded
        simp at unfolded
      · rw [split, ipv4Mapped, BitVec.and_append] at listed unmapped
        exact absurd (by simpa using listed) unmapped
    · have folds : toIpv4 address.network ≠ none := by
        obtain ⟨high, mask, split⟩ := exists_append address.networkMask
        rw [← listed, split, ipv4Compatible, BitVec.and_append, toIpv4_append]
        simp
      exact absurd unfolded folds
    · exact apart

/-- An IPv6 base has to be found itself, and no mapped address in its place. -/
theorem ipv6Apart_of_agree (unfolded : toIpv4 address.network = none)
    (agree : ∀ bits, ¬IsCompatible bits → NetworksAgree address bits) :
    address.network &&& address.networkMask = address.network ∧ Ipv6Apart address := by
  have home := fun bits id name => inHomeNetwork_iff_of_none unfolded id name bits
  have own := (networksAgree_iff_same (home address.network)).mp
    (agree address.network (not_isCompatible_of_none unfolded))
  have aligned := own.mp ⟨unfolded, rfl⟩
  refine ⟨aligned, unfolded, ?_⟩
  intro taken
  have mapped := (networksAgree_iff_same (home (ipv4Mapped 0))).mp
    (agree _ (not_isCompatible_ipv4Mapped 0))
  have found := (mapped.mpr taken).1
  rw [toIpv4_ipv4Mapped] at found
  contradiction

/-- A base that is an IPv4-compatible address is told apart from its mapped address by the entry
alone. -/
theorem not_agree_of_compatible {low : BitVec 32} (base : address.network = ipv4Compatible low)
    (agree : ∀ bits, ¬IsCompatible bits → NetworksAgree address bits) : False := by
  have folds : toIpv4 address.network = some low := by
    rw [base, toIpv4_ipv4Compatible]
  have home := fun bits id name => inHomeNetwork_iff_of_some folds id name bits
  obtain ⟨high, mask, split⟩ := exists_append address.networkMask
  have mapped := (networksAgree_iff_same (home (ipv4Mapped low))).mp
    (agree _ (not_isCompatible_ipv4Mapped low))
  have listed := mapped.mp ⟨low, toIpv4_ipv4Mapped low, rfl⟩
  rw [split, base, ipv4Mapped, ipv4Compatible, BitVec.and_append, append_inj] at listed
  -- The mark of a mapped address is masked away, and any other mark with it.
  have one : (1 : BitVec 96) &&& high = 0 := by
    have part : (1 : BitVec 96) &&& 0xffff = 1 := by decide
    rw [← part, BitVec.and_assoc, listed.1]
    decide
  let other : BitVec 128 := (1 : BitVec 96) ++ low
  have unfolded : toIpv4 other = none := by
    rw [toIpv4_append]
    rfl
  have same := (networksAgree_iff_same (home other)).mp
    (agree other (not_isCompatible_of_none unfolded))
  have found := same.mpr (by
    rw [split, base, ipv4Compatible, BitVec.and_append, append_inj]
    exact ⟨one, listed.2⟩)
  rw [unfolded] at found
  simp at found

include prefixed in
/-- An IPv4 base without host bits agrees with its entry but for IPv4-compatible addresses. -/
theorem agree_of_mapped (mapped : IsMapped address.network)
    (aligned : address.network &&& address.networkMask = address.network) {bits : BitVec 128}
    (notCompatible : ¬IsCompatible bits) : NetworksAgree address bits := by
  obtain ⟨low, base⟩ := mapped
  have folds : toIpv4 address.network = some low := by
    rw [base, toIpv4_ipv4Mapped]
  rw [networksAgree_iff_same fun id name => inHomeNetwork_iff_of_some folds id name bits]
  rw [base, prefixed] at aligned
  rw [base, prefixed]
  rcases prefixMask_cases length with ⟨mask, split⟩ | ⟨mask, split, lost⟩
  · have lowMask : (prefixMask 128 length).setWidth 32 = mask := by
      rw [split, setWidth_append_low]
    rw [split, ipv4Mapped, BitVec.and_append, append_inj] at aligned
    rw [lowMask, split, aligned.2]
    rcases toIpv4_cases bits with ⟨folded, rfl⟩ | compatible | unfolded
    · rw [toIpv4_ipv4Mapped, ipv4Mapped, ipv4Mapped, BitVec.and_append, BitVec.and_allOnes,
        append_inj]
      simp only [Option.some.injEq, exists_eq_left', true_and]
    · exact absurd compatible notCompatible
    · rw [unfolded]
      simp only [reduceCtorEq, false_and, exists_false, false_iff]
      intro listed
      obtain ⟨high, last, rfl⟩ := exists_append bits
      rw [ipv4Mapped, BitVec.and_append, BitVec.and_allOnes, append_inj] at listed
      rw [listed.1, toIpv4_append, if_pos (.inr rfl)] at unfolded
      contradiction
  · rw [split, ipv4Mapped, BitVec.and_append, append_inj] at aligned
    exact absurd aligned.1 lost

/-- An IPv4 base has to be found itself. -/
theorem aligned_of_agree {low : BitVec 32} (base : address.network = ipv4Mapped low)
    (agree : ∀ bits, ¬IsCompatible bits → NetworksAgree address bits) :
    address.network &&& address.networkMask = address.network := by
  have folds : toIpv4 address.network = some low := by
    rw [base, toIpv4_ipv4Mapped]
  have own := (networksAgree_iff_same fun id name =>
    inHomeNetwork_iff_of_some folds id name address.network).mp
      (agree _ (by rw [base]; exact not_isCompatible_ipv4Mapped low))
  exact own.mp ⟨low, folds, rfl⟩

/-- The compatible address of an IPv4 base is found by the observation id alone. -/
theorem not_agree_of_mapped {low : BitVec 32} (base : address.network = ipv4Mapped low)
    (agree : ∀ bits, NetworksAgree address bits) : False := by
  have folds : toIpv4 address.network = some low := by
    rw [base, toIpv4_ipv4Mapped]
  have compatible := (networksAgree_iff_same fun id name =>
    inHomeNetwork_iff_of_some folds id name (ipv4Compatible low)).mp (agree _)
  have listed := compatible.mp ⟨low, toIpv4_ipv4Compatible low, rfl⟩
  obtain ⟨high, mask, split⟩ := exists_append address.networkMask
  rw [split, base, ipv4Mapped, ipv4Compatible, BitVec.and_append, append_inj] at listed
  exact absurd listed.1 (by simp)

end Agreement

/-- The two networks of a text agree on every address only if they are IPv6 ones; on addresses
that are not IPv4-compatible, if the base has no host bits and stays what it is. -/
theorem networksAgree_iff {inetPton : InetPton} {addr : Bytes} {before address : NetAddress}
    (accepted : safeParseAddress inetPton addr before = some address) :
    ((∀ bits, NetworksAgree address bits) ↔
      address.network &&& address.networkMask = address.network ∧ Ipv6Apart address) ∧
    ((∀ bits, ¬IsCompatible bits → NetworksAgree address bits) ↔
      address.network &&& address.networkMask = address.network ∧
        (IsMapped address.network ∨ Ipv6Apart address)) := by
  obtain ⟨length, _, prefixed⟩ := safeParseAddress_mask accepted
  refine ⟨⟨?_, ?_⟩, ?_, ?_⟩
  · intro agree
    rcases toIpv4_cases address.network with ⟨low, base⟩ | ⟨low, base⟩ | unfolded
    · exact (not_agree_of_mapped base agree).elim
    · exact (not_agree_of_compatible base fun bits _ => agree bits).elim
    · exact ipv6Apart_of_agree unfolded fun bits _ => agree bits
  · intro both bits
    obtain ⟨aligned, apart⟩ := both
    exact agree_of_ipv6Apart prefixed apart aligned bits
  · intro agree
    rcases toIpv4_cases address.network with ⟨low, base⟩ | ⟨low, base⟩ | unfolded
    · exact ⟨aligned_of_agree base agree, .inl ⟨low, base⟩⟩
    · exact (not_agree_of_compatible base agree).elim
    · obtain ⟨aligned, apart⟩ := ipv6Apart_of_agree unfolded agree
      exact ⟨aligned, .inr apart⟩
  · intro both bits notCompatible
    obtain ⟨aligned, kinds⟩ := both
    rcases kinds with mapped | apart
    · exact agree_of_mapped prefixed mapped aligned notCompatible
    · exact agree_of_ipv6Apart prefixed apart aligned bits

/-- The resolver's answers for two texts. -/
def inetPtonTwo : InetPton where
  ipv6 host := if host = ascii "2001:db8::" then some (0x20010db8 <<< 96) else none
  ipv4 host := if host = ascii "10.0.0.1" then some 0x0a000001 else none

def ipv6Block : NetAddress where
  network := 0x20010db8 <<< 96
  networkMask := prefixMask 128 32

theorem networksAgree_iff_ipv6Block :
    safeParseAddress inetPtonTwo (ascii "2001:db8::/32") ⟨0, 0⟩ = some ipv6Block ∧
    ∀ bits, NetworksAgree ipv6Block bits := by
  have accepted :
      safeParseAddress inetPtonTwo (ascii "2001:db8::/32") ⟨0, 0⟩ = some ipv6Block := by
    decide +kernel
  have apart : ipv6Block.network &&& ipv6Block.networkMask = ipv6Block.network ∧
      Ipv6Apart ipv6Block :=
    ⟨by decide +kernel, by decide +kernel, by decide +kernel⟩
  exact ⟨accepted, (networksAgree_iff accepted).1.mpr apart⟩

def ipv4Host : NetAddress where
  network := ipv4Mapped 0x0a000001
  networkMask := prefixMask 128 104

/-- 10.0.0.1 is in the home network 10.0.0.1/8, and not in the list of networks. -/
theorem not_networksAgree_hostBits :
    safeParseAddress inetPtonTwo (ascii "10.0.0.1/8") ⟨0, 0⟩ = some ipv4Host ∧
      ¬NetworksAgree ipv4Host (ipv4Mapped 0x0a000001) := by
  refine ⟨by decide +kernel, ?_⟩
  intro agree
  have folds : toIpv4 ipv4Host.network = some 0x0a000001 := toIpv4_ipv4Mapped _
  have listed := (networksAgree_iff_same fun id name =>
    inHomeNetwork_iff_of_some folds id name (ipv4Mapped 0x0a000001)).mp agree
  exact absurd (listed.mp ⟨_, toIpv4_ipv4Mapped _, rfl⟩) (by decide +kernel)

end F2k
