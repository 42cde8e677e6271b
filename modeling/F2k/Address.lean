import F2k.Fault
import F2k.Lib.Network
import F2k.Lib.Text

namespace F2k

open Lib

/-! Addresses and netmasks, as the dynamic sensors library computes with them. -/

inductive IpAddr
  | v4 (bits : BitVec 32)
  | v6 (bits : BitVec 128)
deriving DecidableEq, Repr

/-- The address of sixteen octets in network order: always an IPv6 one. -/
def IpAddr.ofOctets (octets : Bytes) : IpAddr :=
  .v6 (BitVec.ofNat 128 (beNat octets))

/-- The segment of an IPv6 address with the given index, first segment first. -/
def segment (bits : BitVec 128) (index : Nat) : BitVec 16 :=
  (bits >>> (112 - 16 * index)).setWidth 16

/-- `Ipv6Addr::to_ipv4`: IPv4-compatible and IPv4-mapped addresses. -/
def toIpv4 (bits : BitVec 128) : Option (BitVec 32) :=
  if bits >>> 48 = 0 ∧ (segment bits 5 = 0 ∨ segment bits 5 = 0xffff) then
    some (bits.setWidth 32)
  else none

/-- The last four octets of a netmask. -/
def v6ToV4 : IpAddr → IpAddr
  | .v4 netmask => .v4 netmask
  | .v6 netmask => .v4 (netmask.setWidth 32)

def applyNetmask : IpAddr → IpAddr → Run IpAddr
  | .v4 ip, .v4 netmask => pure (.v4 (ip &&& netmask))
  | .v6 ip, .v6 netmask => pure (.v6 (ip &&& netmask))
  | _, _ => throw .netmaskFamily

def countOnes (bits : BitVec width) : Nat :=
  (List.range width).countP fun index => bits.getLsbD index

/-- Prefix length of an IPv4 netmask, computed in `u32`. -/
def getNetmaskPrefixIpv4 : IpAddr → UInt32
  | .v4 netmask => UInt32.ofNat (countOnes netmask)
  | .v6 netmask =>
      match toIpv4 netmask with
      | some netmask => UInt32.ofNat (countOnes netmask)
      | none => 32 - UInt32.ofNat (128 - countOnes netmask)

def getNetmaskPrefixIpv6 : IpAddr → Run UInt32
  | .v4 _ => throw .netmaskFamily
  | .v6 netmask => pure (UInt32.ofNat (countOnes netmask))

/-- The address lookups and network constructors work on: IPv4-mapped and IPv4-compatible
addresses become IPv4 ones. -/
def IpAddr.foldIpv4 : IpAddr → IpAddr
  | .v4 ip => .v4 ip
  | .v6 ip =>
      match toIpv4 ip with
      | some ipv4 => .v4 ipv4
      | none => .v6 ip

/-- The network and netmask that `Sensor::new` and `Network::new` go on with. -/
def foldNetwork (network netmask : IpAddr) : IpAddr × IpAddr :=
  match network.foldIpv4 with
  | .v4 ipv4 => (.v4 ipv4, v6ToV4 netmask)
  | .v6 ipv6 => (.v6 ipv6, netmask)

def IpAddr.isIpv4 : IpAddr → Bool
  | .v4 _ => true
  | .v6 _ => false

/-! Text of an address. -/

def showIpv4 (bits : BitVec 32) : Bytes :=
  let octet := fun (index : Nat) => decimal ((bits >>> (24 - 8 * index)).setWidth 8).toNat
  octet 0 ++ ascii "." ++ octet 1 ++ ascii "." ++ octet 2 ++ ascii "." ++ octet 3

/-- Start and length of the first longest run of zero segments from a segment on. -/
def zeroRun (bits : BitVec 128) : Nat → Nat → Nat × Nat → Nat × Nat → Nat × Nat
  | 0, _, _, longest => longest
  | left + 1, index, (start, length), longest =>
      if segment bits index = 0 then
        let current := (if length = 0 then index else start, length + 1)
        zeroRun bits left (index + 1) current
          (if longest.2 < current.2 then current else longest)
      else zeroRun bits left (index + 1) (0, 0) longest

def showSegments (bits : BitVec 128) (first count : Nat) : Bytes :=
  List.intercalate (ascii ":")
    ((List.range count).map fun index =>
      hexadecimal (segment bits (first + index)).toNat)

/-- The text of an IPv6 address that `to_ipv4` does not accept. -/
def showIpv6 (bits : BitVec 128) : Bytes :=
  let (start, length) := zeroRun bits 8 0 (0, 0) (0, 0)
  if 1 < length then
    showSegments bits 0 start ++ ascii "::" ++
      showSegments bits (start + length) (8 - (start + length))
  else showSegments bits 0 8

/-- The sixteen octets the C code keeps an IPv4 address in, as one number. -/
def ipv4Mapped (bits : BitVec 32) : BitVec 128 :=
  (0xffff : BitVec 96) ++ bits

def ipv4Compatible (bits : BitVec 32) : BitVec 128 :=
  (0 : BitVec 96) ++ bits

/-- Both ways to write down an IPv4 address. -/
def IpAddr.IsIpv4 (ip : IpAddr) (bits : BitVec 32) : Prop :=
  ip = .v4 bits ∨ ip = .v6 (ipv4Mapped bits)

/-! Which addresses become IPv4 ones. -/

theorem toNat_append_low (high : BitVec 96) (low : BitVec 32) :
    (high ++ low : BitVec 128).toNat = high.toNat * 2 ^ 32 + low.toNat := by
  rw [BitVec.toNat_append, ← Nat.shiftLeft_add_eq_or_of_lt low.isLt, Nat.shiftLeft_eq]

theorem setWidth_append_low (high : BitVec 96) (low : BitVec 32) :
    (high ++ low : BitVec 128).setWidth 32 = low := by
  apply BitVec.eq_of_toNat_eq
  rw [BitVec.toNat_setWidth, toNat_append_low]
  have lowLt := low.isLt
  omega

theorem toIpv4_append (high : BitVec 96) (low : BitVec 32) :
    toIpv4 (high ++ low : BitVec 128) =
      if high = 0 ∨ high = 0xffff then some low else none := by
  have whole := toNat_append_low high low
  have lowLt := low.isLt
  have segmentBits : (segment (high ++ low) 5).toNat = high.toNat % 2 ^ 16 := by
    simp only [segment, BitVec.toNat_setWidth, BitVec.toNat_ushiftRight, whole,
      Nat.shiftRight_eq_div_pow]
    omega
  have topBits : ((high ++ low : BitVec 128) >>> 48).toNat = high.toNat / 2 ^ 16 := by
    simp only [BitVec.toNat_ushiftRight, whole, Nat.shiftRight_eq_div_pow]
    omega
  have condition : ((high ++ low : BitVec 128) >>> 48 = 0 ∧
      (segment (high ++ low) 5 = 0 ∨ segment (high ++ low) 5 = 0xffff)) ↔
      (high = 0 ∨ high = 0xffff) := by
    simp only [← BitVec.toNat_inj, topBits, segmentBits]
    simp only [BitVec.ofNat_eq_ofNat, BitVec.toNat_ofNat]
    omega
  rw [toIpv4, setWidth_append_low]
  simp only [condition]

theorem exists_append (bits : BitVec 128) :
    ∃ (high : BitVec 96) (low : BitVec 32), bits = high ++ low := by
  refine ⟨(bits >>> 32).setWidth 96, bits.setWidth 32, ?_⟩
  apply BitVec.eq_of_toNat_eq
  have lt := bits.isLt
  rw [toNat_append_low]
  simp only [BitVec.toNat_setWidth, BitVec.toNat_ushiftRight, Nat.shiftRight_eq_div_pow]
  omega

@[simp] theorem toIpv4_ipv4Mapped (bits : BitVec 32) :
    toIpv4 (ipv4Mapped bits) = some bits := by
  simp [ipv4Mapped, toIpv4_append]

@[simp] theorem toIpv4_ipv4Compatible (bits : BitVec 32) :
    toIpv4 (ipv4Compatible bits) = some bits := by
  simp [ipv4Compatible, toIpv4_append]

@[simp] theorem foldIpv4_v4 (bits : BitVec 32) : (IpAddr.v4 bits).foldIpv4 = .v4 bits := rfl

@[simp] theorem foldIpv4_ipv4Mapped (bits : BitVec 32) :
    (IpAddr.v6 (ipv4Mapped bits)).foldIpv4 = .v4 bits := by
  simp [IpAddr.foldIpv4]

@[simp] theorem foldIpv4_ipv4Compatible (bits : BitVec 32) :
    (IpAddr.v6 (ipv4Compatible bits)).foldIpv4 = .v4 bits := by
  simp [IpAddr.foldIpv4]

theorem IpAddr.IsIpv4.foldIpv4 {ip : IpAddr} {bits : BitVec 32} (isIpv4 : ip.IsIpv4 bits) :
    ip.foldIpv4 = .v4 bits := by
  cases isIpv4 with
  | inl plain => rw [plain, foldIpv4_v4]
  | inr mapped => rw [mapped, foldIpv4_ipv4Mapped]

theorem foldNetwork_of_some {network : BitVec 128} {bits : BitVec 32} (netmask : BitVec 128)
    (folds : toIpv4 network = some bits) :
    foldNetwork (.v6 network) (.v6 netmask) = (.v4 bits, .v4 (netmask.setWidth 32)) := by
  simp only [foldNetwork, IpAddr.foldIpv4, folds, v6ToV4]

theorem foldNetwork_of_none {network : BitVec 128} (netmask : BitVec 128)
    (unfolded : toIpv4 network = none) :
    foldNetwork (.v6 network) (.v6 netmask) = (.v6 network, .v6 netmask) := by
  simp only [foldNetwork, IpAddr.foldIpv4, unfolded]

/-- The last four octets of an IPv6 netmask hold what the prefix has beyond 96 bits. -/
theorem setWidth_prefixMask (length : Nat) :
    (prefixMask 128 length).setWidth 32 = prefixMask 32 (length - 96) := by
  apply BitVec.eq_of_getLsbD_eq
  intro index inside
  rw [BitVec.getLsbD_setWidth, getLsbD_prefixMask, getLsbD_prefixMask]
  have wide : index < 128 := by omega
  have bound : 128 - length ≤ index ↔ 32 - (length - 96) ≤ index := by omega
  simp [inside, wide, bound]

@[simp] theorem applyNetmask_v4 (ip netmask : BitVec 32) :
    applyNetmask (.v4 ip) (.v4 netmask) = .ok (.v4 (ip &&& netmask)) := rfl

@[simp] theorem applyNetmask_v6 (ip netmask : BitVec 128) :
    applyNetmask (.v6 ip) (.v6 netmask) = .ok (.v6 (ip &&& netmask)) := rfl

end F2k
