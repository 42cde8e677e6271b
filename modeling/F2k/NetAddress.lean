import F2k.Address

namespace F2k

open Lib

/-! Addresses and netmasks as they are read from a configured text. -/

/-- The sixteen octets of a network and of its netmask, as one number each. -/
structure NetAddress where
  network : BitVec 128
  networkMask : BitVec 128
deriving DecidableEq

/-- The answers of `inet_pton` for the two families. -/
structure InetPton where
  ipv6 : Bytes → Option (BitVec 128)
  ipv4 : Bytes → Option (BitVec 32)

/-- The eight octets in front, and the eight after them. -/
structure Ipv6Halves where
  first : BitVec 64
  second : BitVec 64

/-- `operator_ltlt_ipv6`: the second half is shifted as long as it is not empty. -/
def Ipv6Halves.shift (bits : Ipv6Halves) : Ipv6Halves :=
  if bits.second = 0 then { bits with first := bits.first <<< 1 }
  else { bits with second := bits.second <<< 1 }

/-- The loop of `int2bits`, so many turns of it. -/
def shiftedHalves : Nat → Ipv6Halves
  | 0 => { first := .allOnes 64, second := .allOnes 64 }
  | turns + 1 => (shiftedHalves turns).shift

def int2bits (number : Int32) : Option (BitVec 128) :=
  if number > 128 ∨ number < 0 then none
  else
    let halves := shiftedHalves (128 - number.toInt.toNat)
    some (halves.first ++ halves.second)

def isBlank (byte : UInt8) : Bool :=
  byte == 32 || (decide (9 ≤ byte) && decide (byte ≤ 13))

def isDigit (byte : UInt8) : Bool :=
  decide (48 ≤ byte) && decide (byte ≤ 57)

/-- `sscanf` of one `%d`: the number is read as a `long`, and kept in 32 bits. -/
def sscanfInt (text : Bytes) : Option Int32 :=
  let text := text.dropWhile isBlank
  let (negative, text) :=
    match text with
    | 45 :: rest => (true, rest)
    | 43 :: rest => (false, rest)
    | _ => (false, text)
  match text.takeWhile isDigit with
  | [] => none
  | digits =>
      let value : Nat :=
        digits.foldl (fun number digit => number * 10 + (digit.toNat - 48)) 0
      let number : Int := if negative then -(value : Int) else value
      some (Int32.ofInt (max (-2 ^ 63) (min (2 ^ 63 - 1) number)))

/-- The prefix of an IPv4 network is counted from the end of the mapped octets. -/
def dotted2bits (mask : Bytes) (ipv4 : Bool) : Option (BitVec 128) :=
  (sscanfInt mask).bind fun number => int2bits (if ipv4 then number + 96 else number)

/-- An address that neither family accepts leaves the network as it was. -/
def parseAddress (inetPton : InetPton) (address : Bytes) (before : NetAddress) :
    Option NetAddress :=
  let host := address.takeWhile fun byte => byte != 47
  let ipv6 := inetPton.ipv6 host
  let ipv4 := if ipv6.isSome then none else inetPton.ipv4 host
  let networkMask :=
    match address.dropWhile fun byte => byte != 47 with
    | [] => int2bits 128
    | _ :: mask => dotted2bits mask ipv4.isSome
  let network :=
    match ipv6, ipv4 with
    | some bits, _ => bits
    | none, some bits => ipv4Mapped bits
    | none, none => before.network
  networkMask.map fun networkMask => { network, networkMask }

/-- The text is copied into a buffer that has room for the longest address and `/128`. -/
def safeParseAddress (inetPton : InetPton) (addr : Bytes) (before : NetAddress) :
    Option NetAddress :=
  parseAddress inetPton ((cString addr).take 49) before

/-! What is accepted has the mask of a prefix. -/

theorem shiftedHalves_eq :
    ∀ turns < 129, (shiftedHalves turns).first ++ (shiftedHalves turns).second =
      prefixMask 128 (128 - turns) := by
  decide +kernel

theorem int2bits_eq_some {number : Int32} {mask : BitVec 128}
    (accepted : int2bits number = some mask) :
    ∃ length ≤ 128, mask = prefixMask 128 length := by
  unfold int2bits at accepted
  split at accepted
  · contradiction
  · next inside =>
      cases accepted
      obtain ⟨notMore, notLess⟩ := not_or.mp inside
      have le : number.toInt ≤ 128 := Int32.le_iff_toInt_le.mp (Int32.not_lt.mp notMore)
      have shifted := shiftedHalves_eq (128 - number.toInt.toNat) (by omega)
      exact ⟨number.toInt.toNat, by omega, by rw [shifted]; congr 1; omega⟩

theorem safeParseAddress_mask {inetPton : InetPton} {addr : Bytes} {before address : NetAddress}
    (accepted : safeParseAddress inetPton addr before = some address) :
    ∃ length ≤ 128, address.networkMask = prefixMask 128 length := by
  unfold safeParseAddress parseAddress at accepted
  obtain ⟨mask, maskEq, rfl⟩ := Option.map_eq_some_iff.mp accepted
  split at maskEq
  · exact int2bits_eq_some maskEq
  · obtain ⟨number, _, masked⟩ := Option.bind_eq_some_iff.mp maskEq
    exact int2bits_eq_some masked

end F2k
