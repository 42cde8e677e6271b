import F2k.ObservationID

namespace F2k

open Lib

/-! Which home network of an observation id an address finds. -/

/-- A network as `network_new` gets it, sixteen octets of address and of netmask, and what it
made of them. An IPv4 network comes as its IPv4-mapped octets, its prefix counted from there. -/
structure AddedNetwork where
  base : BitVec 128
  length : Nat
  length_le : length ≤ 128
  name : Bytes
  network : Network
  created : Network.new (.v6 base) (.v6 (prefixMask 128 length)) name = .ok network

theorem Network.new_of_some {base : BitVec 128} {low : BitVec 32} (folds : toIpv4 base = some low)
    (mask : BitVec 128) (name : Bytes) :
    ∃ network, Network.new (.v6 base) (.v6 mask) name = .ok network ∧
      network.network = .v4 (low &&& mask.setWidth 32) ∧
      network.netmask = .v4 (mask.setWidth 32) := by
  rw [Network.new, foldNetwork_of_some mask folds]
  exact ⟨_, rfl, rfl, rfl⟩

theorem Network.new_of_none {base : BitVec 128} (unfolded : toIpv4 base = none)
    (mask : BitVec 128) (name : Bytes) :
    ∃ network, Network.new (.v6 base) (.v6 mask) name = .ok network ∧
      network.network = .v6 (base &&& mask) ∧ network.netmask = .v6 mask := by
  rw [Network.new, foldNetwork_of_none mask unfolded]
  exact ⟨_, rfl, rfl, rfl⟩

theorem Network.exists_new (base mask : BitVec 128) (name : Bytes) :
    ∃ network, Network.new (.v6 base) (.v6 mask) name = .ok network := by
  cases folds : toIpv4 base with
  | some low =>
      obtain ⟨network, made, _⟩ := Network.new_of_some folds mask name
      exact ⟨network, made⟩
  | none =>
      obtain ⟨network, made, _⟩ := Network.new_of_none folds mask name
      exact ⟨network, made⟩

def IsMapped (bits : BitVec 128) : Prop :=
  ∃ low, bits = ipv4Mapped low

namespace AddedNetwork

def IsIpv4 (added : AddedNetwork) : Prop :=
  IsMapped added.base ∧ 96 ≤ added.length

/-- The address is of the network's family and agrees with it on the prefix. -/
def Contains (added : AddedNetwork) (bits : BitVec 128) : Prop :=
  (IsMapped bits ↔ added.IsIpv4) ∧ (Masked.ofPrefix added.base added.length).Contains bits

end AddedNetwork

def IpAddr.bits : IpAddr → BitVec 128
  | .v4 bits => ipv4Mapped bits
  | .v6 bits => bits

def ObservationID.addNetworks (observationId : ObservationID) (networks : List Network) :
    ObservationID :=
  networks.foldl ObservationID.addNetwork observationId

/-- What is promised of a lookup for an address, whatever order the hash map yields its
values in. -/
def NetworkLookupCorrect (added : List AddedNetwork) (observationId : ObservationID)
    (ip : IpAddr) : Prop :=
  SearchCorrect observationId.networks.values
    (fun order => observationId.getNetworkOrdered order ip)
    (∃ network ∈ added, network.Contains ip.bits)
    (fun network => ∃ source ∈ added, source.network = network ∧ source.Contains ip.bits)

/-! The two kinds of addresses the stored networks have. -/

structure AddressFamily (width : Nat) where
  address : BitVec width → IpAddr
  ofAddress : IpAddr → Option (BitVec width)
  ofAddress_eq_some : ∀ ip bits, ofAddress ip = some bits ↔ ip = address bits
  sameFamily : ∀ bits ip,
    ((address bits).isIpv4 && ip.isIpv4 || !(address bits).isIpv4 && !ip.isIpv4) =
      (ofAddress ip).isSome
  applyNetmask_address : ∀ ip netmask,
    applyNetmask (address ip) (address netmask) = .ok (address (ip &&& netmask))

def ipv4Family : AddressFamily 32 where
  address := .v4
  ofAddress
    | .v4 bits => some bits
    | .v6 _ => none
  ofAddress_eq_some := by
    intro ip bits
    cases ip <;> simp
  sameFamily := by
    intro bits ip
    cases ip <;> rfl
  applyNetmask_address := applyNetmask_v4

def ipv6Family : AddressFamily 128 where
  address := .v6
  ofAddress
    | .v4 _ => none
    | .v6 bits => some bits
  ofAddress_eq_some := by
    intro ip bits
    cases ip <;> simp
  sameFamily := by
    intro bits ip
    cases ip <;> rfl
  applyNetmask_address := applyNetmask_v6

namespace AddressFamily

variable {width : Nat} (family : AddressFamily width)

theorem ofAddress_address (bits : BitVec width) :
    family.ofAddress (family.address bits) = some bits :=
  (family.ofAddress_eq_some _ _).mpr rfl

/-- The stored network, when it is of this family. -/
def net (network : Network) : Option (Masked width) :=
  match family.ofAddress network.network, family.ofAddress network.netmask with
  | some base, some mask => some { base, mask }
  | _, _ => none

theorem net_eq_some {network : Network} {stored : Masked width} :
    family.net network = some stored ↔
      network.network = family.address stored.base ∧
        network.netmask = family.address stored.mask := by
  rw [← family.ofAddress_eq_some, ← family.ofAddress_eq_some, net]
  cases family.ofAddress network.network with
  | none => simp
  | some base =>
      cases family.ofAddress network.netmask with
      | none => simp
      | some mask =>
          obtain ⟨storedBase, storedMask⟩ := stored
          simp

/-- Base and netmask of a network are both of this family or both not. -/
def Uniform (network : Network) : Prop :=
  (family.ofAddress network.netmask).isSome = (family.ofAddress network.network).isSome

def tryNetwork (observationId : ObservationID) (bits : BitVec width) (network : Network) :
    Option Network :=
  (family.net network).bind fun stored =>
    observationId.networks.lookup (family.address (bits &&& stored.mask))

theorem getNetworkIn_eq (observationId : ObservationID) (bits : BitVec width)
    {order : List Network} (uniform : ∀ network ∈ order, family.Uniform network) :
    observationId.getNetworkIn (family.address bits) order =
      .ok (order.findSome? (family.tryNetwork observationId bits)) := by
  induction order with
  | nil => rfl
  | cons network rest ih =>
      have restUniform : ∀ network ∈ rest, family.Uniform network := by
        intro network member
        exact uniform network (List.mem_cons_of_mem _ member)
      have headUniform := uniform network List.mem_cons_self
      rw [ObservationID.getNetworkIn, family.sameFamily, List.findSome?_cons]
      cases maskEq : family.ofAddress network.netmask with
      | none =>
          have skipped : family.tryNetwork observationId bits network = none := by
            simp [tryNetwork, net, maskEq]
          rw [skipped]
          exact ih restUniform
      | some mask =>
          have baseSome : (family.ofAddress network.network).isSome := by
            rw [← headUniform, maskEq]
            rfl
          obtain ⟨base, baseEq⟩ := Option.isSome_iff_exists.mp baseSome
          have tried : family.tryNetwork observationId bits network =
              observationId.networks.lookup (family.address (bits &&& mask)) := by
            simp [tryNetwork, net, maskEq, baseEq]
          have netmask := (family.ofAddress_eq_some _ _).mp maskEq
          rw [if_pos Option.isSome_some, tried, netmask, family.applyNetmask_address, Run.ok_bind]
          cases observationId.networks.lookup (family.address (bits &&& mask)) with
          | none => exact ih restUniform
          | some found => rfl

end AddressFamily

/-! What is stored of the added networks. -/

namespace AddedNetwork

def ipv4Shape (added : AddedNetwork) : Option (PrefixNet 32) :=
  (toIpv4 added.base).map fun low =>
    { network := low
      length := added.length - 96
      length_le := by have := added.length_le; omega }

def ipv6Shape (added : AddedNetwork) : Option (PrefixNet 128) :=
  match toIpv4 added.base with
  | some _ => none
  | none =>
      some { network := added.base, length := added.length, length_le := added.length_le }

theorem fields_of_folded {added : AddedNetwork} {low : BitVec 32}
    (folded : toIpv4 added.base = some low) :
    added.network.network = .v4 (low &&& prefixMask 32 (added.length - 96)) ∧
      added.network.netmask = .v4 (prefixMask 32 (added.length - 96)) := by
  have created := added.created
  simp only [Network.new, foldNetwork, IpAddr.foldIpv4, folded, v6ToV4, setWidth_prefixMask,
    Run.pure_eq_ok, Run.ok_bind, applyNetmask_v4] at created
  rw [← Except.ok.inj created]
  exact ⟨rfl, rfl⟩

theorem fields_of_unfolded {added : AddedNetwork} (unfolded : toIpv4 added.base = none) :
    added.network.network = .v6 (added.base &&& prefixMask 128 added.length) ∧
      added.network.netmask = .v6 (prefixMask 128 added.length) := by
  have created := added.created
  simp only [Network.new, foldNetwork, IpAddr.foldIpv4, unfolded, getNetmaskPrefixIpv6,
    Run.pure_eq_ok, Run.ok_bind, applyNetmask_v6] at created
  rw [← Except.ok.inj created]
  exact ⟨rfl, rfl⟩

theorem ipv4_net (added : AddedNetwork) :
    ipv4Family.net added.network = added.ipv4Shape.map PrefixNet.net := by
  cases folds : toIpv4 added.base with
  | some low =>
      obtain ⟨network, netmask⟩ := fields_of_folded folds
      simp only [AddressFamily.net, network, netmask, ipv4Family, ipv4Shape, folds]
      rfl
  | none =>
      obtain ⟨network, netmask⟩ := fields_of_unfolded folds
      simp only [AddressFamily.net, network, netmask, ipv4Family, ipv4Shape, folds]
      rfl

theorem ipv6_net (added : AddedNetwork) :
    ipv6Family.net added.network = added.ipv6Shape.map PrefixNet.net := by
  cases folds : toIpv4 added.base with
  | some low =>
      obtain ⟨network, netmask⟩ := fields_of_folded folds
      simp only [AddressFamily.net, network, netmask, ipv6Family, ipv6Shape, folds]
      rfl
  | none =>
      obtain ⟨network, netmask⟩ := fields_of_unfolded folds
      simp only [AddressFamily.net, network, netmask, ipv6Family, ipv6Shape, folds]
      rfl

theorem ipv4_uniform (added : AddedNetwork) : ipv4Family.Uniform added.network := by
  cases folds : toIpv4 added.base with
  | some low =>
      obtain ⟨network, netmask⟩ := fields_of_folded folds
      simp only [AddressFamily.Uniform, network, netmask, ipv4Family]
      rfl
  | none =>
      obtain ⟨network, netmask⟩ := fields_of_unfolded folds
      simp only [AddressFamily.Uniform, network, netmask, ipv4Family]

theorem ipv6_uniform (added : AddedNetwork) : ipv6Family.Uniform added.network := by
  cases folds : toIpv4 added.base with
  | some low =>
      obtain ⟨network, netmask⟩ := fields_of_folded folds
      simp only [AddressFamily.Uniform, network, netmask, ipv6Family]
  | none =>
      obtain ⟨network, netmask⟩ := fields_of_unfolded folds
      simp only [AddressFamily.Uniform, network, netmask, ipv6Family]
      rfl

end AddedNetwork

/-- The networks no later one with the same stored base replaces. -/
def remainingNetworks (added : List AddedNetwork) : List AddedNetwork :=
  Table.remaining (fun network => network.network.network) added

def withNetworks (id : UInt32) (added : List AddedNetwork) : ObservationID :=
  (ObservationID.new id).addNetworks (added.map AddedNetwork.network)

theorem addNetworks_networks (observationId : ObservationID) (networks : List Network) :
    (observationId.addNetworks networks).networks =
      Table.insertAll Network.network observationId.networks networks := by
  induction networks generalizing observationId with
  | nil => rfl
  | cons head rest ih => exact ih (observationId.addNetwork head)

theorem mem_withNetworks {id : UInt32} {added : List AddedNetwork} {network : Network} :
    network ∈ (withNetworks id added).networks.values ↔
      ∃ kept ∈ remainingNetworks added, kept.network = network := by
  rw [withNetworks, addNetworks_networks]
  exact Table.mem_values_insertAll_empty.trans (by rw [Table.remaining_map, List.mem_map]; rfl)

theorem lookup_withNetworks {id : UInt32} {added : List AddedNetwork} {base : IpAddr}
    {network : Network} :
    (withNetworks id added).networks.lookup base = some network ↔
      network ∈ (withNetworks id added).networks.values ∧ network.network = base := by
  rw [withNetworks, addNetworks_networks]
  exact Table.lookup_insertAll_empty.trans
    (and_congr_left fun _ => Table.mem_values_insertAll_empty.symm)

/-! The kinds of addresses, and the networks under which each kind is looked up right. -/

inductive AddressKind
  | ipv4
  | ipv4Compatible
  | ipv6

def AddressKind.Of : AddressKind → IpAddr → Prop
  | .ipv4, ip => ∃ low, ip.bits = F2k.ipv4Mapped low
  | .ipv4Compatible, ip => ∃ low, ip.bits = F2k.ipv4Compatible low
  | .ipv6, ip => toIpv4 ip.bits = none

/-- What has to hold of the networks stored under IPv4 bases, for addresses that `embed` makes
of four octets. -/
structure FoldedNetworksApart (embed : BitVec 32 → BitVec 128) (added : List AddedNetwork) :
    Prop where
  apart : PrefixesApart AddedNetwork.ipv4Shape (remainingNetworks added)
  own : ∀ kept ∈ remainingNetworks added, ∀ stored, kept.ipv4Shape = some stored →
    ∀ low, stored.net.Contains low →
      ∃ source ∈ added, source.network = kept.network ∧ source.Contains (embed low)
  covered : ∀ network ∈ added, ∀ low, network.Contains (embed low) →
    ∃ kept ∈ remainingNetworks added, ∃ stored, kept.ipv4Shape = some stored ∧
      stored.net.Contains low

/-- What has to hold of the networks stored under IPv6 bases. -/
structure Ipv6NetworksApart (added : List AddedNetwork) : Prop where
  apart : ∀ short ∈ remainingNetworks added, ∀ long ∈ remainingNetworks added,
    ∀ shortStored longStored, short.ipv6Shape = some shortStored →
      long.ipv6Shape = some longStored → shortStored.length < longStored.length →
        longStored.net.base &&& shortStored.net.mask ≠ shortStored.net.base ∧
        ∀ bits, toIpv4 bits = none → bits &&& shortStored.net.mask = longStored.net.base →
          longStored.net.Contains bits
  covered : ∀ network ∈ added, ∀ bits, toIpv4 bits = none → network.Contains bits →
    ∃ kept ∈ remainingNetworks added, ∃ stored, kept.ipv6Shape = some stored ∧
      stored.net.Contains bits

def AddressKind.Apart : AddressKind → List AddedNetwork → Prop
  | .ipv4, added => FoldedNetworksApart F2k.ipv4Mapped added
  | .ipv4Compatible, added => FoldedNetworksApart F2k.ipv4Compatible added
  | .ipv6, added => Ipv6NetworksApart added

/-! The lookup at one address, in terms of the stored networks of the address's family. -/

def MayFind (added : List AddedNetwork) (bits : BitVec 128) (network : Network) : Prop :=
  ∃ source ∈ added, source.network = network ∧ source.Contains bits

section Family

variable {width : Nat} (family : AddressFamily width) {id : UInt32}
  {added : List AddedNetwork}

/-- Every created network is stored in a family as a whole or not at all. -/
def CoversCreated : Prop :=
  ∀ network : AddedNetwork, family.Uniform network.network

variable {family}

theorem tryNetwork_findsByBase (covers : CoversCreated family) (bits : BitVec width) :
    FindsByBase family.net (withNetworks id added).networks.values bits
      (family.tryNetwork (withNetworks id added) bits) := by
  intro tried triedMember value
  simp only [AddressFamily.tryNetwork, Option.bind_eq_some_iff, lookup_withNetworks]
  constructor
  · intro both
    obtain ⟨triedNet, triedEq, member, base⟩ := both
    obtain ⟨kept, _, same⟩ := mem_withNetworks.mp member
    have uniform := covers kept
    rw [AddressFamily.Uniform, same, base, family.ofAddress_address] at uniform
    obtain ⟨mask, maskEq⟩ := Option.isSome_iff_exists.mp uniform
    refine ⟨member, triedNet, ⟨_, mask⟩, triedEq, ?_, rfl⟩
    rw [family.net_eq_some]
    exact ⟨base, (family.ofAddress_eq_some _ _).mp maskEq⟩
  · intro both
    obtain ⟨member, triedNet, valueNet, triedEq, valueEq, base⟩ := both
    refine ⟨triedNet, triedEq, member, ?_⟩
    rw [← base]
    exact (family.net_eq_some.mp valueEq).1

theorem getNetworkOrdered_triesInTurn (covers : CoversCreated family) {ip : IpAddr}
    {bits : BitVec width} (folds : ip.foldIpv4 = family.address bits) :
    TriesInTurn (withNetworks id added).networks.values
      (fun order => (withNetworks id added).getNetworkOrdered order ip)
      (family.tryNetwork (withNetworks id added) bits) := by
  intro order perm
  simp only [ObservationID.getNetworkOrdered, folds]
  apply family.getNetworkIn_eq
  intro network member
  obtain ⟨kept, _, same⟩ := mem_withNetworks.mp (perm.mem_iff.mp member)
  rw [← same]
  exact covers kept

theorem network_eq_of_base_eq {first second : Network} {firstNet secondNet : Masked width}
    (firstMember : first ∈ (withNetworks id added).networks.values)
    (secondMember : second ∈ (withNetworks id added).networks.values)
    (firstEq : family.net first = some firstNet) (secondEq : family.net second = some secondNet)
    (same : firstNet.base = secondNet.base) : first = second := by
  have firstBase := (family.net_eq_some.mp firstEq).1
  have secondBase := (family.net_eq_some.mp secondEq).1
  rw [← same] at secondBase
  have findsFirst := lookup_withNetworks.mpr ⟨firstMember, firstBase⟩
  have findsSecond := lookup_withNetworks.mpr ⟨secondMember, secondBase⟩
  rw [findsFirst] at findsSecond
  exact Option.some.inj findsSecond

theorem networkLookupCorrect_iff_safe (covers : CoversCreated family) {ip : IpAddr}
    {bits : BitVec width} (folds : ip.foldIpv4 = family.address bits)
    (inside : ∀ source : AddedNetwork, ∀ stored, family.net source.network = some stored →
      source.Contains ip.bits → stored.Contains bits) :
    NetworkLookupCorrect added (withNetworks id added) ip ↔
      SearchSafe family.net (withNetworks id added).networks.values bits
        (∃ network ∈ added, network.Contains ip.bits) (MayFind added ip.bits) := by
  apply searchCorrect_iff_safe (getNetworkOrdered_triesInTurn covers folds)
    (tryNetwork_findsByBase covers bits)
  · intro network _ both
    obtain ⟨source, member, _, contains⟩ := both
    exact ⟨source, member, contains⟩
  · intro network _ stored storedEq both
    obtain ⟨source, _, same, contains⟩ := both
    rw [← same] at storedEq
    exact inside source stored storedEq contains

end Family

theorem toIpv4_eq_some {bits : BitVec 128} {low : BitVec 32} (folds : toIpv4 bits = some low) :
    low = bits.setWidth 32 := by
  rw [toIpv4] at folds
  split at folds
  · exact (Option.some.inj folds).symm
  · contradiction

theorem foldIpv4_of_some {ip : IpAddr} {low : BitVec 32} (folds : toIpv4 ip.bits = some low) :
    ip.foldIpv4 = .v4 low := by
  cases ip with
  | v4 bits =>
      simp only [IpAddr.bits, toIpv4_ipv4Mapped, Option.some.injEq] at folds
      rw [folds, foldIpv4_v4]
  | v6 bits =>
      simp only [IpAddr.bits] at folds
      simp only [IpAddr.foldIpv4, folds]

theorem foldIpv4_of_none {ip : IpAddr} (unfolded : toIpv4 ip.bits = none) :
    ip.foldIpv4 = .v6 ip.bits := by
  cases ip with
  | v4 bits => simp [IpAddr.bits] at unfolded
  | v6 bits =>
      simp only [IpAddr.bits] at unfolded
      simp only [IpAddr.foldIpv4, unfolded, IpAddr.bits]

theorem not_isMapped_of_none {bits : BitVec 128} (unfolded : toIpv4 bits = none) :
    ¬IsMapped bits := by
  intro both
  obtain ⟨low, mapped⟩ := both
  rw [mapped, toIpv4_ipv4Mapped] at unfolded
  contradiction

namespace AddedNetwork

theorem contains_low {source : AddedNetwork} {bits : BitVec 128} {low : BitVec 32}
    {stored : PrefixNet 32} (folds : toIpv4 bits = some low)
    (shape : source.ipv4Shape = some stored) (contains : source.Contains bits) :
    stored.net.Contains low := by
  obtain ⟨base, baseEq, storedEq⟩ := Option.map_eq_some_iff.mp shape
  have lowBits := congrArg (BitVec.setWidth 32) contains.2
  simp only [Masked.ofPrefix, BitVec.setWidth_and, setWidth_prefixMask] at lowBits
  rw [← toIpv4_eq_some folds, ← toIpv4_eq_some baseEq] at lowBits
  rw [← storedEq]
  exact lowBits

theorem ipv6Shape_eq_some {source : AddedNetwork} {stored : PrefixNet 128}
    (shape : source.ipv6Shape = some stored) :
    toIpv4 source.base = none ∧ stored.network = source.base ∧
      stored.length = source.length := by
  rw [ipv6Shape] at shape
  split at shape
  · contradiction
  · next unfolded =>
      rw [← Option.some.inj shape]
      exact ⟨unfolded, rfl, rfl⟩

theorem contains_iff_stored {source : AddedNetwork} {bits : BitVec 128}
    {stored : PrefixNet 128} (unfolded : toIpv4 bits = none)
    (shape : source.ipv6Shape = some stored) :
    source.Contains bits ↔ stored.net.Contains bits := by
  obtain ⟨baseUnfolded, network, length⟩ := ipv6Shape_eq_some shape
  have family : IsMapped bits ↔ source.IsIpv4 := by
    constructor
    · intro mapped
      exact absurd mapped (not_isMapped_of_none unfolded)
    · intro isIpv4
      exact absurd isIpv4.1 (not_isMapped_of_none baseUnfolded)
  have storedNet : stored.net = .ofPrefix source.base source.length := by
    rw [PrefixNet.net, network, length]
  rw [storedNet]
  exact ⟨fun contains => contains.2, fun contains => ⟨family, contains⟩⟩

end AddedNetwork

/-! The condition for every kind of address. -/

section Kinds

variable {id : UInt32} {added : List AddedNetwork}

theorem foldedNetworksApart_iff {embed : BitVec 32 → BitVec 128} :
    (∀ low, SearchSafe ipv4Family.net (withNetworks id added).networks.values low
        (∃ network ∈ added, network.Contains (embed low)) (MayFind added (embed low))) ↔
      FoldedNetworksApart embed added := by
  constructor
  · intro safe
    refine ⟨?_, ?_, ?_⟩
    · apply prefixesApart_of_searchApart AddedNetwork.network _ _
        (fun low => (safe low).toSearchApart)
      · intro kept member
        exact mem_withNetworks.mpr ⟨kept, member, rfl⟩
      · intro kept _
        exact kept.ipv4_net
    · intro kept member stored shape low contains
      apply (safe low).foundInside kept.network (mem_withNetworks.mpr ⟨kept, member, rfl⟩)
        stored.net _ contains
      rw [kept.ipv4_net, shape, Option.map_some]
    · intro network member low contains
      obtain ⟨found, foundMember, stored, storedEq, inStored⟩ :=
        (safe low).covered ⟨network, member, contains⟩
      obtain ⟨kept, keptMember, same⟩ := mem_withNetworks.mp foundMember
      rw [← same, kept.ipv4_net, Option.map_eq_some_iff] at storedEq
      obtain ⟨shape, shapeEq, netEq⟩ := storedEq
      rw [← netEq] at inStored
      exact ⟨kept, keptMember, shape, shapeEq, inStored⟩
  · intro apart low
    refine ⟨?_, ?_, ?_⟩
    · apply searchApart_of_prefixesApart AddedNetwork.network _ _ _ apart.apart
      · intro found member
        exact mem_withNetworks.mp member
      · intro kept _
        exact kept.ipv4_net
      · intro first firstMember second secondMember firstNet secondNet firstEq secondEq same
        exact network_eq_of_base_eq firstMember secondMember firstEq secondEq same
    · intro found member stored storedEq contains
      obtain ⟨kept, keptMember, same⟩ := mem_withNetworks.mp member
      rw [← same, kept.ipv4_net, Option.map_eq_some_iff] at storedEq
      obtain ⟨shape, shapeEq, netEq⟩ := storedEq
      rw [← netEq] at contains
      rw [← same]
      exact apart.own kept keptMember shape shapeEq low contains
    · intro both
      obtain ⟨network, member, contains⟩ := both
      obtain ⟨kept, keptMember, stored, shape, inStored⟩ :=
        apart.covered network member low contains
      refine ⟨kept.network, mem_withNetworks.mpr ⟨kept, keptMember, rfl⟩, stored.net, ?_,
        inStored⟩
      rw [kept.ipv4_net, shape, Option.map_some]

/-- At an IPv6 address that stays one, only networks stored as IPv6 ones count. -/
def Ipv6SearchSafe (id : UInt32) (added : List AddedNetwork) (bits : BitVec 128) : Prop :=
  SearchSafe ipv6Family.net (withNetworks id added).networks.values bits
    (∃ network ∈ added, network.Contains bits) (MayFind added bits)

theorem ipv6NetworksApart_of_safe
    (safe : ∀ bits, toIpv4 bits = none → Ipv6SearchSafe id added bits) :
    Ipv6NetworksApart added := by
  have inTable : ∀ kept ∈ remainingNetworks added,
      kept.network ∈ (withNetworks id added).networks.values := by
    intro kept member
    exact mem_withNetworks.mpr ⟨kept, member, rfl⟩
  have nets : ∀ kept : AddedNetwork, ∀ stored, kept.ipv6Shape = some stored →
      ipv6Family.net kept.network = some stored.net := by
    intro kept stored shape
    rw [kept.ipv6_net, shape, Option.map_some]
  refine ⟨?_, ?_⟩
  · intro short shortMember long longMember shortStored longStored shortShape longShape shorter
    obtain ⟨unfolded, network, _⟩ := AddedNetwork.ipv6Shape_eq_some longShape
    have shortNet := nets short shortStored shortShape
    have longNet := nets long longStored longShape
    constructor
    · intro nested
      have inLong : longStored.net.Contains long.base := by
        rw [← network]
        rfl
      have inShort : shortStored.net.Contains long.base := by
        rw [Masked.Contains, ← nested, ← inLong]
        exact (and_prefixMask_and_prefixMask _ (Nat.le_of_lt shorter)).symm
      have same := (safe long.base unfolded).disjoint short.network (inTable short shortMember)
        long.network (inTable long longMember) _ _ shortNet longNet inShort inLong
      rw [same, longNet] at shortNet
      have masks := congrArg Masked.mask (Option.some.inj shortNet)
      have lengths := prefixMask_injective longStored.length_le shortStored.length_le masks
      omega
    · intro bits bitsUnfolded taken
      exact (safe bits bitsUnfolded).takenInside short.network (inTable short shortMember)
        long.network (inTable long longMember) _ _ shortNet longNet taken.symm
  · intro network member bits unfolded contains
    obtain ⟨found, foundMember, stored, storedEq, inStored⟩ :=
      (safe bits unfolded).covered ⟨network, member, contains⟩
    obtain ⟨kept, keptMember, same⟩ := mem_withNetworks.mp foundMember
    rw [← same, kept.ipv6_net, Option.map_eq_some_iff] at storedEq
    obtain ⟨shape, shapeEq, netEq⟩ := storedEq
    rw [← netEq] at inStored
    exact ⟨kept, keptMember, shape, shapeEq, inStored⟩

theorem safe_of_ipv6NetworksApart (apart : Ipv6NetworksApart added) {bits : BitVec 128}
    (unfolded : toIpv4 bits = none) : Ipv6SearchSafe id added bits := by
  have shaped : ∀ network ∈ (withNetworks id added).networks.values, ∀ net,
      ipv6Family.net network = some net →
        ∃ kept ∈ remainingNetworks added, kept.network = network ∧
          ∃ stored, kept.ipv6Shape = some stored ∧ stored.net = net := by
    intro network member net netEq
    obtain ⟨kept, keptMember, same⟩ := mem_withNetworks.mp member
    rw [← same, kept.ipv6_net, Option.map_eq_some_iff] at netEq
    exact ⟨kept, keptMember, same, netEq⟩
  refine ⟨⟨?_, ?_⟩, ?_, ?_⟩
  · intro first firstMember second secondMember firstNet secondNet firstEq secondEq inFirst
      inSecond
    obtain ⟨one, oneMember, _, oneStored, oneShape, oneNet⟩ :=
      shaped first firstMember firstNet firstEq
    obtain ⟨other, otherMember, _, otherStored, otherShape, otherNet⟩ :=
      shaped second secondMember secondNet secondEq
    rw [← oneNet] at inFirst
    rw [← otherNet] at inSecond
    rcases eq_or_shorter_of_contains inFirst inSecond with same | ⟨less, masked⟩ |
      ⟨greater, masked⟩
    · rw [oneNet, otherNet] at same
      exact network_eq_of_base_eq firstMember secondMember firstEq secondEq same
    · exact absurd masked (apart.apart one oneMember other otherMember oneStored otherStored
        oneShape otherShape less).1
    · exact absurd masked (apart.apart other otherMember one oneMember otherStored oneStored
        otherShape oneShape greater).1
  · intro tried triedMember found member triedNet foundNet triedEq foundEq taken
    obtain ⟨one, oneMember, _, oneStored, oneShape, oneNet⟩ :=
      shaped tried triedMember triedNet triedEq
    obtain ⟨other, otherMember, _, otherStored, otherShape, otherNet⟩ :=
      shaped found member foundNet foundEq
    rw [← oneNet, ← otherNet] at taken
    rw [← otherNet]
    rcases Nat.lt_or_ge oneStored.length otherStored.length with shorter | notShorter
    · exact (apart.apart one oneMember other otherMember oneStored otherStored oneShape
        otherShape shorter).2 bits unfolded taken.symm
    · exact Masked.contains_of_longer_mask notShorter taken.symm
  · intro found member net netEq contains
    obtain ⟨kept, keptMember, same, stored, shape, storedEq⟩ := shaped found member net netEq
    rw [← storedEq] at contains
    exact ⟨kept, Table.mem_of_mem_remaining keptMember, same,
      (AddedNetwork.contains_iff_stored unfolded shape).mpr contains⟩
  · intro both
    obtain ⟨network, member, contains⟩ := both
    obtain ⟨kept, keptMember, stored, shape, inStored⟩ :=
      apart.covered network member bits unfolded contains
    refine ⟨kept.network, mem_withNetworks.mpr ⟨kept, keptMember, rfl⟩, stored.net, ?_,
      inStored⟩
    rw [kept.ipv6_net, shape, Option.map_some]

theorem networkLookupCorrect_iff_folded {ip : IpAddr} {low : BitVec 32}
    (folds : toIpv4 ip.bits = some low) :
    NetworkLookupCorrect added (withNetworks id added) ip ↔
      SearchSafe ipv4Family.net (withNetworks id added).networks.values low
        (∃ network ∈ added, network.Contains ip.bits) (MayFind added ip.bits) := by
  apply networkLookupCorrect_iff_safe AddedNetwork.ipv4_uniform (foldIpv4_of_some folds)
  intro source stored storedEq contains
  rw [source.ipv4_net, Option.map_eq_some_iff] at storedEq
  obtain ⟨shape, shapeEq, netEq⟩ := storedEq
  rw [← netEq]
  exact AddedNetwork.contains_low folds shapeEq contains

theorem networkLookupCorrect_iff_ipv6 {ip : IpAddr} (unfolded : toIpv4 ip.bits = none) :
    NetworkLookupCorrect added (withNetworks id added) ip ↔
      Ipv6SearchSafe id added ip.bits := by
  apply networkLookupCorrect_iff_safe AddedNetwork.ipv6_uniform (foldIpv4_of_none unfolded)
  intro source stored storedEq contains
  rw [source.ipv6_net, Option.map_eq_some_iff] at storedEq
  obtain ⟨shape, shapeEq, netEq⟩ := storedEq
  rw [← netEq]
  exact (AddedNetwork.contains_iff_stored unfolded shapeEq).mp contains

theorem folded_correct_iff_apart {embed : BitVec 32 → BitVec 128}
    (folds : ∀ low, toIpv4 (embed low) = some low) :
    (∀ ip : IpAddr, (∃ low, ip.bits = embed low) →
        NetworkLookupCorrect added (withNetworks id added) ip) ↔
      FoldedNetworksApart embed added := by
  rw [← @foldedNetworksApart_iff id]
  constructor
  · intro correct low
    let ip : IpAddr := .v6 (embed low)
    have folded : toIpv4 ip.bits = some low := folds low
    exact (networkLookupCorrect_iff_folded folded).mp (correct ip ⟨low, rfl⟩)
  · intro safe ip both
    obtain ⟨low, bits⟩ := both
    have folded : toIpv4 ip.bits = some low := by
      rw [bits, folds]
    rw [networkLookupCorrect_iff_folded folded, bits]
    exact safe low

end Kinds

/-- For every kind of address, lookups are right exactly when the networks that can answer
them are apart, stand for networks of that family, and cover what was added. -/
theorem getNetwork_correct_iff_apart (id : UInt32) (added : List AddedNetwork)
    (kind : AddressKind) :
    (∀ ip, kind.Of ip →
        NetworkLookupCorrect added
          ((ObservationID.new id).addNetworks (added.map AddedNetwork.network)) ip) ↔
      kind.Apart added := by
  cases kind with
  | ipv4 => exact folded_correct_iff_apart toIpv4_ipv4Mapped
  | ipv4Compatible => exact folded_correct_iff_apart toIpv4_ipv4Compatible
  | ipv6 =>
      constructor
      · intro correct
        apply @ipv6NetworksApart_of_safe id
        intro bits unfolded
        let ip : IpAddr := .v6 bits
        have ipUnfolded : toIpv4 ip.bits = none := unfolded
        exact (networkLookupCorrect_iff_ipv6 ipUnfolded).mp (correct ip ipUnfolded)
      · intro apart ip unfolded
        exact (networkLookupCorrect_iff_ipv6 unfolded).mpr
          (safe_of_ipv6NetworksApart apart unfolded)

/-- A network straight from `network_new`, of the mapped octets of an IPv4 base. -/
def AddedNetwork.ofIpv4 (base : BitVec 32) (length : Nat) (length_le : length ≤ 32)
    (name : Bytes) : AddedNetwork where
  base := ipv4Mapped base
  length := 96 + length
  length_le := by omega
  name
  network :=
    { network := .v4 (base &&& prefixMask 32 length)
      netmask := .v4 (prefixMask 32 length)
      name
      addressAsStr := showIpv4 base ++ ascii "/" ++
        decimal (getNetmaskPrefixIpv4 (.v4 (prefixMask 32 length))).toNat }
  created := by
    have beyond : 96 + length - 96 = length := by omega
    simp only [Network.new, foldNetwork, foldIpv4_ipv4Mapped, v6ToV4, setWidth_prefixMask,
      beyond, Run.pure_eq_ok, Run.ok_bind, applyNetmask_v4]

/-- `172.16.0.0/12` and `10.0.0.0/16`. -/
def unrelatedNetworks : List AddedNetwork :=
  [.ofIpv4 0xac100000 12 (by decide) [1], .ofIpv4 0x0a000000 16 (by decide) [2]]

/-- The mask of `172.16.0.0/12` takes `10.1.2.3` to the base of `10.0.0.0/16`. -/
theorem getNetwork_unrelated_incorrect :
    ¬NetworkLookupCorrect unrelatedNetworks
      ((ObservationID.new 0).addNetworks (unrelatedNetworks.map AddedNetwork.network))
      (.v4 0x0a010203) := by
  intro correct
  obtain ⟨source, member, same, _, contains⟩ := correct.sound _ (List.Perm.refl _)
    (AddedNetwork.ofIpv4 0x0a000000 16 (by decide) [2]).network rfl
  rcases List.mem_cons.mp member with wide | narrow
  · rw [wide] at same
    exact absurd (congrArg Network.name same) (by decide)
  · rw [List.mem_singleton.mp narrow] at contains
    exact absurd contains (by decide)

end F2k
