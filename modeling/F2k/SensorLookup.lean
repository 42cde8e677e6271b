import F2k.Sensor

namespace F2k

open Lib

/-! Which sensor a packet's source address finds. -/

theorem Sensor.new_ipv4 (base : BitVec 32) (length : Nat) :
    Sensor.new (.v6 (ipv4Mapped base)) (.v6 (prefixMask 128 (96 + length))) =
      .ok { network := .v4 (base &&& prefixMask 32 length)
            netmask := .v4 (prefixMask 32 length)
            worker := none
            defaultObservationId := none
            observationId := ∅ } := by
  have beyond : 96 + length - 96 = length := by omega
  simp only [Sensor.new, foldNetwork, foldIpv4_ipv4Mapped, v6ToV4, setWidth_prefixMask, beyond]
  rfl

/-- A sensor of an IPv4 network: `Sensor::new` made it from the octets of the network, and
observation ids and a worker may have been added since. -/
structure Ipv4Sensor where
  base : BitVec 32
  length : Nat
  length_le : length ≤ 32
  sensor : Sensor
  created : ∃ fresh,
    Sensor.new (.v6 (ipv4Mapped base)) (.v6 (prefixMask 128 (96 + length))) = .ok fresh ∧
      sensor.network = fresh.network ∧ sensor.netmask = fresh.netmask

namespace Ipv4Sensor

def prefixNet (added : Ipv4Sensor) : PrefixNet 32 where
  network := added.base
  length := added.length
  length_le := added.length_le

def net (added : Ipv4Sensor) : Masked 32 :=
  added.prefixNet.net

theorem fields (added : Ipv4Sensor) :
    added.sensor.network = .v4 added.net.base ∧ added.sensor.netmask = .v4 added.net.mask := by
  obtain ⟨fresh, made, network, netmask⟩ := added.created
  rw [Sensor.new_ipv4] at made
  cases made
  exact ⟨network, netmask⟩

end Ipv4Sensor

/-- What is promised of a lookup for an IPv4 address, whatever order the hash map yields its
values in. -/
def SensorLookupCorrect (added : List Ipv4Sensor) (database : SensorsDB) (ip : IpAddr)
    (address : BitVec 32) : Prop :=
  SearchCorrect database.database.values
    (fun order => database.getSensorOrdered order ip)
    (∃ sensor ∈ added, sensor.net.Contains address)
    (fun sensor => applyNetmask (.v4 address) sensor.netmask = .ok sensor.network)

/-- The sensors no later one with the same base address replaces. -/
def remainingSensors (added : List Ipv4Sensor) : List Ipv4Sensor :=
  Table.remaining (fun sensor => sensor.sensor.network) added

/-- A shorter mask takes the base of a longer network neither to itself nor to the base of the
shorter network, and what was replaced is covered by what remains. -/
structure SensorNetworksApart (added : List Ipv4Sensor) : Prop where
  apart : ∀ short ∈ remainingSensors added, ∀ long ∈ remainingSensors added,
    short.length < long.length →
      long.net.base &&& short.net.mask ≠ long.net.base ∧
      long.net.base &&& short.net.mask ≠ short.net.base
  covered : ∀ sensor ∈ added, ∀ address, sensor.net.Contains address →
    ∃ kept ∈ remainingSensors added, kept.net.Contains address

def Sensor.net (sensor : Sensor) : Option (Masked 32) :=
  match sensor.network, sensor.netmask with
  | .v4 base, .v4 mask => some { base, mask }
  | _, _ => none

theorem Ipv4Sensor.sensor_net (added : Ipv4Sensor) : added.sensor.net = some added.net := by
  obtain ⟨network, netmask⟩ := added.fields
  simp only [Sensor.net, network, netmask]

theorem addSensors_ipv4 (added : List Ipv4Sensor) (database : SensorsDB) :
    database.addSensors (added.map Ipv4Sensor.sensor) =
      .ok { database := Table.insertAll Sensor.network database.database
              (added.map Ipv4Sensor.sensor) } := by
  induction added generalizing database with
  | nil => rfl
  | cons head later ih =>
      obtain ⟨network, netmask⟩ := head.fields
      have step : database.addSensor head.sensor =
          .ok { database := database.database.insert head.sensor.network head.sensor } := by
        have aligned : head.net.base &&& head.net.mask = head.net.base :=
          Masked.ofPrefix_contains_base head.base head.length
        simp only [SensorsDB.addSensor, network, netmask, applyNetmask_v4, aligned]
        rfl
      rw [List.map_cons, SensorsDB.addSensors, List.foldlM_cons, step]
      exact ih _

def sensorDatabase (added : List Ipv4Sensor) : SensorsDB where
  database := Table.insertAll Sensor.network ∅ (added.map Ipv4Sensor.sensor)

theorem mem_sensorDatabase {added : List Ipv4Sensor} {sensor : Sensor} :
    sensor ∈ (sensorDatabase added).database.values ↔
      ∃ kept ∈ remainingSensors added, kept.sensor = sensor := by
  rw [sensorDatabase, Table.mem_values_insertAll_empty, Table.remaining_map, List.mem_map]
  rfl

theorem lookup_sensorDatabase {added : List Ipv4Sensor} {base : BitVec 32} {sensor : Sensor} :
    (sensorDatabase added).database.lookup (.v4 base) = some sensor ↔
      ∃ kept ∈ remainingSensors added, kept.sensor = sensor ∧ kept.net.base = base := by
  rw [sensorDatabase, Table.lookup_insertAll_empty, Table.remaining_map, List.mem_map]
  constructor
  · intro both
    obtain ⟨⟨kept, member, same⟩, network⟩ := both
    rw [← same, kept.fields.1] at network
    exact ⟨kept, member, same, IpAddr.v4.inj network⟩
  · intro both
    obtain ⟨kept, member, same, base⟩ := both
    refine ⟨⟨kept, member, same⟩, ?_⟩
    rw [← same, kept.fields.1, base]

/-- What one turn of the lookup loop finds. -/
def trySensor (database : SensorsDB) (address : BitVec 32) (sensor : Sensor) : Option Sensor :=
  sensor.net.bind fun net => database.database.lookup (.v4 (address &&& net.mask))

theorem getSensorIn_eq {added : List Ipv4Sensor} (database : SensorsDB) (address : BitVec 32)
    {order : List Sensor} (members : ∀ sensor ∈ order, ∃ kept ∈ added, kept.sensor = sensor) :
    database.getSensorIn (.v4 address) order =
      .ok (order.findSome? (trySensor database address)) := by
  induction order with
  | nil => rfl
  | cons sensor rest ih =>
      obtain ⟨kept, _, same⟩ := members sensor List.mem_cons_self
      have tried : trySensor database address sensor =
          database.database.lookup (.v4 (address &&& kept.net.mask)) := by
        simp only [trySensor, ← same, kept.sensor_net, Option.bind_some]
      have netmask : sensor.netmask = .v4 kept.net.mask := by
        rw [← same]
        exact kept.fields.2
      have restMembers : ∀ sensor ∈ rest, ∃ kept ∈ added, kept.sensor = sensor := by
        intro sensor member
        exact members sensor (List.mem_cons_of_mem _ member)
      rw [List.findSome?_cons, tried, SensorsDB.getSensorIn, netmask, applyNetmask_v4,
        Run.ok_bind]
      cases found : database.database.lookup (.v4 (address &&& kept.net.mask)) with
      | none => exact ih restMembers
      | some value => rfl

theorem trySensor_findsByBase (added : List Ipv4Sensor) (address : BitVec 32) :
    FindsByBase Sensor.net (sensorDatabase added).database.values address
      (trySensor (sensorDatabase added) address) := by
  intro tried triedMember value
  obtain ⟨triedKept, _, triedSame⟩ := mem_sensorDatabase.mp triedMember
  have triedNet : tried.net = some triedKept.net := by
    rw [← triedSame, triedKept.sensor_net]
  simp only [trySensor, triedNet, Option.bind_some, lookup_sensorDatabase,
    mem_sensorDatabase]
  constructor
  · intro both
    obtain ⟨kept, member, same, base⟩ := both
    refine ⟨⟨kept, member, same⟩, triedKept.net, kept.net, rfl, ?_, base⟩
    rw [← same, kept.sensor_net]
  · intro both
    obtain ⟨⟨kept, member, same⟩, net, valueNet, netEq, valueEq, base⟩ := both
    rw [← same, kept.sensor_net] at valueEq
    cases netEq
    cases valueEq
    exact ⟨kept, member, same, base⟩

theorem getSensorOrdered_triesInTurn (added : List Ipv4Sensor) {ip : IpAddr}
    {address : BitVec 32} (isIpv4 : ip.IsIpv4 address) :
    TriesInTurn (sensorDatabase added).database.values
      (fun order => (sensorDatabase added).getSensorOrdered order ip)
      (trySensor (sensorDatabase added) address) := by
  intro order perm
  simp only [SensorsDB.getSensorOrdered, isIpv4.foldIpv4]
  have members : ∀ sensor ∈ order, ∃ kept ∈ remainingSensors added, kept.sensor = sensor := by
    intro sensor member
    exact mem_sensorDatabase.mp (perm.mem_iff.mp member)
  exact getSensorIn_eq (sensorDatabase added) address members

theorem holdsOwnNetwork_iff (kept : Ipv4Sensor) (address : BitVec 32) :
    applyNetmask (.v4 address) kept.sensor.netmask = .ok kept.sensor.network ↔
      kept.net.Contains address := by
  rw [kept.fields.1, kept.fields.2, applyNetmask_v4]
  simp [Masked.Contains]

/-- The lookup at one address, in terms of the networks in the database. -/
def SensorSearchSafe (added : List Ipv4Sensor) (address : BitVec 32) : Prop :=
  SearchSafe Sensor.net (sensorDatabase added).database.values address
    (∃ sensor ∈ added, sensor.net.Contains address)
    (fun sensor => applyNetmask (.v4 address) sensor.netmask = .ok sensor.network)

theorem mem_of_mem_remainingSensors {added : List Ipv4Sensor} {kept : Ipv4Sensor}
    (member : kept ∈ remainingSensors added) : kept ∈ added :=
  Table.mem_of_mem_remaining member

theorem sensorLookupCorrect_iff_safe {added : List Ipv4Sensor} {ip : IpAddr}
    {address : BitVec 32} (isIpv4 : ip.IsIpv4 address) :
    SensorLookupCorrect added (sensorDatabase added) ip address ↔
      SensorSearchSafe added address := by
  apply searchCorrect_iff_safe (getSensorOrdered_triesInTurn added isIpv4)
    (trySensor_findsByBase added address)
  · intro sensor member holds
    obtain ⟨kept, keptMember, same⟩ := mem_sensorDatabase.mp member
    rw [← same, holdsOwnNetwork_iff] at holds
    exact ⟨kept, mem_of_mem_remainingSensors keptMember, holds⟩
  · intro sensor member net netEq holds
    obtain ⟨kept, _, same⟩ := mem_sensorDatabase.mp member
    rw [← same, kept.sensor_net] at netEq
    cases netEq
    rw [← same, holdsOwnNetwork_iff] at holds
    exact holds

theorem sensor_eq_of_base_eq {added : List Ipv4Sensor} {first second : Ipv4Sensor}
    (firstMember : first ∈ remainingSensors added)
    (secondMember : second ∈ remainingSensors added) (same : first.net.base = second.net.base) :
    first.sensor = second.sensor := by
  have findsFirst := lookup_sensorDatabase.mpr ⟨first, firstMember, rfl, rfl⟩
  have findsSecond := lookup_sensorDatabase.mpr ⟨second, secondMember, rfl, rfl⟩
  rw [same, findsSecond] at findsFirst
  exact (Option.some.inj findsFirst).symm

theorem apart_of_safe {added : List Ipv4Sensor}
    (safe : ∀ address, SensorSearchSafe added address) : SensorNetworksApart added := by
  have prefixes : PrefixesApart (fun kept : Ipv4Sensor => some kept.prefixNet)
      (remainingSensors added) := by
    apply prefixesApart_of_searchApart Ipv4Sensor.sensor
    · intro kept member
      exact mem_sensorDatabase.mpr ⟨kept, member, rfl⟩
    · intro kept _
      exact kept.sensor_net
    · intro address
      exact (safe address).toSearchApart
  refine ⟨?_, ?_⟩
  · intro short shortMember long longMember shorter
    exact prefixes short shortMember long longMember short.prefixNet long.prefixNet rfl rfl
      shorter
  · intro sensor member address contains
    obtain ⟨found, foundMember, net, netEq, inNet⟩ :=
      (safe address).covered ⟨sensor, member, contains⟩
    obtain ⟨kept, keptMember, same⟩ := mem_sensorDatabase.mp foundMember
    rw [← same, kept.sensor_net] at netEq
    cases netEq
    exact ⟨kept, keptMember, inNet⟩

theorem safe_of_apart {added : List Ipv4Sensor} (apart : SensorNetworksApart added)
    (address : BitVec 32) : SensorSearchSafe added address := by
  have prefixes : PrefixesApart (fun kept : Ipv4Sensor => some kept.prefixNet)
      (remainingSensors added) := by
    intro short shortMember long longMember shortPrefix longPrefix shortEq longEq shorter
    cases shortEq
    cases longEq
    exact apart.apart short shortMember long longMember shorter
  refine ⟨?_, ?_, ?_⟩
  · apply searchApart_of_prefixesApart Ipv4Sensor.sensor _ _ _ prefixes
    · intro found member
      exact mem_sensorDatabase.mp member
    · intro kept _
      exact kept.sensor_net
    · intro first firstMember second secondMember firstNet secondNet firstEq secondEq same
      obtain ⟨one, oneMember, oneSame⟩ := mem_sensorDatabase.mp firstMember
      obtain ⟨other, otherMember, otherSame⟩ := mem_sensorDatabase.mp secondMember
      rw [← oneSame, one.sensor_net] at firstEq
      rw [← otherSame, other.sensor_net] at secondEq
      cases firstEq
      cases secondEq
      rw [← oneSame, ← otherSame]
      exact sensor_eq_of_base_eq oneMember otherMember same
  · intro value member net netEq contains
    obtain ⟨kept, _, same⟩ := mem_sensorDatabase.mp member
    rw [← same, kept.sensor_net] at netEq
    cases netEq
    rw [← same, holdsOwnNetwork_iff]
    exact contains
  · intro both
    obtain ⟨sensor, member, contains⟩ := both
    obtain ⟨kept, keptMember, inKept⟩ := apart.covered sensor member address contains
    exact ⟨kept.sensor, mem_sensorDatabase.mpr ⟨kept, keptMember, rfl⟩, kept.net,
      kept.sensor_net, inKept⟩

/-- Lookups are right for every IPv4 address exactly when the added networks are apart. -/
theorem getSensor_correct_iff_apart (added : List Ipv4Sensor) :
    ∃ database, SensorsDB.new.addSensors (added.map Ipv4Sensor.sensor) = .ok database ∧
      ((∀ ip address, ip.IsIpv4 address → SensorLookupCorrect added database ip address) ↔
        SensorNetworksApart added) := by
  refine ⟨sensorDatabase added, addSensors_ipv4 added SensorsDB.new, ?_⟩
  constructor
  · intro correct
    apply apart_of_safe
    intro address
    exact (sensorLookupCorrect_iff_safe (.inl rfl)).mp (correct (.v4 address) address (.inl rfl))
  · intro apart ip address isIpv4
    exact (sensorLookupCorrect_iff_safe isIpv4).mpr (safe_of_apart apart address)

/-- A sensor straight from `Sensor::new`. -/
def Ipv4Sensor.ofNetwork (base : BitVec 32) (length : Nat) (length_le : length ≤ 32) :
    Ipv4Sensor where
  base
  length
  length_le
  sensor :=
    { network := .v4 (base &&& prefixMask 32 length)
      netmask := .v4 (prefixMask 32 length)
      worker := none
      defaultObservationId := none
      observationId := ∅ }
  created := ⟨_, Sensor.new_ipv4 base length, rfl, rfl⟩

theorem twelve_le : 12 ≤ 32 := by
  decide

theorem sixteen_le : 16 ≤ 32 := by
  decide

/-- `172.16.0.0/12` and `10.0.0.0/16`. -/
def unrelatedSensors : List Ipv4Sensor :=
  [.ofNetwork 0xac100000 12 twelve_le, .ofNetwork 0x0a000000 16 sixteen_le]

/-- The mask of `172.16.0.0/12` takes `10.1.2.3` to the base of `10.0.0.0/16`. -/
theorem getSensor_unrelated_incorrect :
    (unrelatedSensors.map Ipv4Sensor.net).Nodup ∧
      ∃ database, SensorsDB.new.addSensors (unrelatedSensors.map Ipv4Sensor.sensor) =
          .ok database ∧
        ¬SensorLookupCorrect unrelatedSensors database (.v4 0x0a010203) 0x0a010203 := by
  refine ⟨by decide, sensorDatabase unrelatedSensors, addSensors_ipv4 _ _, ?_⟩
  intro correct
  have holds := correct.sound _ (List.Perm.refl _)
    (Ipv4Sensor.ofNetwork 0x0a000000 16 (by decide)).sensor rfl
  exact absurd holds (by decide)

end F2k
