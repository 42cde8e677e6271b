import F2k.HomeNetwork
import F2k.Messages
import F2k.SensorLookup

namespace F2k

open Lib

/-! Where the lookups of sensors and home networks stop the program: a netmask is applied to an
address of the other family. -/

/-- A sensor that `Sensor::new` made from the octets of a network and of a netmask; observation
ids and a worker may have been added since. -/
structure AddedSensor where
  base : BitVec 128
  mask : BitVec 128
  sensor : Sensor
  created : ∃ fresh, Sensor.new (.v6 base) (.v6 mask) = .ok fresh ∧
    sensor.network = fresh.network ∧ sensor.netmask = fresh.netmask

/-- `get_netmask_prefix_ipv4` subtracts more than there is. -/
def PrefixUnderflows : IpAddr → Prop
  | .v4 _ => False
  | .v6 netmask => toIpv4 netmask = none ∧ 32 < 128 - countOnes netmask

/-- What the constructors and lookups promise, for a database of the sensors and an address:
whatever order the hash maps yield their values in, nothing stops the program. -/
structure LookupsSafe (added : List AddedSensor) (ip : IpAddr) : Prop where
  sensors : ∀ network netmask : BitVec 128,
    ∃ sensor, Sensor.new (.v6 network) (.v6 netmask) = .ok sensor
  networks : ∀ (network netmask : BitVec 128) name,
    ∃ homeNet, Network.new (.v6 network) (.v6 netmask) name = .ok homeNet
  prefixes : ∀ (network netmask : BitVec 128) bits folded,
    foldNetwork (.v6 network) (.v6 netmask) = (.v4 bits, folded) → ¬PrefixUnderflows folded
  homeNetworks : ∀ (observationId : ObservationID) (order : List Network),
    ∃ found, observationId.getNetworkOrdered order ip = .ok found
  database : ∃ database, SensorsDB.new.addSensors (added.map AddedSensor.sensor) = .ok database ∧
    ∀ order : List Sensor, order.Perm database.database.values →
      ∃ found, database.getSensorOrdered order ip = .ok found

/-! Constructors -/

/-- A sensor keeps its network under a netmask of the same family. -/
theorem Sensor.new_eq (network netmask : BitVec 128) :
    ∃ sensor, Sensor.new (.v6 network) (.v6 netmask) = .ok sensor ∧
      sensor.network.isIpv4 = (toIpv4 network).isSome ∧
      sensor.netmask.isIpv4 = (toIpv4 network).isSome ∧
      applyNetmask sensor.network sensor.netmask = .ok sensor.network := by
  unfold Sensor.new
  cases folds : toIpv4 network with
  | none =>
      rw [foldNetwork_of_none netmask folds]
      refine ⟨_, rfl, rfl, rfl, ?_⟩
      simp only [applyNetmask_v6, BitVec.and_assoc, BitVec.and_self]
  | some bits =>
      rw [foldNetwork_of_some netmask folds]
      refine ⟨_, rfl, rfl, rfl, ?_⟩
      simp only [applyNetmask_v4, BitVec.and_assoc, BitVec.and_self]

theorem not_prefixUnderflows {network netmask : BitVec 128} {bits : BitVec 32} {folded : IpAddr}
    (same : foldNetwork (.v6 network) (.v6 netmask) = (.v4 bits, folded)) :
    ¬PrefixUnderflows folded := by
  cases folds : toIpv4 network with
  | none =>
      rw [foldNetwork_of_none netmask folds] at same
      cases same
  | some address =>
      rw [foldNetwork_of_some netmask folds] at same
      cases same
      exact id

/-! The database -/

namespace AddedSensor

/-- Whether the network folds to an IPv4 one. -/
def isIpv4 (added : AddedSensor) : Bool :=
  (toIpv4 added.base).isSome

theorem families (added : AddedSensor) :
    added.sensor.network.isIpv4 = added.isIpv4 ∧ added.sensor.netmask.isIpv4 = added.isIpv4 ∧
      applyNetmask added.sensor.network added.sensor.netmask = .ok added.sensor.network := by
  obtain ⟨fresh, made, network, netmask⟩ := added.created
  obtain ⟨sensor, same, families⟩ := Sensor.new_eq added.base added.mask
  rw [same] at made
  cases made
  rw [network, netmask]
  exact families

end AddedSensor

theorem addSensors_added (added : List AddedSensor) (database : SensorsDB) :
    database.addSensors (added.map AddedSensor.sensor) =
      .ok { database := Table.insertAll Sensor.network database.database
              (added.map AddedSensor.sensor) } := by
  induction added generalizing database with
  | nil => rfl
  | cons head later ih =>
      have step : database.addSensor head.sensor =
          .ok { database := database.database.insert head.sensor.network head.sensor } := by
        rw [SensorsDB.addSensor, head.families.2.2]
        rfl
      rw [List.map_cons, SensorsDB.addSensors, List.foldlM_cons, step]
      exact ih _

/-- A value of the database stands for an added sensor, and every added sensor has one of its
own network. -/
theorem mem_addedDatabase {added : List AddedSensor} :
    (∀ sensor ∈ (Table.insertAll Sensor.network ∅ (added.map AddedSensor.sensor)).values,
      ∃ source ∈ added, source.sensor = sensor) ∧
    ∀ source ∈ added,
      ∃ sensor ∈ (Table.insertAll Sensor.network ∅ (added.map AddedSensor.sensor)).values,
        sensor.network = source.sensor.network := by
  constructor
  · intro sensor member
    have remains := Table.mem_values_insertAll_empty.mp member
    exact List.mem_map.mp (Table.mem_of_mem_remaining remains)
  · intro source member
    obtain ⟨kept, remains, same⟩ :=
      @Table.exists_remaining_of_mem _ _ _ Sensor.network _ _
        (List.mem_map_of_mem (f := AddedSensor.sensor) member)
    exact ⟨kept, Table.mem_values_insertAll_empty.mpr remains, same⟩

theorem applyNetmask_eq_ok {ip netmask : IpAddr} (sameFamily : ip.isIpv4 = netmask.isIpv4) :
    ∃ network, applyNetmask ip netmask = .ok network := by
  cases ip with
  | v4 ip =>
      cases netmask with
      | v4 netmask => exact ⟨_, rfl⟩
      | v6 netmask => contradiction
  | v6 ip =>
      cases netmask with
      | v4 netmask => contradiction
      | v6 netmask => exact ⟨_, rfl⟩

theorem applyNetmask_eq_error {ip netmask : IpAddr} (otherFamily : ip.isIpv4 ≠ netmask.isIpv4) :
    applyNetmask ip netmask = .error .netmaskFamily := by
  cases ip with
  | v4 ip =>
      cases netmask with
      | v4 netmask => contradiction
      | v6 netmask => rfl
  | v6 ip =>
      cases netmask with
      | v4 netmask => rfl
      | v6 netmask => contradiction

/-- The loop applies the netmask of any sensor, so it goes on for every order exactly when all
of them are of the family of the address. -/
theorem getSensorIn_safe_iff (database : SensorsDB) (ip : IpAddr) (values : List Sensor) :
    (∀ order : List Sensor, order.Perm values →
        ∃ found, database.getSensorIn ip order = .ok found) ↔
      ∀ sensor ∈ values, ip.isIpv4 = sensor.netmask.isIpv4 := by
  constructor
  · intro safe sensor member
    by_contra otherFamily
    obtain ⟨before, after, split⟩ := List.append_of_mem member
    have perm : (sensor :: (before ++ after)).Perm values := by
      rw [split]
      exact List.perm_middle.symm
    obtain ⟨found, ran⟩ := safe _ perm
    rw [SensorsDB.getSensorIn, applyNetmask_eq_error otherFamily] at ran
    contradiction
  · intro families order perm
    have all : ∀ sensor ∈ order, ip.isIpv4 = sensor.netmask.isIpv4 := by
      intro sensor member
      exact families sensor (perm.mem_iff.mp member)
    clear perm
    induction order with
    | nil => exact ⟨none, rfl⟩
    | cons sensor rest ih =>
        obtain ⟨own, others⟩ := List.forall_mem_cons.mp all
        obtain ⟨network, masked⟩ := applyNetmask_eq_ok own
        rw [SensorsDB.getSensorIn, masked, Run.ok_bind]
        cases database.database.lookup network with
        | none => exact ih others
        | some found => exact ⟨some found, rfl⟩

/-- Constructors and home networks are safe; a sensor is looked up safely exactly when every
sensor is of the family that the address folds to. -/
theorem lookupsSafe_iff (added : List AddedSensor) (ip : IpAddr) :
    LookupsSafe added ip ↔ ∀ sensor ∈ added, sensor.isIpv4 = ip.foldIpv4.isIpv4 := by
  let table := Table.insertAll Sensor.network ∅ (added.map AddedSensor.sensor)
  obtain ⟨sources, kept⟩ := @mem_addedDatabase added
  have lookups := getSensorIn_safe_iff { database := table } ip.foldIpv4 table.values
  have families : (∀ sensor ∈ table.values, ip.foldIpv4.isIpv4 = sensor.netmask.isIpv4) ↔
      ∀ sensor ∈ added, sensor.isIpv4 = ip.foldIpv4.isIpv4 := by
    constructor
    · intro all source member
      obtain ⟨sensor, inTable, same⟩ := kept source member
      obtain ⟨other, inAdded, rfl⟩ := sources sensor inTable
      have network := congrArg IpAddr.isIpv4 same
      rw [other.families.1, source.families.1] at network
      rw [← network, all other.sensor inTable, other.families.2.1]
    · intro all sensor inTable
      obtain ⟨source, inAdded, rfl⟩ := sources sensor inTable
      rw [← all source inAdded, source.families.2.1]
  rw [← families, ← lookups]
  constructor
  · intro safe
    obtain ⟨database, made, found⟩ := safe.database
    rw [addSensors_added] at made
    cases made
    exact found
  · intro found
    refine ⟨?_, Network.exists_new, fun _ _ _ _ => not_prefixUnderflows, ?_, ?_⟩
    · intro network netmask
      obtain ⟨sensor, made, _⟩ := Sensor.new_eq network netmask
      exact ⟨sensor, made⟩
    · intro observationId order
      obtain ⟨found, ran, _⟩ := (getNetworkIn_outcome observationId ip.foldIpv4 order).exists_ok
      exact ⟨found, ran⟩
    · exact ⟨{ database := table }, addSensors_added added SensorsDB.new, found⟩

/-- A sensor of `2001:db8::/32`. -/
def ipv6Sensor : AddedSensor where
  base := 0x20010db8000000000000000000000000
  mask := prefixMask 128 32
  sensor :=
    { network := .v6 0x20010db8000000000000000000000000
      netmask := .v6 (prefixMask 128 32)
      worker := none
      defaultObservationId := none
      observationId := ∅ }
  created := ⟨_, rfl, by decide +kernel, by decide +kernel⟩

def ipv6Database : SensorsDB where
  database := Table.insertAll Sensor.network ∅ [ipv6Sensor.sensor]

/-- The first packet from an IPv4 address stops the program. -/
theorem not_lookupsSafe_ipv6Sensor :
    SensorsDB.new.addSensors [ipv6Sensor.sensor] = .ok ipv6Database ∧
      getSensor ipv6Database 0x0a000001 = .error .netmaskFamily ∧
        ¬LookupsSafe [ipv6Sensor] (.v6 (ipv4Mapped 0x0a000001)) := by
  have made : SensorsDB.new.addSensors [ipv6Sensor.sensor] = .ok ipv6Database :=
    addSensors_added [ipv6Sensor] SensorsDB.new
  have stopped : getSensor ipv6Database 0x0a000001 = .error .netmaskFamily := by
    have mapped : (getSensor ipv6Database 0x0a000001).map (fun _ => ()) =
        .error .netmaskFamily := by
      decide +kernel
    exact eq_error_of_map mapped
  refine ⟨made, stopped, ?_⟩
  intro safe
  obtain ⟨database, same, lookups⟩ := safe.database
  rw [List.map_singleton, made] at same
  cases same
  obtain ⟨found, ran⟩ := lookups _ (List.Perm.refl _)
  have address : getSensor ipv6Database 0x0a000001 = .ok found := ran
  rw [stopped] at address
  contradiction

end F2k
