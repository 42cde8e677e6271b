import F2k.ObservationID

namespace F2k

open Lib

/-! Sensors and the database packets are attributed with. -/

structure Sensor where
  network : IpAddr
  netmask : IpAddr
  worker : Option Nat
  defaultObservationId : Option ObservationID
  observationId : Table UInt32 ObservationID

namespace Sensor

def new (network netmask : IpAddr) : Run Sensor := do
  let (network, netmask) := foldNetwork network netmask
  let masked ← applyNetmask network netmask
  pure
    { network := masked
      netmask
      worker := none
      defaultObservationId := none
      observationId := ∅ }

def getObservationId (sensor : Sensor) (id : UInt32) : Option ObservationID :=
  match sensor.observationId.lookup id with
  | some observationId => some observationId
  | none => sensor.defaultObservationId

/-- The sensor after the observation id that `getObservationId` found has been changed. -/
def updateObservationId (sensor : Sensor) (id : UInt32) (changed : ObservationID) : Sensor :=
  match sensor.observationId.lookup id with
  | some _ => { sensor with observationId := sensor.observationId.replace id changed }
  | none => { sensor with defaultObservationId := some changed }

def setWorker (sensor : Sensor) (worker : Nat) : Sensor :=
  { sensor with worker := some worker }

def addObservationId (sensor : Sensor) (observationId : ObservationID) : Sensor :=
  { sensor with
    observationId := sensor.observationId.insert observationId.id observationId }

def addDefaultObservationId (sensor : Sensor) (observationId : ObservationID) : Sensor :=
  { sensor with defaultObservationId := some observationId }

end Sensor

structure SensorsDB where
  database : Table IpAddr Sensor

namespace SensorsDB

def new : SensorsDB where
  database := ∅

/-- The loop of `get_sensor` over the values the hash map yields in some order. -/
def getSensorIn (database : SensorsDB) (ip : IpAddr) : List Sensor → Run (Option Sensor)
  | [] => pure none
  | sensor :: rest => do
      let network ← applyNetmask ip sensor.netmask
      match database.database.lookup network with
      | some sensor => pure (some sensor)
      | none => getSensorIn database ip rest

/-- `get_sensor` when the hash map yields its values in the given order. -/
def getSensorOrdered (database : SensorsDB) (order : List Sensor) (ip : IpAddr) :
    Run (Option Sensor) :=
  database.getSensorIn ip.foldIpv4 order

def getSensor (database : SensorsDB) (ip : IpAddr) : Run (Option Sensor) :=
  database.getSensorOrdered database.database.values ip

def addSensor (database : SensorsDB) (sensor : Sensor) : Run SensorsDB := do
  let network ← applyNetmask sensor.network sensor.netmask
  pure { database := database.database.insert network sensor }

def addSensors (database : SensorsDB) (sensors : List Sensor) : Run SensorsDB :=
  sensors.foldlM addSensor database

end SensorsDB

/-- `get_sensor` of the collector: the low 32 bits of `ip` as an IPv4-mapped address. -/
def getSensor (database : SensorsDB) (ip : UInt64) : Run (Option Sensor) :=
  database.getSensor (.v6 (ipv4Mapped (BitVec.ofNat 32 ip.toNat)))

end F2k
