import F2k.NetAddress
import F2k.Sensor

namespace F2k

open Lib

/-! Sensors as they are read from a configuration file, in a build that solves no names. -/

/-- A parsed value. The members of an object are in the order they are gone through. -/
inductive Json
  | null
  | boolean (value : Bool)
  | integer (value : Int64)
  | real (value : Float)
  | string (text : Bytes)
  | array (elements : List Json)
  | object (members : List (Bytes × Json))

def Json.objectGet (json : Json) (key : String) : Option Json :=
  match json with
  | .object members =>
      (members.find? fun member => member.1 == ascii key).map fun member => member.2
  | _ => none

/-- What reading a configuration asks of its surroundings: the answers of the resolver, the text
of a value, and what stands where an address is going to be written. -/
structure ConfigReader where
  inetPton : InetPton
  jsonDumps : Json → Option Bytes
  unset : Bytes → NetAddress

/-- `strtoul` in base 10 has to take the whole text. The number is kept in 32 bits. -/
def parseObservationIdNumber (num : Bytes) : Option UInt32 :=
  let text := num.dropWhile isBlank
  let (negative, text) :=
    match text with
    | 45 :: rest => (true, rest)
    | 43 :: rest => (false, rest)
    | _ => (false, text)
  match text.takeWhile isDigit with
  | [] => if num = [] then some 0 else none
  | digits =>
      if text.dropWhile isDigit = [] then
        let value : Nat :=
          digits.foldl (fun number digit => number * 10 + (digit.toNat - 48)) 0
        let oid : UInt64 :=
          if value < 2 ^ 64 then (if negative then -UInt64.ofNat value else UInt64.ofNat value)
          else 0xffffffffffffffff
        some oid.toUInt32
      else none

/-- The text up to its last bracket, without the first character. -/
def parseObservationIdEnrichment (reader : ConfigReader) (observationId : ObservationID)
    (enrichment : Json) : ObservationID :=
  match enrichment with
  | .object _ =>
      match reader.jsonDumps enrichment with
      | none => observationId
      | some tmpEnrichment =>
          let text := cString tmpEnrichment
          let cut :=
            match text.reverse.dropWhile fun byte => byte != 125 with
            | [] => text
            | _ :: before => before.reverse
          if 0 < cut.length then observationId.setEnrichment (cut.drop 1 ++ [0])
          else observationId
  | _ => observationId

def observationIdAddHomeNet (reader : ConfigReader) (observationId : ObservationID)
    (jsonHomeNet : Json) : Run (Option ObservationID) :=
  match jsonHomeNet.objectGet "network_name", jsonHomeNet.objectGet "network" with
  | some (.string networkNameStr), some (.string network) =>
      match safeParseAddress reader.inetPton network (reader.unset network) with
      | none => pure none
      | some address => do
          let homeNet ←
            Network.new (.v6 address.network) (.v6 address.networkMask) (cString networkNameStr)
          pure (some (observationId.addNetwork homeNet))
  | _, _ => pure none

/-- The first home network that is not accepted ends the list. -/
def addHomeNets (reader : ConfigReader) : ObservationID → List Json → Run ObservationID
  | observationId, [] => pure observationId
  | observationId, value :: rest => do
      match ← observationIdAddHomeNet reader observationId value with
      | none => pure observationId
      | some observationId => addHomeNets reader observationId rest

def parseObservationIdHomeNets (reader : ConfigReader) (observationId : ObservationID)
    (homeNets : Json) : Run ObservationID :=
  match homeNets with
  | .array elements => addHomeNets reader observationId elements
  | _ => pure observationId

/-- A boolean that an object may have; it must not have anything else there. -/
def unpackBoolean (json : Json) (key : String) : Option Bool :=
  match json.objectGet key with
  | none => some false
  | some (.boolean value) => some value
  | some _ => none

def unpackInteger (json : Json) (key : String) : Option Int64 :=
  match json.objectGet key with
  | none => some 0
  | some (.integer value) => some value
  | some _ => none

/-- What an observation id is configured with besides its texts. -/
structure Unpacked where
  spanMode : Bool
  exporterInWanSide : Bool
  fallbackFirstSwitch : Int64

def unpackObservationId (jobservationId : Json) : Option Unpacked :=
  match jobservationId with
  | .object _ => do
      let spanMode ← unpackBoolean jobservationId "span_port"
      let exporterInWanSide ← unpackBoolean jobservationId "exporter_in_wan_side"
      let fallbackFirstSwitch ← unpackInteger jobservationId "fallback_first_switch"
      some { spanMode, exporterInWanSide, fallbackFirstSwitch }
  | _ => none

def withHomeNets (reader : ConfigReader) (observationId : ObservationID)
    (jobservationId : Json) : Run ObservationID :=
  match jobservationId.objectGet "home_nets" with
  | none => pure observationId
  | some homeNets => parseObservationIdHomeNets reader observationId homeNets

def withEnrichment (reader : ConfigReader) (observationId : ObservationID)
    (jobservationId : Json) : ObservationID :=
  match jobservationId.objectGet "enrichment" with
  | none => observationId
  | some enrichment => parseObservationIdEnrichment reader observationId enrichment

def withModes (unpacked : Unpacked) (observationId : ObservationID) : ObservationID :=
  let observationId := observationId.setFallbackFirstSwitch unpacked.fallbackFirstSwitch
  let observationId := if unpacked.spanMode then observationId.setSpanMode else observationId
  if unpacked.exporterInWanSide then observationId.setExporterInWanSide else observationId

/-- Home networks and an enrichment that are not accepted are passed over. -/
def parseObservationId (reader : ConfigReader) (observationId : ObservationID)
    (jobservationId : Json) : Run (Option ObservationID) :=
  match unpackObservationId jobservationId with
  | none => pure none
  | some unpacked => do
      let observationId ← withHomeNets reader observationId jobservationId
      pure (some (withModes unpacked (withEnrichment reader observationId jobservationId)))

/-- The loop over the observation ids of a sensor. -/
def parseObservationsId (reader : ConfigReader) :
    Sensor → List (Bytes × Json) → Run (Option Sensor)
  | sensor, [] => pure (some sensor)
  | sensor, (key, observationId) :: rest =>
      let parsingDefaultOid := key == ascii "default"
      match if parsingDefaultOid then some 0 else parseObservationIdNumber key with
      | none => parseObservationsId reader sensor rest
      | some observationIdN => do
          match ← parseObservationId reader (.new observationIdN) observationId with
          | none => pure none
          | some curObservationId =>
              let sensor :=
                if parsingDefaultOid then sensor.addDefaultObservationId curObservationId
                else sensor.addObservationId curObservationId
              parseObservationsId reader sensor rest

def parseSensor (reader : ConfigReader) (jsensor : Json) (ipStr : Bytes) :
    Run (Option Sensor) :=
  match jsensor.objectGet "observations_id" with
  | some (.object (first :: rest)) =>
      match safeParseAddress reader.inetPton ipStr (reader.unset ipStr) with
      | none => pure none
      | some ip => do
          let sensor ← Sensor.new (.v6 ip.network) (.v6 ip.networkMask)
          parseObservationsId reader sensor (first :: rest)
  | _ => pure none

/-- The workers get the sensors in turn. -/
def readSensorsConfigNetworks (reader : ConfigReader) (workerListSize : Nat) :
    SensorsDB → Nat → List (Bytes × Json) → Run SensorsDB
  | database, _, [] => pure database
  | database, workerIdx, (network, networkConfig) :: rest => do
      match ← parseSensor reader networkConfig network with
      | none => readSensorsConfigNetworks reader workerListSize database workerIdx rest
      | some sensor =>
          let database ← database.addSensor (sensor.setWorker workerIdx)
          readSensorsConfigNetworks reader workerListSize database
            (if workerListSize ≤ workerIdx + 1 then 0 else workerIdx + 1) rest

/-- A file that could not be read leaves no sensors. -/
def readRbConfig (reader : ConfigReader) (root : Option Json) (workerListSize : Nat) :
    Run SensorsDB :=
  match root.bind fun root => root.objectGet "sensors_networks" with
  | some (.object sensorsNetworks) =>
      readSensorsConfigNetworks reader workerListSize .new 0 sensorsNetworks
  | _ => pure .new

end F2k
