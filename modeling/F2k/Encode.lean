import F2k.Sensor

namespace F2k

open Lib

/-! What an exporter writes: packets of NetFlow V9, their sets, and the templates in them. -/

def setBytes (id : Nat) (body : Bytes) : Bytes :=
  toBe 2 id ++ toBe 2 (body.length + 4) ++ body

/-- Identifier and length of each field. -/
def templateFieldBytes (fields : List (Nat × Nat)) : Bytes :=
  fields.flatMap fun field => toBe 2 field.1 ++ toBe 2 field.2

def templateBytes (id : Nat) (fields : List (Nat × Nat)) : Bytes :=
  toBe 2 id ++ toBe 2 fields.length ++ templateFieldBytes fields

def v9OptionTemplateBytes (id : Nat) (scope options : List (Nat × Nat)) : Bytes :=
  toBe 2 id ++ toBe 2 (4 * scope.length) ++ toBe 2 (4 * options.length) ++
    templateFieldBytes (scope ++ options)

def v9PacketBytes (sequence : Nat) (sets : List Bytes) : Bytes :=
  toBe 2 9 ++ toBe 2 sets.length ++ toBe 4 5000000 ++ toBe 4 1000000 ++ toBe 4 sequence ++
    toBe 4 7 ++ sets.flatten

/-- A sensor of the observation id that `v9PacketBytes` names. -/
def sensorOf (observationId : ObservationID) : Sensor where
  network := .v4 0
  netmask := .v4 0
  worker := none
  defaultObservationId := none
  observationId := (∅ : Table UInt32 ObservationID).insert 7 observationId

end F2k
