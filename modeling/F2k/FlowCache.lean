import F2k.ObservationID

namespace F2k

open Lib

/-! What exporters read besides the bytes of their field: the settings of the process and the
cache of the flow that is being printed. -/

/-- `GeoIP_*` lookups. A handle may be null, which the process knows as `loaded = false`. -/
structure GeoIpDb (Address : Type) where
  loaded : Bool
  lookup : Address → Option Bytes

structure IPNameAssoc where
  network : Bytes
  networkMask : Bytes
  number : Bytes
  name : Bytes

/-- `rb_databases`: the names loaded from files. -/
structure Databases where
  netsNameAsList : List IPNameAssoc
  enginesNameAsList : List (UInt32 × Bytes)
  appsNameAsList : Option (UInt64 → Option Bytes)
  macVendorDatabase : Option (UInt64 → Option Bytes)
  macNameDatabase : List (UInt64 × Bytes)

/-- The first interval's share of a total, which the code computes in floating point from the
duration of the first interval and the one of the flow. -/
structure FirstShare where
  share : UInt64 → UInt64 → UInt64 → UInt64
  share_le : ∀ total interval duration, share total interval duration ≤ total
  share_whole : ∀ total duration, share total duration duration = total

/-- `readOnlyGlobals`, with the system calls whose answers the code uses. -/
structure ReadOnlyGlobals where
  normalizeDirections : Bool
  separateLongFlows : Bool
  dontReforgeFarTimestamp : Bool
  sensorsInfo : Bool
  rbDatabases : Databases
  geoIpCountryDb : GeoIpDb UInt32
  geoIpCountryDbV6 : GeoIpDb Bytes
  geoIpAsnDb : GeoIpDb UInt32
  geoIpAsnDbV6 : GeoIpDb Bytes
  /-- Whether `inet_pton` accepts the text, as an IPv4 or as an IPv6 address. -/
  inetPton : Bytes → Bool
  /-- `time(NULL)` while a packet is dissected. -/
  now : UInt64
  firstShare : FirstShare

inductive Direction
  | unset
  | upstream
  | downstream
  | internal
deriving DecidableEq, Repr

structure FlowCacheInterfaces where
  input : UInt64 := 0
  output : UInt64 := 0

def zeroMac : Bytes := List.replicate 6 0

structure FlowCacheMacs where
  srcMac : Bytes := zeroMac
  dstMac : Bytes := zeroMac
  postSrcMac : Bytes := zeroMac
  postDstMac : Bytes := zeroMac
  direction : Direction := .unset

structure FlowCachePorts where
  src : UInt16 := 0
  dst : UInt16 := 0

def zeroAddress : Bytes := List.replicate 16 0

structure FlowCacheAddress where
  client : Bytes := zeroAddress
  src : Bytes := zeroAddress
  dst : Bytes := zeroAddress
  clientName : Option Bytes := none
  targetName : Option Bytes := none

structure FlowCacheTime where
  exportTimestampS : UInt64 := 0
  sysUptimeS : UInt64 := 0
  firstSwitchedUptimeS : UInt64 := 0
  lastSwitchedUptimeS : UInt64 := 0
  firstTimestampS : UInt64 := 0
  lastTimestampS : UInt64 := 0

structure FlowCache where
  clientMac : UInt64 := 0
  interfaces : FlowCacheInterfaces := {}
  macs : FlowCacheMacs := {}
  ports : FlowCachePorts := {}
  httpReferer : Option Bytes := none
  httpHost : Option Bytes := none
  sslCommonName : Option Bytes := none
  address : FlowCacheAddress := {}
  observationId : ObservationID
  time : FlowCacheTime := {}
  bytes : UInt64 := 0
  packets : UInt64 := 0

/-- One of the addresses a flow cache holds: the code compares pointers to them. -/
inductive AddressSlot
  | client
  | src
  | dst
deriving DecidableEq

namespace FlowCache

def addressAt (cache : FlowCache) : AddressSlot → Bytes
  | .client => cache.address.client
  | .src => cache.address.src
  | .dst => cache.address.dst

/-- `GET_CLIENT_ENDPOINT`: the exporter is on the LAN side by default. -/
def clientEndpoint (cache : FlowCache) (src dst : α) : α :=
  if cache.macs.direction = .downstream then dst else src

def getDirectionBasedClientIp (cache : FlowCache) : AddressSlot :=
  if cache.address.client ≠ zeroAddress then .client
  else cache.clientEndpoint .src .dst

def getDirectionBasedTargetIp (cache : FlowCache) : AddressSlot :=
  if cache.getDirectionBasedClientIp = .src then .dst else .src

def getDirectionBasedClientMac (cache : FlowCache) : Bytes :=
  let dstMac :=
    if cache.observationId.spanPort then cache.macs.dstMac else cache.macs.postDstMac
  cache.clientEndpoint cache.macs.srcMac dstMac

def getDirectionBasedClientPort (cache : FlowCache) : UInt64 :=
  (cache.clientEndpoint cache.ports.src cache.ports.dst).toUInt64

def getDirectionBasedTargetPort (cache : FlowCache) : UInt64 :=
  if cache.getDirectionBasedClientPort = cache.ports.src.toUInt64 then
    cache.ports.dst.toUInt64
  else cache.ports.src.toUInt64

def getDirectionBasedClientInterface (cache : FlowCache) : UInt64 :=
  cache.clientEndpoint cache.interfaces.input cache.interfaces.output

def getDirectionBasedTargetInterface (cache : FlowCache) : UInt64 :=
  if cache.getDirectionBasedClientInterface = cache.interfaces.input then
    cache.interfaces.output
  else cache.interfaces.input

end FlowCache

def ipDirection (knownSrc knownDst : Bool) : Direction :=
  match knownSrc, knownDst with
  | false, true => .downstream
  | true, false => .upstream
  | true, true => .internal
  | false, false => .unset

/-- `guessDirection`: from which end of the flow is in a home network. -/
def guessDirection (cache : FlowCache) : Run FlowCache :=
  if cache.address.src = zeroAddress ∨ cache.address.dst = zeroAddress then pure cache
  else do
    let src ← cache.observationId.networkIp (.ofOctets cache.address.src)
    let dst ← cache.observationId.networkIp (.ofOctets cache.address.dst)
    match ipDirection src.isSome dst.isSome with
    | .unset => pure cache
    | guessed => pure { cache with macs := { cache.macs with direction := guessed } }

end F2k
