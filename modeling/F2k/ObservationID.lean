import F2k.Address
import F2k.Lib.Table
import F2k.Template

namespace F2k

open Lib

/-! Observation ids: what one observation domain of a sensor is configured with, and what its
exporters have taught so far. -/

structure Network where
  network : IpAddr
  netmask : IpAddr
  name : Bytes
  addressAsStr : Bytes
deriving DecidableEq

/-- `Network::new`: the text shows the address as it was given, before it is masked. -/
def Network.new (network netmask : IpAddr) (name : Bytes) : Run Network := do
  let (network, netmask) := foldNetwork network netmask
  let networkStr ←
    match network with
    | .v4 ipv4 =>
        pure (showIpv4 ipv4 ++ ascii "/" ++ decimal (getNetmaskPrefixIpv4 netmask).toNat)
    | .v6 ipv6 => do
        let prefixLength ← getNetmaskPrefixIpv6 netmask
        pure (showIpv6 ipv6 ++ ascii "/" ++ decimal prefixLength.toNat)
  let masked ← applyNetmask network netmask
  pure { network := masked, netmask, name, addressAsStr := networkStr }

structure Application where
  id : UInt64
  name : Bytes

structure Selector where
  id : UInt64
  name : Bytes

structure Interface where
  id : UInt64
  name : Bytes
  description : Bytes

structure ObservationID where
  id : UInt32
  enrichment : Option Bytes
  fallbackFirstSwitch : Option Int64
  applications : Table UInt64 Application
  networks : Table IpAddr Network
  selectors : Table UInt64 Selector
  interfaces : Table UInt64 Interface
  templates : Table UInt16 FlowSetV9Ipfix
  wantClientDns : Bool
  wantTargetDns : Bool
  ptrDnsTarget : Bool
  ptrDnsClient : Bool
  exporterInWanSide : Bool
  spanPort : Bool

namespace ObservationID

def new (id : UInt32) : ObservationID where
  id
  enrichment := none
  fallbackFirstSwitch := none
  applications := ∅
  networks := ∅
  selectors := ∅
  interfaces := ∅
  templates := ∅
  wantClientDns := false
  wantTargetDns := false
  ptrDnsTarget := false
  ptrDnsClient := false
  exporterInWanSide := false
  spanPort := false

/-- The loop of `get_network` over the values the hash map yields in some order. -/
def getNetworkIn (observationId : ObservationID) (ip : IpAddr) :
    List Network → Run (Option Network)
  | [] => pure none
  | homeNet :: rest =>
      if ip.isIpv4 && homeNet.netmask.isIpv4 || !ip.isIpv4 && !homeNet.netmask.isIpv4 then do
        let network ← applyNetmask ip homeNet.netmask
        match observationId.networks.lookup network with
        | some network => pure (some network)
        | none => getNetworkIn observationId ip rest
      else getNetworkIn observationId ip rest

/-- `get_network` when the hash map yields its values in the given order. -/
def getNetworkOrdered (observationId : ObservationID) (order : List Network) (ip : IpAddr) :
    Run (Option Network) :=
  observationId.getNetworkIn ip.foldIpv4 order

def getNetwork (observationId : ObservationID) (ip : IpAddr) : Run (Option Network) :=
  observationId.getNetworkOrdered observationId.networks.values ip

def getTemplate (observationId : ObservationID) (id : UInt16) : Option FlowSetV9Ipfix :=
  observationId.templates.lookup id

def getSelector (observationId : ObservationID) (id : UInt64) : Option Selector :=
  observationId.selectors.lookup id

def getInterface (observationId : ObservationID) (id : UInt64) : Option Interface :=
  observationId.interfaces.lookup id

def getApplication (observationId : ObservationID) (id : UInt64) : Option Application :=
  observationId.applications.lookup id

def getFallbackFirstSwitch (observationId : ObservationID) : Int64 :=
  observationId.fallbackFirstSwitch.getD 0

def addSelector (observationId : ObservationID) (selector : Selector) : ObservationID :=
  { observationId with selectors := observationId.selectors.insert selector.id selector }

def addApplication (observationId : ObservationID) (application : Application) :
    ObservationID :=
  { observationId with
    applications := observationId.applications.insert application.id application }

def addInterface (observationId : ObservationID) (interface : Interface) : ObservationID :=
  { observationId with interfaces := observationId.interfaces.insert interface.id interface }

def addNetwork (observationId : ObservationID) (network : Network) : ObservationID :=
  { observationId with networks := observationId.networks.insert network.network network }

def addTemplate (observationId : ObservationID) (id : UInt16) (template : FlowSetV9Ipfix) :
    ObservationID :=
  { observationId with templates := observationId.templates.insert id template }

def setEnrichment (observationId : ObservationID) (enrichment : Bytes) : ObservationID :=
  { observationId with enrichment := some enrichment }

def setFallbackFirstSwitch (observationId : ObservationID) (fallback : Int64) :
    ObservationID :=
  { observationId with fallbackFirstSwitch := some fallback }

def setExporterInWanSide (observationId : ObservationID) : ObservationID :=
  { observationId with exporterInWanSide := true }

def setSpanMode (observationId : ObservationID) : ObservationID :=
  { observationId with spanPort := true }

def enablePtrDnsTarget (observationId : ObservationID) : ObservationID :=
  { observationId with ptrDnsTarget := true }

def enablePtrDnsClient (observationId : ObservationID) : ObservationID :=
  { observationId with ptrDnsClient := true }

/-! The texts the C code asks for. Names end at their first zero byte there. -/

def applicationName (observationId : ObservationID) (id : UInt64) : Option Bytes :=
  (observationId.getApplication id).map fun application => cString application.name

def selectorName (observationId : ObservationID) (id : UInt64) : Option Bytes :=
  (observationId.getSelector id).map fun selector => cString selector.name

def interfaceName (observationId : ObservationID) (id : UInt64) : Option Bytes :=
  (observationId.getInterface id).map fun interface => cString interface.name

def interfaceDescription (observationId : ObservationID) (id : UInt64) : Option Bytes :=
  (observationId.getInterface id).map fun interface => cString interface.description

def networkName (observationId : ObservationID) (ip : IpAddr) : Run (Option Bytes) := do
  let network ← observationId.getNetwork ip
  pure (network.map fun network => network.name)

def networkIp (observationId : ObservationID) (ip : IpAddr) : Run (Option Bytes) := do
  let network ← observationId.getNetwork ip
  pure (network.map fun network => network.addressAsStr)

/-- `save_template`: a flow template gets its elements looked up, an option template keeps
the ones it has. -/
def saveTemplate (observationId : ObservationID) (template : FlowSetV9Ipfix) :
    ObservationID :=
  let fields :=
    if template.isOptionTemplate then template.fields
    else template.fields.map fun field =>
      { field with v9Template := findTemplate field.fieldId }
  observationId.addTemplate template.templateId { template with fields }

end ObservationID

end F2k
