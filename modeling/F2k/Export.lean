import F2k.FlowCache
import F2k.PrintBuf

namespace F2k

open Lib

/-! The exporters: what is appended to the message for the bytes of a field, which length the
exporter reports, and what it leaves in the flow cache. -/

structure Printed where
  text : Bytes
  length : Nat
  cache : FlowCache

namespace FlowCache

def printed (cache : FlowCache) (text : Bytes) : Run Printed :=
  .ok { text, length := text.length, cache }

def saved (cache : FlowCache) : Run Printed :=
  cache.printed []

end FlowCache

abbrev Exporter := ReadOnlyGlobals → Bytes → FlowCache → Run Printed

/-! Numbers and strings -/

def printString : Exporter
  | _, field, cache => cache.printed field

def printNumber : Exporter
  | _, field, cache => cache.printed (n10 (net2number field))

def printNetflowType : Exporter
  | _, field, cache => cache.printed (ascii "netflowv" ++ n10 (net2number field))

def saveFirstSecond : Exporter
  | _, field, cache =>
      { cache with time := { cache.time with firstTimestampS := net2number field } }.saved

def saveLastSecond : Exporter
  | _, field, cache =>
      { cache with time := { cache.time with lastTimestampS := net2number field } }.saved

def saveFirstSwitched : Exporter
  | _, field, cache =>
      { cache with
        time := { cache.time with firstSwitchedUptimeS := net2number field / 1000 } }.saved

def saveLastSwitched : Exporter
  | _, field, cache =>
      { cache with
        time := { cache.time with lastSwitchedUptimeS := net2number field / 1000 } }.saved

def saveFlowBytes : Exporter
  | _, field, cache => { cache with bytes := net2number field }.saved

def saveFlowPkts : Exporter
  | _, field, cache => { cache with packets := net2number field }.saved

/-- The number is passed on as it is: nothing is divided by a thousand. -/
def callbackMiliBuffer (callback : Exporter) : Exporter
  | globals, field, cache => callback globals (toBe 8 (net2number field).toNat) cache

def saveFirstMsecond : Exporter := callbackMiliBuffer saveFirstSecond

def saveLastMsecond : Exporter := callbackMiliBuffer saveLastSecond

def tcpFlagsText (flags : UInt8) : Bytes :=
  (List.range 8).map fun index =>
    if flags &&& ((1 : UInt8) <<< UInt8.ofNat (7 - index)) ≠ 0 then
      (ascii "CEUAPRSF").getD index 0
    else 46

def printTcpFlags : Exporter
  | _, [flags], cache => if flags = 0 then cache.saved else cache.printed (tcpFlagsText flags)
  | _, [_, flags], cache => if flags = 0 then cache.saved else cache.printed (tcpFlagsText flags)
  | _, _, cache => cache.saved

/-! Exporters that read one byte, whatever length they are given. -/

abbrev ByteExporter := ReadOnlyGlobals → UInt8 → FlowCache → Run Printed

def flowEndReasons : List (Option Bytes) :=
  [none, some (ascii "idle timeout"), some (ascii "active timeout"), some (ascii "end of flow"),
    some (ascii "forced end"), some (ascii "lack of resources")]

def printFlowEndReason : ByteExporter
  | _, reason, cache =>
      match flowEndReasons[reason.toNat]? with
      | some (some text) => cache.printed text
      | _ => cache.saved

def biflowDirections : List Bytes :=
  [ascii "arbitrary", ascii "initiator", ascii "reverse initiator", ascii "perimeter"]

def printBiflowDirection : ByteExporter
  | _, direction, cache =>
      match biflowDirections[direction.toNat]? with
      | some text => cache.printed text
      | none => cache.saved

def engineIdNameText (globals : ReadOnlyGlobals) (engineId : UInt8) : Bytes :=
  if engineId = 0 then []
  else
    match globals.rbDatabases.enginesNameAsList.find? fun node => node.1 = engineId.toUInt32 with
    | some node => fastString node.2
    | none => n10 engineId.toUInt64

def printEngineIdName : ByteExporter
  | globals, engineId, cache => cache.printed (engineIdNameText globals engineId)

/-! Directions -/

def netflowDirectionText (direction : UInt64) : Bytes :=
  if direction = 0 then ascii "ingress" else if direction = 1 then ascii "egress" else []

def directionText : Direction → Bytes
  | .unset => []
  | .upstream => ascii "upstream"
  | .downstream => ascii "downstream"
  | .internal => ascii "internal"

def printFlowCacheDirection : Exporter
  | _, _, cache => cache.printed (directionText cache.macs.direction)

def processDirection : Exporter
  | globals, field, cache =>
      let direction := net2number field
      if direction > 1 then cache.saved
      else if globals.normalizeDirections then
        let netflowDirection : UInt64 :=
          if cache.observationId.exporterInWanSide then if direction = 0 then 1 else 0
          else direction
        let direction := if netflowDirection = 0 then Direction.upstream else .downstream
        { cache with macs := { cache.macs with direction } }.saved
      else cache.printed (netflowDirectionText direction)

/-! MAC addresses -/

def macText (mac : Bytes) : Bytes :=
  List.intercalate (ascii ":") ((mac.take 6).map n16)

def printMac : Exporter
  | _, field, cache => if field.length = 6 then cache.printed (macText field) else cache.saved

/-- `process_mac0`: the address is saved for later, or printed right away. -/
def processMac0 (save : FlowCacheMacs → Bytes → FlowCacheMacs) : Exporter
  | globals, field, cache =>
      if globals.normalizeDirections then
        if field.length = 6 then { cache with macs := save cache.macs field }.saved
        else cache.saved
      else printMac globals field cache

def processSrcMac : Exporter := processMac0 fun macs mac => { macs with srcMac := mac }

def processPostSrcMac : Exporter := processMac0 fun macs mac => { macs with postSrcMac := mac }

def processDstMac : Exporter := processMac0 fun macs mac => { macs with dstMac := mac }

def processPostDstMac : Exporter := processMac0 fun macs mac => { macs with postDstMac := mac }

def macVendorText (globals : ReadOnlyGlobals) (mac : Bytes) : Bytes :=
  let number := net2number (mac.take 6)
  if number = 0 then []
  else
    match globals.rbDatabases.macVendorDatabase.bind fun database => database number with
    | some vendor => fastString vendor
    | none => []

def printMacVendor : Exporter
  | globals, field, cache =>
      if field.length = 6 then cache.printed (macVendorText globals field) else cache.saved

/-- `vendor:xx:xx:xx` -/
def macVendorAddrFormatText (globals : ReadOnlyGlobals) (mac : Bytes) : Bytes :=
  let vendor := macVendorText globals mac
  if vendor.length > 0 then
    vendor ++ ((mac.drop 3).take 3).flatMap fun octet => ascii ":" ++ n16 octet
  else []

/-- A name from the database is printed, and the address after it; only the address counts as
printed then. -/
def printMacMap0 (globals : ReadOnlyGlobals) (mac : Bytes) (cache : FlowCache) : Run Printed :=
  let number := net2number (mac.take 6)
  let named := globals.rbDatabases.macNameDatabase.find? fun node => node.1 = number
  if number = 0 then cache.printed (macText mac)
  else
    match named with
    | some node =>
        .ok
          { text := fastString node.2 ++ macText mac
            length := (ascii "ff:ff:ff:ff:ff:ff").length
            cache }
    | none =>
        let text := macVendorAddrFormatText globals mac
        if text.length > 0 then cache.printed text else cache.printed (macText mac)

def printMacMap : Exporter
  | globals, field, cache =>
      if field.length = 6 then printMacMap0 globals field cache else cache.saved

def printDirectionBasedClientMac : Exporter
  | _, _, cache =>
      if cache.clientMac ≠ 0 then cache.saved
      else
        let mac := cache.getDirectionBasedClientMac
        { cache with clientMac := net2number mac }.printed (macText mac)

def printClientMac : Exporter
  | _, field, cache =>
      if field.length ≠ 6 then cache.saved
      else if cache.clientMac ≠ 0 then cache.saved
      else { cache with clientMac := net2number field }.printed (macText field)

def printDirectionBasedClientMacVendor : Exporter
  | globals, _, cache => cache.printed (macVendorText globals cache.getDirectionBasedClientMac)

/-- `print_ssid_name0` takes the length as 16 bits. -/
def printSsidName : Exporter
  | _, field, cache => cache.printed (cString (field.take (field.length % 65536)))

/-! Networks -/

def ipv4bufTo6 (octets : Bytes) : Bytes :=
  List.replicate 10 0 ++ [0xff, 0xff] ++ octets

/-- `ipInList`: the first listed network that contains the address. -/
def ipInList (ip : Bytes) (list : List IPNameAssoc) : Option IPNameAssoc :=
  list.find? fun node =>
    List.zipWith (fun octet mask => octet &&& mask) ip node.networkMask = node.network

def printNet0 (sensorListSearch : ObservationID → IpAddr → Run (Option Bytes))
    (globalNetList : IPNameAssoc → Bytes) : Exporter
  | globals, field, cache =>
      if field.length ≠ 16 then cache.saved
      else do
        match ← sensorListSearch cache.observationId (.ofOctets field) with
        | some homeNet => cache.printed (fastString homeNet)
        | none =>
            match ipInList field globals.rbDatabases.netsNameAsList with
            | some assoc => cache.printed (fastString (globalNetList assoc))
            | none => cache.saved

def printNetV60 : Exporter := printNet0 ObservationID.networkIp IPNameAssoc.number

def printNetNameV60 : Exporter := printNet0 ObservationID.networkName IPNameAssoc.name

def unlessNormalizing (exporter : Exporter) : Exporter
  | globals, field, cache =>
      if globals.normalizeDirections then cache.saved else exporter globals field cache

def printNetV6 : Exporter := unlessNormalizing printNetV60

def printNetNameV6 : Exporter := unlessNormalizing printNetNameV60

def ipv4To6Decorator (exporter : Exporter) : Exporter
  | globals, field, cache =>
      if field.length ≠ 4 then cache.saved else exporter globals (ipv4bufTo6 field) cache

def printNet : Exporter := ipv4To6Decorator printNetV6

def printNetName : Exporter := ipv4To6Decorator printNetNameV6

/-! Addresses -/

def ipv6Text (address : Bytes) : Bytes :=
  List.intercalate (ascii ":")
    ((List.range 8).map fun index =>
      n16 (address.getD (2 * index) 0) ++ n16 (address.getD (2 * index + 1) 0))

def printIpv4Addr : Exporter
  | _, field, cache =>
      if field.length ≠ 4 then cache.saved
      else cache.printed (intoaV4 (net2number field).toUInt32)

def processIpv4Addr0 (save : FlowCacheAddress → Bytes → FlowCacheAddress) : Exporter
  | globals, field, cache =>
      if globals.normalizeDirections then
        if field.length = 4 then
          { cache with address := save cache.address (ipv4bufTo6 field) }.saved
        else cache.saved
      else printIpv4Addr globals field cache

def printIpv4SrcAddr : Exporter := processIpv4Addr0 fun address ip => { address with src := ip }

def printIpv4DstAddr : Exporter := processIpv4Addr0 fun address ip => { address with dst := ip }

/-- `print_ipv6` saves the address and prints it, also when directions are normalized. -/
def printIpv6 (save : FlowCacheAddress → Bytes → FlowCacheAddress) : Exporter
  | _, field, cache =>
      if field.length ≠ 16 then cache.saved
      else { cache with address := save cache.address field }.printed (ipv6Text field)

def printIpv6SrcAddr : Exporter := printIpv6 fun address ip => { address with src := ip }

def printIpv6DstAddr : Exporter := printIpv6 fun address ip => { address with dst := ip }

def isIpv4Mapped (address : Bytes) : Bool :=
  address.take 12 = List.replicate 10 0 ++ [0xff, 0xff]

def ipv6ToV4 (address : Bytes) : UInt32 :=
  (net2number ((address.drop 12).take 4)).toUInt32

def flowCacheAddrText (address : Bytes) : Bytes :=
  if isIpv4Mapped address then intoaV4 (ipv6ToV4 address) else ipv6Text address

def printFlowCacheAddress (slot : FlowCache → AddressSlot)
    (printAddr : ReadOnlyGlobals → Bytes → FlowCache → Run Printed) : Exporter
  | globals, _, cache => printAddr globals (cache.addressAt (slot cache)) cache

def printFlowCacheAddr (_ : ReadOnlyGlobals) (address : Bytes) (cache : FlowCache) :
    Run Printed :=
  cache.printed (flowCacheAddrText address)

/-- The station's address is kept as the client's one. -/
def printStaIpv4Address : Exporter
  | _, field, cache =>
      if field.length ≠ 4 then cache.saved
      else
        let client := cache.address.client.take 10 ++ [0xff, 0xff] ++ field
        { cache with address := { cache.address with client } }.printed
          (intoaV4 (net2number field).toUInt32)

def printLanAddr : Exporter
  | globals, field, cache =>
      if globals.normalizeDirections then
        printFlowCacheAddress FlowCache.getDirectionBasedClientIp printFlowCacheAddr globals field
          cache
      else cache.saved

def printLanAddrNet : Exporter :=
  printFlowCacheAddress FlowCache.getDirectionBasedClientIp printNetV60

def printWanAddrNet : Exporter :=
  printFlowCacheAddress FlowCache.getDirectionBasedTargetIp printNetV60

def printLanAddrNetName : Exporter :=
  printFlowCacheAddress FlowCache.getDirectionBasedClientIp printNetNameV60

def printWanAddrNetName : Exporter :=
  printFlowCacheAddress FlowCache.getDirectionBasedTargetIp printNetNameV60

def printWanAddr : Exporter :=
  printFlowCacheAddress FlowCache.getDirectionBasedTargetIp printFlowCacheAddr

/-! Applications and selectors -/

def applicationIdText (globals : ReadOnlyGlobals) (field : Bytes) : Bytes :=
  if field.length ≠ 4 then []
  else
    let majorProto := field.getD 0 0
    let minorProto := net2number field &&& 0x00ffffff
    if majorProto = 0 ∧ minorProto = 0 then []
    else engineIdNameText globals majorProto ++ ascii ":" ++ n10 minorProto

def printApplicationIdName : Exporter
  | globals, field, cache =>
      let appid := net2number field
      if appid = 0 then cache.saved
      else
        let inDefaultDb := fun (_ : Unit) =>
          globals.rbDatabases.appsNameAsList.bind fun database => database appid
        match (cache.observationId.applicationName appid).orElse inDefaultDb with
        | some name => cache.printed (fastString name)
        | none => cache.printed (applicationIdText globals field)

/-- The learned text for a number, or the number. -/
def attributeText (getAttribute : UInt64 → Option Bytes) (number : UInt64) : Bytes :=
  match getAttribute number with
  | some text => fastString text
  | none => n10 number

def printObservationIdAttribute (getAttribute : ObservationID → UInt64 → Option Bytes) :
    Exporter
  | _, field, cache =>
      cache.printed (attributeText (getAttribute cache.observationId) (net2number field))

def printSelectorName : Exporter := printObservationIdAttribute ObservationID.selectorName

/-! Ports and interfaces -/

def processPort0 (save : FlowCachePorts → UInt16 → FlowCachePorts) : Exporter
  | globals, field, cache =>
      if field.length ≠ 2 then cache.saved
      else
        let port := (net2number field).toUInt16
        if globals.normalizeDirections then { cache with ports := save cache.ports port }.saved
        else cache.printed (n10 port.toUInt64)

def processSrcPort : Exporter := processPort0 fun ports port => { ports with src := port }

def processDstPort : Exporter := processPort0 fun ports port => { ports with dst := port }

def printFlowCacheNumber (number : FlowCache → UInt64) : Exporter
  | _, _, cache => cache.printed (n10 (number cache))

def printLanPort : Exporter := printFlowCacheNumber FlowCache.getDirectionBasedClientPort

def printWanPort : Exporter := printFlowCacheNumber FlowCache.getDirectionBasedTargetPort

def processSnmpInterface (save : FlowCacheInterfaces → UInt64 → FlowCacheInterfaces) : Exporter
  | globals, field, cache =>
      if globals.normalizeDirections then
        { cache with interfaces := save cache.interfaces (net2number field) }.saved
      else printNumber globals field cache

def processInputSnmp : Exporter :=
  processSnmpInterface fun interfaces number => { interfaces with input := number }

def processOutputSnmp : Exporter :=
  processSnmpInterface fun interfaces number => { interfaces with output := number }

def printLanInterface : Exporter :=
  printFlowCacheNumber FlowCache.getDirectionBasedClientInterface

def printWanInterface : Exporter :=
  printFlowCacheNumber FlowCache.getDirectionBasedTargetInterface

def printInterfaceName : Exporter :=
  unlessNormalizing (printObservationIdAttribute ObservationID.interfaceName)

def printInterfaceDescription : Exporter :=
  unlessNormalizing (printObservationIdAttribute ObservationID.interfaceDescription)

def printFlowCacheInterfaceStr (number : FlowCache → UInt64)
    (interfaceStr : ObservationID → UInt64 → Option Bytes) : Exporter
  | _, _, cache =>
      cache.printed (attributeText (interfaceStr cache.observationId) (number cache))

def printLanInterfaceName : Exporter :=
  printFlowCacheInterfaceStr FlowCache.getDirectionBasedClientInterface
    ObservationID.interfaceName

def printWanInterfaceName : Exporter :=
  printFlowCacheInterfaceStr FlowCache.getDirectionBasedTargetInterface
    ObservationID.interfaceName

def printLanInterfaceDescription : Exporter :=
  printFlowCacheInterfaceStr FlowCache.getDirectionBasedClientInterface
    ObservationID.interfaceDescription

def printWanInterfaceDescription : Exporter :=
  printFlowCacheInterfaceStr FlowCache.getDirectionBasedTargetInterface
    ObservationID.interfaceDescription

/-! Countries and autonomous systems -/

def GeoIpDb.answer (database : GeoIpDb Address) (address : Address) : Option Bytes :=
  if database.loaded then database.lookup address else none

def escapedText : Option Bytes → Bytes
  | none => []
  | some text => appendEscaped (fastString text)

/-- `print_buffer_geoip_AS_name`: what follows the first space of the answer. -/
def geoipASNameText (response : Option Bytes) : Bytes :=
  escapedText (response.map fun text => ((fastString text).dropWhile fun byte => byte ≠ 32).tail)

def printCountryCode : Exporter :=
  unlessNormalizing fun globals field cache =>
    if field.length ≠ 4 then cache.saved
    else cache.printed (escapedText (globals.geoIpCountryDb.answer (net2number field).toUInt32))

def printASIpv4Name : Exporter :=
  unlessNormalizing fun globals field cache =>
    if field.length = 4 then
      cache.printed (geoipASNameText (globals.geoIpAsnDb.answer (net2number field).toUInt32))
    else cache.saved

def isPrivateV4 (ipv4 : UInt32) : Bool :=
  ipv4 &&& 0xff000000 == 0x0a000000 || ipv4 &&& 0xfff00000 == 0xac100000 ||
    ipv4 &&& 0xffff0000 == 0xc0a80000

def isPrivate (address : Bytes) : Bool :=
  if isIpv4Mapped address then isPrivateV4 (ipv6ToV4 address)
  else address.getD 0 0 &&& 0x30 == 0x20

def geoipDecorator (text : ReadOnlyGlobals → Bytes → Bytes) (globals : ReadOnlyGlobals)
    (address : Bytes) (cache : FlowCache) : Run Printed :=
  if isPrivate address then cache.saved else cache.printed (text globals address)

def AS6NameText (globals : ReadOnlyGlobals) (address : Bytes) : Bytes :=
  geoipASNameText (globals.geoIpAsnDbV6.answer address)

/-- The IPv6 database has to be loaded; a mapped address is looked up in the IPv4 one then. -/
def country6CodeText (globals : ReadOnlyGlobals) (address : Bytes) : Bytes :=
  if globals.geoIpCountryDbV6.loaded then
    escapedText
      (if isIpv4Mapped address then globals.geoIpCountryDb.lookup (ipv6ToV4 address)
        else globals.geoIpCountryDbV6.lookup address)
  else []

def ofLength16 (exporter : Exporter) : Exporter
  | globals, field, cache =>
      if field.length ≠ 16 then cache.saved else exporter globals field cache

def printAS6Name : Exporter := ofLength16 (geoipDecorator AS6NameText)

def printCountry6Code : Exporter := ofLength16 (geoipDecorator country6CodeText)

def printLanCountryCode : Exporter :=
  printFlowCacheAddress FlowCache.getDirectionBasedClientIp (geoipDecorator country6CodeText)

def printWanCountryCode : Exporter :=
  printFlowCacheAddress FlowCache.getDirectionBasedTargetIp (geoipDecorator country6CodeText)

def printLanASName : Exporter :=
  printFlowCacheAddress FlowCache.getDirectionBasedClientIp (geoipDecorator AS6NameText)

def printWanASName : Exporter :=
  printFlowCacheAddress FlowCache.getDirectionBasedTargetIp (geoipDecorator AS6NameText)

/-! HTTP -/

def httpUrlId : Bytes := [0x03, 0x00, 0x00, 0x50, 0x34, 0x01]

def httpHostId : Bytes := [0x03, 0x00, 0x00, 0x50, 0x34, 0x02]

def httpUaId : Bytes := [0x03, 0x00, 0x00, 0x50, 0x34, 0x03]

def httpRefererId : Bytes := [0x03, 0x00, 0x00, 0x50, 0x34, 0x04]

def httpsCommonNameNbarId : Bytes := [0x0d, 0x00, 0x01, 0xc5, 0x34, 0x01]

/-- The content after the expected identifier, when there is any. -/
def ciscoPrivateContent (expectedIdentifier field : Bytes) : Option Bytes :=
  if field.length ≤ expectedIdentifier.length then none
  else if field.take expectedIdentifier.length ≠ expectedIdentifier then none
  else some (field.drop expectedIdentifier.length)

def printCiscoPrivateBuffer (expectedIdentifier : Bytes) : Exporter
  | _, field, cache =>
      match ciscoPrivateContent expectedIdentifier field with
      | some content => cache.printed (appendEscaped content)
      | none => cache.saved

/-- The content is kept in the flow cache as well as printed. -/
def saveAndPrintCisco (expectedIdentifier : Bytes) (save : FlowCache → Bytes → FlowCache) :
    Exporter
  | globals, field, cache =>
      let cache :=
        match ciscoPrivateContent expectedIdentifier field with
        | some content => save cache content
        | none => cache
      printCiscoPrivateBuffer expectedIdentifier globals field cache

def printHttpUrl : Exporter := printCiscoPrivateBuffer httpUrlId

def printHttpUserAgent : Exporter := printCiscoPrivateBuffer httpUaId

def printHttpHost : Exporter :=
  saveAndPrintCisco httpHostId fun cache content => { cache with httpHost := some content }

def printHttpReferer : Exporter :=
  saveAndPrintCisco httpRefererId fun cache content => { cache with httpReferer := some content }

def printHttpsCommonName : Exporter :=
  saveAndPrintCisco httpsCommonNameNbarId fun cache content =>
    { cache with sslCommonName := some content }

def bufferIsIp (globals : ReadOnlyGlobals) (text : Bytes) : Bool :=
  decide (text.length ≤ (ascii "0000:0000:0000:0000:0000:0000:0000:0000").length) &&
    globals.inetPton (cString text)

/-- The hostname from its last dot but one on, less the dots that start it. -/
def l2Host (hostname : Bytes) : Bytes :=
  let beforeLast := fun (text : Bytes) =>
    (text.reverse.dropWhile fun byte => byte ≠ 46).tail.reverse
  let lastDots :=
    if 46 ∈ hostname ∧ 46 ∈ beforeLast hostname then
      hostname.drop (beforeLast (beforeLast hostname)).length
    else hostname
  lastDots.dropWhile fun byte => byte = 46

def httpL2DomainFrom (globals : ReadOnlyGlobals) : Nat → Bytes → Bytes
  | 0, hostname => hostname
  | turns + 1, hostname =>
      if ascii "http://" <+: hostname then
        httpL2DomainFrom globals turns (hostname.drop (ascii "http://").length)
      else if ascii "https://" <+: hostname then
        httpL2DomainFrom globals turns (hostname.drop (ascii "https://").length)
      else if 47 ∈ hostname then
        httpL2DomainFrom globals turns (hostname.takeWhile fun byte => byte ≠ 47)
      else if bufferIsIp globals hostname then hostname
      else l2Host hostname

/-- The part of a URL or hostname that `print_http_l2_domain` prints: it calls itself with
less than it got. -/
def httpL2Domain (globals : ReadOnlyGlobals) (hostname : Bytes) : Bytes :=
  httpL2DomainFrom globals (hostname.length + 1) hostname

def printHttpHostL2 : Exporter
  | globals, field, cache =>
      match ciscoPrivateContent httpHostId field with
      | some host => cache.printed (appendEscaped (httpL2Domain globals host))
      | none => cache.saved

/-- The host, or the common name of the certificate; no pointer and no length otherwise. -/
def extractFlowcacheHost (cache : FlowCache) : Bytes :=
  (cache.httpHost.or cache.sslCommonName).getD []

def extractFlowcacheReferer (cache : FlowCache) : Bytes :=
  cache.httpReferer.getD (extractFlowcacheHost cache)

def printHost : Exporter
  | _, _, cache => cache.printed (appendEscaped (extractFlowcacheHost cache))

def printReferer : Exporter
  | _, _, cache => cache.printed (appendEscaped (extractFlowcacheReferer cache))

def printHostL2 : Exporter
  | globals, _, cache =>
      cache.printed (appendEscaped (httpL2Domain globals (extractFlowcacheHost cache)))

def printRefererL2 : Exporter
  | globals, _, cache =>
      cache.printed (appendEscaped (httpL2Domain globals (extractFlowcacheReferer cache)))

/-! Names from DNS -/

def printClientName : Exporter
  | _, _, cache => cache.printed ((cache.address.clientName.map fastString).getD [])

def printTargetName : Exporter
  | _, _, cache => cache.printed ((cache.address.targetName.map fastString).getD [])

/-! The exporters by the name the element table gives them. -/

inductive ExporterKind
  | field (exporter : Exporter)
  | firstByte (exporter : ByteExporter)

def exporterOf : ExportFn → ExporterKind
  | .saveFlowBytes => .field saveFlowBytes
  | .printNumber => .field printNumber
  | .saveFlowPkts => .field saveFlowPkts
  | .printTcpFlags => .field printTcpFlags
  | .processSrcPort => .field processSrcPort
  | .printIpv4SrcAddr => .field printIpv4SrcAddr
  | .printNet => .field printNet
  | .printNetName => .field printNetName
  | .processInputSnmp => .field processInputSnmp
  | .printInterfaceName => .field printInterfaceName
  | .printInterfaceDescription => .field printInterfaceDescription
  | .processDstPort => .field processDstPort
  | .printIpv4DstAddr => .field printIpv4DstAddr
  | .processOutputSnmp => .field processOutputSnmp
  | .saveLastSwitched => .field saveLastSwitched
  | .saveFirstSwitched => .field saveFirstSwitched
  | .printIpv6SrcAddr => .field printIpv6SrcAddr
  | .printIpv6DstAddr => .field printIpv6DstAddr
  | .printNetNameV6 => .field printNetNameV6
  | .printNetV6 => .field printNetV6
  | .printEngineIdName => .firstByte printEngineIdName
  | .processSrcMac => .field processSrcMac
  | .processPostSrcMac => .field processPostSrcMac
  | .processDirection => .field processDirection
  | .printFlowCacheDirection => .field printFlowCacheDirection
  | .processDstMac => .field processDstMac
  | .processPostDstMac => .field processPostDstMac
  | .printApplicationIdName => .field printApplicationIdName
  | .printFlowEndReason => .firstByte printFlowEndReason
  | .saveFirstSecond => .field saveFirstSecond
  | .saveLastSecond => .field saveLastSecond
  | .saveFirstMsecond => .field saveFirstMsecond
  | .saveLastMsecond => .field saveLastMsecond
  | .printBiflowDirection => .firstByte printBiflowDirection
  | .printSelectorName => .field printSelectorName
  | .printString => .field printString
  | .printCountryCode => .field printCountryCode
  | .printASIpv4Name => .field printASIpv4Name
  | .printCountry6Code => .field printCountry6Code
  | .printAS6Name => .field printAS6Name
  | .printLanCountryCode => .field printLanCountryCode
  | .printWanCountryCode => .field printWanCountryCode
  | .printLanASName => .field printLanASName
  | .printWanASName => .field printWanASName
  | .printHttpUrl => .field printHttpUrl
  | .printHttpHost => .field printHttpHost
  | .printHttpHostL2 => .field printHttpHostL2
  | .printHttpUserAgent => .field printHttpUserAgent
  | .printHttpReferer => .field printHttpReferer
  | .printHttpsCommonName => .field printHttpsCommonName
  | .printHost => .field printHost
  | .printHostL2 => .field printHostL2
  | .printReferer => .field printReferer
  | .printRefererL2 => .field printRefererL2
  | .printSsidName => .field printSsidName
  | .printClientMac => .field printClientMac
  | .printDirectionBasedClientMac => .field printDirectionBasedClientMac
  | .printMacMap => .field printMacMap
  | .printMacVendor => .field printMacVendor
  | .printDirectionBasedClientMacVendor => .field printDirectionBasedClientMacVendor
  | .printLanAddr => .field printLanAddr
  | .printLanAddrNet => .field printLanAddrNet
  | .printLanAddrNetName => .field printLanAddrNetName
  | .printWanAddr => .field printWanAddr
  | .printWanAddrNet => .field printWanAddrNet
  | .printWanAddrNetName => .field printWanAddrNetName
  | .printLanPort => .field printLanPort
  | .printWanPort => .field printWanPort
  | .printLanInterface => .field printLanInterface
  | .printLanInterfaceName => .field printLanInterfaceName
  | .printLanInterfaceDescription => .field printLanInterfaceDescription
  | .printWanInterface => .field printWanInterface
  | .printWanInterfaceName => .field printWanInterfaceName
  | .printWanInterfaceDescription => .field printWanInterfaceDescription
  | .printStaIpv4Address => .field printStaIpv4Address
  | .printMac => .field printMac
  | .printNetflowType => .field printNetflowType
  | .printClientName => .field printClientName
  | .printTargetName => .field printTargetName

def exportField (globals : ReadOnlyGlobals) (exportFn : ExportFn) (buffer : Mem)
    (realFieldLen : Nat) (cache : FlowCache) : Run Printed :=
  match exporterOf exportFn with
  | .field exporter => exporter globals (buffer.slice realFieldLen) cache
  | .firstByte exporter => exporter globals (buffer 0) cache

end F2k
