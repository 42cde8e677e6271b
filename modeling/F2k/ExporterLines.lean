import F2k.ExporterReads
import F2k.HttpDomains
import F2k.Lib.Programs

namespace F2k

open Lib

/-! The exporters as programs on the line that is printed: what each of them appends, in its order,
and the number that it adds up from what is appended or has as a constant. -/

inductive PrintFault
  | fault (fault : Fault)
  | beyondEnd (beyond : BeyondEnd)

abbrev Printing := Program PrintFault UInt8

structure Exported where
  returned : Nat
  cache : FlowCache

abbrev LineExporter := ReadOnlyGlobals → Bytes → FlowCache → Printing Exported

abbrev LineByteExporter := ReadOnlyGlobals → UInt8 → FlowCache → Printing Exported

namespace Printing

def bpos : Printing Nat :=
  fun _ => .length .result

def memappendFast (text : Bytes) : Printing Unit :=
  fun _ => .append text (.result ())

def memappendFastString (str : Bytes) : Printing Nat := do
  let len := (cString str).length
  memappendFast (cString str)
  pure len

def memappendFastN10 (value : UInt64) : Printing Nat := do
  let numberStrlen := (n10 value).length
  memappendFast (n10 value)
  pure numberStrlen

/-- The two digits are appended one after the other. -/
def memappendFastN16 (value : UInt8) : Printing Unit :=
  (n16 value).forM fun digit => memappendFast [digit]

/-- What a turn of the loop of `append_escaped` appends piece by piece, and how many bytes it has
dealt with then. -/
def escapedPieces (string : Bytes) (i : Nat) : Except BeyondEnd (List Bytes × Nat) := do
  let utf8Length ← validUtf8CharAt string i (string.length - i)
  let byte ← readByte string i
  match utf8Length with
  | none => .ok (ascii "%" :: (n16 byte).map fun digit => [digit], 1)
  | some utf8Length =>
      if utf8Length = 1 ∧ byte ∈ toEscapeChars then
        .ok ([[92], [escapedChars.getD (toEscapeChars.idxOf byte) 0]], 1)
      else do
        let text ← readBytes string i utf8Length
        .ok ([text], utf8Length)

def appendEscapedTurns (string : Bytes) : Nat → UInt32 → Writing PrintFault UInt8 Unit
  | 0, _ => .endless
  | turns + 1, i =>
      if i.toNat < string.length then
        match escapedPieces string i.toNat with
        | .error beyond => .fails (.beyondEnd beyond)
        | .ok (pieces, utf8Length) =>
            pieces.foldr .append (appendEscapedTurns string turns (i + UInt32.ofNat utf8Length))
      else .result ()

def appendEscaped (string : Bytes) : Printing Nat := do
  let startBpos ← bpos
  fun turns => appendEscapedTurns string turns 0
  let endBpos ← bpos
  pure (endBpos - startBpos)

/-- The part of the host that `print_http_l2_domain` appends: its calls of itself are turns. -/
def l2Domain (globals : ReadOnlyGlobals) (hostname : Bytes) : Printing PrintedPart :=
  fun turns =>
    match httpL2DomainAt globals hostname turns 0 hostname.length with
    | .error beyond => .fails (.beyondEnd beyond)
    | .ok none => .endless
    | .ok (some part) => .result part

def ofRun (run : Run α) : Printing α :=
  fun _ =>
    match run with
    | .error fault => .fails (.fault fault)
    | .ok value => .result value

/-- The exporter prints nothing, whatever it saves. -/
def saves (cache : FlowCache) : Printing Exported :=
  pure { returned := 0, cache }

def prints (cache : FlowCache) (program : Printing Nat) : Printing Exported := do
  let returned ← program
  pure { returned, cache }

/-! Numbers and strings -/

def printString : LineExporter
  | _, field, cache => prints cache do
      let befLen ← bpos
      memappendFast field
      let aftLen ← bpos
      pure (aftLen - befLen)

def printNumber : LineExporter
  | _, field, cache => prints cache (memappendFastN10 (net2number field))

def printNetflowType : LineExporter
  | _, field, cache => prints cache do
      let startBpos ← bpos
      memappendFast (ascii "netflowv")
      let _ ← memappendFastN10 (net2number field)
      let endBpos ← bpos
      pure (endBpos - startBpos)

def saveFlowcacheNumberParameter (save : FlowCache → UInt64 → FlowCache) : LineExporter
  | _, field, cache => saves (save cache (net2number field))

def saveFirstSecond : LineExporter :=
  saveFlowcacheNumberParameter fun cache number =>
    { cache with time := { cache.time with firstTimestampS := number } }

def saveLastSecond : LineExporter :=
  saveFlowcacheNumberParameter fun cache number =>
    { cache with time := { cache.time with lastTimestampS := number } }

def saveFirstSwitched : LineExporter :=
  saveFlowcacheNumberParameter fun cache number =>
    { cache with time := { cache.time with firstSwitchedUptimeS := number / 1000 } }

def saveLastSwitched : LineExporter :=
  saveFlowcacheNumberParameter fun cache number =>
    { cache with time := { cache.time with lastSwitchedUptimeS := number / 1000 } }

def saveFlowBytes : LineExporter :=
  saveFlowcacheNumberParameter fun cache number => { cache with bytes := number }

def saveFlowPkts : LineExporter :=
  saveFlowcacheNumberParameter fun cache number => { cache with packets := number }

def callbackMiliBuffer (callback : LineExporter) : LineExporter
  | globals, field, cache => callback globals (toBe 8 (net2number field).toNat) cache

def printTcpFlags : LineExporter
  | _, field, cache =>
      if field.length ≠ 1 ∧ field.length ≠ 2 then saves cache
      else
        let tcpFlags := if field.length = 1 then field.getD 0 0 else field.getD 1 0
        if tcpFlags = 0 then saves cache
        else prints cache do
          let startBpos ← bpos
          memappendFast (tcpFlagsText tcpFlags)
          let endBpos ← bpos
          pure (endBpos - startBpos)

def printFlowEndReason : LineByteExporter
  | _, reason, cache =>
      match flowEndReasons[reason.toNat]? with
      | some (some text) => prints cache (memappendFastString text)
      | _ => saves cache

def printBiflowDirection : LineByteExporter
  | _, direction, cache =>
      match biflowDirections[direction.toNat]? with
      | some text => prints cache (memappendFastString text)
      | none => saves cache

def printSsidName : LineExporter
  | _, field, cache => prints cache do
      let len := (cString (field.take (field.length % 65536))).length
      memappendFast (field.take len)
      pure len

/-! Directions -/

def printNetflowDirection (direction : UInt64) : Printing Nat :=
  memappendFastString (netflowDirectionText direction)

def printFlowCacheDirection : LineExporter
  | _, _, cache => prints cache (memappendFastString (directionText cache.macs.direction))

def processDirection : LineExporter
  | globals, field, cache =>
      let direction := net2number field
      if direction > 1 then saves cache
      else if globals.normalizeDirections then
        let netflowDirection : UInt64 :=
          if cache.observationId.exporterInWanSide then if direction = 0 then 1 else 0
          else direction
        let direction := if netflowDirection = 0 then Direction.upstream else .downstream
        saves { cache with macs := { cache.macs with direction } }
      else prints cache (printNetflowDirection direction)

/-! MAC addresses -/

def printMac0 (mac : Bytes) : Printing Nat := do
  (List.range 6).forM fun i => do
    memappendFastN16 (mac.getD i 0)
    if i < 5 then memappendFast (ascii ":") else pure ()
  pure (ascii "ff:ff:ff:ff:ff:ff").length

def printMac : LineExporter
  | _, field, cache =>
      if field.length ≠ 6 then saves cache else prints cache (printMac0 field)

def processMac0 (save : FlowCacheMacs → Bytes → FlowCacheMacs) : LineExporter
  | globals, field, cache =>
      if globals.normalizeDirections then
        saves
          (if field.length = 6 then { cache with macs := save cache.macs field } else cache)
      else printMac globals field cache

def printMacVendor0 (globals : ReadOnlyGlobals) (mac : Bytes) : Printing Nat :=
  let number := net2number (mac.take 6)
  if number ≠ 0 then
    match globals.rbDatabases.macVendorDatabase.bind fun database => database number with
    | some vendor => memappendFastString vendor
    | none => pure 0
  else pure 0

def printMacVendor : LineExporter
  | globals, field, cache =>
      if field.length ≠ 6 then saves cache else prints cache (printMacVendor0 globals field)

def printMacVendorAddrFormat0 (globals : ReadOnlyGlobals) (mac : Bytes) : Printing Nat := do
  let vendorBytesWritten ← printMacVendor0 globals mac
  if vendorBytesWritten > 0 then do
    [3, 4, 5].forM fun i => do
      memappendFast (ascii ":")
      memappendFastN16 (mac.getD i 0)
    pure (vendorBytesWritten + (ascii ":ff:ff:ff").length)
  else pure 0

/-- After a name of the database the function goes on to the address. -/
def printMacMap0 (globals : ReadOnlyGlobals) (mac : Bytes) : Printing Nat :=
  let number := net2number (mac.take 6)
  if number ≠ 0 then
    match globals.rbDatabases.macNameDatabase.find? fun node => node.1 = number with
    | some node => do
        let _ ← memappendFastString node.2
        printMac0 mac
    | none => do
        let bytesWritten ← printMacVendorAddrFormat0 globals mac
        if bytesWritten > 0 then pure bytesWritten else printMac0 mac
  else printMac0 mac

def printMacMap : LineExporter
  | globals, field, cache =>
      if field.length ≠ 6 then saves cache else prints cache (printMacMap0 globals field)

def printDirectionBasedClientMac : LineExporter
  | _, _, cache =>
      if cache.clientMac ≠ 0 then saves cache
      else
        let mac := cache.getDirectionBasedClientMac
        prints { cache with clientMac := net2number mac } (printMac0 mac)

def printClientMac : LineExporter
  | _, field, cache =>
      if field.length ≠ 6 then saves cache
      else if cache.clientMac ≠ 0 then saves cache
      else prints { cache with clientMac := net2number field } (printMac0 field)

def printDirectionBasedClientMacVendor : LineExporter
  | globals, _, cache =>
      prints cache (printMacVendor0 globals cache.getDirectionBasedClientMac)

/-! Networks and addresses -/

def printNet0 (sensorListSearch : ObservationID → IpAddr → Run (Option Bytes))
    (globalNetList : IPNameAssoc → Bytes) : LineExporter
  | globals, field, cache =>
      if field.length ≠ 16 then saves cache
      else do
        let sensorHomeNet ← ofRun (sensorListSearch cache.observationId (.ofOctets field))
        match sensorHomeNet with
        | some homeNet => prints cache (memappendFastString homeNet)
        | none =>
            match ipInList field globals.rbDatabases.netsNameAsList with
            | some assoc => prints cache (memappendFastString (globalNetList assoc))
            | none => saves cache

def printNetV60 : LineExporter := printNet0 ObservationID.networkIp IPNameAssoc.number

def printNetNameV60 : LineExporter := printNet0 ObservationID.networkName IPNameAssoc.name

def unlessNormalizing (exporter : LineExporter) : LineExporter
  | globals, field, cache =>
      if ¬globals.normalizeDirections then exporter globals field cache else saves cache

def ipv4To6Decorator (exporter : LineExporter) : LineExporter
  | globals, field, cache =>
      if field.length ≠ 4 then saves cache else exporter globals (ipv4bufTo6 field) cache

def printIpv4Addr0 (ipv4 : UInt32) : Printing Nat := do
  let ipAsTextSize := (intoaV4 ipv4).length
  memappendFast (intoaV4 ipv4)
  pure ipAsTextSize

def printIpv6Addr0 (address : Bytes) : Printing Nat := do
  (List.range 8).forM fun i => do
    memappendFastN16 (address.getD (2 * i) 0)
    memappendFastN16 (address.getD (2 * i + 1) 0)
    if i < 7 then memappendFast (ascii ":") else pure ()
  pure (ascii "ffff:ffff:ffff:ffff:ffff:ffff:ffff:ffff").length

def printIpv4Addr : LineExporter
  | _, field, cache =>
      if field.length ≠ 4 then saves cache
      else prints cache (printIpv4Addr0 (net2number field).toUInt32)

def processIpv4Addr0 (save : FlowCacheAddress → Bytes → FlowCacheAddress) : LineExporter
  | globals, field, cache =>
      if globals.normalizeDirections then
        saves
          (if field.length ≠ 4 then cache
          else { cache with address := save cache.address (ipv4bufTo6 field) })
      else printIpv4Addr globals field cache

def printIpv6 (save : FlowCacheAddress → Bytes → FlowCacheAddress) : LineExporter
  | _, field, cache =>
      if field.length ≠ 16 then saves cache
      else prints { cache with address := save cache.address field } (printIpv6Addr0 field)

def printFlowCacheAddress (getAddr : FlowCache → AddressSlot) (printAddr : LineExporter) :
    LineExporter
  | globals, _, cache => printAddr globals (cache.addressAt (getAddr cache)) cache

def printFlowCacheAddr : LineExporter
  | _, address, cache =>
      prints cache
        (if isIpv4Mapped address then printIpv4Addr0 (ipv6ToV4 address)
        else printIpv6Addr0 address)

def printStaIpv4Address : LineExporter
  | _, field, cache =>
      if field.length ≠ 4 then saves cache
      else
        let client := cache.address.client.take 10 ++ [0xff, 0xff] ++ field
        prints { cache with address := { cache.address with client } }
          (printIpv4Addr0 (net2number field).toUInt32)

def printLanAddr : LineExporter
  | globals, field, cache =>
      if ¬globals.normalizeDirections then saves cache
      else
        printFlowCacheAddress FlowCache.getDirectionBasedClientIp printFlowCacheAddr globals field
          cache

/-! Applications, ports and interfaces -/

def printEngineId (engineId : UInt8) : Printing Nat :=
  if engineId = 0 then pure 0 else memappendFastN10 engineId.toUInt64

def printEngineIdName0 (globals : ReadOnlyGlobals) (engineId : UInt8) : Printing Nat :=
  if engineId = 0 then pure 0
  else
    match globals.rbDatabases.enginesNameAsList.find? fun node => node.1 = engineId.toUInt32 with
    | some node => memappendFastString node.2
    | none => printEngineId engineId

def printEngineIdName : LineByteExporter
  | globals, engineId, cache => prints cache (printEngineIdName0 globals engineId)

def printApplicationId0 (globals : ReadOnlyGlobals) (field : Bytes) : Printing Nat :=
  if field.length ≠ 4 then pure 0
  else
    let majorProto := field.getD 0 0
    let minorProto := net2number field &&& 0x00ffffff
    if majorProto = 0 ∧ minorProto = 0 then pure 0
    else do
      let nameBytes ← printEngineIdName0 globals majorProto
      memappendFast (ascii ":")
      let minorBytes ← memappendFastN10 minorProto
      pure (nameBytes + 1 + minorBytes)

def printApplicationIdName : LineExporter
  | globals, field, cache =>
      let appid := net2number field
      if appid = 0 then saves cache
      else
        let inDefaultDb := fun (_ : Unit) =>
          globals.rbDatabases.appsNameAsList.bind fun database => database appid
        match (cache.observationId.applicationName appid).orElse inDefaultDb with
        | some appidStr => prints cache (memappendFastString appidStr)
        | none => prints cache (printApplicationId0 globals field)

/-- A text that is known for a number, or the number. -/
def printAttribute (attributeStr : Option Bytes) (number : UInt64) : Printing Nat :=
  match attributeStr with
  | some str => memappendFastString str
  | none => memappendFastN10 number

def printObservationIdAttribute (getAttribute : ObservationID → UInt64 → Option Bytes) :
    LineExporter
  | _, field, cache =>
      let attributeId := net2number field
      prints cache (printAttribute (getAttribute cache.observationId attributeId) attributeId)

def printFlowCacheInterfaceStr (getNumber : FlowCache → UInt64)
    (interfaceStr : ObservationID → UInt64 → Option Bytes) : LineExporter
  | _, _, cache =>
      let number := getNumber cache
      prints cache (printAttribute (interfaceStr cache.observationId number) number)

def processPort0 (save : FlowCachePorts → UInt16 → FlowCachePorts) : LineExporter
  | globals, field, cache =>
      if field.length ≠ 2 then saves cache
      else
        let port := (net2number field).toUInt16
        if globals.normalizeDirections then saves { cache with ports := save cache.ports port }
        else prints cache (memappendFastN10 port.toUInt64)

def printFlowCacheNumber (getNumber : FlowCache → UInt64) : LineExporter
  | _, _, cache => prints cache (memappendFastN10 (getNumber cache))

def processSnmpInterface (save : FlowCacheInterfaces → UInt64 → FlowCacheInterfaces) :
    LineExporter
  | globals, field, cache =>
      if globals.normalizeDirections then
        saves { cache with interfaces := save cache.interfaces (net2number field) }
      else printNumber globals field cache

/-! Countries and autonomous systems -/

def printCountryOf (country : Option Bytes) : Printing Nat :=
  match country with
  | some country => appendEscaped (cString country)
  | none => pure 0

def printCountryCode : LineExporter :=
  unlessNormalizing fun globals field cache =>
    if field.length ≠ 4 then saves cache
    else prints cache
      (printCountryOf (globals.geoIpCountryDb.answer (net2number field).toUInt32))

def printBufferGeoipASName (rsp : Bytes) : Printing Nat :=
  match (cString rsp).dropWhile fun byte => byte ≠ 32 with
  | _ :: name => if name ≠ [] then appendEscaped name else pure 0
  | [] => pure 0

def printASNameOf (rsp : Option Bytes) : Printing Nat :=
  match rsp with
  | some rsp => printBufferGeoipASName rsp
  | none => pure 0

def printASIpv4Name : LineExporter :=
  unlessNormalizing fun globals field cache =>
    if field.length = 4 then
      prints cache (printASNameOf (globals.geoIpAsnDb.answer (net2number field).toUInt32))
    else saves cache

def geoipDecorator (printGeoip : ReadOnlyGlobals → Bytes → Printing Nat) : LineExporter
  | globals, address, cache =>
      if isPrivate address then saves cache else prints cache (printGeoip globals address)

def printAS6NameNl (globals : ReadOnlyGlobals) (address : Bytes) : Printing Nat :=
  printASNameOf (globals.geoIpAsnDbV6.answer address)

def printCountry6CodeNl (globals : ReadOnlyGlobals) (address : Bytes) : Printing Nat :=
  if ¬globals.geoIpCountryDbV6.loaded then pure 0
  else
    printCountryOf
      (if isIpv4Mapped address then globals.geoIpCountryDb.lookup (ipv6ToV4 address)
      else globals.geoIpCountryDbV6.lookup address)

def ofLength16 (exporter : LineExporter) : LineExporter
  | globals, field, cache =>
      if field.length ≠ 16 then saves cache else exporter globals field cache

/-! HTTP -/

def printCiscoPrivateBuffer (expectedIdentifier : Bytes) : LineExporter
  | _, field, cache =>
      match ciscoPrivateContent expectedIdentifier field with
      | some content => prints cache (appendEscaped content)
      | none => saves cache

def saveAndPrintCisco (expectedIdentifier : Bytes) (save : FlowCache → Bytes → FlowCache) :
    LineExporter
  | globals, field, cache =>
      let cache :=
        match ciscoPrivateContent expectedIdentifier field with
        | some content => save cache content
        | none => cache
      printCiscoPrivateBuffer expectedIdentifier globals field cache

def printHttpL2Domain (globals : ReadOnlyGlobals) (hostname : Bytes) : Printing Nat := do
  let part ← l2Domain globals hostname
  appendEscaped ((hostname.drop part.start).take part.length)

def printHttpHostL2 : LineExporter
  | globals, field, cache =>
      match ciscoPrivateContent httpHostId field with
      | some host => prints cache (printHttpL2Domain globals host)
      | none => saves cache

def printHost : LineExporter
  | _, _, cache => prints cache (appendEscaped (extractFlowcacheHost cache))

def printReferer : LineExporter
  | globals, field, cache =>
      match cache.httpReferer with
      | some referer => prints cache (appendEscaped referer)
      | none => printHost globals field cache

def printHostL2 : LineExporter
  | globals, _, cache => prints cache (printHttpL2Domain globals (extractFlowcacheHost cache))

def printRefererL2 : LineExporter
  | globals, _, cache =>
      prints cache (printHttpL2Domain globals (extractFlowcacheReferer cache))

/-! Names from DNS -/

def printDnsObtainedHostname (string : Option Bytes) : Printing Nat :=
  match string with
  | some string => memappendFastString string
  | none => pure 0

def printClientName : LineExporter
  | _, _, cache => prints cache (printDnsObtainedHostname cache.address.clientName)

def printTargetName : LineExporter
  | _, _, cache => prints cache (printDnsObtainedHostname cache.address.targetName)

inductive Kind
  | field (exporter : LineExporter)
  | firstByte (exporter : LineByteExporter)

def exporterOf : ExportFn → Kind
  | .saveFlowBytes => .field saveFlowBytes
  | .printNumber => .field printNumber
  | .saveFlowPkts => .field saveFlowPkts
  | .printTcpFlags => .field printTcpFlags
  | .processSrcPort => .field (processPort0 fun ports port => { ports with src := port })
  | .printIpv4SrcAddr => .field (processIpv4Addr0 fun address ip => { address with src := ip })
  | .printNet => .field (ipv4To6Decorator (unlessNormalizing printNetV60))
  | .printNetName => .field (ipv4To6Decorator (unlessNormalizing printNetNameV60))
  | .processInputSnmp =>
      .field (processSnmpInterface fun interfaces number => { interfaces with input := number })
  | .printInterfaceName =>
      .field (unlessNormalizing (printObservationIdAttribute ObservationID.interfaceName))
  | .printInterfaceDescription =>
      .field (unlessNormalizing (printObservationIdAttribute ObservationID.interfaceDescription))
  | .processDstPort => .field (processPort0 fun ports port => { ports with dst := port })
  | .printIpv4DstAddr => .field (processIpv4Addr0 fun address ip => { address with dst := ip })
  | .processOutputSnmp =>
      .field (processSnmpInterface fun interfaces number => { interfaces with output := number })
  | .saveLastSwitched => .field saveLastSwitched
  | .saveFirstSwitched => .field saveFirstSwitched
  | .printIpv6SrcAddr => .field (printIpv6 fun address ip => { address with src := ip })
  | .printIpv6DstAddr => .field (printIpv6 fun address ip => { address with dst := ip })
  | .printNetNameV6 => .field (unlessNormalizing printNetNameV60)
  | .printNetV6 => .field (unlessNormalizing printNetV60)
  | .printEngineIdName => .firstByte printEngineIdName
  | .processSrcMac => .field (processMac0 fun macs mac => { macs with srcMac := mac })
  | .processPostSrcMac => .field (processMac0 fun macs mac => { macs with postSrcMac := mac })
  | .processDirection => .field processDirection
  | .printFlowCacheDirection => .field printFlowCacheDirection
  | .processDstMac => .field (processMac0 fun macs mac => { macs with dstMac := mac })
  | .processPostDstMac => .field (processMac0 fun macs mac => { macs with postDstMac := mac })
  | .printApplicationIdName => .field printApplicationIdName
  | .printFlowEndReason => .firstByte printFlowEndReason
  | .saveFirstSecond => .field saveFirstSecond
  | .saveLastSecond => .field saveLastSecond
  | .saveFirstMsecond => .field (callbackMiliBuffer saveFirstSecond)
  | .saveLastMsecond => .field (callbackMiliBuffer saveLastSecond)
  | .printBiflowDirection => .firstByte printBiflowDirection
  | .printSelectorName => .field (printObservationIdAttribute ObservationID.selectorName)
  | .printString => .field printString
  | .printCountryCode => .field printCountryCode
  | .printASIpv4Name => .field printASIpv4Name
  | .printCountry6Code => .field (ofLength16 (geoipDecorator printCountry6CodeNl))
  | .printAS6Name => .field (ofLength16 (geoipDecorator printAS6NameNl))
  | .printLanCountryCode =>
      .field (printFlowCacheAddress FlowCache.getDirectionBasedClientIp
        (geoipDecorator printCountry6CodeNl))
  | .printWanCountryCode =>
      .field (printFlowCacheAddress FlowCache.getDirectionBasedTargetIp
        (geoipDecorator printCountry6CodeNl))
  | .printLanASName =>
      .field (printFlowCacheAddress FlowCache.getDirectionBasedClientIp
        (geoipDecorator printAS6NameNl))
  | .printWanASName =>
      .field (printFlowCacheAddress FlowCache.getDirectionBasedTargetIp
        (geoipDecorator printAS6NameNl))
  | .printHttpUrl => .field (printCiscoPrivateBuffer httpUrlId)
  | .printHttpHost =>
      .field (saveAndPrintCisco httpHostId fun cache content =>
        { cache with httpHost := some content })
  | .printHttpHostL2 => .field printHttpHostL2
  | .printHttpUserAgent => .field (printCiscoPrivateBuffer httpUaId)
  | .printHttpReferer =>
      .field (saveAndPrintCisco httpRefererId fun cache content =>
        { cache with httpReferer := some content })
  | .printHttpsCommonName =>
      .field (saveAndPrintCisco httpsCommonNameNbarId fun cache content =>
        { cache with sslCommonName := some content })
  | .printHost => .field printHost
  | .printHostL2 => .field printHostL2
  | .printReferer => .field printReferer
  | .printRefererL2 => .field printRefererL2
  | .printSsidName => .field printSsidName
  | .printClientMac => .field printClientMac
  | .printDirectionBasedClientMac => .field printDirectionBasedClientMac
  | .printMacMap => .field printMacMap
  | .printMacVendor => .field printMacVendor
  | .printDirectionBasedClientMacVendor => .field printDirectionBasedClientMacVendor
  | .printLanAddr => .field printLanAddr
  | .printLanAddrNet =>
      .field (printFlowCacheAddress FlowCache.getDirectionBasedClientIp printNetV60)
  | .printLanAddrNetName =>
      .field (printFlowCacheAddress FlowCache.getDirectionBasedClientIp printNetNameV60)
  | .printWanAddr =>
      .field (printFlowCacheAddress FlowCache.getDirectionBasedTargetIp printFlowCacheAddr)
  | .printWanAddrNet =>
      .field (printFlowCacheAddress FlowCache.getDirectionBasedTargetIp printNetV60)
  | .printWanAddrNetName =>
      .field (printFlowCacheAddress FlowCache.getDirectionBasedTargetIp printNetNameV60)
  | .printLanPort => .field (printFlowCacheNumber FlowCache.getDirectionBasedClientPort)
  | .printWanPort => .field (printFlowCacheNumber FlowCache.getDirectionBasedTargetPort)
  | .printLanInterface => .field (printFlowCacheNumber FlowCache.getDirectionBasedClientInterface)
  | .printLanInterfaceName =>
      .field (printFlowCacheInterfaceStr FlowCache.getDirectionBasedClientInterface
        ObservationID.interfaceName)
  | .printLanInterfaceDescription =>
      .field (printFlowCacheInterfaceStr FlowCache.getDirectionBasedClientInterface
        ObservationID.interfaceDescription)
  | .printWanInterface => .field (printFlowCacheNumber FlowCache.getDirectionBasedTargetInterface)
  | .printWanInterfaceName =>
      .field (printFlowCacheInterfaceStr FlowCache.getDirectionBasedTargetInterface
        ObservationID.interfaceName)
  | .printWanInterfaceDescription =>
      .field (printFlowCacheInterfaceStr FlowCache.getDirectionBasedTargetInterface
        ObservationID.interfaceDescription)
  | .printStaIpv4Address => .field printStaIpv4Address
  | .printMac => .field printMac
  | .printNetflowType => .field printNetflowType
  | .printClientName => .field printClientName
  | .printTargetName => .field printTargetName

/-- The call of `export_fn`. -/
def exported (globals : ReadOnlyGlobals) (exportFn : ExportFn) (buffer : Mem)
    (realFieldLen : Nat) (cache : FlowCache) : Printing Exported :=
  match exporterOf exportFn with
  | .field exporter => exporter globals (buffer.slice realFieldLen) cache
  | .firstByte exporter => exporter globals (buffer 0) cache

end Printing

end F2k
