import F2k.LongFlow
import F2k.Reads

namespace F2k

open Lib

/-! The exporters over the memory that their field is in: which bytes each of them looks at. -/

abbrev MemoryExporter := ReadOnlyGlobals → Mem → Nat → FlowCache → Run Printed

def net2numberAt (buffer : Mem) (realFieldLen : Nat) : UInt64 :=
  let number := fun (length : Nat) => UInt64.ofNat (beNat (buffer.slice length))
  match realFieldLen % 65536 with
  | 1 => number 1
  | 2 => number 2
  | 4 => number 4
  | 6 => number 6
  | 8 => number 8
  | _ => 0

/-- `unused_params(buffer, real_field_len)` -/
def unusedBuffer (exporter : Exporter) : MemoryExporter
  | globals, _, _, cache => exporter globals [] cache

/-! Numbers and strings -/

def printStringAt : MemoryExporter
  | _, buffer, realFieldLen, cache => cache.printed (buffer.slice realFieldLen)

def printNumberAt : MemoryExporter
  | _, buffer, realFieldLen, cache => cache.printed (n10 (net2numberAt buffer realFieldLen))

def printNetflowTypeAt : MemoryExporter
  | _, buffer, realFieldLen, cache =>
      cache.printed (ascii "netflowv" ++ n10 (net2numberAt buffer realFieldLen))

def saveFlowcacheNumberParameter (save : FlowCache → UInt64 → FlowCache) : MemoryExporter
  | _, buffer, realFieldLen, cache => (save cache (net2numberAt buffer realFieldLen)).saved

def saveFirstSecondAt : MemoryExporter :=
  saveFlowcacheNumberParameter fun cache number =>
    { cache with time := { cache.time with firstTimestampS := number } }

def saveLastSecondAt : MemoryExporter :=
  saveFlowcacheNumberParameter fun cache number =>
    { cache with time := { cache.time with lastTimestampS := number } }

def saveFirstSwitchedAt : MemoryExporter :=
  saveFlowcacheNumberParameter fun cache number =>
    { cache with time := { cache.time with firstSwitchedUptimeS := number / 1000 } }

def saveLastSwitchedAt : MemoryExporter :=
  saveFlowcacheNumberParameter fun cache number =>
    { cache with time := { cache.time with lastSwitchedUptimeS := number / 1000 } }

def saveFlowBytesAt : MemoryExporter :=
  saveFlowcacheNumberParameter fun cache number => { cache with bytes := number }

def saveFlowPktsAt : MemoryExporter :=
  saveFlowcacheNumberParameter fun cache number => { cache with packets := number }

def callbackMiliBufferAt (callback : MemoryExporter) : MemoryExporter
  | globals, buffer, realFieldLen, cache =>
      let number := net2numberAt buffer realFieldLen
      callback globals (.ofBytes (toBe 8 number.toNat)) 8 cache

def saveFirstMsecondAt : MemoryExporter := callbackMiliBufferAt saveFirstSecondAt

def saveLastMsecondAt : MemoryExporter := callbackMiliBufferAt saveLastSecondAt

def printTcpFlagsAt : MemoryExporter
  | _, buffer, realFieldLen, cache =>
      if realFieldLen ≠ 1 ∧ realFieldLen ≠ 2 then cache.saved
      else
        let tcpFlags := if realFieldLen = 1 then buffer 0 else buffer 1
        if tcpFlags = 0 then cache.saved else cache.printed (tcpFlagsText tcpFlags)

def printFlowEndReasonAt : MemoryExporter
  | globals, buffer, _, cache => printFlowEndReason globals (buffer 0) cache

def printBiflowDirectionAt : MemoryExporter
  | globals, buffer, _, cache => printBiflowDirection globals (buffer 0) cache

def printEngineIdNameAt : MemoryExporter
  | globals, buffer, _, cache => printEngineIdName globals (net2numberAt buffer 1).toUInt8 cache

def processDirectionAt : MemoryExporter
  | globals, buffer, realFieldLen, cache =>
      let direction := net2numberAt buffer realFieldLen
      if direction > 1 then cache.saved
      else if globals.normalizeDirections then
        let netflowDirection : UInt64 :=
          if cache.observationId.exporterInWanSide then if direction = 0 then 1 else 0
          else direction
        let direction := if netflowDirection = 0 then Direction.upstream else .downstream
        { cache with macs := { cache.macs with direction } }.saved
      else cache.printed (netflowDirectionText direction)

/-! MAC addresses -/

def printMacAt : MemoryExporter
  | _, buffer, realFieldLen, cache =>
      if realFieldLen ≠ 6 then cache.saved else cache.printed (macText (buffer.slice 6))

def processMac0At (save : FlowCacheMacs → Bytes → FlowCacheMacs) : MemoryExporter
  | globals, buffer, realFieldLen, cache =>
      if globals.normalizeDirections then
        if realFieldLen = 6 then
          { cache with macs := save cache.macs (buffer.slice 6) }.saved
        else cache.saved
      else printMacAt globals buffer realFieldLen cache

def processSrcMacAt : MemoryExporter := processMac0At fun macs mac => { macs with srcMac := mac }

def processPostSrcMacAt : MemoryExporter :=
  processMac0At fun macs mac => { macs with postSrcMac := mac }

def processDstMacAt : MemoryExporter := processMac0At fun macs mac => { macs with dstMac := mac }

def processPostDstMacAt : MemoryExporter :=
  processMac0At fun macs mac => { macs with postDstMac := mac }

def printMacVendorAt : MemoryExporter
  | globals, buffer, realFieldLen, cache =>
      if realFieldLen ≠ 6 then cache.saved
      else cache.printed (macVendorText globals (buffer.slice 6))

def printMacMapAt : MemoryExporter
  | globals, buffer, realFieldLen, cache =>
      if realFieldLen ≠ 6 then cache.saved else printMacMap0 globals (buffer.slice 6) cache

def printClientMacAt : MemoryExporter
  | _, buffer, realFieldLen, cache =>
      if realFieldLen ≠ 6 then cache.saved
      else if cache.clientMac ≠ 0 then cache.saved
      else
        { cache with clientMac := net2numberAt buffer 6 }.printed (macText (buffer.slice 6))

/-- `strnlen` with the length as 16 bits. -/
def printSsidNameAt : MemoryExporter
  | _, buffer, realFieldLen, cache =>
      cache.printed (cString (buffer.slice (realFieldLen % 65536)))

/-! Networks and addresses -/

def unlessNormalizingAt (exporter : MemoryExporter) : MemoryExporter
  | globals, buffer, realFieldLen, cache =>
      if globals.normalizeDirections then cache.saved
      else exporter globals buffer realFieldLen cache

def printNet0At (sensorListSearch : ObservationID → IpAddr → Run (Option Bytes))
    (globalNetList : IPNameAssoc → Bytes) : MemoryExporter
  | globals, buffer, realFieldLen, cache =>
      if realFieldLen ≠ 16 then cache.saved
      else printNet0 sensorListSearch globalNetList globals (buffer.slice 16) cache

def printNetV6At : MemoryExporter :=
  unlessNormalizingAt (printNet0At ObservationID.networkIp IPNameAssoc.number)

def printNetNameV6At : MemoryExporter :=
  unlessNormalizingAt (printNet0At ObservationID.networkName IPNameAssoc.name)

def ipv4To6DecoratorAt (callback : MemoryExporter) : MemoryExporter
  | globals, buffer, realFieldLen, cache =>
      if realFieldLen ≠ 4 then cache.saved
      else callback globals (.ofBytes (ipv4bufTo6 (buffer.slice 4))) 16 cache

def printNetAt : MemoryExporter := ipv4To6DecoratorAt printNetV6At

def printNetNameAt : MemoryExporter := ipv4To6DecoratorAt printNetNameV6At

def printIpv4AddrAt : MemoryExporter
  | _, buffer, realFieldLen, cache =>
      if realFieldLen ≠ 4 then cache.saved
      else cache.printed (intoaV4 (net2numberAt buffer 4).toUInt32)

def processIpv4Addr0At (save : FlowCacheAddress → Bytes → FlowCacheAddress) : MemoryExporter
  | globals, buffer, realFieldLen, cache =>
      if globals.normalizeDirections then
        if realFieldLen ≠ 4 then cache.saved
        else { cache with address := save cache.address (ipv4bufTo6 (buffer.slice 4)) }.saved
      else printIpv4AddrAt globals buffer realFieldLen cache

def printIpv4SrcAddrAt : MemoryExporter :=
  processIpv4Addr0At fun address ip => { address with src := ip }

def printIpv4DstAddrAt : MemoryExporter :=
  processIpv4Addr0At fun address ip => { address with dst := ip }

def printIpv6At (save : FlowCacheAddress → Bytes → FlowCacheAddress) : MemoryExporter
  | _, buffer, realFieldLen, cache =>
      if realFieldLen ≠ 16 then cache.saved
      else
        { cache with address := save cache.address (buffer.slice 16) }.printed
          (ipv6Text (buffer.slice 16))

def printIpv6SrcAddrAt : MemoryExporter := printIpv6At fun address ip => { address with src := ip }

def printIpv6DstAddrAt : MemoryExporter := printIpv6At fun address ip => { address with dst := ip }

def printStaIpv4AddressAt : MemoryExporter
  | _, buffer, realFieldLen, cache =>
      if realFieldLen ≠ 4 then cache.saved
      else
        let client := cache.address.client.take 10 ++ [0xff, 0xff] ++ buffer.slice 4
        { cache with address := { cache.address with client } }.printed
          (intoaV4 (net2numberAt buffer realFieldLen).toUInt32)

/-! Applications, selectors, ports and interfaces -/

def applicationIdTextAt (globals : ReadOnlyGlobals) (buffer : Mem) (realFieldLen : Nat) : Bytes :=
  if realFieldLen ≠ 4 then []
  else
    let majorProto := buffer 0
    let minorProto := net2numberAt buffer 4 &&& 0x00ffffff
    if majorProto = 0 ∧ minorProto = 0 then []
    else engineIdNameText globals majorProto ++ ascii ":" ++ n10 minorProto

def printApplicationIdNameAt : MemoryExporter
  | globals, buffer, realFieldLen, cache =>
      let appid := net2numberAt buffer realFieldLen
      if appid = 0 then cache.saved
      else
        let inDefaultDb := fun (_ : Unit) =>
          globals.rbDatabases.appsNameAsList.bind fun database => database appid
        match (cache.observationId.applicationName appid).orElse inDefaultDb with
        | some name => cache.printed (fastString name)
        | none => cache.printed (applicationIdTextAt globals buffer realFieldLen)

def printObservationIdAttributeAt (getAttribute : ObservationID → UInt64 → Option Bytes) :
    MemoryExporter
  | _, buffer, realFieldLen, cache =>
      cache.printed
        (attributeText (getAttribute cache.observationId) (net2numberAt buffer realFieldLen))

def printSelectorNameAt : MemoryExporter :=
  printObservationIdAttributeAt ObservationID.selectorName

def printInterfaceNameAt : MemoryExporter :=
  unlessNormalizingAt (printObservationIdAttributeAt ObservationID.interfaceName)

def printInterfaceDescriptionAt : MemoryExporter :=
  unlessNormalizingAt (printObservationIdAttributeAt ObservationID.interfaceDescription)

def processPort0At (save : FlowCachePorts → UInt16 → FlowCachePorts) : MemoryExporter
  | globals, buffer, realFieldLen, cache =>
      if realFieldLen ≠ 2 then cache.saved
      else
        let port := (net2numberAt buffer realFieldLen).toUInt16
        if globals.normalizeDirections then { cache with ports := save cache.ports port }.saved
        else cache.printed (n10 port.toUInt64)

def processSrcPortAt : MemoryExporter := processPort0At fun ports port => { ports with src := port }

def processDstPortAt : MemoryExporter := processPort0At fun ports port => { ports with dst := port }

def processSnmpInterfaceAt (save : FlowCacheInterfaces → UInt64 → FlowCacheInterfaces) :
    MemoryExporter
  | globals, buffer, realFieldLen, cache =>
      if globals.normalizeDirections then
        { cache with
          interfaces := save cache.interfaces (net2numberAt buffer realFieldLen) }.saved
      else printNumberAt globals buffer realFieldLen cache

def processInputSnmpAt : MemoryExporter :=
  processSnmpInterfaceAt fun interfaces number => { interfaces with input := number }

def processOutputSnmpAt : MemoryExporter :=
  processSnmpInterfaceAt fun interfaces number => { interfaces with output := number }

/-! Countries and autonomous systems -/

def printCountryCodeAt : MemoryExporter :=
  unlessNormalizingAt fun globals buffer realFieldLen cache =>
    if realFieldLen ≠ 4 then cache.saved
    else
      cache.printed
        (escapedText (globals.geoIpCountryDb.answer (net2numberAt buffer 4).toUInt32))

def printASIpv4NameAt : MemoryExporter :=
  unlessNormalizingAt fun globals buffer realFieldLen cache =>
    if realFieldLen = 4 then
      cache.printed
        (geoipASNameText (globals.geoIpAsnDb.answer (net2numberAt buffer 4).toUInt32))
    else cache.saved

def printGeoip6At (text : ReadOnlyGlobals → Bytes → Bytes) : MemoryExporter
  | globals, buffer, realFieldLen, cache =>
      if realFieldLen ≠ 16 then cache.saved
      else geoipDecorator text globals (buffer.slice 16) cache

def printAS6NameAt : MemoryExporter := printGeoip6At AS6NameText

def printCountry6CodeAt : MemoryExporter := printGeoip6At country6CodeText

/-! HTTP -/

def ciscoPrivateContentAt (expectedIdentifier : Bytes) (buffer : Mem) (realFieldLen : Nat) :
    Option Bytes :=
  if realFieldLen ≤ expectedIdentifier.length then none
  else if buffer.slice expectedIdentifier.length ≠ expectedIdentifier then none
  else
    some ((buffer.shift expectedIdentifier.length).slice
      (realFieldLen - expectedIdentifier.length))

def printCiscoPrivateBufferAt (expectedIdentifier : Bytes) : MemoryExporter
  | _, buffer, realFieldLen, cache =>
      match ciscoPrivateContentAt expectedIdentifier buffer realFieldLen with
      | some content => cache.printed (appendEscaped content)
      | none => cache.saved

def saveAndPrintCiscoAt (expectedIdentifier : Bytes) (save : FlowCache → Bytes → FlowCache) :
    MemoryExporter
  | globals, buffer, realFieldLen, cache =>
      let cache :=
        match ciscoPrivateContentAt expectedIdentifier buffer realFieldLen with
        | some content => save cache content
        | none => cache
      printCiscoPrivateBufferAt expectedIdentifier globals buffer realFieldLen cache

def printHttpUrlAt : MemoryExporter := printCiscoPrivateBufferAt httpUrlId

def printHttpUserAgentAt : MemoryExporter := printCiscoPrivateBufferAt httpUaId

def printHttpHostAt : MemoryExporter :=
  saveAndPrintCiscoAt httpHostId fun cache content => { cache with httpHost := some content }

def printHttpRefererAt : MemoryExporter :=
  saveAndPrintCiscoAt httpRefererId fun cache content =>
    { cache with httpReferer := some content }

def printHttpsCommonNameAt : MemoryExporter :=
  saveAndPrintCiscoAt httpsCommonNameNbarId fun cache content =>
    { cache with sslCommonName := some content }

def printHttpHostL2At : MemoryExporter
  | globals, buffer, realFieldLen, cache =>
      match ciscoPrivateContentAt httpHostId buffer realFieldLen with
      | some host => cache.printed (appendEscaped (httpL2Domain globals host))
      | none => cache.saved

def exporterAt : ExportFn → MemoryExporter
  | .saveFlowBytes => saveFlowBytesAt
  | .printNumber => printNumberAt
  | .saveFlowPkts => saveFlowPktsAt
  | .printTcpFlags => printTcpFlagsAt
  | .processSrcPort => processSrcPortAt
  | .printIpv4SrcAddr => printIpv4SrcAddrAt
  | .printNet => printNetAt
  | .printNetName => printNetNameAt
  | .processInputSnmp => processInputSnmpAt
  | .printInterfaceName => printInterfaceNameAt
  | .printInterfaceDescription => printInterfaceDescriptionAt
  | .processDstPort => processDstPortAt
  | .printIpv4DstAddr => printIpv4DstAddrAt
  | .processOutputSnmp => processOutputSnmpAt
  | .saveLastSwitched => saveLastSwitchedAt
  | .saveFirstSwitched => saveFirstSwitchedAt
  | .printIpv6SrcAddr => printIpv6SrcAddrAt
  | .printIpv6DstAddr => printIpv6DstAddrAt
  | .printNetNameV6 => printNetNameV6At
  | .printNetV6 => printNetV6At
  | .printEngineIdName => printEngineIdNameAt
  | .processSrcMac => processSrcMacAt
  | .processPostSrcMac => processPostSrcMacAt
  | .processDirection => processDirectionAt
  | .printFlowCacheDirection => unusedBuffer printFlowCacheDirection
  | .processDstMac => processDstMacAt
  | .processPostDstMac => processPostDstMacAt
  | .printApplicationIdName => printApplicationIdNameAt
  | .printFlowEndReason => printFlowEndReasonAt
  | .saveFirstSecond => saveFirstSecondAt
  | .saveLastSecond => saveLastSecondAt
  | .saveFirstMsecond => saveFirstMsecondAt
  | .saveLastMsecond => saveLastMsecondAt
  | .printBiflowDirection => printBiflowDirectionAt
  | .printSelectorName => printSelectorNameAt
  | .printString => printStringAt
  | .printCountryCode => printCountryCodeAt
  | .printASIpv4Name => printASIpv4NameAt
  | .printCountry6Code => printCountry6CodeAt
  | .printAS6Name => printAS6NameAt
  | .printLanCountryCode => unusedBuffer printLanCountryCode
  | .printWanCountryCode => unusedBuffer printWanCountryCode
  | .printLanASName => unusedBuffer printLanASName
  | .printWanASName => unusedBuffer printWanASName
  | .printHttpUrl => printHttpUrlAt
  | .printHttpHost => printHttpHostAt
  | .printHttpHostL2 => printHttpHostL2At
  | .printHttpUserAgent => printHttpUserAgentAt
  | .printHttpReferer => printHttpRefererAt
  | .printHttpsCommonName => printHttpsCommonNameAt
  | .printHost => unusedBuffer printHost
  | .printHostL2 => unusedBuffer printHostL2
  | .printReferer => unusedBuffer printReferer
  | .printRefererL2 => unusedBuffer printRefererL2
  | .printSsidName => printSsidNameAt
  | .printClientMac => printClientMacAt
  | .printDirectionBasedClientMac => unusedBuffer printDirectionBasedClientMac
  | .printMacMap => printMacMapAt
  | .printMacVendor => printMacVendorAt
  | .printDirectionBasedClientMacVendor => unusedBuffer printDirectionBasedClientMacVendor
  | .printLanAddr => unusedBuffer printLanAddr
  | .printLanAddrNet => unusedBuffer printLanAddrNet
  | .printLanAddrNetName => unusedBuffer printLanAddrNetName
  | .printWanAddr => unusedBuffer printWanAddr
  | .printWanAddrNet => unusedBuffer printWanAddrNet
  | .printWanAddrNetName => unusedBuffer printWanAddrNetName
  | .printLanPort => unusedBuffer printLanPort
  | .printWanPort => unusedBuffer printWanPort
  | .printLanInterface => unusedBuffer printLanInterface
  | .printLanInterfaceName => unusedBuffer printLanInterfaceName
  | .printLanInterfaceDescription => unusedBuffer printLanInterfaceDescription
  | .printWanInterface => unusedBuffer printWanInterface
  | .printWanInterfaceName => unusedBuffer printWanInterfaceName
  | .printWanInterfaceDescription => unusedBuffer printWanInterfaceDescription
  | .printStaIpv4Address => printStaIpv4AddressAt
  | .printMac => printMacAt
  | .printNetflowType => printNetflowTypeAt
  | .printClientName => unusedBuffer printClientName
  | .printTargetName => unusedBuffer printTargetName

/-- The exporter does the same with every memory that has the bytes of the field. -/
def HonoursLength (exportFn : ExportFn) (realFieldLen : Nat) : Prop :=
  ∀ globals cache left right, Mem.AgreeBelow realFieldLen left right →
    exporterAt exportFn globals left realFieldLen cache =
      exporterAt exportFn globals right realFieldLen cache

/-! The bytes that are looked at -/

/-- The exporter looks at the field, or at one byte whatever its length. -/
def MemoryExporter.Reads (exporterAt : MemoryExporter) : ExporterKind → Prop
  | .field exporter => ∀ globals buffer realFieldLen cache,
      exporterAt globals buffer realFieldLen cache =
        exporter globals (buffer.slice realFieldLen) cache
  | .firstByte exporter => ∀ globals buffer realFieldLen cache,
      exporterAt globals buffer realFieldLen cache = exporter globals (buffer 0) cache

section

variable {buffer : Mem} {realFieldLen : Nat} {exporter : Exporter} {callback : MemoryExporter}

theorem net2numberAt_eq (buffer : Mem) (realFieldLen : Nat) :
    net2numberAt buffer realFieldLen = net2number (buffer.slice realFieldLen) := by
  have front : ∀ length, realFieldLen % 65536 = length →
      (buffer.slice realFieldLen).take length = buffer.slice length := by
    intro length same
    exact buffer.take_slice (same ▸ Nat.mod_le _ _)
  unfold net2numberAt
  split
  case h_6 =>
    unfold net2number
    rw [Mem.length_slice]
    split
    all_goals first
      | contradiction
      | rfl
  all_goals
    rename_i short
    unfold net2number
    simp only [Mem.length_slice, short, front _ short]

theorem unusedBuffer_reads (unused : ∀ globals field cache,
    exporter globals [] cache = exporter globals field cache) :
    (unusedBuffer exporter).Reads (.field exporter) :=
  fun globals buffer realFieldLen cache => unused globals (buffer.slice realFieldLen) cache

theorem printStringAt_reads : printStringAt.Reads (.field printString) :=
  fun _ _ _ _ => rfl

theorem printNumberAt_reads : printNumberAt.Reads (.field printNumber) := by
  intro globals buffer realFieldLen cache
  rw [printNumberAt, printNumber, net2numberAt_eq]

theorem printNetflowTypeAt_reads : printNetflowTypeAt.Reads (.field printNetflowType) := by
  intro globals buffer realFieldLen cache
  rw [printNetflowTypeAt, printNetflowType, net2numberAt_eq]

theorem saveFlowcacheNumberParameter_reads {save : FlowCache → UInt64 → FlowCache}
    (saves : ∀ globals field cache,
      (save cache (net2number field)).saved = exporter globals field cache) :
    (saveFlowcacheNumberParameter save).Reads (.field exporter) := by
  intro globals buffer realFieldLen cache
  rw [saveFlowcacheNumberParameter, net2numberAt_eq]
  exact saves globals _ cache

theorem callbackMiliBufferAt_reads (reads : callback.Reads (.field exporter)) :
    (callbackMiliBufferAt callback).Reads (.field (callbackMiliBuffer exporter)) := by
  intro globals buffer realFieldLen cache
  have whole := Mem.slice_ofBytes (toBe 8 (net2number (buffer.slice realFieldLen)).toNat)
  rw [length_toBe] at whole
  rw [callbackMiliBufferAt, callbackMiliBuffer, net2numberAt_eq, reads, whole]

theorem printTcpFlagsAt_reads : printTcpFlagsAt.Reads (.field printTcpFlags) := by
  intro globals buffer realFieldLen cache
  obtain _ | _ | _ | more := realFieldLen
  · rfl
  · rfl
  · rfl
  · rw [printTcpFlagsAt, if_pos (by omega), Mem.slice_succ, Mem.slice_succ, Mem.slice_succ]
    rfl

theorem printFlowEndReasonAt_reads :
    printFlowEndReasonAt.Reads (.firstByte printFlowEndReason) :=
  fun _ _ _ _ => rfl

theorem printBiflowDirectionAt_reads :
    printBiflowDirectionAt.Reads (.firstByte printBiflowDirection) :=
  fun _ _ _ _ => rfl

theorem printEngineIdNameAt_reads : printEngineIdNameAt.Reads (.firstByte printEngineIdName) := by
  intro globals buffer realFieldLen cache
  have first : (net2numberAt buffer 1).toUInt8 = buffer 0 := by
    apply UInt8.toNat_inj.mp
    have lt := (buffer 0).toNat_lt
    simp [net2numberAt, Mem.slice_succ, beNat_cons]
  rw [printEngineIdNameAt, first]

theorem processDirectionAt_reads : processDirectionAt.Reads (.field processDirection) := by
  intro globals buffer realFieldLen cache
  rw [processDirectionAt, processDirection, net2numberAt_eq]

theorem printMacAt_reads :
    printMacAt.Reads (.field printMac) := by
  intro globals buffer realFieldLen cache
  rcases eq_or_ne realFieldLen 6 with rfl | other
  · simp [printMacAt, printMac]
  · simp [printMacAt, printMac, other]

theorem processMac0At_reads (save : FlowCacheMacs → Bytes → FlowCacheMacs) :
    (processMac0At save).Reads (.field (processMac0 save)) := by
  intro globals buffer realFieldLen cache
  rw [processMac0At, processMac0, printMacAt_reads]
  rcases eq_or_ne realFieldLen 6 with rfl | other
  · simp
  · simp [other]

theorem printMacVendorAt_reads :
    printMacVendorAt.Reads (.field printMacVendor) := by
  intro globals buffer realFieldLen cache
  rcases eq_or_ne realFieldLen 6 with rfl | other
  · simp [printMacVendorAt, printMacVendor]
  · simp [printMacVendorAt, printMacVendor, other]

theorem printMacMapAt_reads :
    printMacMapAt.Reads (.field printMacMap) := by
  intro globals buffer realFieldLen cache
  rcases eq_or_ne realFieldLen 6 with rfl | other
  · simp [printMacMapAt, printMacMap]
  · simp [printMacMapAt, printMacMap, other]

theorem printClientMacAt_reads :
    printClientMacAt.Reads (.field printClientMac) := by
  intro globals buffer realFieldLen cache
  rcases eq_or_ne realFieldLen 6 with rfl | other
  · simp [printClientMacAt, printClientMac, net2numberAt_eq]
  · simp [printClientMacAt, printClientMac, other]

theorem printSsidNameAt_reads : printSsidNameAt.Reads (.field printSsidName) := by
  intro globals buffer realFieldLen cache
  rw [printSsidNameAt, printSsidName, Mem.length_slice, Mem.take_slice _ (Nat.mod_le _ _)]

theorem unlessNormalizingAt_reads (reads : callback.Reads (.field exporter)) :
    (unlessNormalizingAt callback).Reads (.field (unlessNormalizing exporter)) := by
  intro globals buffer realFieldLen cache
  rw [unlessNormalizingAt, unlessNormalizing, reads]

theorem printNet0At_reads (sensorListSearch : ObservationID → IpAddr → Run (Option Bytes))
    (globalNetList : IPNameAssoc → Bytes) :
    (printNet0At sensorListSearch globalNetList).Reads
      (.field (printNet0 sensorListSearch globalNetList)) := by
  intro globals buffer realFieldLen cache
  rcases eq_or_ne realFieldLen 16 with rfl | other
  · simp [printNet0At]
  · simp [printNet0At, printNet0, other]

theorem ipv4To6DecoratorAt_reads (reads : callback.Reads (.field exporter)) :
    (ipv4To6DecoratorAt callback).Reads (.field (ipv4To6Decorator exporter)) := by
  intro globals buffer realFieldLen cache
  rcases eq_or_ne realFieldLen 4 with rfl | other
  · have whole := Mem.slice_ofBytes (ipv4bufTo6 (buffer.slice 4))
    have length : (ipv4bufTo6 (buffer.slice 4)).length = 16 := by simp [ipv4bufTo6]
    rw [length] at whole
    rw [ipv4To6DecoratorAt, ipv4To6Decorator, reads, whole]
    simp
  · simp [ipv4To6DecoratorAt, ipv4To6Decorator, other]

theorem printIpv4AddrAt_reads :
    printIpv4AddrAt.Reads (.field printIpv4Addr) := by
  intro globals buffer realFieldLen cache
  rcases eq_or_ne realFieldLen 4 with rfl | other
  · simp [printIpv4AddrAt, printIpv4Addr, net2numberAt_eq]
  · simp [printIpv4AddrAt, printIpv4Addr, other]

theorem processIpv4Addr0At_reads (save : FlowCacheAddress → Bytes → FlowCacheAddress) :
    (processIpv4Addr0At save).Reads (.field (processIpv4Addr0 save)) := by
  intro globals buffer realFieldLen cache
  rw [processIpv4Addr0At, processIpv4Addr0, printIpv4AddrAt_reads]
  rcases eq_or_ne realFieldLen 4 with rfl | other
  · simp
  · simp [other]

theorem printIpv6At_reads (save : FlowCacheAddress → Bytes → FlowCacheAddress) :
    (printIpv6At save).Reads (.field (printIpv6 save)) := by
  intro globals buffer realFieldLen cache
  rcases eq_or_ne realFieldLen 16 with rfl | other
  · simp [printIpv6At, printIpv6]
  · simp [printIpv6At, printIpv6, other]

theorem printStaIpv4AddressAt_reads :
    printStaIpv4AddressAt.Reads (.field printStaIpv4Address) := by
  intro globals buffer realFieldLen cache
  rcases eq_or_ne realFieldLen 4 with rfl | other
  · simp [printStaIpv4AddressAt, printStaIpv4Address, net2numberAt_eq]
  · simp [printStaIpv4AddressAt, printStaIpv4Address, other]

theorem applicationIdTextAt_eq (globals : ReadOnlyGlobals) (buffer : Mem) (realFieldLen : Nat) :
    applicationIdTextAt globals buffer realFieldLen =
      applicationIdText globals (buffer.slice realFieldLen) := by
  rcases eq_or_ne realFieldLen 4 with rfl | other
  · simp [applicationIdTextAt, applicationIdText, net2numberAt_eq]
  · simp [applicationIdTextAt, applicationIdText, other]

theorem printApplicationIdNameAt_reads :
    printApplicationIdNameAt.Reads (.field printApplicationIdName) := by
  intro globals buffer realFieldLen cache
  rw [printApplicationIdNameAt, net2numberAt_eq, applicationIdTextAt_eq]
  rfl

theorem printObservationIdAttributeAt_reads
    (getAttribute : ObservationID → UInt64 → Option Bytes) :
    (printObservationIdAttributeAt getAttribute).Reads
      (.field (printObservationIdAttribute getAttribute)) := by
  intro globals buffer realFieldLen cache
  rw [printObservationIdAttributeAt, printObservationIdAttribute, net2numberAt_eq]

theorem processPort0At_reads (save : FlowCachePorts → UInt16 → FlowCachePorts) :
    (processPort0At save).Reads (.field (processPort0 save)) := by
  intro globals buffer realFieldLen cache
  rcases eq_or_ne realFieldLen 2 with rfl | other
  · simp [processPort0At, processPort0, net2numberAt_eq]
  · simp [processPort0At, processPort0, other]

theorem processSnmpInterfaceAt_reads
    (save : FlowCacheInterfaces → UInt64 → FlowCacheInterfaces) :
    (processSnmpInterfaceAt save).Reads (.field (processSnmpInterface save)) := by
  intro globals buffer realFieldLen cache
  rw [processSnmpInterfaceAt, processSnmpInterface, net2numberAt_eq, printNumberAt_reads]

theorem printCountryCodeAt_reads : printCountryCodeAt.Reads (.field printCountryCode) := by
  apply unlessNormalizingAt_reads
  intro globals buffer realFieldLen cache
  rcases eq_or_ne realFieldLen 4 with rfl | other
  · simp [net2numberAt_eq]
  · simp [other]

theorem printASIpv4NameAt_reads : printASIpv4NameAt.Reads (.field printASIpv4Name) := by
  apply unlessNormalizingAt_reads
  intro globals buffer realFieldLen cache
  rcases eq_or_ne realFieldLen 4 with rfl | other
  · simp [net2numberAt_eq]
  · simp [other]

theorem printGeoip6At_reads (text : ReadOnlyGlobals → Bytes → Bytes) :
    (printGeoip6At text).Reads (.field (ofLength16 (geoipDecorator text))) := by
  intro globals buffer realFieldLen cache
  rcases eq_or_ne realFieldLen 16 with rfl | other
  · simp [printGeoip6At, ofLength16]
  · simp [printGeoip6At, ofLength16, other]

theorem ciscoPrivateContentAt_eq (expectedIdentifier : Bytes) (buffer : Mem)
    (realFieldLen : Nat) :
    ciscoPrivateContentAt expectedIdentifier buffer realFieldLen =
      ciscoPrivateContent expectedIdentifier (buffer.slice realFieldLen) := by
  unfold ciscoPrivateContentAt ciscoPrivateContent
  rw [Mem.length_slice]
  split
  · rfl
  · next longer => rw [Mem.take_slice _ (Nat.le_of_not_le longer), Mem.drop_slice]

theorem printCiscoPrivateBufferAt_reads (expectedIdentifier : Bytes) :
    (printCiscoPrivateBufferAt expectedIdentifier).Reads
      (.field (printCiscoPrivateBuffer expectedIdentifier)) := by
  intro globals buffer realFieldLen cache
  rw [printCiscoPrivateBufferAt, ciscoPrivateContentAt_eq]
  rfl

theorem saveAndPrintCiscoAt_reads (expectedIdentifier : Bytes)
    (save : FlowCache → Bytes → FlowCache) :
    (saveAndPrintCiscoAt expectedIdentifier save).Reads
      (.field (saveAndPrintCisco expectedIdentifier save)) := by
  intro globals buffer realFieldLen cache
  rw [saveAndPrintCiscoAt, ciscoPrivateContentAt_eq, printCiscoPrivateBufferAt_reads]
  rfl

theorem printHttpHostL2At_reads : printHttpHostL2At.Reads (.field printHttpHostL2) := by
  intro globals buffer realFieldLen cache
  rw [printHttpHostL2At, ciscoPrivateContentAt_eq]
  rfl

theorem exporterAt_reads (exportFn : ExportFn) :
    (exporterAt exportFn).Reads (exporterOf exportFn) := by
  cases exportFn
  all_goals unfold exporterAt exporterOf
  case saveFlowBytes | saveFlowPkts | saveFirstSecond | saveLastSecond | saveFirstSwitched
      | saveLastSwitched =>
    exact saveFlowcacheNumberParameter_reads fun _ _ _ => rfl
  case printNumber =>
    exact printNumberAt_reads
  case printTcpFlags =>
    exact printTcpFlagsAt_reads
  case processSrcPort | processDstPort =>
    exact processPort0At_reads _
  case printIpv4SrcAddr | printIpv4DstAddr =>
    exact processIpv4Addr0At_reads _
  case printNet | printNetName =>
    exact ipv4To6DecoratorAt_reads (unlessNormalizingAt_reads (printNet0At_reads _ _))
  case processInputSnmp | processOutputSnmp =>
    exact processSnmpInterfaceAt_reads _
  case printInterfaceName | printInterfaceDescription =>
    exact unlessNormalizingAt_reads (printObservationIdAttributeAt_reads _)
  case printIpv6SrcAddr | printIpv6DstAddr =>
    exact printIpv6At_reads _
  case printNetNameV6 | printNetV6 =>
    exact unlessNormalizingAt_reads (printNet0At_reads _ _)
  case printEngineIdName =>
    exact printEngineIdNameAt_reads
  case processSrcMac | processPostSrcMac | processDstMac | processPostDstMac =>
    exact processMac0At_reads _
  case processDirection =>
    exact processDirectionAt_reads
  case printApplicationIdName =>
    exact printApplicationIdNameAt_reads
  case printFlowEndReason =>
    exact printFlowEndReasonAt_reads
  case saveFirstMsecond | saveLastMsecond =>
    exact callbackMiliBufferAt_reads (saveFlowcacheNumberParameter_reads fun _ _ _ => rfl)
  case printBiflowDirection =>
    exact printBiflowDirectionAt_reads
  case printSelectorName =>
    exact printObservationIdAttributeAt_reads _
  case printString =>
    exact printStringAt_reads
  case printCountryCode =>
    exact printCountryCodeAt_reads
  case printASIpv4Name =>
    exact printASIpv4NameAt_reads
  case printCountry6Code | printAS6Name =>
    exact printGeoip6At_reads _
  case printHttpUrl | printHttpUserAgent =>
    exact printCiscoPrivateBufferAt_reads _
  case printHttpHost | printHttpReferer | printHttpsCommonName =>
    exact saveAndPrintCiscoAt_reads _ _
  case printHttpHostL2 =>
    exact printHttpHostL2At_reads
  case printSsidName =>
    exact printSsidNameAt_reads
  case printClientMac =>
    exact printClientMacAt_reads
  case printMacMap =>
    exact printMacMapAt_reads
  case printMacVendor =>
    exact printMacVendorAt_reads
  case printStaIpv4Address =>
    exact printStaIpv4AddressAt_reads
  case printMac =>
    exact printMacAt_reads
  case printNetflowType =>
    exact printNetflowTypeAt_reads
  case printFlowCacheDirection | printLanCountryCode | printWanCountryCode | printLanASName
      | printWanASName | printHost | printHostL2 | printReferer | printRefererL2
      | printDirectionBasedClientMac | printDirectionBasedClientMacVendor | printLanAddr
      | printLanAddrNet | printLanAddrNetName | printWanAddr | printWanAddrNet
      | printWanAddrNetName | printLanPort | printWanPort | printLanInterface
      | printLanInterfaceName | printLanInterfaceDescription | printWanInterface
      | printWanInterfaceName | printWanInterfaceDescription | printClientName | printTargetName =>
    exact unusedBuffer_reads fun _ _ _ => rfl

theorem exporterAt_eq (exportFn : ExportFn) (globals : ReadOnlyGlobals) (buffer : Mem)
    (realFieldLen : Nat) (cache : FlowCache) :
    exporterAt exportFn globals buffer realFieldLen cache =
      exportField globals exportFn buffer realFieldLen cache := by
  have reads := exporterAt_reads exportFn
  unfold exportField
  cases kind : exporterOf exportFn with
  | field exporter =>
      rw [kind] at reads
      exact reads globals buffer realFieldLen cache
  | firstByte exporter =>
      rw [kind] at reads
      exact reads globals buffer realFieldLen cache

end

/-! Fields of any length -/

/-- The exporters that take one byte of the field and do not ask whether it has one. -/
def ExportFn.assumesByte (exportFn : ExportFn) : Bool :=
  exportFn ∈ [.printFlowEndReason, .printBiflowDirection, .printEngineIdName]

theorem ExportFn.reach_le {exportFn : ExportFn} {realFieldLen : Nat}
    (fits : 0 < realFieldLen ∨ exportFn.assumesByte = false) :
    exportFn.reach realFieldLen ≤ realFieldLen := by
  rcases fits with some | other
  · unfold reach
    split
    · exact Nat.le_refl _
    · exact some
  · cases exportFn
    case printFlowEndReason | printBiflowDirection | printEngineIdName => contradiction
    all_goals exact Nat.le_refl _

/-- A flow of which nothing is known. -/
def newFlow : FlowCache where
  observationId := .new 0

/-- With no byte in the field, the next one is what is printed. -/
theorem assumesByte_differs {exportFn : ExportFn} (assumes : exportFn.assumesByte = true) :
    exporterAt exportFn splittingGlobals (fun _ => 1) 0 newFlow ≠
      exporterAt exportFn splittingGlobals (fun _ => 2) 0 newFlow := by
  intro same
  have texts := congrArg (fun run => run.toOption.map Printed.text) same
  revert texts
  cases exportFn
  case printFlowEndReason | printBiflowDirection | printEngineIdName => decide
  all_goals contradiction

theorem honoursLength_iff (exportFn : ExportFn) (realFieldLen : Nat) :
    HonoursLength exportFn realFieldLen ↔ 0 < realFieldLen ∨ exportFn.assumesByte = false := by
  constructor
  · intro honours
    rcases Nat.eq_zero_or_pos realFieldLen with rfl | some
    · right
      rw [← Bool.not_eq_true]
      intro assumes
      apply assumesByte_differs assumes
      apply honours
      intro index inside
      contradiction
    · exact .inl some
  · intro fits globals cache left right agree
    rw [exporterAt_eq, exporterAt_eq]
    exact exportField_congr (agree.mono (ExportFn.reach_le fits)) globals cache

theorem not_honoursLength : ¬HonoursLength .printEngineIdName 0 := by
  intro honours
  apply assumesByte_differs (show ExportFn.printEngineIdName.assumesByte = true by decide)
  apply honours
  intro index inside
  contradiction

end F2k
