import F2k.ExporterCache

namespace F2k

open Lib

/-! What a record sees of the observation id it is printed for: the settings, and the answers
about what was learned. How the tables of it are laid out, and in which order they were filled,
makes no difference. -/

/-- What an observation id learns of its exporters. -/
structure LearnedTables where
  applications : Table UInt64 Application
  selectors : Table UInt64 Selector
  interfaces : Table UInt64 Interface
  templates : Table UInt16 FlowSetV9Ipfix

def ObservationID.withTables (observationId : ObservationID) (tables : LearnedTables) :
    ObservationID :=
  { observationId with
    applications := tables.applications
    selectors := tables.selectors
    interfaces := tables.interfaces
    templates := tables.templates }

def FlowCache.withTables (cache : FlowCache) (tables : LearnedTables) : FlowCache :=
  { cache with observationId := cache.observationId.withTables tables }

def Printed.withTables (tables : LearnedTables) (printed : Printed) : Printed :=
  { printed with cache := printed.cache.withTables tables }

def LineState.withTables (tables : LearnedTables) (state : LineState) : LineState :=
  { state with cache := state.cache.withTables tables }

/-- The names in the tables are the ones of the observation id. -/
structure SameNames (tables : LearnedTables) (observationId : ObservationID) : Prop where
  applications : ∀ id, tables.applications.lookup id = observationId.applications.lookup id
  selectors : ∀ id, tables.selectors.lookup id = observationId.selectors.lookup id
  interfaces : ∀ id, tables.interfaces.lookup id = observationId.interfaces.lookup id

namespace SameNames

variable {tables : LearnedTables} {observationId : ObservationID}

theorem applicationName (same : SameNames tables observationId) :
    (observationId.withTables tables).applicationName = observationId.applicationName := by
  funext id
  exact congrArg (Option.map fun application => cString application.name) (same.applications id)

theorem selectorName (same : SameNames tables observationId) :
    (observationId.withTables tables).selectorName = observationId.selectorName := by
  funext id
  exact congrArg (Option.map fun selector => cString selector.name) (same.selectors id)

theorem interfaceName (same : SameNames tables observationId) :
    (observationId.withTables tables).interfaceName = observationId.interfaceName := by
  funext id
  exact congrArg (Option.map fun interface => cString interface.name) (same.interfaces id)

theorem interfaceDescription (same : SameNames tables observationId) :
    (observationId.withTables tables).interfaceDescription =
      observationId.interfaceDescription := by
  funext id
  exact congrArg (Option.map fun interface => cString interface.description) (same.interfaces id)

end SameNames

/-! Exporters -/

/-- The same is printed and left, over the other tables. -/
def Follow (tables : LearnedTables) (run other : Run Printed) : Prop :=
  other = run.map (Printed.withTables tables)

theorem Follow.ite {tables : LearnedTables} {yes otherYes no otherNo : Run Printed}
    {condition : Prop} [Decidable condition] (followYes : Follow tables yes otherYes)
    (followNo : Follow tables no otherNo) :
    Follow tables (if condition then yes else no) (if condition then otherYes else otherNo) := by
  split
  · exact followYes
  · exact followNo

def Exporter.SeesAnswers (exporter : Exporter) : Prop :=
  ∀ globals field cache tables, SameNames tables cache.observationId →
    Follow tables (exporter globals field cache)
      (exporter globals field (cache.withTables tables))

def ExporterKind.SeesAnswers : ExporterKind → Prop
  | .field exporter => exporter.SeesAnswers
  | .firstByte exporter =>
      ∀ globals first cache tables, SameNames tables cache.observationId →
        Follow tables (exporter globals first cache)
          (exporter globals first (cache.withTables tables))

section Families

variable {exporter : Exporter}

theorem printTcpFlags_seesAnswers : printTcpFlags.SeesAnswers := by
  intro globals field cache tables same
  unfold printTcpFlags
  split
  · exact .ite rfl rfl
  · exact .ite rfl rfl
  · exact rfl

theorem printFlowEndReason_seesAnswers :
    (ExporterKind.firstByte printFlowEndReason).SeesAnswers := by
  intro globals reason cache tables same
  rw [printFlowEndReason, printFlowEndReason]
  cases flowEndReasons[reason.toNat]? with
  | none => exact rfl
  | some known =>
      cases known with
      | none => exact rfl
      | some text => exact rfl

theorem printBiflowDirection_seesAnswers :
    (ExporterKind.firstByte printBiflowDirection).SeesAnswers := by
  intro globals direction cache tables same
  rw [printBiflowDirection, printBiflowDirection]
  cases biflowDirections[direction.toNat]? with
  | none => exact rfl
  | some text => exact rfl

theorem processDirection_seesAnswers : processDirection.SeesAnswers :=
  fun _ _ _ _ _ => .ite rfl (.ite rfl rfl)

theorem printMac_seesAnswers : printMac.SeesAnswers :=
  fun _ _ _ _ _ => .ite rfl rfl

theorem processMac0_seesAnswers (save : FlowCacheMacs → Bytes → FlowCacheMacs) :
    (processMac0 save).SeesAnswers :=
  fun globals field cache tables same =>
    .ite (.ite rfl rfl) (printMac_seesAnswers globals field cache tables same)

theorem printMacVendor_seesAnswers : printMacVendor.SeesAnswers :=
  fun _ _ _ _ _ => .ite rfl rfl

theorem printMacMap_seesAnswers : printMacMap.SeesAnswers := by
  intro globals field cache tables same
  refine .ite (.ite rfl ?_) rfl
  split
  · exact rfl
  · exact .ite rfl rfl

theorem printDirectionBasedClientMac_seesAnswers :
    printDirectionBasedClientMac.SeesAnswers :=
  fun _ _ _ _ _ => .ite rfl rfl

theorem printClientMac_seesAnswers : printClientMac.SeesAnswers :=
  fun _ _ _ _ _ => .ite rfl (.ite rfl rfl)

theorem unlessNormalizing_seesAnswers (sees : exporter.SeesAnswers) :
    (unlessNormalizing exporter).SeesAnswers :=
  fun globals field cache tables same => .ite rfl (sees globals field cache tables same)

theorem ipv4To6Decorator_seesAnswers (sees : exporter.SeesAnswers) :
    (ipv4To6Decorator exporter).SeesAnswers :=
  fun globals _ cache tables same => .ite rfl (sees globals _ cache tables same)

theorem ofLength16_seesAnswers (sees : exporter.SeesAnswers) :
    (ofLength16 exporter).SeesAnswers :=
  fun globals field cache tables same => .ite rfl (sees globals field cache tables same)

theorem printFlowCacheAddress_seesAnswers {slot : FlowCache → AddressSlot}
    (fixed : ∀ cache tables, slot (cache.withTables tables) = slot cache)
    (sees : exporter.SeesAnswers) : (printFlowCacheAddress slot exporter).SeesAnswers := by
  intro globals field cache tables same
  rw [printFlowCacheAddress, printFlowCacheAddress, fixed]
  exact sees globals _ cache tables same

/-! Networks, addresses and ports -/

theorem printNet0_seesAnswers {sensorListSearch : ObservationID → IpAddr → Run (Option Bytes)}
    (fixed : ∀ observationId tables ip,
      sensorListSearch (observationId.withTables tables) ip = sensorListSearch observationId ip)
    (globalNetList : IPNameAssoc → Bytes) :
    (printNet0 sensorListSearch globalNetList).SeesAnswers := by
  intro globals field cache tables same
  refine .ite rfl ?_
  rw [show sensorListSearch (cache.withTables tables).observationId (.ofOctets field) =
    sensorListSearch cache.observationId (.ofOctets field) from fixed _ _ _]
  cases sensorListSearch cache.observationId (.ofOctets field) with
  | error fault => exact rfl
  | ok found =>
      cases found with
      | some homeNet => exact rfl
      | none =>
          simp only [Run.ok_bind]
          split <;> exact rfl

theorem printIpv4Addr_seesAnswers : printIpv4Addr.SeesAnswers :=
  fun _ _ _ _ _ => .ite rfl rfl

theorem processIpv4Addr0_seesAnswers (save : FlowCacheAddress → Bytes → FlowCacheAddress) :
    (processIpv4Addr0 save).SeesAnswers :=
  fun globals field cache tables same =>
    .ite (.ite rfl rfl) (printIpv4Addr_seesAnswers globals field cache tables same)

theorem printIpv6_seesAnswers (save : FlowCacheAddress → Bytes → FlowCacheAddress) :
    (printIpv6 save).SeesAnswers :=
  fun _ _ _ _ _ => .ite rfl rfl

theorem printFlowCacheAddr_seesAnswers : Exporter.SeesAnswers printFlowCacheAddr :=
  fun _ _ _ _ _ => rfl

theorem printStaIpv4Address_seesAnswers : printStaIpv4Address.SeesAnswers :=
  fun _ _ _ _ _ => .ite rfl rfl

theorem printLanAddr_seesAnswers : printLanAddr.SeesAnswers :=
  fun _ _ _ _ _ => .ite rfl rfl

theorem printApplicationIdName_seesAnswers : printApplicationIdName.SeesAnswers := by
  intro globals field cache tables same
  refine .ite rfl ?_
  rw [show (cache.withTables tables).observationId.applicationName =
    cache.observationId.applicationName from same.applicationName]
  split <;> exact rfl

theorem printObservationIdAttribute_seesAnswers
    {getAttribute : ObservationID → UInt64 → Option Bytes}
    (fixed : ∀ observationId tables, SameNames tables observationId →
      getAttribute (observationId.withTables tables) = getAttribute observationId) :
    (printObservationIdAttribute getAttribute).SeesAnswers := by
  intro globals field cache tables same
  rw [printObservationIdAttribute, printObservationIdAttribute, show getAttribute (cache.withTables tables).observationId =
    getAttribute cache.observationId from fixed _ _ same]
  exact rfl

theorem printFlowCacheInterfaceStr_seesAnswers {number : FlowCache → UInt64}
    (fixedNumber : ∀ cache tables, number (FlowCache.withTables cache tables) = number cache)
    {interfaceStr : ObservationID → UInt64 → Option Bytes}
    (fixed : ∀ observationId tables, SameNames tables observationId →
      interfaceStr (observationId.withTables tables) = interfaceStr observationId) :
    (printFlowCacheInterfaceStr number interfaceStr).SeesAnswers := by
  intro globals field cache tables same
  rw [printFlowCacheInterfaceStr, printFlowCacheInterfaceStr, fixedNumber,
    show interfaceStr (cache.withTables tables).observationId =
      interfaceStr cache.observationId from fixed _ _ same]
  exact rfl

theorem processPort0_seesAnswers (save : FlowCachePorts → UInt16 → FlowCachePorts) :
    (processPort0 save).SeesAnswers :=
  fun _ _ _ _ _ => .ite rfl (.ite rfl rfl)

theorem processSnmpInterface_seesAnswers
    (save : FlowCacheInterfaces → UInt64 → FlowCacheInterfaces) :
    (processSnmpInterface save).SeesAnswers :=
  fun _ _ _ _ _ => .ite rfl rfl

theorem geoipDecorator_seesAnswers (text : ReadOnlyGlobals → Bytes → Bytes) :
    Exporter.SeesAnswers (geoipDecorator text) :=
  fun _ _ _ _ _ => .ite rfl rfl

/-! HTTP -/

theorem printCiscoPrivateBuffer_seesAnswers (expectedIdentifier : Bytes) :
    (printCiscoPrivateBuffer expectedIdentifier).SeesAnswers := by
  intro globals field cache tables same
  rw [printCiscoPrivateBuffer, printCiscoPrivateBuffer]
  cases ciscoPrivateContent expectedIdentifier field with
  | none => exact rfl
  | some content => exact rfl

theorem saveAndPrintCisco_seesAnswers (expectedIdentifier : Bytes)
    {save : FlowCache → Bytes → FlowCache}
    (fixed : ∀ cache content tables,
      save (FlowCache.withTables cache tables) content = (save cache content).withTables tables)
    (keeps : ∀ cache content, (save cache content).observationId = cache.observationId) :
    (saveAndPrintCisco expectedIdentifier save).SeesAnswers := by
  intro globals field cache tables same
  rw [saveAndPrintCisco, saveAndPrintCisco]
  cases ciscoPrivateContent expectedIdentifier field with
  | none => exact printCiscoPrivateBuffer_seesAnswers _ globals field cache tables same
  | some content =>
      have kept : SameNames tables (save cache content).observationId := by
        rw [keeps]
        exact same
      have sees := printCiscoPrivateBuffer_seesAnswers expectedIdentifier globals field _ _ kept
      rw [← fixed] at sees
      exact sees

theorem printHttpHostL2_seesAnswers : printHttpHostL2.SeesAnswers := by
  intro globals field cache tables same
  rw [printHttpHostL2, printHttpHostL2]
  cases ciscoPrivateContent httpHostId field with
  | none => exact rfl
  | some host => exact rfl

end Families

theorem getNetworkIn_withTables (observationId : ObservationID) (tables : LearnedTables)
    (ip : IpAddr) (order : List Network) :
    (observationId.withTables tables).getNetworkIn ip order =
      observationId.getNetworkIn ip order := by
  induction order with
  | nil => rfl
  | cons homeNet rest ih =>
      simp only [ObservationID.getNetworkIn, ih]
      rfl

theorem networkName_withTables (observationId : ObservationID) (tables : LearnedTables)
    (ip : IpAddr) : (observationId.withTables tables).networkName ip =
      observationId.networkName ip :=
  congrArg (· >>= _) (getNetworkIn_withTables observationId tables ip.foldIpv4 _)

theorem networkIp_withTables (observationId : ObservationID) (tables : LearnedTables)
    (ip : IpAddr) : (observationId.withTables tables).networkIp ip =
      observationId.networkIp ip :=
  congrArg (· >>= _) (getNetworkIn_withTables observationId tables ip.foldIpv4 _)

theorem exporterOf_seesAnswers :
    ∀ exportFn : ExportFn, (exporterOf exportFn).SeesAnswers
  | .saveFlowBytes | .saveFlowPkts
  | .saveFirstSwitched | .saveLastSwitched | .saveFirstSecond | .saveLastSecond
  | .saveFirstMsecond | .saveLastMsecond
  | .printNumber | .printEngineIdName | .printFlowCacheDirection | .printString
  | .printHost | .printHostL2 | .printReferer | .printRefererL2 | .printSsidName
  | .printDirectionBasedClientMacVendor | .printLanPort | .printWanPort | .printLanInterface
  | .printWanInterface | .printNetflowType
  | .printClientName | .printTargetName => fun _ _ _ _ _ => rfl
  | .printLanInterfaceName | .printWanInterfaceName =>
      printFlowCacheInterfaceStr_seesAnswers (fun _ _ => rfl)
        fun _ _ same => same.interfaceName
  | .printLanInterfaceDescription | .printWanInterfaceDescription =>
      printFlowCacheInterfaceStr_seesAnswers (fun _ _ => rfl)
        fun _ _ same => same.interfaceDescription
  | .printTcpFlags => printTcpFlags_seesAnswers
  | .processSrcPort | .processDstPort => processPort0_seesAnswers _
  | .printIpv4SrcAddr | .printIpv4DstAddr => processIpv4Addr0_seesAnswers _
  | .printIpv6SrcAddr | .printIpv6DstAddr => printIpv6_seesAnswers _
  | .printNet =>
      ipv4To6Decorator_seesAnswers
        (unlessNormalizing_seesAnswers (printNet0_seesAnswers networkIp_withTables _))
  | .printNetName =>
      ipv4To6Decorator_seesAnswers
        (unlessNormalizing_seesAnswers (printNet0_seesAnswers networkName_withTables _))
  | .printNetV6 =>
      unlessNormalizing_seesAnswers (printNet0_seesAnswers networkIp_withTables _)
  | .printNetNameV6 =>
      unlessNormalizing_seesAnswers (printNet0_seesAnswers networkName_withTables _)
  | .processInputSnmp | .processOutputSnmp => processSnmpInterface_seesAnswers _
  | .printInterfaceName =>
      unlessNormalizing_seesAnswers
        (printObservationIdAttribute_seesAnswers fun _ _ same => same.interfaceName)
  | .printInterfaceDescription =>
      unlessNormalizing_seesAnswers
        (printObservationIdAttribute_seesAnswers fun _ _ same => same.interfaceDescription)
  | .processSrcMac | .processPostSrcMac | .processDstMac | .processPostDstMac =>
      processMac0_seesAnswers _
  | .processDirection => processDirection_seesAnswers
  | .printApplicationIdName => printApplicationIdName_seesAnswers
  | .printFlowEndReason => printFlowEndReason_seesAnswers
  | .printBiflowDirection => printBiflowDirection_seesAnswers
  | .printSelectorName =>
      printObservationIdAttribute_seesAnswers fun _ _ same => same.selectorName
  | .printCountryCode | .printASIpv4Name =>
      unlessNormalizing_seesAnswers fun _ _ _ _ _ => .ite rfl rfl
  | .printCountry6Code | .printAS6Name => ofLength16_seesAnswers (geoipDecorator_seesAnswers _)
  | .printLanCountryCode | .printWanCountryCode | .printLanASName | .printWanASName =>
      printFlowCacheAddress_seesAnswers (fun _ _ => rfl) (geoipDecorator_seesAnswers _)
  | .printHttpUrl | .printHttpUserAgent => printCiscoPrivateBuffer_seesAnswers _
  | .printHttpHost | .printHttpReferer | .printHttpsCommonName =>
      saveAndPrintCisco_seesAnswers _ (fun _ _ _ => rfl) fun _ _ => rfl
  | .printHttpHostL2 => printHttpHostL2_seesAnswers
  | .printClientMac => printClientMac_seesAnswers
  | .printDirectionBasedClientMac => printDirectionBasedClientMac_seesAnswers
  | .printMacMap => printMacMap_seesAnswers
  | .printMacVendor => printMacVendor_seesAnswers
  | .printLanAddr => printLanAddr_seesAnswers
  | .printLanAddrNet | .printWanAddrNet =>
      printFlowCacheAddress_seesAnswers (fun _ _ => rfl)
        (printNet0_seesAnswers networkIp_withTables _)
  | .printLanAddrNetName | .printWanAddrNetName =>
      printFlowCacheAddress_seesAnswers (fun _ _ => rfl)
        (printNet0_seesAnswers networkName_withTables _)
  | .printWanAddr =>
      printFlowCacheAddress_seesAnswers (fun _ _ => rfl) printFlowCacheAddr_seesAnswers
  | .printStaIpv4Address => printStaIpv4Address_seesAnswers
  | .printMac => printMac_seesAnswers

theorem exportField_seesAnswers (globals : ReadOnlyGlobals) (exportFn : ExportFn)
    (buffer : Mem) (realFieldLen : Nat) {cache : FlowCache} {tables : LearnedTables}
    (same : SameNames tables cache.observationId) :
    Follow tables (exportField globals exportFn buffer realFieldLen cache)
      (exportField globals exportFn buffer realFieldLen (cache.withTables tables)) := by
  have kind := exporterOf_seesAnswers exportFn
  unfold exportField
  cases exporter : exporterOf exportFn with
  | field exporter =>
      rw [exporter] at kind
      exact kind globals _ cache tables same
  | firstByte exporter =>
      rw [exporter] at kind
      exact kind globals _ cache tables same

end F2k
