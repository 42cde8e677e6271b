import F2k.ExporterReports

namespace F2k

open Lib

/-! Exporters report the length of what they append: the printer takes back a key whose exporter
reports nothing. -/

/-- The MAC addresses are whole, and the texts are parts of fields. -/
structure FlowCache.Sized (cache : FlowCache) : Prop where
  macs : cache.ends.WholeMacs
  httpHost : ∀ text ∈ cache.httpHost, text.length < 2 ^ 16
  httpReferer : ∀ text ∈ cache.httpReferer, text.length < 2 ^ 16
  sslCommonName : ∀ text ∈ cache.sslCommonName, text.length < 2 ^ 16

structure SizedFlow where
  cache : FlowCache
  sized : cache.Sized

/-- The call ends, with the line as it was in front of what it appends and the length of that as
its result. -/
def ReportsAppended (globals : ReadOnlyGlobals) (exportFn : ExportFn) (buffer : Mem)
    (realFieldLen : Nat) (cache : FlowCache) : Prop :=
  ∀ line, ∃ exported after,
    (Printing.exported globals exportFn buffer realFieldLen cache).Ends line exported after ∧
      line <+: after ∧ exported.returned = after.length - line.length ∧
        (exported.returned = 0 ↔ after = line)

/-- The field is a MAC address that the exporter finds a name for. -/
structure NamesMac (globals : ReadOnlyGlobals) (exportFn : ExportFn) (field : Bytes) : Prop where
  exporter : exportFn = .printMacMap
  whole : field.length = 6
  address : net2number field ≠ 0
  named : ∃ node,
    (globals.rbDatabases.macNameDatabase.find? fun node => node.1 = net2number field) = some node ∧
      fastString node.2 ≠ []

/-! Sizes -/

section

variable {cache : FlowCache}

theorem FlowCache.Sized.host_short (sized : cache.Sized) :
    (extractFlowcacheHost cache).length < 2 ^ 32 := by
  unfold extractFlowcacheHost
  cases host : cache.httpHost with
  | some text => exact Nat.lt_trans (sized.httpHost text host) (by decide)
  | none =>
      cases common : cache.sslCommonName with
      | some text => exact Nat.lt_trans (sized.sslCommonName text common) (by decide)
      | none => exact Nat.pos_of_ne_zero (by decide)

theorem FlowCache.Sized.referer_short (sized : cache.Sized) :
    (extractFlowcacheReferer cache).length < 2 ^ 32 := by
  unfold extractFlowcacheReferer
  cases referer : cache.httpReferer with
  | some text => exact Nat.lt_trans (sized.httpReferer text referer) (by decide)
  | none => exact sized.host_short

theorem CachePart.Written.sized {part : CachePart} {after : FlowCache}
    (written : part.Written cache after) (noMacs : part ≠ .macs) (noHttp : part ≠ .http)
    (sized : cache.Sized) : after.Sized := by
  cases part with
  | macs | http => contradiction
  | nothing =>
      obtain rfl := written
      exact sized
  | clientMac | interfaces | ports | client | time =>
      obtain ⟨_, rfl⟩ := written
      exact { sized with macs := { sized.macs with } }
  | ends | counts =>
      obtain ⟨_, _, rfl⟩ := written
      exact { sized with macs := { sized.macs with } }

theorem processMac0_sized {save : FlowCacheMacs → Bytes → FlowCacheMacs}
    (saves : ∀ mac, mac.length = 6 →
      FlowEnds.WholeMacs { cache.ends with macs := save cache.macs mac })
    (globals : ReadOnlyGlobals) (field : Bytes) (sized : cache.Sized) :
    Outcome (fun _ => False) (fun printed => printed.cache.Sized)
      (processMac0 save globals field cache) := by
  unfold processMac0 printMac
  dsimp only
  split
  · split
    · next whole => exact { sized with macs := { saves field whole with } }
    · exact sized
  · split
    · exact sized
    · exact sized

theorem processDirection_sized (globals : ReadOnlyGlobals) (field : Bytes)
    (sized : cache.Sized) :
    Outcome (fun _ => False) (fun printed => printed.cache.Sized)
      (processDirection globals field cache) := by
  unfold processDirection
  dsimp only
  split
  · exact sized
  · split
    · exact { sized with macs := { sized.macs with } }
    · exact sized

theorem ciscoPrivateContent_length {expectedIdentifier field content : Bytes}
    (found : ciscoPrivateContent expectedIdentifier field = some content) :
    content.length ≤ field.length := by
  unfold ciscoPrivateContent at found
  split at found
  · contradiction
  · split at found
    · contradiction
    · obtain rfl := Option.some.inj found
      rw [List.length_drop]
      exact Nat.sub_le _ _

theorem saveAndPrintCisco_sized {expectedIdentifier field : Bytes}
    {save : FlowCache → Bytes → FlowCache} (short : field.length < 2 ^ 16)
    (saves : ∀ content, (∀ text ∈ some content, text.length < 2 ^ 16) → (save cache content).Sized)
    (globals : ReadOnlyGlobals) (sized : cache.Sized) :
    Outcome (fun _ => False) (fun printed => printed.cache.Sized)
      (saveAndPrintCisco expectedIdentifier save globals field cache) := by
  rw [saveAndPrintCisco, printCiscoPrivateBuffer]
  cases found : ciscoPrivateContent expectedIdentifier field with
  | some content =>
      apply saves content
      intro text same
      obtain rfl := Option.some.inj same
      exact Nat.lt_of_le_of_lt (ciscoPrivateContent_length found) short
  | none => exact sized

theorem exportField_sized (globals : ReadOnlyGlobals) (exportFn : ExportFn) (buffer : Mem)
    {realFieldLen : Nat} (short : realFieldLen < 2 ^ 16) (sized : cache.Sized) :
    Outcome (fun _ => False) (fun printed => printed.cache.Sized)
      (exportField globals exportFn buffer realFieldLen cache) := by
  have short : (buffer.slice realFieldLen).length < 2 ^ 16 := by rwa [Mem.length_slice]
  have writes := exportField_writes globals exportFn buffer realFieldLen cache
  unfold exportField at writes ⊢
  cases exportFn with
  | processSrcMac =>
      refine processMac0_sized ?_ globals _ sized
      exact fun _ whole => { sized.macs with srcMac := whole }
  | processDstMac =>
      refine processMac0_sized ?_ globals _ sized
      exact fun _ whole => { sized.macs with dstMac := whole }
  | processPostSrcMac =>
      refine processMac0_sized ?_ globals _ sized
      exact fun _ _ => { sized.macs with }
  | processPostDstMac =>
      refine processMac0_sized ?_ globals _ sized
      exact fun _ whole => { sized.macs with postDstMac := whole }
  | processDirection => exact processDirection_sized globals _ sized
  | printHttpHost =>
      refine saveAndPrintCisco_sized short ?_ globals sized
      exact fun _ fits => { sized with httpHost := fits, macs := { sized.macs with } }
  | printHttpReferer =>
      refine saveAndPrintCisco_sized short ?_ globals sized
      exact fun _ fits => { sized with httpReferer := fits, macs := { sized.macs with } }
  | printHttpsCommonName =>
      refine saveAndPrintCisco_sized short ?_ globals sized
      exact fun _ fits => { sized with sslCommonName := fits, macs := { sized.macs with } }
  | _ => exact writes.mono fun _ written => written.sized nofun nofun sized

end

namespace Printing

theorem Reports.appended {program : Printing Exported} {run : Run Printed}
    (reports : Reports program run) (line : Bytes) :
    ∃ exported after, program.Ends line exported after ∧ line <+: after ∧
      exported.returned = after.length - line.length ∧ (exported.returned = 0 ↔ after = line) := by
  obtain ⟨text, cache, _, appends⟩ := reports
  refine ⟨_, _, appends line, List.prefix_append line text, ?_, ?_⟩
  · rw [List.length_append, Nat.add_sub_cancel_left]
  · rw [List.append_right_eq_self]
    exact List.length_eq_zero_iff

/-! Hosts and other texts that are escaped -/

section

variable {globals : AnsweringGlobals} {flow : SizedFlow} {field : Bytes}

theorem printDirectionBasedClientMac_reports (globals : ReadOnlyGlobals) (field : Bytes)
    (flow : SizedFlow) :
    Reports (printDirectionBasedClientMac globals field flow.cache)
      (F2k.printDirectionBasedClientMac globals field flow.cache) :=
  .ite (fun _ => .saves _) fun _ => .prints (appendsText_printMac0 flow.sized.macs.clientMac) _

theorem printCiscoPrivateBuffer_reports (globals : ReadOnlyGlobals)
    (short : field.length < 2 ^ 16) (expectedIdentifier : Bytes) (cache : FlowCache) :
    Reports (printCiscoPrivateBuffer expectedIdentifier globals field cache)
      (F2k.printCiscoPrivateBuffer expectedIdentifier globals field cache) := by
  rw [printCiscoPrivateBuffer, F2k.printCiscoPrivateBuffer]
  cases found : ciscoPrivateContent expectedIdentifier field with
  | some content =>
      have fits := Nat.lt_of_le_of_lt (ciscoPrivateContent_length found) short
      exact .prints (appendsText_appendEscaped (Nat.lt_trans fits (by decide))) cache
  | none => exact .saves cache

theorem printHttpHostL2_reports (globals : ReadOnlyGlobals) (short : field.length < 2 ^ 16)
    (cache : FlowCache) :
    Reports (printHttpHostL2 globals field cache) (F2k.printHttpHostL2 globals field cache) := by
  rw [printHttpHostL2, F2k.printHttpHostL2]
  cases found : ciscoPrivateContent httpHostId field with
  | some host =>
      have fits := Nat.lt_of_le_of_lt (ciscoPrivateContent_length found) short
      exact .prints (appendsText_printHttpL2Domain globals (Nat.lt_trans fits (by decide))) cache
  | none => exact .saves cache

theorem printReferer_reports (globals : ReadOnlyGlobals) (field : Bytes) (flow : SizedFlow) :
    Reports (printReferer globals field flow.cache)
      (F2k.printReferer globals field flow.cache) := by
  have short := flow.sized.referer_short
  rw [printReferer, F2k.printReferer]
  unfold extractFlowcacheReferer at short ⊢
  cases referer : flow.cache.httpReferer with
  | some text =>
      rw [referer] at short
      exact .prints (appendsText_appendEscaped short) flow.cache
  | none => exact .prints (appendsText_appendEscaped flow.sized.host_short) flow.cache

theorem printMacMap_reports (globals : ReadOnlyGlobals)
    (unnamed : ¬NamesMac globals .printMacMap field) (cache : FlowCache) :
    Reports (printMacMap globals field cache) (F2k.printMacMap globals field cache) := by
  refine .iteNot Iff.rfl (fun _ => .saves cache) fun whole => ?_
  apply printMacMap0_reports globals cache whole
  intro address node found
  rw [← not_ne_iff]
  intro named
  exact unnamed { exporter := rfl, whole, address, named := ⟨node, found, named⟩ }

theorem printFlowEndReason_reports (globals : ReadOnlyGlobals) (reason : UInt8)
    (cache : FlowCache) :
    Reports (printFlowEndReason globals reason cache)
      (F2k.printFlowEndReason globals reason cache) := by
  have plain : ∀ entry ∈ flowEndReasons, ∀ text ∈ entry, fastString text = text := by decide
  rw [printFlowEndReason, F2k.printFlowEndReason]
  cases found : flowEndReasons[reason.toNat]? with
  | none => exact .saves cache
  | some entry =>
      cases entry with
      | none => exact .saves cache
      | some text =>
          have appends := appendsText_memappendFastString text
          rw [plain _ (List.mem_of_getElem? found) text rfl] at appends
          exact .prints appends cache

theorem printBiflowDirection_reports (globals : ReadOnlyGlobals) (direction : UInt8)
    (cache : FlowCache) :
    Reports (printBiflowDirection globals direction cache)
      (F2k.printBiflowDirection globals direction cache) := by
  have plain : ∀ text ∈ biflowDirections, fastString text = text := by decide
  rw [printBiflowDirection, F2k.printBiflowDirection]
  cases found : biflowDirections[direction.toNat]? with
  | none => exact .saves cache
  | some text =>
      have appends := appendsText_memappendFastString text
      rw [plain _ (List.mem_of_getElem? found)] at appends
      exact .prints appends cache

theorem exported_reports (globals : AnsweringGlobals) (exportFn : ExportFn) (buffer : Mem)
    {realFieldLen : Nat} (short : realFieldLen < 2 ^ 16) (flow : SizedFlow)
    (unnamed : ¬NamesMac globals.toReadOnlyGlobals exportFn (buffer.slice realFieldLen)) :
    Reports (exported globals.toReadOnlyGlobals exportFn buffer realFieldLen flow.cache)
      (exportField globals.toReadOnlyGlobals exportFn buffer realFieldLen flow.cache) := by
  have short : (buffer.slice realFieldLen).length < 2 ^ 16 := by rwa [Mem.length_slice]
  unfold exported exportField
  cases exportFn
  case saveFlowBytes | saveFlowPkts | saveFirstSecond | saveLastSecond | saveFirstSwitched
      | saveLastSwitched =>
    exact saveFlowcacheNumberParameter_reports (fun _ _ _ => rfl) globals _ _
  case printNumber => exact printNumber_reports globals _ _
  case printTcpFlags => exact printTcpFlags_reports globals _ _
  case processSrcPort | processDstPort => exact processPort0_reports _ globals _ _
  case printIpv4SrcAddr | printIpv4DstAddr => exact processIpv4Addr0_reports _ globals _ _
  case printNet =>
    exact ipv4To6Decorator_reports (unlessNormalizing_reports printNetV60_reports) globals _ _
  case printNetName =>
    exact ipv4To6Decorator_reports (unlessNormalizing_reports printNetNameV60_reports) globals _ _
  case processInputSnmp | processOutputSnmp => exact processSnmpInterface_reports _ globals _ _
  case printInterfaceName | printInterfaceDescription =>
    exact unlessNormalizing_reports (printObservationIdAttribute_reports _) globals _ _
  case printIpv6SrcAddr | printIpv6DstAddr => exact printIpv6_reports _ globals _ _
  case printNetV6 => exact unlessNormalizing_reports printNetV60_reports globals _ _
  case printNetNameV6 => exact unlessNormalizing_reports printNetNameV60_reports globals _ _
  case printEngineIdName => exact .prints (appendsText_printEngineIdName0 _ _) _
  case processSrcMac | processPostSrcMac | processDstMac | processPostDstMac =>
    exact processMac0_reports _ globals _ _
  case processDirection => exact processDirection_reports globals _ _
  case printFlowCacheDirection => exact printFlowCacheDirection_reports globals _ _
  case printApplicationIdName => exact printApplicationIdName_reports globals _ _
  case printFlowEndReason => exact printFlowEndReason_reports _ _ _
  case printBiflowDirection => exact printBiflowDirection_reports _ _ _
  case saveFirstMsecond | saveLastMsecond =>
    exact callbackMiliBuffer_reports
      (saveFlowcacheNumberParameter_reports fun _ _ _ => rfl) globals _ _
  case printSelectorName => exact printObservationIdAttribute_reports _ globals _ _
  case printString => exact printString_reports globals _ _
  case printCountryCode => exact printCountryCode_reports globals _ _
  case printASIpv4Name => exact printASIpv4Name_reports globals _ _
  case printCountry6Code =>
    exact ofLength16_reports (geoipDecorator_reports appendsText_printCountry6CodeNl) globals _ _
  case printAS6Name =>
    exact ofLength16_reports (geoipDecorator_reports appendsText_printAS6NameNl) globals _ _
  case printLanCountryCode | printWanCountryCode =>
    exact printFlowCacheAddress_reports (geoipDecorator_reports appendsText_printCountry6CodeNl) _
      globals _ _
  case printLanASName | printWanASName =>
    exact printFlowCacheAddress_reports (geoipDecorator_reports appendsText_printAS6NameNl) _
      globals _ _
  case printHttpUrl | printHttpUserAgent | printHttpHost | printHttpReferer
      | printHttpsCommonName =>
    exact printCiscoPrivateBuffer_reports globals.toReadOnlyGlobals short _ _
  case printHttpHostL2 => exact printHttpHostL2_reports _ short _
  case printHost => exact .prints (appendsText_appendEscaped flow.sized.host_short) _
  case printHostL2 => exact .prints (appendsText_printHttpL2Domain _ flow.sized.host_short) _
  case printReferer => exact printReferer_reports _ _ flow
  case printRefererL2 => exact .prints (appendsText_printHttpL2Domain _ flow.sized.referer_short) _
  case printSsidName => exact printSsidName_reports globals _ _
  case printClientMac => exact printClientMac_reports globals _ _
  case printDirectionBasedClientMac => exact printDirectionBasedClientMac_reports _ _ flow
  case printMacMap => exact printMacMap_reports _ unnamed _
  case printMacVendor => exact printMacVendor_reports globals _ _
  case printDirectionBasedClientMacVendor =>
    exact printDirectionBasedClientMacVendor_reports globals _ _
  case printLanAddr => exact printLanAddr_reports globals _ _
  case printLanAddrNet | printWanAddrNet =>
    exact printFlowCacheAddress_reports printNetV60_reports _ globals _ _
  case printLanAddrNetName | printWanAddrNetName =>
    exact printFlowCacheAddress_reports printNetNameV60_reports _ globals _ _
  case printWanAddr => exact printFlowCacheAddress_reports printFlowCacheAddr_reports _ globals _ _
  case printLanPort | printWanPort | printLanInterface | printWanInterface =>
    exact printFlowCacheNumber_reports _ globals _ _
  case printLanInterfaceName | printLanInterfaceDescription | printWanInterfaceName
      | printWanInterfaceDescription =>
    exact printFlowCacheInterfaceStr_reports _ _ globals _ _
  case printStaIpv4Address => exact printStaIpv4Address_reports globals _ _
  case printMac => exact printMac_reports globals _ _
  case printNetflowType => exact printNetflowType_reports globals _ _
  case printClientName => exact printClientName_reports globals _ _
  case printTargetName => exact printTargetName_reports globals _ _

end

end Printing

/-- A named address is reported as the address alone. -/
theorem NamesMac.not_reports {globals : ReadOnlyGlobals} {exportFn : ExportFn} {buffer : Mem}
    {realFieldLen : Nat} (names : NamesMac globals exportFn (buffer.slice realFieldLen))
    (cache : FlowCache) : ¬ReportsAppended globals exportFn buffer realFieldLen cache := by
  obtain ⟨rfl, whole, address, node, found, named⟩ := names
  intro reports
  obtain ⟨exported, after, ends, _, counted, _⟩ := reports []
  have prints := Program.Appends.bind_pure
    (Printing.appends_printMacMap0_named globals whole address found)
      fun returned => ({ returned, cache } : Exported)
  have call : (Printing.exported globals .printMacMap buffer realFieldLen cache) =
      Printing.prints cache (Printing.printMacMap0 globals (buffer.slice realFieldLen)) :=
    if_neg (not_not.mpr whole)
  rw [call] at ends
  obtain ⟨rfl, rfl⟩ := ends.unique (prints [])
  have nonempty := List.length_pos_of_ne_nil named
  rw [List.nil_append, List.length_append, Printing.macText_length whole, List.length_nil] at counted
  dsimp only at counted
  omega

/-- Only the name of a MAC address is left out of what is reported. -/
theorem reportsAppended_iff (globals : AnsweringGlobals) (exportFn : ExportFn) (buffer : Mem)
    (realFieldLen : UInt16) (flow : SizedFlow) :
    ReportsAppended globals.toReadOnlyGlobals exportFn buffer realFieldLen.toNat flow.cache ↔
      ¬NamesMac globals.toReadOnlyGlobals exportFn (buffer.slice realFieldLen.toNat) := by
  constructor
  · intro reports names
    exact names.not_reports flow.cache reports
  · intro unnamed line
    exact (Printing.exported_reports globals exportFn buffer realFieldLen.toNat_lt flow
      unnamed).appended line

def namingGlobals : ReadOnlyGlobals :=
  { splittingGlobals with
    rbDatabases :=
      { splittingGlobals.rbDatabases with macNameDatabase := [(0x020000000001, ascii "lab")] } }

/-- `lab` and 17 bytes of the address are appended, and 17 bytes reported. -/
theorem not_reportsAppended :
    ¬ReportsAppended namingGlobals .printMacMap (.ofBytes [2, 0, 0, 0, 0, 1]) 6 newFlow := by
  apply NamesMac.not_reports
  exact
    { exporter := rfl
      whole := by decide
      address := by decide
      named := ⟨(0x020000000001, ascii "lab"), by decide, by decide⟩ }

end F2k
