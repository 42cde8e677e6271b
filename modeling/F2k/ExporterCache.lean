import F2k.Exporters

namespace F2k

open Lib

/-! What exporters leave in the flow cache besides what they print: each of them writes one
part of it at most. -/

inductive CachePart
  | nothing
  | clientMac
  | interfaces
  | macs
  | ports
  | http
  | client
  | ends
  | time
  | counts
deriving DecidableEq

/-- The flow cache after only this part of it was written. -/
def CachePart.Written : CachePart → FlowCache → FlowCache → Prop
  | .nothing, before, after => after = before
  | .clientMac, before, after => ∃ clientMac, after = { before with clientMac }
  | .interfaces, before, after => ∃ interfaces, after = { before with interfaces }
  | .macs, before, after => ∃ macs, after = { before with macs }
  | .ports, before, after => ∃ ports, after = { before with ports }
  | .http, before, after => ∃ httpReferer httpHost sslCommonName,
      after = { before with httpReferer, httpHost, sslCommonName }
  | .client, before, after => ∃ client,
      after = { before with address := { before.address with client } }
  | .ends, before, after => ∃ src dst,
      after = { before with address := { before.address with src, dst } }
  | .time, before, after => ∃ time, after = { before with time }
  | .counts, before, after => ∃ bytes packets, after = { before with bytes, packets }

theorem CachePart.written_refl (part : CachePart) (cache : FlowCache) :
    part.Written cache cache := by
  cases part with
  | nothing => rfl
  | clientMac | interfaces | macs | ports | client | time => exact ⟨_, rfl⟩
  | ends | counts => exact ⟨_, _, rfl⟩
  | http => exact ⟨_, _, _, rfl⟩

/-- The run stops nowhere, and writes only this part of the flow cache. -/
def Writes (part : CachePart) (cache : FlowCache) (run : Run Printed) : Prop :=
  Outcome (fun _ => True) (fun printed => part.Written cache printed.cache) run

theorem Writes.ite {part : CachePart} {cache : FlowCache} {run other : Run Printed}
    {condition : Prop} [Decidable condition] (yes : Writes part cache run)
    (no : Writes part cache other) : Writes part cache (if condition then run else other) := by
  split
  · exact yes
  · exact no

theorem Writes.of_nothing {part : CachePart} {cache : FlowCache} {run : Run Printed}
    (writes : Writes .nothing cache run) : Writes part cache run := by
  refine writes.mono ?_
  intro printed same
  rw [show printed.cache = cache from same]
  exact part.written_refl cache

def Exporter.Writes (part : CachePart) (exporter : Exporter) : Prop :=
  ∀ globals field cache, F2k.Writes part cache (exporter globals field cache)

def ExporterKind.Writes (part : CachePart) : ExporterKind → Prop
  | .field exporter => exporter.Writes part
  | .firstByte exporter =>
      ∀ globals first cache, F2k.Writes part cache (exporter globals first cache)

/-! Exporters that print a text or save a value, as long as the field admits it. -/

section Families

variable {exporter : Exporter} {part : CachePart}

theorem printTcpFlags_writes : Exporter.Writes .nothing printTcpFlags := by
  intro globals field cache
  unfold printTcpFlags
  split
  · exact .ite rfl rfl
  · exact .ite rfl rfl
  · exact rfl

theorem printFlowEndReason_writes :
    (ExporterKind.firstByte printFlowEndReason).Writes .nothing := by
  intro globals reason cache
  rw [printFlowEndReason]
  split <;> exact rfl

theorem printBiflowDirection_writes :
    (ExporterKind.firstByte printBiflowDirection).Writes .nothing := by
  intro globals direction cache
  rw [printBiflowDirection]
  split <;> exact rfl

theorem processDirection_writes : Exporter.Writes .macs processDirection :=
  fun _ _ _ => .ite ⟨_, rfl⟩ (.ite ⟨_, rfl⟩ ⟨_, rfl⟩)

theorem printMac_writes : Exporter.Writes .nothing printMac :=
  fun _ _ _ => .ite rfl rfl

theorem processMac0_writes (save : FlowCacheMacs → Bytes → FlowCacheMacs) :
    Exporter.Writes .macs (processMac0 save) :=
  fun globals field cache =>
    .ite (.ite ⟨_, rfl⟩ ⟨_, rfl⟩) (.of_nothing (printMac_writes globals field cache))

theorem printMacVendor_writes : Exporter.Writes .nothing printMacVendor :=
  fun _ _ _ => .ite rfl rfl

theorem printMacMap_writes : Exporter.Writes .nothing printMacMap := by
  intro globals field cache
  refine .ite (.ite rfl ?_) rfl
  split
  · exact rfl
  · exact .ite rfl rfl

theorem printDirectionBasedClientMac_writes :
    Exporter.Writes .clientMac printDirectionBasedClientMac :=
  fun _ _ _ => .ite ⟨_, rfl⟩ ⟨_, rfl⟩

theorem printClientMac_writes : Exporter.Writes .clientMac printClientMac :=
  fun _ _ _ => .ite ⟨_, rfl⟩ (.ite ⟨_, rfl⟩ ⟨_, rfl⟩)

/-! Decorators write what the decorated exporter does. -/

theorem unlessNormalizing_writes (writes : exporter.Writes part) :
    Exporter.Writes part (unlessNormalizing exporter) :=
  fun globals field cache => .ite (part.written_refl cache) (writes globals field cache)

theorem ipv4To6Decorator_writes (writes : exporter.Writes part) :
    Exporter.Writes part (ipv4To6Decorator exporter) :=
  fun globals _ cache => .ite (part.written_refl cache) (writes globals _ cache)

theorem ofLength16_writes (writes : exporter.Writes part) :
    Exporter.Writes part (ofLength16 exporter) :=
  fun globals field cache => .ite (part.written_refl cache) (writes globals field cache)

theorem printFlowCacheAddress_writes (slot : FlowCache → AddressSlot)
    (writes : exporter.Writes part) :
    Exporter.Writes part (printFlowCacheAddress slot exporter) :=
  fun globals _ cache => writes globals _ cache

/-! Networks, addresses and ports -/

theorem printNet0_writes (sensorListSearch : ObservationID → IpAddr → Run (Option Bytes))
    (globalNetList : IPNameAssoc → Bytes) :
    Exporter.Writes .nothing (printNet0 sensorListSearch globalNetList) := by
  intro globals field cache
  refine .ite rfl ?_
  cases sensorListSearch cache.observationId (.ofOctets field) with
  | error fault => exact trivial
  | ok found =>
      cases found with
      | some homeNet => exact rfl
      | none =>
          simp only [Run.ok_bind]
          split <;> exact rfl

theorem printIpv4Addr_writes : Exporter.Writes .nothing printIpv4Addr :=
  fun _ _ _ => .ite rfl rfl

theorem processIpv4Addr0_writes {save : FlowCacheAddress → Bytes → FlowCacheAddress}
    (saves : ∀ address ip, ∃ src dst, save address ip = { address with src, dst }) :
    Exporter.Writes .ends (processIpv4Addr0 save) := by
  intro globals field cache
  refine .ite (.ite ?_ ⟨_, _, rfl⟩) (.of_nothing (printIpv4Addr_writes globals field cache))
  obtain ⟨src, dst, saved⟩ := saves cache.address (ipv4bufTo6 field)
  exact ⟨src, dst, congrArg (fun address => { cache with address }) saved⟩

theorem printIpv6_writes {save : FlowCacheAddress → Bytes → FlowCacheAddress}
    (saves : ∀ address ip, ∃ src dst, save address ip = { address with src, dst }) :
    Exporter.Writes .ends (printIpv6 save) := by
  intro globals field cache
  refine .ite ⟨_, _, rfl⟩ ?_
  obtain ⟨src, dst, saved⟩ := saves cache.address field
  exact ⟨src, dst, congrArg (fun address => { cache with address }) saved⟩

theorem printFlowCacheAddr_writes : Exporter.Writes .nothing printFlowCacheAddr :=
  fun _ _ _ => rfl

theorem printStaIpv4Address_writes : Exporter.Writes .client printStaIpv4Address :=
  fun _ _ _ => .ite ⟨_, rfl⟩ ⟨_, rfl⟩

theorem printLanAddr_writes : Exporter.Writes .nothing printLanAddr :=
  fun _ _ _ => .ite rfl rfl

theorem printApplicationIdName_writes : Exporter.Writes .nothing printApplicationIdName := by
  intro globals field cache
  refine .ite rfl ?_
  split <;> exact rfl

theorem printObservationIdAttribute_writes
    (getAttribute : ObservationID → UInt64 → Option Bytes) :
    Exporter.Writes .nothing (printObservationIdAttribute getAttribute) :=
  fun _ _ _ => rfl

theorem processPort0_writes (save : FlowCachePorts → UInt16 → FlowCachePorts) :
    Exporter.Writes .ports (processPort0 save) :=
  fun _ _ _ => .ite ⟨_, rfl⟩ (.ite ⟨_, rfl⟩ ⟨_, rfl⟩)

theorem processSnmpInterface_writes (save : FlowCacheInterfaces → UInt64 → FlowCacheInterfaces) :
    Exporter.Writes .interfaces (processSnmpInterface save) :=
  fun _ _ _ => .ite ⟨_, rfl⟩ ⟨_, rfl⟩

theorem printCountryCode_writes : Exporter.Writes .nothing printCountryCode :=
  unlessNormalizing_writes fun _ _ _ => .ite rfl rfl

theorem printASIpv4Name_writes : Exporter.Writes .nothing printASIpv4Name :=
  unlessNormalizing_writes fun _ _ _ => .ite rfl rfl

theorem geoipDecorator_writes (text : ReadOnlyGlobals → Bytes → Bytes) :
    Exporter.Writes .nothing (geoipDecorator text) :=
  fun _ _ _ => .ite rfl rfl

/-! HTTP -/

theorem printCiscoPrivateBuffer_writes (expectedIdentifier : Bytes) :
    Exporter.Writes .nothing (printCiscoPrivateBuffer expectedIdentifier) := by
  intro globals field cache
  rw [printCiscoPrivateBuffer]
  split <;> exact rfl

theorem saveAndPrintCisco_writes (expectedIdentifier : Bytes)
    {save : FlowCache → Bytes → FlowCache}
    (saves : ∀ cache content, CachePart.http.Written cache (save cache content)) :
    Exporter.Writes .http (saveAndPrintCisco expectedIdentifier save) := by
  intro globals field cache
  rw [saveAndPrintCisco]
  refine (printCiscoPrivateBuffer_writes expectedIdentifier globals field _).mono ?_
  intro printed same
  rw [show printed.cache = _ from same]
  cases ciscoPrivateContent expectedIdentifier field with
  | none => exact CachePart.http.written_refl cache
  | some content => exact saves cache content

theorem printHttpHostL2_writes : Exporter.Writes .nothing printHttpHostL2 := by
  intro globals field cache
  rw [printHttpHostL2]
  split <;> exact rfl

end Families

/-- The part of the flow cache that an exporter writes. -/
def ExportFn.writes : ExportFn → CachePart
  | .saveFlowBytes | .saveFlowPkts => .counts
  | .saveFirstSwitched | .saveLastSwitched | .saveFirstSecond | .saveLastSecond
  | .saveFirstMsecond | .saveLastMsecond => .time
  | .processSrcPort | .processDstPort => .ports
  | .processInputSnmp | .processOutputSnmp => .interfaces
  | .printIpv4SrcAddr | .printIpv4DstAddr | .printIpv6SrcAddr | .printIpv6DstAddr => .ends
  | .processSrcMac | .processPostSrcMac | .processDstMac | .processPostDstMac
  | .processDirection => .macs
  | .printHttpHost | .printHttpReferer | .printHttpsCommonName => .http
  | .printClientMac | .printDirectionBasedClientMac => .clientMac
  | .printStaIpv4Address => .client
  | _ => .nothing

theorem exporterOf_writes : ∀ exportFn : ExportFn, (exporterOf exportFn).Writes exportFn.writes
  | .saveFlowBytes | .saveFlowPkts => fun _ _ _ => ⟨_, _, rfl⟩
  | .saveFirstSwitched | .saveLastSwitched | .saveFirstSecond | .saveLastSecond
  | .saveFirstMsecond | .saveLastMsecond => fun _ _ _ => ⟨_, rfl⟩
  | .printNumber | .printEngineIdName | .printFlowCacheDirection | .printString
  | .printHost | .printHostL2 | .printReferer | .printRefererL2 | .printSsidName
  | .printDirectionBasedClientMacVendor | .printLanPort | .printWanPort | .printLanInterface
  | .printLanInterfaceName | .printLanInterfaceDescription | .printWanInterface
  | .printWanInterfaceName | .printWanInterfaceDescription | .printNetflowType
  | .printClientName | .printTargetName => fun _ _ _ => rfl
  | .printTcpFlags => printTcpFlags_writes
  | .processSrcPort | .processDstPort => processPort0_writes _
  | .printIpv4SrcAddr | .printIpv4DstAddr => processIpv4Addr0_writes fun _ _ => ⟨_, _, rfl⟩
  | .printIpv6SrcAddr | .printIpv6DstAddr => printIpv6_writes fun _ _ => ⟨_, _, rfl⟩
  | .printNet | .printNetName =>
      ipv4To6Decorator_writes (unlessNormalizing_writes (printNet0_writes _ _))
  | .printNetV6 | .printNetNameV6 => unlessNormalizing_writes (printNet0_writes _ _)
  | .processInputSnmp | .processOutputSnmp => processSnmpInterface_writes _
  | .printInterfaceName | .printInterfaceDescription =>
      unlessNormalizing_writes (printObservationIdAttribute_writes _)
  | .processSrcMac | .processPostSrcMac | .processDstMac | .processPostDstMac =>
      processMac0_writes _
  | .processDirection => processDirection_writes
  | .printApplicationIdName => printApplicationIdName_writes
  | .printFlowEndReason => printFlowEndReason_writes
  | .printBiflowDirection => printBiflowDirection_writes
  | .printSelectorName => printObservationIdAttribute_writes _
  | .printCountryCode => printCountryCode_writes
  | .printASIpv4Name => printASIpv4Name_writes
  | .printCountry6Code | .printAS6Name => ofLength16_writes (geoipDecorator_writes _)
  | .printLanCountryCode | .printWanCountryCode | .printLanASName | .printWanASName =>
      printFlowCacheAddress_writes _ (geoipDecorator_writes _)
  | .printHttpUrl | .printHttpUserAgent => printCiscoPrivateBuffer_writes _
  | .printHttpHost | .printHttpReferer | .printHttpsCommonName =>
      saveAndPrintCisco_writes _ fun _ _ => ⟨_, _, _, rfl⟩
  | .printHttpHostL2 => printHttpHostL2_writes
  | .printClientMac => printClientMac_writes
  | .printDirectionBasedClientMac => printDirectionBasedClientMac_writes
  | .printMacMap => printMacMap_writes
  | .printMacVendor => printMacVendor_writes
  | .printLanAddr => printLanAddr_writes
  | .printLanAddrNet | .printLanAddrNetName | .printWanAddrNet | .printWanAddrNetName =>
      printFlowCacheAddress_writes _ (printNet0_writes _ _)
  | .printWanAddr => printFlowCacheAddress_writes _ printFlowCacheAddr_writes
  | .printStaIpv4Address => printStaIpv4Address_writes
  | .printMac => printMac_writes

/-- No exporter stops, and none writes more of the flow cache than its part. -/
theorem exportField_writes (globals : ReadOnlyGlobals) (exportFn : ExportFn) (buffer : Mem)
    (realFieldLen : Nat) (cache : FlowCache) :
    Outcome (fun _ => False) (fun printed => exportFn.writes.Written cache printed.cache)
      (exportField globals exportFn buffer realFieldLen cache) := by
  have writes : Writes exportFn.writes cache
      (exportField globals exportFn buffer realFieldLen cache) := by
    have kind := exporterOf_writes exportFn
    unfold exportField
    cases exporter : exporterOf exportFn with
    | field exporter =>
        rw [exporter] at kind
        exact kind globals _ cache
    | firstByte exporter =>
        rw [exporter] at kind
        exact kind globals _ cache
  have runs := exportField_prints globals exportFn buffer realFieldLen cache
  exact ((runs.and writes).mono_fails fun _ both => both.1).mono fun _ both => both.2

def Element.writes (element : Element) : CachePart :=
  (element.exportFn.map ExportFn.writes).getD .nothing

theorem Element.exported_writes (globals : ReadOnlyGlobals) (element : Element) (buffer : Mem)
    (realFieldLen : Nat) (cache : FlowCache) :
    Outcome (fun _ => False) (fun printed => element.writes.Written cache printed.cache)
      (element.exported globals buffer realFieldLen cache) := by
  unfold Element.exported Element.writes
  cases element.exportFn with
  | none => exact rfl
  | some exportFn => exact exportField_writes globals exportFn buffer realFieldLen cache

theorem printElement_writes {globals : ReadOnlyGlobals} {element : Element}
    (named : element.jsonElementName ≠ none) (line : Bytes) (buffer : Mem) (realFieldLen : Nat)
    (cache : FlowCache) :
    Outcome (fun _ => False) (fun printed => element.writes.Written cache printed.cache)
      (printElement globals line element buffer realFieldLen cache) :=
  printElement_outcome (fun nameless => absurd nameless named)
    (element.exported_writes globals buffer realFieldLen cache) fun _ _ _ _ written => written

theorem CachePart.Written.observationId {part : CachePart} {before after : FlowCache}
    (written : part.Written before after) : after.observationId = before.observationId := by
  cases part with
  | nothing =>
      cases written
      rfl
  | clientMac | interfaces | macs | ports | client | time =>
      obtain ⟨_, rfl⟩ := written
      rfl
  | ends | counts =>
      obtain ⟨_, _, rfl⟩ := written
      rfl
  | http =>
      obtain ⟨_, _, _, rfl⟩ := written
      rfl

theorem CachePart.Written.time {part : CachePart} {before after : FlowCache}
    (written : part.Written before after) (others : part ≠ .time) : after.time = before.time := by
  cases part with
  | nothing =>
      cases written
      rfl
  | time => contradiction
  | clientMac | interfaces | macs | ports | client =>
      obtain ⟨_, rfl⟩ := written
      rfl
  | ends | counts =>
      obtain ⟨_, _, rfl⟩ := written
      rfl
  | http =>
      obtain ⟨_, _, _, rfl⟩ := written
      rfl

theorem CachePart.Written.clientMac {part : CachePart} {before after : FlowCache}
    (written : part.Written before after) (others : part ≠ .clientMac) :
    after.clientMac = before.clientMac := by
  cases part with
  | nothing =>
      cases written
      rfl
  | clientMac => contradiction
  | interfaces | macs | ports | client | time =>
      obtain ⟨_, rfl⟩ := written
      rfl
  | ends | counts =>
      obtain ⟨_, _, rfl⟩ := written
      rfl
  | http =>
      obtain ⟨_, _, _, rfl⟩ := written
      rfl

def ExportFn.savesTime : ExportFn → Bool
  | .saveFirstSwitched | .saveLastSwitched | .saveFirstSecond | .saveLastSecond
  | .saveFirstMsecond | .saveLastMsecond => true
  | _ => false

theorem ExportFn.writes_ne_time {exportFn : ExportFn} (savesNone : exportFn.savesTime = false) :
    exportFn.writes ≠ .time := by
  cases exportFn <;> first | contradiction | nofun

/-! Elements -/

/-- An element with a name that saves no time. -/
def Element.keepsTimes (element : Element) : Bool :=
  element.jsonElementName.isSome && element.exportFn.all fun exportFn => !exportFn.savesTime

/-- The observation id and the times of a flow cache. -/
def HasTimes (observationId : ObservationID) (time : FlowCacheTime) (cache : FlowCache) : Prop :=
  cache.observationId = observationId ∧ cache.time = time

section Elements

variable {globals : ReadOnlyGlobals} {buffer : Mem} {realFieldLen : Nat}
  {observationId : ObservationID} {time : FlowCacheTime}

theorem printElement_keepsTimes (element : Element) (line : Bytes) (cache : FlowCache)
    (keeps : element.keepsTimes = true) (before : HasTimes observationId time cache) :
    Outcome (fun _ => False) (fun printed => HasTimes observationId time printed.cache)
      (printElement globals line element buffer realFieldLen cache) := by
  obtain ⟨named, savesNone⟩ := Bool.and_eq_true_iff.mp keeps
  have others : element.writes ≠ .time := by
    unfold Element.writes
    cases exporter : element.exportFn with
    | none => nofun
    | some exportFn =>
        rw [exporter] at savesNone
        exact ExportFn.writes_ne_time (by simpa using savesNone)
  refine (printElement_writes ?_ line buffer realFieldLen cache).mono ?_
  · intro nameless
    rw [nameless] at named
    contradiction
  · intro printed written
    exact ⟨written.observationId.trans before.1, (written.time others).trans before.2⟩

theorem printNetflowRecordWithTemplate_keepsTimes {element : Element}
    (keeps : element.Every fun element => element.keepsTimes = true) (line : Bytes)
    {cache : FlowCache} (before : HasTimes observationId time cache) :
    Outcome (fun _ => False) (fun printed => HasTimes observationId time printed.cache)
      (printNetflowRecordWithTemplate globals line element buffer realFieldLen cache) :=
  @printNetflowRecordWithTemplate_outcome globals buffer realFieldLen _
    (fun _ cache => HasTimes observationId time cache) _ printElement_keepsTimes element line
    cache keeps before

theorem normalizeDirection_keepsTimes (line : Bytes) {cache : FlowCache}
    (before : HasTimes observationId time cache) :
    Outcome (fun _ => False) (fun printed => HasTimes observationId time printed.cache)
      (normalizeDirection globals line cache) :=
  @normalizeDirection_outcome globals _ (fun _ cache => HasTimes observationId time cache) _
    printElement_keepsTimes (fun _ _ _ before => before) line cache (by decide) before

end Elements

theorem finishRecord_sends_iff (globals : ReadOnlyGlobals) (line : Bytes) (cache : FlowCache) :
    (∃ message rest, finishRecord globals line cache = .ok (message :: rest)) ↔
      Sends globals cache.observationId cache.time := by
  have started : HasTimes cache.observationId cache.time cache := ⟨rfl, rfl⟩
  have hostKeeps : host.Every fun element => element.keepsTimes = true := by decide
  have refererKeeps : referer.Every fun element => element.keepsTimes = true := by decide
  obtain ⟨hosted, ranHost, afterHost⟩ :=
    (printNetflowRecordWithTemplate_keepsTimes hostKeeps line started).exists_ok
  obtain ⟨referred, ranReferer, afterReferer⟩ :=
    (printNetflowRecordWithTemplate_keepsTimes refererKeeps hosted.line afterHost).exists_ok
  obtain ⟨normalized, ranAll, sameId, sameTime⟩ :=
    (normalizeDirection_keepsTimes referred.line afterReferer).exists_ok
  have ended : finishRecord globals line cache = timeSplitFlow globals
      (printSensorEnrichment normalized.line normalized.cache) normalized.cache := by
    rw [finishRecord, printFromCache, ranHost, Run.ok_bind, printFromCache, ranReferer,
      Run.ok_bind, ranAll, Run.ok_bind]
  rw [ended, timeSplitFlow_sends_iff, sameId, sameTime]

end F2k
