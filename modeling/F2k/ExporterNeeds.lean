import F2k.ExporterCache
import F2k.RecordPaths

namespace F2k

open Lib

/-! What a field has to be for its exporter to print anything of it, where that does not depend
on the fields before it. -/

inductive Need
  | never
  | addressV4
  | addressV6
  | mac
  | direction
  | engine
  | application
  | selector
  | station
  | clientMac
  | vendor
  | unknown
deriving DecidableEq

def applicationText (globals : ReadOnlyGlobals) (observationId : ObservationID) (field : Bytes) :
    Bytes :=
  let appid := net2number field
  if appid = 0 then []
  else
    let inDefaultDb := fun (_ : Unit) =>
      globals.rbDatabases.appsNameAsList.bind fun database => database appid
    match (observationId.applicationName appid).orElse inDefaultDb with
    | some name => fastString name
    | none => applicationIdText globals field

def selectorText (observationId : ObservationID) (field : Bytes) : Bytes :=
  attributeText observationId.selectorName (net2number field)

/-- Some exporters read the first byte whatever the length of the field is. -/
def Need.Met (globals : ReadOnlyGlobals) (observationId : ObservationID) (first : UInt8)
    (field : Bytes) : Need → Prop
  | .never => False
  | .addressV4 => globals.normalizeDirections = false ∧ field.length = 4
  | .addressV6 => field.length = 16
  | .mac => globals.normalizeDirections = false ∧ field.length = 6
  | .direction => globals.normalizeDirections = false
  | .engine => engineIdNameText globals first ≠ []
  | .application => applicationText globals observationId field ≠ []
  | .selector => selectorText observationId field ≠ []
  | .station => field.length = 4
  | .clientMac => field.length = 6
  | .vendor => field.length = 6 ∧ macVendorText globals field ≠ []
  | .unknown => True

def ExportFn.need : ExportFn → Need
  | .saveFlowBytes | .saveFlowPkts | .saveFirstSwitched | .saveLastSwitched | .saveFirstSecond
  | .saveLastSecond | .saveFirstMsecond | .saveLastMsecond => .never
  | .printIpv4SrcAddr | .printIpv4DstAddr | .printNet | .printNetName | .printCountryCode
  | .printASIpv4Name => .addressV4
  | .printIpv6SrcAddr | .printIpv6DstAddr | .printNetV6 | .printNetNameV6 | .printCountry6Code
  | .printAS6Name => .addressV6
  | .processPostSrcMac | .processPostDstMac => .mac
  | .processDirection => .direction
  | .printEngineIdName => .engine
  | .printApplicationIdName => .application
  | .printSelectorName => .selector
  | .printStaIpv4Address => .station
  | .printClientMac => .clientMac
  | .printMacVendor => .vendor
  | _ => .unknown

/-- An element without an exporter is never printed. -/
def Element.need (element : Element) : Need :=
  (element.exportFn.map ExportFn.need).getD .never

/-- The run prints nothing unless it has what it needs. -/
def PrintsOnlyIf (needed : Prop) (run : Run Printed) : Prop :=
  Outcome (fun _ => True) (fun printed => 0 < printed.length → needed) run

namespace PrintsOnlyIf

variable {needed : Prop} {cache : FlowCache} {run other : Run Printed}

theorem saved : PrintsOnlyIf needed cache.saved :=
  fun printed => absurd printed (Nat.lt_irrefl 0)

theorem text {bytes : Bytes} : PrintsOnlyIf (bytes ≠ []) (cache.printed bytes) :=
  fun printed => List.ne_nil_of_length_pos printed

theorem of_met (met : needed) : PrintsOnlyIf needed run := by
  unfold PrintsOnlyIf
  cases run with
  | error fault => exact trivial
  | ok printed => exact fun _ => met

theorem ite {condition : Prop} [Decidable condition] (yes : condition → PrintsOnlyIf needed run)
    (no : ¬condition → PrintsOnlyIf needed other) :
    PrintsOnlyIf needed (if condition then run else other) := by
  split
  · next holds => exact yes holds
  · next fails => exact no fails

end PrintsOnlyIf

section Needs

variable {globals : ReadOnlyGlobals} {field : Bytes} {cache : FlowCache}

theorem unlessNormalizing_onlyIf {exporter : Exporter} {needed : Prop}
    (decorated : PrintsOnlyIf needed (exporter globals field cache)) :
    PrintsOnlyIf (globals.normalizeDirections = false ∧ needed)
      (unlessNormalizing exporter globals field cache) := by
  refine .ite (fun _ => .saved) ?_
  intro off
  exact decorated.mono fun _ printed some => ⟨Bool.eq_false_of_not_eq_true off, printed some⟩

theorem processIpv4Addr0_onlyIf (save : FlowCacheAddress → Bytes → FlowCacheAddress) :
    PrintsOnlyIf (globals.normalizeDirections = false ∧ field.length = 4)
      (processIpv4Addr0 save globals field cache) := by
  refine .ite (fun _ => .ite (fun _ => .saved) fun _ => .saved) ?_
  intro off
  refine .ite (fun _ => .saved) ?_
  intro fits
  exact .of_met ⟨Bool.eq_false_of_not_eq_true off, not_not.mp fits⟩

theorem ipv4To6Decorator_onlyIf (exporter : Exporter) :
    PrintsOnlyIf (globals.normalizeDirections = false ∧ field.length = 4)
      (ipv4To6Decorator (unlessNormalizing exporter) globals field cache) := by
  refine .ite (fun _ => .saved) ?_
  intro fits
  refine .ite (fun _ => .saved) ?_
  intro off
  exact .of_met ⟨Bool.eq_false_of_not_eq_true off, not_not.mp fits⟩

theorem printCountryCode_onlyIf :
    PrintsOnlyIf (globals.normalizeDirections = false ∧ field.length = 4)
      (printCountryCode globals field cache) :=
  unlessNormalizing_onlyIf (.ite (fun _ => .saved) fun fits => .of_met (not_not.mp fits))

theorem printASIpv4Name_onlyIf :
    PrintsOnlyIf (globals.normalizeDirections = false ∧ field.length = 4)
      (printASIpv4Name globals field cache) :=
  unlessNormalizing_onlyIf (.ite (fun fits => .of_met fits) fun _ => .saved)

theorem printIpv6_onlyIf (save : FlowCacheAddress → Bytes → FlowCacheAddress) :
    PrintsOnlyIf (field.length = 16) (printIpv6 save globals field cache) :=
  .ite (fun _ => .saved) fun fits => .of_met (not_not.mp fits)

theorem printNetV6_onlyIf (search : ObservationID → IpAddr → Run (Option Bytes))
    (listed : IPNameAssoc → Bytes) :
    PrintsOnlyIf (field.length = 16)
      (unlessNormalizing (printNet0 search listed) globals field cache) :=
  .ite (fun _ => .saved) fun _ => .ite (fun _ => .saved) fun fits => .of_met (not_not.mp fits)

theorem ofLength16_onlyIf (exporter : Exporter) :
    PrintsOnlyIf (field.length = 16) (ofLength16 exporter globals field cache) :=
  .ite (fun _ => .saved) fun fits => .of_met (not_not.mp fits)

theorem processMac0_onlyIf (save : FlowCacheMacs → Bytes → FlowCacheMacs) :
    PrintsOnlyIf (globals.normalizeDirections = false ∧ field.length = 6)
      (processMac0 save globals field cache) := by
  refine .ite (fun _ => .ite (fun _ => .saved) fun _ => .saved) ?_
  intro off
  refine .ite ?_ fun _ => .saved
  intro fits
  exact .of_met ⟨Bool.eq_false_of_not_eq_true off, fits⟩

theorem processDirection_onlyIf :
    PrintsOnlyIf (globals.normalizeDirections = false)
      (processDirection globals field cache) := by
  refine .ite (fun _ => .saved) ?_
  intro known
  refine .ite (fun _ => .saved) ?_
  intro off
  exact .of_met (Bool.eq_false_of_not_eq_true off)

theorem printApplicationIdName_eq :
    (printApplicationIdName globals field cache).map Printed.length =
      .ok (applicationText globals cache.observationId field).length := by
  unfold printApplicationIdName applicationText
  simp only
  split
  · rfl
  · generalize (cache.observationId.applicationName (net2number field)).orElse _ = found
    cases found with
    | none => rfl
    | some name => rfl

theorem printApplicationIdName_onlyIf :
    PrintsOnlyIf (applicationText globals cache.observationId field ≠ [])
      (printApplicationIdName globals field cache) := by
  cases ran : printApplicationIdName globals field cache with
  | error fault => exact trivial
  | ok printed =>
      have lengths := @printApplicationIdName_eq globals field cache
      rw [ran] at lengths
      intro some
      exact List.ne_nil_of_length_pos (Except.ok.inj lengths ▸ some)

theorem printMacVendor_onlyIf :
    PrintsOnlyIf (field.length = 6 ∧ macVendorText globals field ≠ [])
      (printMacVendor globals field cache) := by
  refine .ite ?_ fun _ => .saved
  intro fits
  exact fun printed => ⟨fits, List.ne_nil_of_length_pos printed⟩

theorem printStaIpv4Address_onlyIf :
    PrintsOnlyIf (field.length = 4) (printStaIpv4Address globals field cache) :=
  .ite (fun _ => .saved) fun fits => .of_met (not_not.mp fits)

theorem printClientMac_onlyIf :
    PrintsOnlyIf (field.length = 6) (printClientMac globals field cache) :=
  .ite (fun _ => .saved) fun fits => .of_met (not_not.mp fits)

end Needs

theorem exportField_onlyIf (globals : ReadOnlyGlobals) (exportFn : ExportFn) (buffer : Mem)
    (length : Nat) (cache : FlowCache) :
    PrintsOnlyIf
      (exportFn.need.Met globals cache.observationId (buffer 0) (buffer.slice length))
      (exportField globals exportFn buffer length cache) := by
  cases exportFn with
  | saveFlowBytes | saveFlowPkts | saveFirstSwitched | saveLastSwitched | saveFirstSecond
  | saveLastSecond | saveFirstMsecond | saveLastMsecond =>
      exact fun printed => absurd printed (Nat.lt_irrefl 0)
  | printIpv4SrcAddr => exact processIpv4Addr0_onlyIf fun address ip => { address with src := ip }
  | printIpv4DstAddr => exact processIpv4Addr0_onlyIf fun address ip => { address with dst := ip }
  | printNet | printNetName => exact ipv4To6Decorator_onlyIf _
  | printCountryCode => exact printCountryCode_onlyIf
  | printASIpv4Name => exact printASIpv4Name_onlyIf
  | printIpv6SrcAddr =>
      exact @printIpv6_onlyIf globals _ cache fun address ip => { address with src := ip }
  | printIpv6DstAddr =>
      exact @printIpv6_onlyIf globals _ cache fun address ip => { address with dst := ip }
  | printNetV6 | printNetNameV6 => exact printNetV6_onlyIf _ _
  | printCountry6Code | printAS6Name => exact ofLength16_onlyIf _
  | processPostSrcMac => exact processMac0_onlyIf fun macs mac => { macs with postSrcMac := mac }
  | processPostDstMac => exact processMac0_onlyIf fun macs mac => { macs with postDstMac := mac }
  | processDirection => exact processDirection_onlyIf
  | printEngineIdName => exact .text
  | printApplicationIdName => exact printApplicationIdName_onlyIf
  | printSelectorName => exact .text
  | printStaIpv4Address => exact @printStaIpv4Address_onlyIf globals _ cache
  | printClientMac => exact @printClientMac_onlyIf globals _ cache
  | printMacVendor => exact printMacVendor_onlyIf
  | _ => exact .of_met trivial

theorem Element.exported_onlyIf (globals : ReadOnlyGlobals) (element : Element) (buffer : Mem)
    (length : Nat) (cache : FlowCache) :
    PrintsOnlyIf
      (element.need.Met globals cache.observationId (buffer 0) (buffer.slice length))
      (element.exported globals buffer length cache) := by
  unfold Element.exported Element.need
  cases element.exportFn with
  | none => exact .saved
  | some exportFn => exact exportField_onlyIf globals exportFn buffer length cache

/-! Exporters that print whenever they have what they need -/

def ExportFn.prompt : ExportFn → Bool
  | .printIpv4SrcAddr | .printIpv4DstAddr | .printIpv6SrcAddr | .printIpv6DstAddr
  | .processPostSrcMac | .processPostDstMac | .printEngineIdName | .printApplicationIdName
  | .printSelectorName | .printStaIpv4Address | .printMacVendor => true
  | _ => false

theorem n16_length (octet : UInt8) : (n16 octet).length = 2 := rfl

theorem length_pos_intercalate (separator : Bytes) {first : Bytes} (rest : List Bytes)
    (some : 0 < first.length) : 0 < (List.intercalate separator (first :: rest)).length := by
  cases rest with
  | nil => simpa using some
  | cons second more =>
      rw [List.intercalate_cons_cons, List.length_append, List.length_append]
      omega

theorem ipv6Text_length_pos (address : Bytes) : 0 < (ipv6Text address).length :=
  length_pos_intercalate _ _ (by simp [n16_length])

theorem flowCacheAddrText_length_pos (address : Bytes) :
    0 < (flowCacheAddrText address).length := by
  unfold flowCacheAddrText
  split
  · exact intoaV4_length_pos _
  · exact ipv6Text_length_pos address

theorem macText_length_pos {mac : Bytes} (long : mac.length = 6) : 0 < (macText mac).length := by
  obtain ⟨first, rest, rfl⟩ := List.exists_cons_of_length_pos (show 0 < mac.length by omega)
  exact length_pos_intercalate _ _ (by simp [n16_length])

theorem exportField_prints_of_met (globals : ReadOnlyGlobals) {exportFn : ExportFn}
    (prompt : exportFn.prompt = true) (buffer : Mem) (length : Nat) (cache : FlowCache)
    (met : exportFn.need.Met globals cache.observationId (buffer 0) (buffer.slice length)) :
    Outcome (fun _ => True) (fun printed => 0 < printed.length)
      (exportField globals exportFn buffer length cache) := by
  cases exportFn with
  | printIpv4SrcAddr | printIpv4DstAddr =>
      obtain ⟨off, fits⟩ := met
      simp only [exportField, exporterOf, printIpv4SrcAddr, printIpv4DstAddr, processIpv4Addr0,
        printIpv4Addr, off, fits]
      exact intoaV4_length_pos _
  | printIpv6SrcAddr | printIpv6DstAddr =>
      have fits : (buffer.slice length).length = 16 := met
      simp only [exportField, exporterOf, printIpv6SrcAddr, printIpv6DstAddr, printIpv6, fits]
      exact ipv6Text_length_pos _
  | processPostSrcMac | processPostDstMac =>
      obtain ⟨off, fits⟩ := met
      simp only [exportField, exporterOf, processPostSrcMac, processPostDstMac, processMac0,
        printMac, off, fits]
      exact macText_length_pos fits
  | printEngineIdName => exact List.length_pos_of_ne_nil met
  | printApplicationIdName =>
      have lengths := @printApplicationIdName_eq globals (buffer.slice length) cache
      cases ran : exportField globals .printApplicationIdName buffer length cache with
      | error fault => exact trivial
      | ok printed =>
          have same : printApplicationIdName globals (buffer.slice length) cache = .ok printed :=
            ran
          rw [same] at lengths
          change 0 < printed.length
          rw [Except.ok.inj lengths]
          exact List.length_pos_of_ne_nil met
  | printSelectorName => exact List.length_pos_of_ne_nil met
  | printStaIpv4Address =>
      have fits : (buffer.slice length).length = 4 := met
      simp only [exportField, exporterOf, printStaIpv4Address, fits]
      exact intoaV4_length_pos _
  | printMacVendor =>
      obtain ⟨fits, vendor⟩ := met
      simp only [exportField, exporterOf, printMacVendor, fits]
      exact List.length_pos_of_ne_nil vendor
  | _ => contradiction

end F2k
