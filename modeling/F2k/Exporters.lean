import F2k.Messages
import F2k.Texts

namespace F2k

open Lib

/-! What every exporter keeps: it stops for nothing, and what it prints may stand in a JSON text
where its element puts it. -/

/-! Names that are printed as they are. -/

/-- The names that come from files and from GeoIP databases fit into a JSON text. -/
structure PlainDatabases (globals : ReadOnlyGlobals) : Prop where
  nets : ∀ node ∈ globals.rbDatabases.netsNameAsList,
    JsonText (fastString node.number) ∧ JsonText (fastString node.name)
  engines : ∀ node ∈ globals.rbDatabases.enginesNameAsList, JsonText (fastString node.2)
  apps : ∀ database ∈ globals.rbDatabases.appsNameAsList, ∀ id, ∀ name ∈ database id,
    JsonText (fastString name)
  macVendors : ∀ database ∈ globals.rbDatabases.macVendorDatabase, ∀ mac, ∀ name ∈ database mac,
    JsonText (fastString name)
  macNames : ∀ node ∈ globals.rbDatabases.macNameDatabase, JsonText (fastString node.2)
  countries : ∀ address, ∀ text ∈ globals.geoIpCountryDb.lookup address,
    EscapesWell (fastString text)
  countriesV6 : ∀ address, ∀ text ∈ globals.geoIpCountryDbV6.lookup address,
    EscapesWell (fastString text)
  systems : ∀ address, ∀ text ∈ globals.geoIpAsnDb.lookup address, EscapesWell (fastString text)
  systemsV6 : ∀ address, ∀ text ∈ globals.geoIpAsnDbV6.lookup address,
    EscapesWell (fastString text)

/-- The names of an observation id, learned or configured, fit into a JSON text, and its
enrichment is members of an object. -/
structure PlainNames (observationId : ObservationID) : Prop where
  applications : ∀ id, ∀ application ∈ observationId.getApplication id,
    JsonText (cString application.name)
  selectors : ∀ id, ∀ selector ∈ observationId.getSelector id, JsonText (cString selector.name)
  interfaces : ∀ id, ∀ interface ∈ observationId.getInterface id,
    JsonText (cString interface.name) ∧ JsonText (cString interface.description)
  networks : ∀ key network, observationId.networks.lookup key = some network →
    JsonText (cString network.name) ∧ JsonText (cString network.addressAsStr)
  enrichment : ∀ members ∈ observationId.enrichment, JsonMembers (cString members)

/-- The texts a flow cache holds fit once they are escaped. -/
structure PlainCache (cache : FlowCache) : Prop where
  names : PlainNames cache.observationId
  httpHost : ∀ text ∈ cache.httpHost, EscapesWell text
  httpReferer : ∀ text ∈ cache.httpReferer, EscapesWell text
  sslCommonName : ∀ text ∈ cache.sslCommonName, EscapesWell text
  clientName : ∀ text ∈ cache.address.clientName, JsonText (cString text)
  targetName : ∀ text ∈ cache.address.targetName, JsonText (cString text)

/-- The parts of a flow cache that texts are printed from. -/
def FlowCache.texts (cache : FlowCache) :=
  (cache.observationId, cache.httpHost, cache.httpReferer, cache.sslCommonName,
    cache.address.clientName, cache.address.targetName)

theorem PlainCache.of_texts {before after : FlowCache} (plain : PlainCache before)
    (same : after.texts = before.texts) : PlainCache after := by
  simp only [FlowCache.texts, Prod.mk.injEq] at same
  obtain ⟨names, host, referer, common, client, target⟩ := same
  constructor
  · rw [names]; exact plain.names
  · rw [host]; exact plain.httpHost
  · rw [referer]; exact plain.httpReferer
  · rw [common]; exact plain.sslCommonName
  · rw [client]; exact plain.clientName
  · rw [target]; exact plain.targetName

/-! What exporters promise -/

/-- A text that may stand between quotes, and on its own where it has none. -/
def Fits (bare : Bool) (text : Bytes) : Prop :=
  JsonText text ∧ (bare = true → JsonNumber text)

def Printed.Fits (bare : Bool) (printed : Printed) : Prop :=
  (0 < printed.length → F2k.Fits bare printed.text) ∧ PlainCache printed.cache

/-- For every field that is admitted the exporter prints what fits. -/
def Exporter.Prints (exporter : Exporter) (bare : Bool) (admits : Bytes → Prop) : Prop :=
  ∀ globals field cache,
    Outcome (fun _ => False)
      (fun printed => PlainDatabases globals → PlainCache cache → admits field →
        printed.Fits bare)
      (exporter globals field cache)

def ByteExporter.Prints (exporter : ByteExporter) (bare : Bool) : Prop :=
  ∀ globals first cache,
    Outcome (fun _ => False)
      (fun printed => PlainDatabases globals → PlainCache cache → printed.Fits bare)
      (exporter globals first cache)

def anyField (_ : Bytes) : Prop := True

theorem fits_number (bare : Bool) (value : UInt64) : Fits bare (n10 value) :=
  ⟨n10_text value, fun _ => n10_number value⟩

theorem fits_text {text : Bytes} (plain : JsonText text) : Fits false text :=
  ⟨plain, fun bare => absurd bare Bool.false_ne_true⟩

theorem FlowCache.printed_fits {bare : Bool} {cache : FlowCache} {text : Bytes}
    (plain : PlainCache cache) (fits : Fits bare text) :
    Printed.Fits bare { text, length := text.length, cache } :=
  ⟨fun _ => fits, plain⟩

theorem FlowCache.saved_fits {cache : FlowCache} (bare : Bool) (plain : PlainCache cache) :
    Printed.Fits bare { text := [], length := 0, cache } :=
  ⟨fun some => absurd some (Nat.lt_irrefl 0), plain⟩

section Families

variable {bare : Bool} {admits : Bytes → Prop}

/-- Exporters that put something into the flow cache and print nothing. -/
theorem Exporter.prints_saved {save : Bytes → FlowCache → FlowCache}
    (keeps : ∀ field cache, (save field cache).texts = cache.texts) :
    Exporter.Prints (fun _ field cache => (save field cache).saved) bare admits :=
  fun _ field cache _ plain _ => FlowCache.saved_fits bare (plain.of_texts (keeps field cache))

/-- Exporters that print one text and leave the flow cache as it is. -/
theorem Exporter.prints_text {text : ReadOnlyGlobals → Bytes → FlowCache → Bytes}
    (fits : ∀ globals field cache, PlainDatabases globals → PlainCache cache → admits field →
      Fits bare (text globals field cache)) :
    Exporter.Prints (fun globals field cache => cache.printed (text globals field cache)) bare
      admits :=
  fun globals field cache databases plain admitted =>
    FlowCache.printed_fits plain (fits globals field cache databases plain admitted)

end Families

/-! Numbers and strings -/

theorem printString_prints : Exporter.Prints printString false JsonText :=
  Exporter.prints_text fun _ _ _ _ _ admitted => fits_text admitted

theorem printNumber_prints (bare : Bool) : Exporter.Prints printNumber bare anyField :=
  Exporter.prints_text fun _ _ _ _ _ _ => fits_number bare _

theorem printNetflowType_prints : Exporter.Prints printNetflowType false anyField :=
  Exporter.prints_text fun _ _ _ _ _ _ =>
    fits_text ((ascii_text (by decide)).append (n10_text _))

theorem saveFirstSecond_prints : Exporter.Prints saveFirstSecond true anyField :=
  Exporter.prints_saved fun _ _ => rfl

theorem saveLastSecond_prints : Exporter.Prints saveLastSecond true anyField :=
  Exporter.prints_saved fun _ _ => rfl

theorem saveFirstSwitched_prints : Exporter.Prints saveFirstSwitched true anyField :=
  Exporter.prints_saved fun _ _ => rfl

theorem saveLastSwitched_prints : Exporter.Prints saveLastSwitched true anyField :=
  Exporter.prints_saved fun _ _ => rfl

theorem saveFlowBytes_prints : Exporter.Prints saveFlowBytes true anyField :=
  Exporter.prints_saved fun _ _ => rfl

theorem saveFlowPkts_prints : Exporter.Prints saveFlowPkts true anyField :=
  Exporter.prints_saved fun _ _ => rfl

theorem callbackMiliBuffer_prints {callback : Exporter} {bare : Bool}
    (prints : callback.Prints bare anyField) :
    Exporter.Prints (callbackMiliBuffer callback) bare anyField :=
  fun globals _ cache => prints globals _ cache

theorem printTcpFlags_prints : Exporter.Prints printTcpFlags false anyField := by
  intro globals field cache
  rw [printTcpFlags.eq_def]
  split
  · next flags =>
      split
      · exact fun _ plain _ => FlowCache.saved_fits _ plain
      · exact fun _ plain _ => FlowCache.printed_fits plain (fits_text (tcpFlagsText_text flags))
  · next flags =>
      split
      · exact fun _ plain _ => FlowCache.saved_fits _ plain
      · exact fun _ plain _ => FlowCache.printed_fits plain (fits_text (tcpFlagsText_text flags))
  · exact fun _ plain _ => FlowCache.saved_fits _ plain

/-! One byte -/

theorem flowEndReasons_text : ∀ reason ∈ flowEndReasons, ∀ text ∈ reason,
    text.all JsonText.isPlain = true := by
  decide

theorem printFlowEndReason_prints : ByteExporter.Prints printFlowEndReason false := by
  intro globals reason cache
  rw [printFlowEndReason]
  split
  · next text found =>
      have known := flowEndReasons_text _ (List.mem_of_getElem? found) text rfl
      exact fun _ plain => FlowCache.printed_fits plain (fits_text (.of_plain known))
  · exact fun _ plain => FlowCache.saved_fits _ plain

theorem biflowDirections_text : ∀ text ∈ biflowDirections,
    text.all JsonText.isPlain = true := by
  decide

theorem printBiflowDirection_prints : ByteExporter.Prints printBiflowDirection false := by
  intro globals direction cache
  rw [printBiflowDirection]
  split
  · next text found =>
      have known := biflowDirections_text text (List.mem_of_getElem? found)
      exact fun _ plain => FlowCache.printed_fits plain (fits_text (.of_plain known))
  · exact fun _ plain => FlowCache.saved_fits _ plain

theorem engineIdNameText_text {globals : ReadOnlyGlobals} (databases : PlainDatabases globals)
    (engineId : UInt8) : JsonText (engineIdNameText globals engineId) := by
  rw [engineIdNameText]
  split
  · exact .nil
  · split
    · next node found => exact databases.engines node (List.mem_of_find?_eq_some found)
    · exact n10_text _

theorem printEngineIdName_prints : ByteExporter.Prints printEngineIdName false :=
  fun _ _ _ databases plain =>
    FlowCache.printed_fits plain (fits_text (engineIdNameText_text databases _))

/-! Directions -/

theorem netflowDirectionText_text (direction : UInt64) :
    JsonText (netflowDirectionText direction) := by
  rw [netflowDirectionText]
  split
  · exact ascii_text (by decide)
  · split
    · exact ascii_text (by decide)
    · exact .nil

theorem directionText_text (direction : Direction) : JsonText (directionText direction) := by
  cases direction with
  | unset => exact .nil
  | upstream => exact ascii_text (by decide)
  | downstream => exact ascii_text (by decide)
  | internal => exact ascii_text (by decide)

theorem printFlowCacheDirection_prints : Exporter.Prints printFlowCacheDirection false anyField :=
  Exporter.prints_text fun _ _ _ _ _ _ => fits_text (directionText_text _)

theorem processDirection_prints : Exporter.Prints processDirection false anyField := by
  intro globals field cache
  rw [processDirection]
  simp only
  split
  · exact fun _ plain _ => FlowCache.saved_fits _ plain
  · split
    · exact fun _ plain _ => FlowCache.saved_fits _ (plain.of_texts rfl)
    · exact fun _ plain _ =>
        FlowCache.printed_fits plain (fits_text (netflowDirectionText_text _))

/-! MAC addresses -/

theorem printMac_prints : Exporter.Prints printMac false anyField := by
  intro globals field cache
  rw [printMac]
  split
  · exact fun _ plain _ => FlowCache.printed_fits plain (fits_text (macText_text field))
  · exact fun _ plain _ => FlowCache.saved_fits _ plain

theorem processMac0_prints (save : FlowCacheMacs → Bytes → FlowCacheMacs) :
    Exporter.Prints (processMac0 save) false anyField := by
  intro globals field cache
  rw [processMac0]
  split
  · split
    · exact fun _ plain _ => FlowCache.saved_fits _ (plain.of_texts rfl)
    · exact fun _ plain _ => FlowCache.saved_fits _ plain
  · exact printMac_prints globals field cache

theorem macVendorText_text {globals : ReadOnlyGlobals} (databases : PlainDatabases globals)
    (mac : Bytes) : JsonText (macVendorText globals mac) := by
  rw [macVendorText]
  split
  · exact .nil
  · split
    · next vendor found =>
        obtain ⟨database, given, vendorFound⟩ := Option.bind_eq_some_iff.mp found
        exact databases.macVendors database given _ vendor vendorFound
    · exact .nil

theorem macVendorAddrFormatText_text {globals : ReadOnlyGlobals}
    (databases : PlainDatabases globals) (mac : Bytes) :
    JsonText (macVendorAddrFormatText globals mac) := by
  have octets : ∀ octets : Bytes,
      JsonText (octets.flatMap fun octet => ascii ":" ++ n16 octet) := by
    intro octets
    induction octets with
    | nil => exact .nil
    | cons octet rest ih =>
        rw [List.flatMap_cons]
        exact ((ascii_text (by decide)).append (n16_text octet)).append ih
  rw [macVendorAddrFormatText]
  split
  · exact (macVendorText_text databases mac).append (octets _)
  · exact .nil

theorem printMacVendor_prints : Exporter.Prints printMacVendor false anyField := by
  intro globals field cache
  rw [printMacVendor]
  split
  · exact fun databases plain _ =>
      FlowCache.printed_fits plain (fits_text (macVendorText_text databases field))
  · exact fun _ plain _ => FlowCache.saved_fits _ plain

theorem printMacMap_prints : Exporter.Prints printMacMap false anyField := by
  intro globals field cache
  rw [printMacMap]
  split
  · rw [printMacMap0]
    simp only
    split
    · exact fun _ plain _ => FlowCache.printed_fits plain (fits_text (macText_text field))
    · split
      · next node found =>
          exact fun databases plain _ =>
            ⟨fun _ => fits_text ((databases.macNames node
              (List.mem_of_find?_eq_some found)).append (macText_text field)), plain⟩
      · split
        · exact fun databases plain _ =>
            FlowCache.printed_fits plain
              (fits_text (macVendorAddrFormatText_text databases field))
        · exact fun _ plain _ => FlowCache.printed_fits plain (fits_text (macText_text field))
  · exact fun _ plain _ => FlowCache.saved_fits _ plain

theorem printDirectionBasedClientMac_prints :
    Exporter.Prints printDirectionBasedClientMac false anyField := by
  intro globals field cache
  rw [printDirectionBasedClientMac]
  split
  · exact fun _ plain _ => FlowCache.saved_fits _ plain
  · exact fun _ plain _ =>
      FlowCache.printed_fits (plain.of_texts rfl) (fits_text (macText_text _))

theorem printClientMac_prints : Exporter.Prints printClientMac false anyField := by
  intro globals field cache
  rw [printClientMac]
  split
  · exact fun _ plain _ => FlowCache.saved_fits _ plain
  · split
    · exact fun _ plain _ => FlowCache.saved_fits _ plain
    · exact fun _ plain _ =>
        FlowCache.printed_fits (plain.of_texts rfl) (fits_text (macText_text field))

theorem printDirectionBasedClientMacVendor_prints :
    Exporter.Prints printDirectionBasedClientMacVendor false anyField :=
  Exporter.prints_text fun _ _ _ databases _ _ => fits_text (macVendorText_text databases _)

/-- The field of an SSID, up to its first zero byte. -/
def ssidField (field : Bytes) : Prop :=
  JsonText (cString (field.take (field.length % 65536)))

theorem printSsidName_prints : Exporter.Prints printSsidName false ssidField :=
  Exporter.prints_text fun _ _ _ _ _ admitted => fits_text admitted

/-! Networks -/

theorem cString_cString (text : Bytes) : cString (cString text) = cString text := by
  apply List.takeWhile_eq_self_iff.mpr
  intro byte member
  simpa using cString_ne_zero member

theorem printNet0_prints {sensorListSearch : ObservationID → IpAddr → Run (Option Bytes)}
    {globalNetList : IPNameAssoc → Bytes}
    (search : ∀ observationId ip, Outcome (fun _ => False)
      (fun found => PlainNames observationId → ∀ text ∈ found, JsonText (cString text))
      (sensorListSearch observationId ip))
    (listed : ∀ globals, PlainDatabases globals →
      ∀ node ∈ globals.rbDatabases.netsNameAsList, JsonText (fastString (globalNetList node))) :
    Exporter.Prints (printNet0 sensorListSearch globalNetList) false anyField := by
  intro globals field cache
  rw [printNet0]
  split
  · exact fun _ plain _ => FlowCache.saved_fits _ plain
  · refine (search cache.observationId _).bind ?_
    intro found _ known
    cases found with
    | some homeNet =>
        exact fun _ plain _ =>
          FlowCache.printed_fits plain (fits_text (known plain.names homeNet rfl))
    | none =>
        simp only
        split
        · next assoc inList =>
            exact fun databases plain _ =>
              FlowCache.printed_fits plain (fits_text (listed globals databases assoc
                (List.mem_of_find?_eq_some inList)))
        · exact fun _ plain _ => FlowCache.saved_fits _ plain

theorem printNetV60_prints : Exporter.Prints printNetV60 false anyField := by
  apply printNet0_prints
  · intro observationId ip
    refine (networkIp_outcome observationId ip).mono ?_
    intro found known names text member
    obtain ⟨key, network, lookup, rfl⟩ := known text member
    exact (names.networks key network lookup).2
  · exact fun globals databases node member => (databases.nets node member).1

theorem printNetNameV60_prints : Exporter.Prints printNetNameV60 false anyField := by
  apply printNet0_prints
  · intro observationId ip
    refine (networkName_outcome observationId ip).mono ?_
    intro found known names text member
    obtain ⟨key, network, lookup, rfl⟩ := known text member
    exact (names.networks key network lookup).1
  · exact fun globals databases node member => (databases.nets node member).2

section Decorators

variable {exporter : Exporter} {bare : Bool}

theorem unlessNormalizing_prints {admits : Bytes → Prop} (prints : exporter.Prints bare admits) :
    Exporter.Prints (unlessNormalizing exporter) bare admits := by
  intro globals field cache
  rw [unlessNormalizing]
  split
  · exact fun _ plain _ => FlowCache.saved_fits _ plain
  · exact prints globals field cache

theorem ipv4To6Decorator_prints (prints : exporter.Prints bare anyField) :
    Exporter.Prints (ipv4To6Decorator exporter) bare anyField := by
  intro globals field cache
  rw [ipv4To6Decorator]
  split
  · exact fun _ plain _ => FlowCache.saved_fits _ plain
  · exact prints globals _ cache

theorem ofLength16_prints (prints : exporter.Prints bare anyField) :
    Exporter.Prints (ofLength16 exporter) bare anyField := by
  intro globals field cache
  rw [ofLength16]
  split
  · exact fun _ plain _ => FlowCache.saved_fits _ plain
  · exact prints globals field cache

theorem printFlowCacheAddress_prints (slot : FlowCache → AddressSlot)
    (prints : exporter.Prints bare anyField) :
    Exporter.Prints (printFlowCacheAddress slot exporter) bare anyField :=
  fun globals _ cache => prints globals _ cache

end Decorators

/-! Addresses -/

theorem printIpv4Addr_prints : Exporter.Prints printIpv4Addr false anyField := by
  intro globals field cache
  rw [printIpv4Addr]
  split
  · exact fun _ plain _ => FlowCache.saved_fits _ plain
  · exact fun _ plain _ => FlowCache.printed_fits plain (fits_text (intoaV4_text _))

/-- Saving an address leaves the names of the ends as they are. -/
def KeepsEndNames (save : FlowCacheAddress → Bytes → FlowCacheAddress) : Prop :=
  ∀ address ip, (save address ip).clientName = address.clientName ∧
    (save address ip).targetName = address.targetName

theorem KeepsEndNames.texts {save : FlowCacheAddress → Bytes → FlowCacheAddress}
    (keeps : KeepsEndNames save) (cache : FlowCache) (ip : Bytes) :
    { cache with address := save cache.address ip }.texts = cache.texts := by
  obtain ⟨client, target⟩ := keeps cache.address ip
  simp only [FlowCache.texts, client, target]

theorem processIpv4Addr0_prints {save : FlowCacheAddress → Bytes → FlowCacheAddress}
    (keeps : KeepsEndNames save) :
    Exporter.Prints (processIpv4Addr0 save) false anyField := by
  intro globals field cache
  rw [processIpv4Addr0]
  split
  · split
    · exact fun _ plain _ => FlowCache.saved_fits _ (plain.of_texts (keeps.texts cache _))
    · exact fun _ plain _ => FlowCache.saved_fits _ plain
  · exact printIpv4Addr_prints globals field cache

theorem printIpv6_prints {save : FlowCacheAddress → Bytes → FlowCacheAddress}
    (keeps : KeepsEndNames save) : Exporter.Prints (printIpv6 save) false anyField := by
  intro globals field cache
  rw [printIpv6]
  split
  · exact fun _ plain _ => FlowCache.saved_fits _ plain
  · exact fun _ plain _ =>
      FlowCache.printed_fits (plain.of_texts (keeps.texts cache _))
        (fits_text (ipv6Text_text field))

theorem printFlowCacheAddr_prints : Exporter.Prints printFlowCacheAddr false anyField :=
  fun _ _ _ _ plain _ => FlowCache.printed_fits plain (fits_text (flowCacheAddrText_text _))

theorem printStaIpv4Address_prints : Exporter.Prints printStaIpv4Address false anyField := by
  intro globals field cache
  rw [printStaIpv4Address]
  split
  · exact fun _ plain _ => FlowCache.saved_fits _ plain
  · exact fun _ plain _ =>
      FlowCache.printed_fits (plain.of_texts rfl) (fits_text (intoaV4_text _))

theorem printLanAddr_prints : Exporter.Prints printLanAddr false anyField := by
  intro globals field cache
  rw [printLanAddr]
  split
  · exact printFlowCacheAddress_prints _ printFlowCacheAddr_prints globals field cache
  · exact fun _ plain _ => FlowCache.saved_fits _ plain

/-! Applications, selectors, ports and interfaces -/

theorem applicationIdText_text {globals : ReadOnlyGlobals} (databases : PlainDatabases globals)
    (field : Bytes) : JsonText (applicationIdText globals field) := by
  rw [applicationIdText]
  split
  · exact .nil
  · simp only
    split
    · exact .nil
    · exact ((engineIdNameText_text databases _).append (ascii_text (by decide))).append
        (n10_text _)

theorem printApplicationIdName_prints :
    Exporter.Prints printApplicationIdName false anyField := by
  intro globals field cache
  rw [printApplicationIdName]
  simp only
  split
  · exact fun _ plain _ => FlowCache.saved_fits _ plain
  · split
    · next name found =>
        refine fun databases plain _ => FlowCache.printed_fits plain (fits_text ?_)
        cases learned : cache.observationId.applicationName (net2number field) with
        | some text =>
            rw [learned] at found
            obtain rfl := Option.some.inj found
            obtain ⟨application, known, rfl⟩ := Option.map_eq_some_iff.mp learned
            rw [fastString, cString_cString]
            exact plain.names.applications _ application known
        | none =>
            rw [learned] at found
            obtain ⟨database, given, inDatabase⟩ := Option.bind_eq_some_iff.mp found
            exact databases.apps database given _ name inDatabase
    · exact fun databases plain _ =>
        FlowCache.printed_fits plain (fits_text (applicationIdText_text databases field))

theorem attributeText_text {getAttribute : UInt64 → Option Bytes}
    (learned : ∀ id, ∀ text ∈ getAttribute id, JsonText (cString text)) (number : UInt64) :
    JsonText (attributeText getAttribute number) := by
  rw [attributeText]
  split
  · next text found => exact learned number text found
  · exact n10_text number

/-- A learned text of an observation id that has plain names. -/
def PlainAttribute (getAttribute : ObservationID → UInt64 → Option Bytes) : Prop :=
  ∀ observationId, PlainNames observationId →
    ∀ id, ∀ text ∈ getAttribute observationId id, JsonText (cString text)

theorem selectorName_plain : PlainAttribute ObservationID.selectorName := by
  intro observationId names id text member
  obtain ⟨selector, known, rfl⟩ := Option.map_eq_some_iff.mp member
  rw [cString_cString]
  exact names.selectors id selector known

theorem interfaceName_plain : PlainAttribute ObservationID.interfaceName := by
  intro observationId names id text member
  obtain ⟨interface, known, rfl⟩ := Option.map_eq_some_iff.mp member
  rw [cString_cString]
  exact (names.interfaces id interface known).1

theorem interfaceDescription_plain : PlainAttribute ObservationID.interfaceDescription := by
  intro observationId names id text member
  obtain ⟨interface, known, rfl⟩ := Option.map_eq_some_iff.mp member
  rw [cString_cString]
  exact (names.interfaces id interface known).2

theorem printObservationIdAttribute_prints
    {getAttribute : ObservationID → UInt64 → Option Bytes} (plain : PlainAttribute getAttribute) :
    Exporter.Prints (printObservationIdAttribute getAttribute) false anyField :=
  Exporter.prints_text fun _ _ _ _ cache _ =>
    fits_text (attributeText_text (plain _ cache.names) _)

theorem printFlowCacheInterfaceStr_prints (number : FlowCache → UInt64)
    {interfaceStr : ObservationID → UInt64 → Option Bytes} (plain : PlainAttribute interfaceStr) :
    Exporter.Prints (printFlowCacheInterfaceStr number interfaceStr) false anyField :=
  Exporter.prints_text fun _ _ _ _ cache _ =>
    fits_text (attributeText_text (plain _ cache.names) _)

theorem processPort0_prints (save : FlowCachePorts → UInt16 → FlowCachePorts) :
    Exporter.Prints (processPort0 save) true anyField := by
  intro globals field cache
  rw [processPort0]
  split
  · exact fun _ plain _ => FlowCache.saved_fits _ plain
  · simp only
    split
    · exact fun _ plain _ => FlowCache.saved_fits _ (plain.of_texts rfl)
    · exact fun _ plain _ => FlowCache.printed_fits plain (fits_number _ _)

theorem printFlowCacheNumber_prints (number : FlowCache → UInt64) :
    Exporter.Prints (printFlowCacheNumber number) true anyField :=
  Exporter.prints_text fun _ _ _ _ _ _ => fits_number _ _

theorem processSnmpInterface_prints
    (save : FlowCacheInterfaces → UInt64 → FlowCacheInterfaces) :
    Exporter.Prints (processSnmpInterface save) true anyField := by
  intro globals field cache
  rw [processSnmpInterface]
  split
  · exact fun _ plain _ => FlowCache.saved_fits _ (plain.of_texts rfl)
  · exact printNumber_prints true globals field cache

/-! Countries and autonomous systems -/

theorem GeoIpDb.answer_of {Address : Type} {database : GeoIpDb Address} {address : Address}
    {holds : Bytes → Prop} (all : ∀ text ∈ database.lookup address, holds text) :
    ∀ text ∈ database.answer address, holds text := by
  intro text member
  rw [GeoIpDb.answer] at member
  split at member
  · exact all text member
  · contradiction

theorem escapedText_text {response : Option Bytes}
    (well : ∀ text ∈ response, EscapesWell (fastString text)) :
    JsonText (escapedText response) := by
  cases response with
  | none => exact .nil
  | some text => exact appendEscaped_text (well text rfl)

theorem geoipASNameText_text {response : Option Bytes}
    (well : ∀ text ∈ response, EscapesWell (fastString text)) :
    JsonText (geoipASNameText response) := by
  apply escapedText_text
  intro text member
  obtain ⟨answer, given, rfl⟩ := Option.map_eq_some_iff.mp member
  -- the name is what is left of the answer, and then what is left of that as a C string
  have tail : ((fastString answer).dropWhile fun byte => byte ≠ 32).tail <:+ fastString answer :=
    (List.tail_suffix _).trans (List.dropWhile_suffix _)
  exact ((well answer given).suffix tail).part (List.takeWhile_prefix _).isInfix

theorem printCountryCode_prints : Exporter.Prints printCountryCode false anyField := by
  apply unlessNormalizing_prints
  intro globals field cache
  simp only
  split
  · exact fun _ plain _ => FlowCache.saved_fits _ plain
  · exact fun databases plain _ =>
      FlowCache.printed_fits plain (fits_text (escapedText_text
        (GeoIpDb.answer_of (databases.countries _))))

theorem printASIpv4Name_prints : Exporter.Prints printASIpv4Name false anyField := by
  apply unlessNormalizing_prints
  intro globals field cache
  simp only
  split
  · exact fun databases plain _ =>
      FlowCache.printed_fits plain (fits_text (geoipASNameText_text
        (GeoIpDb.answer_of (databases.systems _))))
  · exact fun _ plain _ => FlowCache.saved_fits _ plain

theorem geoipDecorator_prints {text : ReadOnlyGlobals → Bytes → Bytes}
    (fits : ∀ globals address, PlainDatabases globals → JsonText (text globals address)) :
    Exporter.Prints (geoipDecorator text) false anyField := by
  intro globals address cache
  rw [geoipDecorator]
  split
  · exact fun _ plain _ => FlowCache.saved_fits _ plain
  · exact fun databases plain _ =>
      FlowCache.printed_fits plain (fits_text (fits globals address databases))

theorem AS6NameText_text (globals : ReadOnlyGlobals) (address : Bytes)
    (databases : PlainDatabases globals) : JsonText (AS6NameText globals address) :=
  geoipASNameText_text (GeoIpDb.answer_of (databases.systemsV6 address))

theorem country6CodeText_text (globals : ReadOnlyGlobals) (address : Bytes)
    (databases : PlainDatabases globals) : JsonText (country6CodeText globals address) := by
  rw [country6CodeText]
  split
  · apply escapedText_text
    split
    · exact databases.countries _
    · exact databases.countriesV6 address
  · exact .nil

/-! HTTP -/

/-- What follows the identifier in a field is escaped well. -/
def ciscoField (expectedIdentifier field : Bytes) : Prop :=
  ∀ content ∈ ciscoPrivateContent expectedIdentifier field, EscapesWell content

theorem printCiscoPrivateBuffer_prints (expectedIdentifier : Bytes) :
    Exporter.Prints (printCiscoPrivateBuffer expectedIdentifier) false
      (ciscoField expectedIdentifier) := by
  intro globals field cache
  rw [printCiscoPrivateBuffer]
  split
  · next content found =>
      exact fun _ plain admitted =>
        FlowCache.printed_fits plain (fits_text (appendEscaped_text (admitted content found)))
  · exact fun _ plain _ => FlowCache.saved_fits _ plain

theorem saveAndPrintCisco_prints {expectedIdentifier : Bytes}
    {save : FlowCache → Bytes → FlowCache}
    (keeps : ∀ cache content, EscapesWell content → PlainCache cache →
      PlainCache (save cache content)) :
    Exporter.Prints (saveAndPrintCisco expectedIdentifier save) false
      (ciscoField expectedIdentifier) := by
  intro globals field cache
  rw [saveAndPrintCisco]
  cases found : ciscoPrivateContent expectedIdentifier field with
  | none => exact printCiscoPrivateBuffer_prints expectedIdentifier globals field cache
  | some content =>
      refine (printCiscoPrivateBuffer_prints expectedIdentifier globals field _).mono ?_
      intro printed fits databases plain admitted
      exact fits databases (keeps cache content (admitted content found) plain) admitted

theorem printHttpHost_prints : Exporter.Prints printHttpHost false (ciscoField httpHostId) := by
  apply saveAndPrintCisco_prints
  intro cache content well plain
  refine { plain with httpHost := ?_ }
  intro text same
  obtain rfl := Option.some.inj same
  exact well

theorem printHttpReferer_prints :
    Exporter.Prints printHttpReferer false (ciscoField httpRefererId) := by
  apply saveAndPrintCisco_prints
  intro cache content well plain
  exact
    { plain with httpReferer := fun text same => by obtain rfl := Option.some.inj same; exact well }

theorem printHttpsCommonName_prints :
    Exporter.Prints printHttpsCommonName false (ciscoField httpsCommonNameNbarId) := by
  apply saveAndPrintCisco_prints
  intro cache content well plain
  exact
    { plain with
      sslCommonName := fun text same => by obtain rfl := Option.some.inj same; exact well }

theorem printHttpHostL2_prints :
    Exporter.Prints printHttpHostL2 false (ciscoField httpHostId) := by
  intro globals field cache
  rw [printHttpHostL2]
  split
  · next host found =>
      exact fun _ plain admitted =>
        FlowCache.printed_fits plain (fits_text (appendEscaped_text
          ((admitted host found).httpL2Domain globals)))
  · exact fun _ plain _ => FlowCache.saved_fits _ plain

theorem escapesWell_nil : EscapesWell [] := by
  intro first rest suffix
  simp at suffix

theorem extractFlowcacheHost_well {cache : FlowCache} (plain : PlainCache cache) :
    EscapesWell (extractFlowcacheHost cache) := by
  rw [extractFlowcacheHost]
  cases host : cache.httpHost with
  | some text => exact plain.httpHost text host
  | none =>
      cases common : cache.sslCommonName with
      | some text => exact plain.sslCommonName text common
      | none => exact escapesWell_nil

theorem extractFlowcacheReferer_well {cache : FlowCache} (plain : PlainCache cache) :
    EscapesWell (extractFlowcacheReferer cache) := by
  rw [extractFlowcacheReferer]
  cases referer : cache.httpReferer with
  | some text => exact plain.httpReferer text referer
  | none => exact extractFlowcacheHost_well plain

theorem printHost_prints : Exporter.Prints printHost false anyField :=
  Exporter.prints_text fun _ _ _ _ plain _ =>
    fits_text (appendEscaped_text (extractFlowcacheHost_well plain))

theorem printReferer_prints : Exporter.Prints printReferer false anyField :=
  Exporter.prints_text fun _ _ _ _ plain _ =>
    fits_text (appendEscaped_text (extractFlowcacheReferer_well plain))

theorem printHostL2_prints : Exporter.Prints printHostL2 false anyField :=
  Exporter.prints_text fun globals _ _ _ plain _ =>
    fits_text (appendEscaped_text ((extractFlowcacheHost_well plain).httpL2Domain globals))

theorem printRefererL2_prints : Exporter.Prints printRefererL2 false anyField :=
  Exporter.prints_text fun globals _ _ _ plain _ =>
    fits_text (appendEscaped_text ((extractFlowcacheReferer_well plain).httpL2Domain globals))

/-! Names from DNS -/

theorem endName_text {name : Option Bytes} (plain : ∀ text ∈ name, JsonText (cString text)) :
    JsonText ((name.map fastString).getD []) := by
  cases name with
  | none => exact .nil
  | some text => exact plain text rfl

theorem printClientName_prints : Exporter.Prints printClientName false anyField :=
  Exporter.prints_text fun _ _ _ _ plain _ => fits_text (endName_text plain.clientName)

theorem printTargetName_prints : Exporter.Prints printTargetName false anyField :=
  Exporter.prints_text fun _ _ _ _ plain _ => fits_text (endName_text plain.targetName)

/-! All of them -/

/-- What an exporter asks of its field to print what fits: only those that print a part of it
ask for anything. -/
def ExportFn.admits : ExportFn → Bytes → Prop
  | .printString => JsonText
  | .printSsidName => ssidField
  | .printHttpUrl => ciscoField httpUrlId
  | .printHttpHost => ciscoField httpHostId
  | .printHttpHostL2 => ciscoField httpHostId
  | .printHttpUserAgent => ciscoField httpUaId
  | .printHttpReferer => ciscoField httpRefererId
  | .printHttpsCommonName => ciscoField httpsCommonNameNbarId
  | _ => anyField

/-- Whether what the exporter prints is a number, or it prints nothing. -/
def ExportFn.bare : ExportFn → Bool
  | .saveFlowBytes | .saveFlowPkts | .printNumber | .processSrcPort | .processDstPort
  | .processInputSnmp | .processOutputSnmp | .saveFirstSwitched | .saveLastSwitched
  | .saveFirstSecond | .saveLastSecond | .saveFirstMsecond | .saveLastMsecond
  | .printLanPort | .printWanPort | .printLanInterface | .printWanInterface => true
  | _ => false

def ExporterKind.Prints (kind : ExporterKind) (bare : Bool) (admits : Bytes → Prop) : Prop :=
  match kind with
  | .field exporter => exporter.Prints bare admits
  | .firstByte exporter => exporter.Prints bare

theorem exporterOf_prints : ∀ exportFn : ExportFn,
    (exporterOf exportFn).Prints exportFn.bare exportFn.admits
  | .saveFlowBytes => saveFlowBytes_prints
  | .printNumber => printNumber_prints true
  | .saveFlowPkts => saveFlowPkts_prints
  | .printTcpFlags => printTcpFlags_prints
  | .processSrcPort => processPort0_prints _
  | .printIpv4SrcAddr => processIpv4Addr0_prints fun _ _ => ⟨rfl, rfl⟩
  | .printNet => ipv4To6Decorator_prints (unlessNormalizing_prints printNetV60_prints)
  | .printNetName => ipv4To6Decorator_prints (unlessNormalizing_prints printNetNameV60_prints)
  | .processInputSnmp => processSnmpInterface_prints _
  | .printInterfaceName =>
      unlessNormalizing_prints (printObservationIdAttribute_prints interfaceName_plain)
  | .printInterfaceDescription =>
      unlessNormalizing_prints (printObservationIdAttribute_prints interfaceDescription_plain)
  | .processDstPort => processPort0_prints _
  | .printIpv4DstAddr => processIpv4Addr0_prints fun _ _ => ⟨rfl, rfl⟩
  | .processOutputSnmp => processSnmpInterface_prints _
  | .saveLastSwitched => saveLastSwitched_prints
  | .saveFirstSwitched => saveFirstSwitched_prints
  | .printIpv6SrcAddr => printIpv6_prints fun _ _ => ⟨rfl, rfl⟩
  | .printIpv6DstAddr => printIpv6_prints fun _ _ => ⟨rfl, rfl⟩
  | .printNetNameV6 => unlessNormalizing_prints printNetNameV60_prints
  | .printNetV6 => unlessNormalizing_prints printNetV60_prints
  | .printEngineIdName => printEngineIdName_prints
  | .processSrcMac => processMac0_prints _
  | .processPostSrcMac => processMac0_prints _
  | .processDirection => processDirection_prints
  | .printFlowCacheDirection => printFlowCacheDirection_prints
  | .processDstMac => processMac0_prints _
  | .processPostDstMac => processMac0_prints _
  | .printApplicationIdName => printApplicationIdName_prints
  | .printFlowEndReason => printFlowEndReason_prints
  | .saveFirstSecond => saveFirstSecond_prints
  | .saveLastSecond => saveLastSecond_prints
  | .saveFirstMsecond => callbackMiliBuffer_prints saveFirstSecond_prints
  | .saveLastMsecond => callbackMiliBuffer_prints saveLastSecond_prints
  | .printBiflowDirection => printBiflowDirection_prints
  | .printSelectorName => printObservationIdAttribute_prints selectorName_plain
  | .printString => printString_prints
  | .printCountryCode => printCountryCode_prints
  | .printASIpv4Name => printASIpv4Name_prints
  | .printCountry6Code => ofLength16_prints (geoipDecorator_prints country6CodeText_text)
  | .printAS6Name => ofLength16_prints (geoipDecorator_prints AS6NameText_text)
  | .printLanCountryCode =>
      printFlowCacheAddress_prints _ (geoipDecorator_prints country6CodeText_text)
  | .printWanCountryCode =>
      printFlowCacheAddress_prints _ (geoipDecorator_prints country6CodeText_text)
  | .printLanASName => printFlowCacheAddress_prints _ (geoipDecorator_prints AS6NameText_text)
  | .printWanASName => printFlowCacheAddress_prints _ (geoipDecorator_prints AS6NameText_text)
  | .printHttpUrl => printCiscoPrivateBuffer_prints _
  | .printHttpHost => printHttpHost_prints
  | .printHttpHostL2 => printHttpHostL2_prints
  | .printHttpUserAgent => printCiscoPrivateBuffer_prints _
  | .printHttpReferer => printHttpReferer_prints
  | .printHttpsCommonName => printHttpsCommonName_prints
  | .printHost => printHost_prints
  | .printHostL2 => printHostL2_prints
  | .printReferer => printReferer_prints
  | .printRefererL2 => printRefererL2_prints
  | .printSsidName => printSsidName_prints
  | .printClientMac => printClientMac_prints
  | .printDirectionBasedClientMac => printDirectionBasedClientMac_prints
  | .printMacMap => printMacMap_prints
  | .printMacVendor => printMacVendor_prints
  | .printDirectionBasedClientMacVendor => printDirectionBasedClientMacVendor_prints
  | .printLanAddr => printLanAddr_prints
  | .printLanAddrNet => printFlowCacheAddress_prints _ printNetV60_prints
  | .printLanAddrNetName => printFlowCacheAddress_prints _ printNetNameV60_prints
  | .printWanAddr => printFlowCacheAddress_prints _ printFlowCacheAddr_prints
  | .printWanAddrNet => printFlowCacheAddress_prints _ printNetV60_prints
  | .printWanAddrNetName => printFlowCacheAddress_prints _ printNetNameV60_prints
  | .printLanPort => printFlowCacheNumber_prints _
  | .printWanPort => printFlowCacheNumber_prints _
  | .printLanInterface => printFlowCacheNumber_prints _
  | .printLanInterfaceName => printFlowCacheInterfaceStr_prints _ interfaceName_plain
  | .printLanInterfaceDescription => printFlowCacheInterfaceStr_prints _ interfaceDescription_plain
  | .printWanInterface => printFlowCacheNumber_prints _
  | .printWanInterfaceName => printFlowCacheInterfaceStr_prints _ interfaceName_plain
  | .printWanInterfaceDescription => printFlowCacheInterfaceStr_prints _ interfaceDescription_plain
  | .printStaIpv4Address => printStaIpv4Address_prints
  | .printMac => printMac_prints
  | .printNetflowType => printNetflowType_prints
  | .printClientName => printClientName_prints
  | .printTargetName => printTargetName_prints

theorem exportField_prints (globals : ReadOnlyGlobals) (exportFn : ExportFn) (buffer : Mem)
    (realFieldLen : Nat) (cache : FlowCache) :
    Outcome (fun _ => False)
      (fun printed => PlainDatabases globals → PlainCache cache →
        exportFn.admits (buffer.slice realFieldLen) → printed.Fits exportFn.bare)
      (exportField globals exportFn buffer realFieldLen cache) := by
  have prints := exporterOf_prints exportFn
  rw [exportField]
  cases kind : exporterOf exportFn with
  | field exporter =>
      rw [kind] at prints
      exact prints globals _ cache
  | firstByte exporter =>
      rw [kind] at prints
      exact (prints globals _ cache).mono fun printed fits databases plain _ =>
        fits databases plain

end F2k
