import F2k.DirectionFields
import F2k.ExporterLines
import F2k.SecondLevelDomains

namespace F2k

open Lib

/-! What the exporters report of what they append. -/

def GeoIpDb.AnswersShort (database : GeoIpDb Address) : Prop :=
  ∀ address, ∀ text ∈ database.lookup address, text.length < 2 ^ 32

/-- The names of the GeoIP databases have some hundred bytes at most. -/
structure AnsweringGlobals extends ReadOnlyGlobals where
  countries : geoIpCountryDb.AnswersShort
  countriesV6 : geoIpCountryDbV6.AnswersShort
  systems : geoIpAsnDb.AnswersShort
  systemsV6 : geoIpAsnDbV6.AnswersShort

namespace Printing

/-- The program appends the text and returns its length. -/
def AppendsText (program : Printing Nat) (text : Bytes) : Prop :=
  program.Appends text text.length

/-- The exporter ends with what the run says it prints, and returns the length of that. -/
def Reports (program : Printing Exported) (run : Run Printed) : Prop :=
  ∃ text cache, run = cache.printed text ∧
    program.Appends text { returned := text.length, cache }

section

variable {program other : Printing Exported} {run otherRun : Run Printed}
variable {counted : Printing Nat} {action : Printing Unit} {text more : Bytes}
variable {condition : Prop} [Decidable condition]

theorem Reports.saves (cache : FlowCache) : Reports (Printing.saves cache) cache.saved :=
  ⟨[], cache, rfl, Program.appends_pure _⟩

theorem Reports.prints (appends : counted.AppendsText text) (cache : FlowCache) :
    Reports (Printing.prints cache counted) (cache.printed text) :=
  ⟨text, cache, rfl,
    Program.Appends.bind_pure appends fun returned => ({ returned, cache } : Exported)⟩

theorem Reports.ofRun {α : Type} {search : Run α} {found : α} {next : α → Printing Exported}
    {counted : α → Run Printed} (searched : search = .ok found)
    (reports : Reports (next found) (counted found)) :
    Reports (Printing.ofRun search >>= next) (search >>= counted) := by
  obtain ⟨text, cache, ran, appends⟩ := reports
  have search' : (Printing.ofRun search).Appends [] found := by
    intro line
    rw [List.append_nil, searched]
    exact (Program.runs_pure found line).ends
  refine ⟨text, cache, ?_, search'.bind_eq appends (List.nil_append _)⟩
  rw [searched, Run.ok_bind, ran]

theorem Reports.ite (yes : condition → Reports program run)
    (no : ¬condition → Reports other otherRun) :
    Reports (if condition then program else other) (if condition then run else otherRun) := by
  split
  · next holds => exact yes holds
  · next fails => exact no fails

/-- The exporter asks for the opposite. -/
theorem Reports.iteNot {opposite : Prop} [Decidable opposite] (turned : opposite ↔ ¬condition)
    (no : ¬condition → Reports program otherRun) (yes : condition → Reports other run) :
    Reports (if opposite then program else other) (if condition then run else otherRun) := by
  split
  · next against =>
      have fails := turned.mp against
      rw [if_neg fails]
      exact no fails
  · next same =>
      have holds := not_not.mp (turned.not.mp same)
      rw [if_pos holds]
      exact yes holds

/-! The ways to append -/

theorem runs_bpos (line : Bytes) : bpos.Runs line line.length line :=
  fun _ => rfl

theorem runs_memappendFast (text line : Bytes) :
    (memappendFast text).Runs line () (line ++ text) :=
  fun _ => rfl

theorem appends_memappendFast (text : Bytes) : (memappendFast text).Appends text () :=
  fun line => (runs_memappendFast text line).ends

theorem appends_memappendFastN16 (value : UInt8) :
    (memappendFastN16 value).Appends (n16 value) () := by
  have digits := Program.Appends.forM (fun digit => appends_memappendFast [digit]) (n16 value)
  rwa [List.flatMap_singleton'] at digits

theorem AppendsText.nothing : AppendsText (pure 0) [] :=
  Program.appends_pure 0

theorem AppendsText.of_length (appends : action.Appends text ()) {length : Nat}
    (same : length = text.length) : AppendsText (do action; pure length) text := by
  unfold AppendsText
  rw [← same]
  exact Program.Appends.bind_pure appends fun _ => length

theorem ends_bpos (line text : Bytes) :
    Program.Ends
      (do
        let endBpos ← bpos
        pure (endBpos - line.length))
      (line ++ text) text.length (line ++ text) := by
  refine (runs_bpos (line ++ text)).ends.bind ?_
  rw [List.length_append, Nat.add_sub_cancel_left]
  exact (Program.runs_pure _ _).ends

theorem AppendsText.of_bpos (appends : action.Appends text ()) :
    AppendsText
      (do
        let startBpos ← bpos
        action
        let endBpos ← bpos
        pure (endBpos - startBpos))
      text := by
  intro line
  exact (runs_bpos line).ends.bind ((appends line).bind (ends_bpos line text))

theorem appendsText_memappendFastString (str : Bytes) :
    AppendsText (memappendFastString str) (fastString str) :=
  .of_length (appends_memappendFast (cString str)) rfl

theorem appendsText_memappendFastN10 (value : UInt64) :
    AppendsText (memappendFastN10 value) (n10 value) :=
  .of_length (appends_memappendFast (n10 value)) rfl

theorem appendsText_printIpv4Addr0 (ipv4 : UInt32) :
    AppendsText (printIpv4Addr0 ipv4) (intoaV4 ipv4) :=
  .of_length (appends_memappendFast (intoaV4 ipv4)) rfl

/-- The separator is appended behind all but the last. -/
theorem appends_separator (last : Prop) [Decidable last] :
    Program.Appends (if last then memappendFast (ascii ":") else pure () : Printing Unit)
      (if last then ascii ":" else []) () := by
  split
  · exact appends_memappendFast (ascii ":")
  · exact Program.appends_pure ()

theorem exists_octets {mac : Bytes} (whole : mac.length = 6) :
    ∃ a b c d e f, mac = [a, b, c, d, e, f] := by
  rcases mac with _ | ⟨a, _ | ⟨b, _ | ⟨c, _ | ⟨d, _ | ⟨e, _ | ⟨f, _ | ⟨g, mac⟩⟩⟩⟩⟩⟩⟩
  case cons.cons.cons.cons.cons.cons.nil => exact ⟨a, b, c, d, e, f, rfl⟩
  all_goals simp at whole

theorem macText_length {mac : Bytes} (whole : mac.length = 6) :
    (macText mac).length = (ascii "ff:ff:ff:ff:ff:ff").length := by
  obtain ⟨a, b, c, d, e, f, rfl⟩ := exists_octets whole
  rfl

theorem appendsText_printMac0 {mac : Bytes} (whole : mac.length = 6) :
    AppendsText (printMac0 mac) (macText mac) := by
  have octets : ∀ i, Program.Appends
      (do
        memappendFastN16 (mac.getD i 0)
        if i < 5 then memappendFast (ascii ":") else pure () : Printing Unit)
      (n16 (mac.getD i 0) ++ if i < 5 then ascii ":" else []) () :=
    fun i => Program.Appends.bind (appends_memappendFastN16 (mac.getD i 0)) (appends_separator _)
  have text : (List.range 6).flatMap
      (fun i => n16 (mac.getD i 0) ++ if i < 5 then ascii ":" else []) = macText mac := by
    obtain ⟨a, b, c, d, e, f, rfl⟩ := exists_octets whole
    rfl
  have appends := Program.Appends.forM octets (List.range 6)
  rw [text] at appends
  exact .of_length appends (macText_length whole).symm

theorem appendsText_printIpv6Addr0 (address : Bytes) :
    AppendsText (printIpv6Addr0 address) (ipv6Text address) := by
  have octets : ∀ i, Program.Appends
      (do
        memappendFastN16 (address.getD (2 * i) 0)
        memappendFastN16 (address.getD (2 * i + 1) 0)
        if i < 7 then memappendFast (ascii ":") else pure () : Printing Unit)
      (n16 (address.getD (2 * i) 0) ++
        (n16 (address.getD (2 * i + 1) 0) ++ if i < 7 then ascii ":" else [])) () :=
    fun i => Program.Appends.bind (appends_memappendFastN16 _)
      (Program.Appends.bind (appends_memappendFastN16 _) (appends_separator _))
  exact .of_length (Program.Appends.forM octets (List.range 8)) rfl

theorem escapeAt_eq (string : Bytes) (i : Nat) :
    escapeAt string i = (escapedPieces string i).map fun turn => (turn.1.flatten, turn.2) := by
  unfold escapeAt escapedPieces
  cases validUtf8CharAt string i (string.length - i) with
  | error beyond => rfl
  | ok utf8Length =>
      cases readByte string i with
      | error beyond => rfl
      | ok byte =>
          cases utf8Length with
          | none => rfl
          | some utf8Length =>
              simp only [ok_bind]
              split
              · rfl
              · cases readBytes string i utf8Length with
                | error beyond => rfl
                | ok text => exact congrArg (fun text => Except.ok (text, utf8Length)) (by simp)

theorem appendEscapedTurns_run {string : Bytes} {turns : Nat} {escaping final : Escaping}
    (ran : appendEscapedLoop string turns escaping = .ok (some final)) :
    (appendEscapedTurns string turns escaping.i).run escaping.buffer =
      some (.ok ((), final.buffer)) := by
  induction turns generalizing escaping with
  | zero => cases ran
  | succ turns ih =>
      unfold appendEscapedLoop at ran
      unfold appendEscapedTurns
      split
      · next inside =>
          rw [if_pos inside, escapeAt_eq] at ran
          cases turn : escapedPieces string escaping.i.toNat with
          | error beyond =>
              rw [turn] at ran
              cases ran
          | ok turn' =>
              rw [turn] at ran
              exact (Writing.run_appends _ _ _).trans (ih ran)
      · next outside =>
          rw [if_neg outside] at ran
          cases ran
          rfl

theorem appendsText_appendEscaped {string : Bytes} (short : string.length < 2 ^ 32) :
    AppendsText (appendEscaped string) (F2k.appendEscaped string) := by
  apply AppendsText.of_bpos
  intro line
  have ran := appendEscapedLoop_short short (Nat.zero_le _) (Nat.le_refl _) line
  refine ⟨string.length - 0 + 1, ?_⟩
  intro more
  have start : UInt32.ofNat 0 = 0 := rfl
  have later := appendEscapedLoop_more ran more
  rw [start] at later
  have turned := appendEscapedTurns_run later
  rw [turned]
  simp [F2k.appendEscaped]

theorem appendsText_printHttpL2Domain (globals : ReadOnlyGlobals) {hostname : Bytes}
    (short : hostname.length < 2 ^ 32) :
    AppendsText (printHttpL2Domain globals hostname)
      (F2k.appendEscaped (httpL2Domain globals hostname)) := by
  obtain ⟨part, ran, has, length⟩ :=
    httpL2DomainAt_eq globals (HasAt.whole hostname) (Nat.lt_succ_self hostname.length)
  have found : (l2Domain globals hostname).Appends [] part := by
    intro line
    refine ⟨hostname.length + 1, ?_⟩
    intro more
    unfold l2Domain
    rw [httpL2DomainAt_more ran more, List.append_nil]
    rfl
  have shorter : (httpL2Domain globals hostname).length < 2 ^ 32 :=
    Nat.lt_of_le_of_lt (httpL2DomainFrom_isInfix globals _ hostname).length_le short
  refine Program.Appends.bind_eq found ?_ (List.nil_append _)
  rw [length, has.part]
  exact appendsText_appendEscaped shorter

/-! MAC addresses and applications -/

theorem appendsText_printMacVendor0 (globals : ReadOnlyGlobals) (mac : Bytes) :
    AppendsText (printMacVendor0 globals mac) (macVendorText globals mac) := by
  unfold printMacVendor0 macVendorText
  dsimp only
  rw [ite_not]
  split
  · exact .nothing
  · cases globals.rbDatabases.macVendorDatabase.bind fun database =>
        database (net2number (mac.take 6)) with
    | none => exact .nothing
    | some vendor => exact appendsText_memappendFastString vendor

theorem appendsText_printMacVendorAddrFormat0 (globals : ReadOnlyGlobals) {mac : Bytes}
    (whole : mac.length = 6) :
    AppendsText (printMacVendorAddrFormat0 globals mac) (macVendorAddrFormatText globals mac) := by
  have vendor := appendsText_printMacVendor0 globals mac
  unfold printMacVendorAddrFormat0 macVendorAddrFormatText
  dsimp only
  split
  · next some =>
      have octets : ∀ i, Program.Appends
          (do
            memappendFast (ascii ":")
            memappendFastN16 (mac.getD i 0) : Printing Unit)
          (ascii ":" ++ n16 (mac.getD i 0)) () :=
        fun i => Program.Appends.bind (appends_memappendFast _) (appends_memappendFastN16 _)
      have text : [3, 4, 5].flatMap (fun i => ascii ":" ++ n16 (mac.getD i 0)) =
          ((mac.drop 3).take 3).flatMap fun octet => ascii ":" ++ n16 octet := by
        obtain ⟨a, b, c, d, e, f, rfl⟩ := exists_octets whole
        rfl
      have appends := Program.Appends.forM octets [3, 4, 5]
      rw [text] at appends
      have length : (macVendorText globals mac ++
          ((mac.drop 3).take 3).flatMap fun octet => ascii ":" ++ n16 octet).length =
            (macVendorText globals mac).length + (ascii ":ff:ff:ff").length := by
        rw [List.length_append, ← text]
        rfl
      unfold AppendsText
      rw [length]
      refine Program.Appends.bind_eq vendor ?_ rfl
      rw [if_pos some]
      exact Program.Appends.bind_pure appends fun _ => _
  · next none' =>
      have noVendor : macVendorText globals mac = [] :=
        List.length_eq_zero_iff.mp (Nat.eq_zero_of_not_pos none')
      refine Program.Appends.bind_eq vendor ?_ (by rw [noVendor, List.append_nil])
      rw [if_neg none']
      exact AppendsText.nothing

/-- The address follows a name of the database. -/
theorem appends_printMacMap0_named (globals : ReadOnlyGlobals) {mac : Bytes} {node : UInt64 × Bytes}
    (whole : mac.length = 6) (address : net2number mac ≠ 0)
    (named : (globals.rbDatabases.macNameDatabase.find? fun node => node.1 = net2number mac) =
      some node) :
    (printMacMap0 globals mac).Appends (fastString node.2 ++ macText mac)
      (ascii "ff:ff:ff:ff:ff:ff").length := by
  have all : mac.take 6 = mac := List.take_of_length_le (Nat.le_of_eq whole)
  unfold printMacMap0
  dsimp only
  rw [all, if_pos address, named, ← macText_length whole]
  exact Program.Appends.bind (appendsText_memappendFastString node.2) (appendsText_printMac0 whole)

theorem printMacMap0_reports (globals : ReadOnlyGlobals) {mac : Bytes} (cache : FlowCache)
    (whole : mac.length = 6)
    (unnamed : net2number mac ≠ 0 → ∀ node,
      (globals.rbDatabases.macNameDatabase.find? fun node => node.1 = net2number mac) = some node →
        fastString node.2 = []) :
    Reports (Printing.prints cache (printMacMap0 globals mac))
      (F2k.printMacMap0 globals mac cache) := by
  have all : mac.take 6 = mac := List.take_of_length_le (Nat.le_of_eq whole)
  have plain := appendsText_printMac0 whole
  unfold F2k.printMacMap0
  dsimp only
  rw [all]
  rcases eq_or_ne (net2number mac) 0 with zero | address
  · unfold printMacMap0
    dsimp only
    rw [all, if_pos zero, if_neg (not_not.mpr zero)]
    exact .prints plain cache
  · rw [if_neg address]
    cases found : globals.rbDatabases.macNameDatabase.find? fun node => node.1 = net2number mac with
    | some node =>
        have named := appends_printMacMap0_named globals whole address found
        have empty := unnamed address node found
        rw [empty, List.nil_append, ← macText_length whole] at named
        dsimp only
        rw [empty, List.nil_append, ← macText_length whole]
        exact .prints named cache
    | none =>
        have vendor := appendsText_printMacVendorAddrFormat0 globals whole
        unfold printMacMap0
        dsimp only
        rw [all, if_pos address, found]
        dsimp only
        split
        · next some =>
            refine .prints ?_ cache
            refine Program.Appends.bind_eq vendor ?_ (List.append_nil _)
            rw [if_pos some]
            exact Program.appends_pure _
        · next none' =>
            have noVendor : macVendorAddrFormatText globals mac = [] :=
              List.length_eq_zero_iff.mp (Nat.eq_zero_of_not_pos none')
            refine .prints ?_ cache
            refine Program.Appends.bind_eq vendor ?_ (by rw [noVendor, List.nil_append])
            rw [if_neg none']
            exact plain

theorem appendsText_printEngineIdName0 (globals : ReadOnlyGlobals) (engineId : UInt8) :
    AppendsText (printEngineIdName0 globals engineId) (engineIdNameText globals engineId) := by
  unfold printEngineIdName0 engineIdNameText
  split
  · exact .nothing
  · next some =>
      cases globals.rbDatabases.enginesNameAsList.find? fun node => node.1 = engineId.toUInt32 with
      | some node => exact appendsText_memappendFastString node.2
      | none =>
          unfold printEngineId
          dsimp only
          rw [if_neg some]
          exact appendsText_memappendFastN10 _

theorem appendsText_printApplicationId0 (globals : ReadOnlyGlobals) (field : Bytes) :
    AppendsText (printApplicationId0 globals field) (applicationIdText globals field) := by
  unfold printApplicationId0 applicationIdText
  dsimp only
  split
  · exact .nothing
  · split
    · exact .nothing
    · have name := appendsText_printEngineIdName0 globals (field.getD 0 0)
      have minor := appendsText_memappendFastN10 (net2number field &&& 0x00ffffff)
      have colon := appends_memappendFast (ascii ":")
      unfold AppendsText
      rw [List.length_append, List.length_append, List.append_assoc]
      exact Program.Appends.bind name (Program.Appends.bind colon
        (Program.Appends.bind_pure minor fun minorBytes =>
          (engineIdNameText globals (field.getD 0 0)).length + 1 + minorBytes))

end

/-! Exporters that look at nothing but the field, the databases and the flow cache -/

def LineReports (exporter : LineExporter) (counted : Exporter) : Prop :=
  ∀ (globals : AnsweringGlobals) field cache,
    Reports (exporter globals.toReadOnlyGlobals field cache)
      (counted globals.toReadOnlyGlobals field cache)

section

variable {exporter : LineExporter} {counted : Exporter}

theorem printString_reports : LineReports printString F2k.printString :=
  fun _ field cache => .prints (.of_bpos (appends_memappendFast field)) cache

theorem printNumber_reports : LineReports printNumber F2k.printNumber :=
  fun _ field cache => .prints (appendsText_memappendFastN10 (net2number field)) cache

theorem printNetflowType_reports : LineReports printNetflowType F2k.printNetflowType := by
  intro globals field cache
  refine .prints ?_ cache
  intro line
  have front := appends_memappendFast (ascii "netflowv") line
  have number := appendsText_memappendFastN10 (net2number field) (line ++ ascii "netflowv")
  rw [List.append_assoc] at number
  exact (runs_bpos line).ends.bind (front.bind (number.bind (ends_bpos line _)))

theorem saveFlowcacheNumberParameter_reports {save : FlowCache → UInt64 → FlowCache}
    (saved : ∀ globals field cache,
      counted globals field cache = (save cache (net2number field)).saved) :
    LineReports (saveFlowcacheNumberParameter save) counted := by
  intro globals field cache
  rw [saved]
  exact .saves _

theorem callbackMiliBuffer_reports (reports : LineReports exporter counted) :
    LineReports (callbackMiliBuffer exporter) (F2k.callbackMiliBuffer counted) :=
  fun globals _ cache => reports globals _ cache

theorem printTcpFlags_reports : LineReports printTcpFlags F2k.printTcpFlags := by
  intro globals field cache
  have flags : ∀ tcpFlags, Reports
      (if tcpFlags = 0 then saves cache
      else prints cache do
        let startBpos ← bpos
        memappendFast (tcpFlagsText tcpFlags)
        let endBpos ← bpos
        pure (endBpos - startBpos))
      (if tcpFlags = 0 then cache.saved else cache.printed (tcpFlagsText tcpFlags)) :=
    fun tcpFlags => .ite (fun _ => .saves cache)
      fun _ => .prints (.of_bpos (appends_memappendFast (tcpFlagsText tcpFlags))) cache
  rcases field with _ | ⟨first, _ | ⟨second, _ | ⟨third, rest⟩⟩⟩
  · exact .saves cache
  · exact flags first
  · exact flags second
  · unfold printTcpFlags F2k.printTcpFlags
    dsimp only
    rw [if_pos (by simp)]
    exact .saves cache

theorem printSsidName_reports : LineReports printSsidName F2k.printSsidName := by
  intro globals field cache
  have text : field.take (cString (field.take (field.length % 65536))).length =
      cString (field.take (field.length % 65536)) := by
    have starts : cString (field.take (field.length % 65536)) <+: field :=
      (List.takeWhile_prefix _).trans (List.take_prefix _ _)
    exact (List.prefix_iff_eq_take.mp starts).symm
  refine .prints (.of_length ?_ rfl) cache
  rw [text]
  exact appends_memappendFast _

/-! Directions and MAC addresses -/

theorem netflowDirectionText_fast (direction : UInt64) :
    fastString (netflowDirectionText direction) = netflowDirectionText direction := by
  unfold netflowDirectionText
  split
  · rfl
  · split
    · rfl
    · rfl

theorem directionText_fast (direction : Direction) :
    fastString (directionText direction) = directionText direction := by
  cases direction <;> rfl

theorem printFlowCacheDirection_reports :
    LineReports printFlowCacheDirection F2k.printFlowCacheDirection := by
  intro globals field cache
  have appends := appendsText_memappendFastString (directionText cache.macs.direction)
  rw [directionText_fast] at appends
  exact .prints appends cache

theorem processDirection_reports : LineReports processDirection F2k.processDirection := by
  intro globals field cache
  have appends := appendsText_memappendFastString (netflowDirectionText (net2number field))
  rw [netflowDirectionText_fast] at appends
  exact .ite (fun _ => .saves cache)
    fun _ => .ite (fun _ => .saves _) fun _ => .prints appends cache

theorem printMac_reports : LineReports printMac F2k.printMac :=
  fun _ _ cache => .iteNot Iff.rfl (fun _ => .saves cache)
    fun whole => .prints (appendsText_printMac0 whole) cache

theorem processMac0_reports (save : FlowCacheMacs → Bytes → FlowCacheMacs) :
    LineReports (processMac0 save) (F2k.processMac0 save) := by
  intro globals field cache
  refine .ite (fun _ => ?_) fun _ => printMac_reports globals field cache
  split
  · exact .saves _
  · exact .saves _

theorem printMacVendor_reports : LineReports printMacVendor F2k.printMacVendor :=
  fun _ field cache => .iteNot Iff.rfl (fun _ => .saves cache)
    fun _ => .prints (appendsText_printMacVendor0 _ field) cache

theorem printDirectionBasedClientMacVendor_reports :
    LineReports printDirectionBasedClientMacVendor F2k.printDirectionBasedClientMacVendor :=
  fun _ _ cache =>
    .prints (appendsText_printMacVendor0 _ cache.getDirectionBasedClientMac) cache

theorem printClientMac_reports : LineReports printClientMac F2k.printClientMac :=
  fun _ _ cache => .ite (fun _ => .saves cache) fun whole =>
    .ite (fun _ => .saves cache) fun _ => .prints (appendsText_printMac0 (not_not.mp whole)) _

/-! Networks and addresses -/

theorem printNet0_reports {sensorListSearch : ObservationID → IpAddr → Run (Option Bytes)}
    (searches : ∀ observationId ip, ∃ found, sensorListSearch observationId ip = .ok found)
    (globalNetList : IPNameAssoc → Bytes) :
    LineReports (printNet0 sensorListSearch globalNetList)
      (F2k.printNet0 sensorListSearch globalNetList) := by
  intro globals field cache
  refine .ite (fun _ => .saves cache) fun _ => ?_
  obtain ⟨found, searched⟩ := searches cache.observationId (.ofOctets field)
  refine .ofRun searched ?_
  cases found with
  | some homeNet => exact .prints (appendsText_memappendFastString homeNet) cache
  | none =>
      dsimp only
      cases ipInList field globals.rbDatabases.netsNameAsList with
      | some assoc => exact .prints (appendsText_memappendFastString (globalNetList assoc)) cache
      | none => exact .saves cache

theorem printNetV60_reports : LineReports printNetV60 F2k.printNetV60 := by
  apply printNet0_reports
  intro observationId ip
  obtain ⟨found, searched, _⟩ := (networkIp_outcome observationId ip).exists_ok
  exact ⟨found, searched⟩

theorem printNetNameV60_reports : LineReports printNetNameV60 F2k.printNetNameV60 := by
  apply printNet0_reports
  intro observationId ip
  obtain ⟨found, searched, _⟩ := (networkName_outcome observationId ip).exists_ok
  exact ⟨found, searched⟩

theorem unlessNormalizing_reports (reports : LineReports exporter counted) :
    LineReports (unlessNormalizing exporter) (F2k.unlessNormalizing counted) :=
  fun globals field cache => .iteNot Iff.rfl (fun _ => reports globals field cache)
    fun _ => .saves cache

theorem ipv4To6Decorator_reports (reports : LineReports exporter counted) :
    LineReports (ipv4To6Decorator exporter) (F2k.ipv4To6Decorator counted) :=
  fun globals field cache => .ite (fun _ => .saves cache)
    fun _ => reports globals (ipv4bufTo6 field) cache

theorem ofLength16_reports (reports : LineReports exporter counted) :
    LineReports (ofLength16 exporter) (F2k.ofLength16 counted) :=
  fun globals field cache => .ite (fun _ => .saves cache) fun _ => reports globals field cache

theorem printFlowCacheAddress_reports (reports : LineReports exporter counted)
    (getAddr : FlowCache → AddressSlot) :
    LineReports (printFlowCacheAddress getAddr exporter)
      (F2k.printFlowCacheAddress getAddr counted) :=
  fun globals _ cache => reports globals (cache.addressAt (getAddr cache)) cache

theorem printIpv4Addr_reports : LineReports printIpv4Addr F2k.printIpv4Addr :=
  fun _ _ cache => .ite (fun _ => .saves cache)
    fun _ => .prints (appendsText_printIpv4Addr0 _) cache

theorem processIpv4Addr0_reports (save : FlowCacheAddress → Bytes → FlowCacheAddress) :
    LineReports (processIpv4Addr0 save) (F2k.processIpv4Addr0 save) := by
  intro globals field cache
  refine .ite (fun _ => ?_) fun _ => printIpv4Addr_reports globals field cache
  rcases eq_or_ne field.length 4 with whole | other
  · rw [if_pos whole, if_neg (not_not.mpr whole)]
    exact .saves _
  · rw [if_neg other, if_pos other]
    exact .saves _

theorem printIpv6_reports (save : FlowCacheAddress → Bytes → FlowCacheAddress) :
    LineReports (printIpv6 save) (F2k.printIpv6 save) :=
  fun _ _ cache => .ite (fun _ => .saves cache)
    fun _ => .prints (appendsText_printIpv6Addr0 _) _

theorem printFlowCacheAddr_reports : LineReports printFlowCacheAddr F2k.printFlowCacheAddr := by
  intro globals address cache
  apply Reports.prints
  unfold flowCacheAddrText
  split
  · exact appendsText_printIpv4Addr0 _
  · exact appendsText_printIpv6Addr0 _

theorem printStaIpv4Address_reports :
    LineReports printStaIpv4Address F2k.printStaIpv4Address :=
  fun _ _ cache => .ite (fun _ => .saves cache)
    fun _ => .prints (appendsText_printIpv4Addr0 _) _

theorem printLanAddr_reports : LineReports printLanAddr F2k.printLanAddr :=
  fun globals field cache => .iteNot Iff.rfl (fun _ => .saves cache)
    fun _ => printFlowCacheAddress_reports printFlowCacheAddr_reports _ globals field cache

/-! Applications, ports and interfaces -/

theorem printApplicationIdName_reports :
    LineReports printApplicationIdName F2k.printApplicationIdName := by
  intro globals field cache
  refine .ite (fun _ => .saves cache) fun _ => ?_
  cases (cache.observationId.applicationName (net2number field)).orElse fun _ =>
      globals.rbDatabases.appsNameAsList.bind fun database => database (net2number field) with
  | some appidStr => exact .prints (appendsText_memappendFastString appidStr) cache
  | none => exact .prints (appendsText_printApplicationId0 _ field) cache

theorem appendsText_printAttribute (getAttribute : UInt64 → Option Bytes) (number : UInt64) :
    AppendsText (printAttribute (getAttribute number) number) (attributeText getAttribute number) := by
  unfold printAttribute attributeText
  cases getAttribute number with
  | some str => exact appendsText_memappendFastString str
  | none => exact appendsText_memappendFastN10 number

theorem printObservationIdAttribute_reports
    (getAttribute : ObservationID → UInt64 → Option Bytes) :
    LineReports (printObservationIdAttribute getAttribute)
      (F2k.printObservationIdAttribute getAttribute) :=
  fun _ _ cache => .prints (appendsText_printAttribute (getAttribute cache.observationId) _) cache

theorem printFlowCacheInterfaceStr_reports (getNumber : FlowCache → UInt64)
    (interfaceStr : ObservationID → UInt64 → Option Bytes) :
    LineReports (printFlowCacheInterfaceStr getNumber interfaceStr)
      (F2k.printFlowCacheInterfaceStr getNumber interfaceStr) :=
  fun _ _ cache => .prints (appendsText_printAttribute (interfaceStr cache.observationId) _) cache

theorem processPort0_reports (save : FlowCachePorts → UInt16 → FlowCachePorts) :
    LineReports (processPort0 save) (F2k.processPort0 save) :=
  fun _ _ cache => .ite (fun _ => .saves cache)
    fun _ => .ite (fun _ => .saves _) fun _ => .prints (appendsText_memappendFastN10 _) cache

theorem printFlowCacheNumber_reports (getNumber : FlowCache → UInt64) :
    LineReports (printFlowCacheNumber getNumber) (F2k.printFlowCacheNumber getNumber) :=
  fun _ _ cache => .prints (appendsText_memappendFastN10 (getNumber cache)) cache

theorem processSnmpInterface_reports
    (save : FlowCacheInterfaces → UInt64 → FlowCacheInterfaces) :
    LineReports (processSnmpInterface save) (F2k.processSnmpInterface save) :=
  fun globals field cache => .ite (fun _ => .saves _)
    fun _ => printNumber_reports globals field cache

/-! Countries and autonomous systems -/

theorem appendsText_printCountryOf {country : Option Bytes}
    (short : ∀ text ∈ country, text.length < 2 ^ 32) :
    AppendsText (printCountryOf country) (escapedText country) := by
  cases country with
  | none => exact .nothing
  | some country =>
      apply appendsText_appendEscaped
      exact Nat.lt_of_le_of_lt (List.takeWhile_prefix _).length_le (short country rfl)

theorem appendsText_printASNameOf {rsp : Option Bytes}
    (short : ∀ text ∈ rsp, text.length < 2 ^ 32) :
    AppendsText (printASNameOf rsp) (geoipASNameText rsp) := by
  cases rsp with
  | none => exact .nothing
  | some rsp =>
      unfold printASNameOf printBufferGeoipASName geoipASNameText fastString
      simp only [Option.map_some, escapedText, fastString]
      have within := List.dropWhile_suffix (fun byte => decide (byte ≠ 32)) (l := cString rsp)
      cases rest : (cString rsp).dropWhile fun byte => decide (byte ≠ 32) with
      | nil => exact .nothing
      | cons space name =>
          rw [rest] at within
          have inside : name <:+ cString rsp := (List.suffix_cons space name).trans within
          have whole : cString name = name := by
            apply List.takeWhile_eq_self_iff.mpr
            intro byte member
            simpa using cString_ne_zero (inside.subset member)
          have shorter : name.length < 2 ^ 32 :=
            Nat.lt_of_le_of_lt (inside.length_le.trans (List.takeWhile_prefix _).length_le)
              (short rsp rfl)
          rw [List.tail_cons, whole]
          dsimp only
          split
          · exact appendsText_appendEscaped shorter
          · next empty =>
              rw [not_not.mp empty]
              exact .nothing

theorem printCountryCode_reports : LineReports printCountryCode F2k.printCountryCode := by
  apply unlessNormalizing_reports
  intro globals field cache
  exact .ite (fun _ => .saves cache) fun _ =>
    .prints (appendsText_printCountryOf (GeoIpDb.answer_of (globals.countries _))) cache

theorem printASIpv4Name_reports : LineReports printASIpv4Name F2k.printASIpv4Name := by
  apply unlessNormalizing_reports
  intro globals field cache
  exact .ite (fun _ => .prints
    (appendsText_printASNameOf (GeoIpDb.answer_of (globals.systems _))) cache)
      fun _ => .saves cache

theorem geoipDecorator_reports {printGeoip : ReadOnlyGlobals → Bytes → Printing Nat}
    {text : ReadOnlyGlobals → Bytes → Bytes}
    (appends : ∀ (globals : AnsweringGlobals) address,
      AppendsText (printGeoip globals.toReadOnlyGlobals address)
        (text globals.toReadOnlyGlobals address)) :
    LineReports (geoipDecorator printGeoip) (F2k.geoipDecorator text) :=
  fun globals address cache => .ite (fun _ => .saves cache)
    fun _ => .prints (appends globals address) cache

theorem appendsText_printAS6NameNl (globals : AnsweringGlobals) (address : Bytes) :
    AppendsText (printAS6NameNl globals.toReadOnlyGlobals address)
      (AS6NameText globals.toReadOnlyGlobals address) :=
  appendsText_printASNameOf (GeoIpDb.answer_of (globals.systemsV6 address))

theorem appendsText_printCountry6CodeNl (globals : AnsweringGlobals) (address : Bytes) :
    AppendsText (printCountry6CodeNl globals.toReadOnlyGlobals address)
      (country6CodeText globals.toReadOnlyGlobals address) := by
  unfold printCountry6CodeNl country6CodeText
  rw [ite_not]
  split
  · split
    · exact appendsText_printCountryOf (globals.countries _)
    · exact appendsText_printCountryOf (globals.countriesV6 _)
  · exact .nothing

/-! Names from DNS -/

theorem appendsText_printDnsObtainedHostname (string : Option Bytes) :
    AppendsText (printDnsObtainedHostname string) ((string.map fastString).getD []) := by
  cases string with
  | none => exact .nothing
  | some string => exact appendsText_memappendFastString string

theorem printClientName_reports : LineReports printClientName F2k.printClientName :=
  fun _ _ cache => .prints (appendsText_printDnsObtainedHostname cache.address.clientName) cache

theorem printTargetName_reports : LineReports printTargetName F2k.printTargetName :=
  fun _ _ cache => .prints (appendsText_printDnsObtainedHostname cache.address.targetName) cache

end

end Printing

end F2k
