import F2k.NamesReloaded
import F2k.NetworksAgree
import F2k.NumNameAssocTree
import F2k.WrittenNames
import Mathlib.Data.List.Find

namespace F2k

open Lib NameSources

/-! From the files of names to what is printed: whatever was in memory before a reload, exporters
print the names that the files give. -/

/-! What exporters find in memory -/

def engineNames (nodes : List NameNode) : List (UInt32 × Bytes) :=
  nodes.filterMap fun
    | .assoc name _ (.number id) => some (id, name)
    | _ => none

def macNames (nodes : List NameNode) : List (UInt64 × Bytes) :=
  nodes.filterMap fun
    | .macAddr name _ number => some (number, name)
    | _ => none

def networkNames (nodes : List NameNode) : List IPNameAssoc :=
  nodes.filterMap fun
    | .assoc name number (.netAddress address) => some (networksEntry number name address)
    | _ => none

section Databases

variable (searchTree : SearchTree NumNameAssocNode) {Vendors : Type}

/-- The files, with a library's trees for the applications. -/
def NameSources.ofFiles (files : Bytes → Option Bytes) (inetPton : InetPton)
    (newMacVendorDb : Bytes → Option Vendors) : NameSources searchTree.Tree Vendors where
  files
  inetPton
  newNumNameAssocTree := F2k.newNumNameAssocTree searchTree
  addNum tree number str := (F2k.addNumNameAssocToTree searchTree tree { number, str }).1
  newMacVendorDb

/-- The databases that exporters use are those in memory. -/
structure FindsNames (db : RbDatabases searchTree.Tree Vendors)
    (contents : NameList → List (Nat × NameNode)) (databases : Databases) : Prop where
  engines : databases.enginesNameAsList = engineNames ((contents .engines).map Prod.snd)
  macs : databases.macNameDatabase = macNames ((contents .macs).map Prod.snd)
  networks : databases.netsNameAsList = networkNames ((contents .networks).map Prod.snd)
  apps : databases.appsNameAsList =
    (db.appsNameAsList.bind db.trees.cells).map fun tree number =>
      searchNameAssociatedInTree searchTree tree number

end Databases

/-! What the files say -/

/-- The entries of the files, in their order. -/
structure NamesEntries where
  engines : List (NamesEntry UInt32)
  macs : List (NamesEntry Bytes)
  networks : List (NamesEntry NetAddress)
  apps : List (NamesEntry UInt64)

namespace NamesEntries

variable (entries : NamesEntries)

def engineName (id : UInt8) : Option Bytes :=
  (entries.engines.find? fun entry => entry.meaning = id.toUInt32).map NamesEntry.name

def macName (mac : Bytes) : Option Bytes :=
  (entries.macs.find? fun entry => entry.meaning = mac).map NamesEntry.name

/-- The first network that contains the address. -/
def network (bits : BitVec 128) : Option (NamesEntry NetAddress) :=
  entries.networks.find? fun entry =>
    bits &&& entry.meaning.networkMask = entry.meaning.network &&& entry.meaning.networkMask

/-- Of several names for one application the last one counts. -/
def appName (id : UInt64) : Option Bytes :=
  lastWritten (fun entry => if entry.meaning = id then some entry.name else none) entries.apps

/-- Every file that is to be loaded has these entries. -/
structure Written {Tree Vendors : Type} (sources : NameSources Tree Vendors)
    (db : RbDatabases Tree Vendors) : Prop where
  engines : db.reloadEnginesDatabase → ∃ content,
    sources.files (databasePath db.hostsDatabasePath "/engines") = some content ∧
      NamesFile EngineNumber content entries.engines
  macs : db.reloadMacsDatabase → ∃ content,
    sources.files (databasePath db.hostsDatabasePath "/macs") = some content ∧
      NamesFile MacNumber content entries.macs
  networks : db.reloadNetsDatabase → ∃ content,
    sources.files (db.hostsDatabasePath ++ ascii "/networks") = some content ∧
      NamesFile (NetworkNumber sources.inetPton) content entries.networks
  apps : db.reloadAppsDatabase → ∃ content,
    sources.files (databasePath db.hostsDatabasePath "/applications") = some content ∧
      NamesFile AppNumber content entries.apps

/-- The exporters print the names of the files that were to be loaded. -/
structure Printed {Tree Vendors : Type} (db : RbDatabases Tree Vendors)
    (globals : ReadOnlyGlobals) : Prop where
  engines : db.reloadEnginesDatabase → ∀ id ≠ 0,
    engineIdNameText globals id = (entries.engineName id).getD (n10 id.toUInt64)
  macs : db.reloadMacsDatabase → ∀ mac cache, mac.length = 6 → net2number mac ≠ 0 →
    ∀ name, entries.macName mac = some name → ∃ printed,
      printMacMap globals mac cache = .ok printed ∧ printed.text = name ++ macText mac
  otherMacs : db.reloadMacsDatabase → ∀ mac cache, mac.length = 6 → net2number mac ≠ 0 →
    entries.macName mac = none → macVendorAddrFormatText globals mac = [] →
      printMacMap globals mac cache = cache.printed (macText mac)
  networks : db.reloadNetsDatabase → ∀ bits cache,
    cache.observationId.networkIp (.ofOctets (toBe 16 bits.toNat)) = .ok none →
      printNetV60 globals (toBe 16 bits.toNat) cache =
        cache.printed (((entries.network bits).map NamesEntry.number).getD [])
  networkNames : db.reloadNetsDatabase → ∀ bits cache,
    cache.observationId.networkName (.ofOctets (toBe 16 bits.toNat)) = .ok none →
      printNetNameV60 globals (toBe 16 bits.toNat) cache =
        cache.printed (((entries.network bits).map NamesEntry.name).getD [])
  apps : db.reloadAppsDatabase → ∀ field cache, field.length = 4 → net2number field ≠ 0 →
    (net2number field).toNat < 2 ^ 31 →
      cache.observationId.applicationName (net2number field) = none →
        printApplicationIdName globals field cache =
          cache.printed ((entries.appName (net2number field)).getD
            (applicationIdText globals field))

end NamesEntries

section Printing

variable {globals : ReadOnlyGlobals} {cache : FlowCache}

theorem engineNames_map (engines : List (NamesEntry UInt32)) :
    engineNames (engines.map engineNode) =
      engines.map fun entry => (entry.meaning, entry.name) := by
  unfold engineNames
  rw [List.filterMap_map, ← List.filterMap_eq_map]
  rfl

theorem macNames_map (macs : List (NamesEntry Bytes)) :
    macNames (macs.map macNode) = macs.map fun entry => (net2number entry.meaning, entry.name) := by
  unfold macNames
  rw [List.filterMap_map, ← List.filterMap_eq_map]
  rfl

theorem networkNames_map (networks : List (NamesEntry NetAddress)) :
    networkNames (networks.map networkNode) =
      networks.map fun entry => networksEntry entry.number entry.name entry.meaning := by
  unfold networkNames
  rw [List.filterMap_map, ← List.filterMap_eq_map]
  rfl

theorem engineIdNameText_entries {engines : List (NamesEntry UInt32)}
    (known : globals.rbDatabases.enginesNameAsList = engineNames (engines.map engineNode))
    (tokens : ∀ entry ∈ engines, IsToken entry.name) {id : UInt8} (some : id ≠ 0) :
    engineIdNameText globals id =
      ((engines.find? fun entry => entry.meaning = id.toUInt32).map NamesEntry.name).getD
        (n10 id.toUInt64) := by
  unfold engineIdNameText
  rw [if_neg some, known, engineNames_map, List.find?_map]
  unfold Function.comp
  cases found : engines.find? fun entry => entry.meaning = id.toUInt32 with
  | none => simp
  | some entry =>
      have token := tokens entry (List.mem_of_find?_eq_some found)
      simp [fastString, token.cString_eq]

theorem net2number_mac {mac other : Bytes} (length : mac.length = 6)
    (otherLength : other.length = 6) : net2number mac = net2number other ↔ mac = other := by
  constructor
  · intro same
    have numbers := congrArg UInt64.toNat same
    rw [net2number_toNat ⟨6, by decide, by rw [length]⟩,
      net2number_toNat ⟨6, by decide, by rw [otherLength]⟩] at numbers
    exact beNat_injective (length.trans otherLength.symm) numbers
  · exact congrArg net2number

theorem find_mac {macs : List (NamesEntry Bytes)}
    (known : globals.rbDatabases.macNameDatabase = macNames (macs.map macNode))
    (lengths : ∀ entry ∈ macs, entry.meaning.length = 6) {mac : Bytes} (length : mac.length = 6) :
    globals.rbDatabases.macNameDatabase.find? (fun node => node.1 = net2number (mac.take 6)) =
      (macs.find? fun entry => entry.meaning = mac).map fun entry =>
        (net2number entry.meaning, entry.name) := by
  rw [known, macNames_map, List.find?_map, List.take_of_length_le (by omega)]
  apply congrArg
  apply List.find?_congr
  intro entry member
  exact decide_eq_decide.mpr (net2number_mac (lengths entry member) length)

theorem printMacMap_named {macs : List (NamesEntry Bytes)}
    (known : globals.rbDatabases.macNameDatabase = macNames (macs.map macNode))
    (means : ∀ entry ∈ macs, IsToken entry.name ∧ entry.meaning.length = 6) {mac name : Bytes}
    (length : mac.length = 6) (some : net2number mac ≠ 0)
    (named : (macs.find? fun entry => entry.meaning = mac).map NamesEntry.name = .some name) :
    ∃ printed, printMacMap globals mac cache = .ok printed ∧
      printed.text = name ++ macText mac := by
  obtain ⟨entry, found, rfl⟩ := Option.map_eq_some_iff.mp named
  obtain ⟨token, _⟩ := means entry (List.mem_of_find?_eq_some found)
  have inDatabase := find_mac known (fun entry member => (means entry member).2) length
  have whole : mac.take 6 = mac := List.take_of_length_le (by omega)
  rw [found, Option.map_some] at inDatabase
  unfold printMacMap printMacMap0
  dsimp only
  rw [if_pos length, inDatabase, whole, if_neg some]
  refine ⟨_, rfl, ?_⟩
  dsimp only
  rw [fastString, token.cString_eq]

theorem printMacMap_unnamed {macs : List (NamesEntry Bytes)}
    (known : globals.rbDatabases.macNameDatabase = macNames (macs.map macNode))
    (lengths : ∀ entry ∈ macs, entry.meaning.length = 6) {mac : Bytes}
    (length : mac.length = 6) (some : net2number mac ≠ 0)
    (unnamed : (macs.find? fun entry => entry.meaning = mac).map NamesEntry.name = none)
    (noVendor : macVendorAddrFormatText globals mac = []) :
    printMacMap globals mac cache = cache.printed (macText mac) := by
  have inDatabase := find_mac known lengths length
  have whole : mac.take 6 = mac := List.take_of_length_le (by omega)
  rw [Option.map_eq_none_iff.mp unnamed, Option.map_none] at inDatabase
  unfold printMacMap printMacMap0
  dsimp only
  rw [if_pos length, inDatabase, whole, if_neg some, noVendor]
  rfl

/-- Without host bits, the list contains the addresses that the networks contain. -/
theorem ipInList_entries {networks : List (NamesEntry NetAddress)}
    (bases : ∀ entry ∈ networks,
      entry.meaning.network &&& entry.meaning.networkMask = entry.meaning.network)
    (bits : BitVec 128) :
    ipInList (toBe 16 bits.toNat) (networkNames (networks.map networkNode)) =
      (networks.find? fun entry => bits &&& entry.meaning.networkMask =
          entry.meaning.network &&& entry.meaning.networkMask).map fun entry =>
        networksEntry entry.number entry.name entry.meaning := by
  unfold ipInList
  rw [networkNames_map, List.find?_map]
  apply congrArg
  apply List.find?_congr
  intro entry member
  apply decide_eq_decide.mpr
  rw [bases entry member]
  simp only [networksEntry, zipWith_and_toBe, ← BitVec.toNat_and]
  exact ⟨toBe_injective, congrArg fun bits => toBe 16 (BitVec.toNat bits)⟩

theorem printNet0_entries {networks : List (NamesEntry NetAddress)}
    (known : globals.rbDatabases.netsNameAsList = networkNames (networks.map networkNode))
    (bases : ∀ entry ∈ networks,
      entry.meaning.network &&& entry.meaning.networkMask = entry.meaning.network)
    {search : ObservationID → IpAddr → Run (Option Bytes)} {listed : IPNameAssoc → Bytes}
    {said : NamesEntry NetAddress → Bytes}
    (tokens : ∀ entry ∈ networks, IsToken (said entry) ∧
      listed (networksEntry entry.number entry.name entry.meaning) = said entry)
    {bits : BitVec 128}
    (unknown : search cache.observationId (.ofOctets (toBe 16 bits.toNat)) = .ok none) :
    printNet0 search listed globals (toBe 16 bits.toNat) cache =
      cache.printed (((networks.find? fun entry => bits &&& entry.meaning.networkMask =
        entry.meaning.network &&& entry.meaning.networkMask).map said).getD []) := by
  have listedAs := ipInList_entries bases bits
  unfold printNet0
  dsimp only
  rw [if_neg (by simp), unknown, Run.ok_bind, known]
  dsimp only
  rw [listedAs]
  cases found : networks.find? fun entry => bits &&& entry.meaning.networkMask =
      entry.meaning.network &&& entry.meaning.networkMask with
  | none => rfl
  | some entry =>
      obtain ⟨token, same⟩ := tokens entry (List.mem_of_find?_eq_some found)
      simp only [Option.map_some, Option.getD_some]
      rw [same, fastString, token.cString_eq]

/-! Applications -/

section Apps

variable {searchTree : SearchTree NumNameAssocNode} {Vendors : Type}
  {files : Bytes → Option Bytes} {inetPton : InetPton} {newMacVendorDb : Bytes → Option Vendors}
  {apps : List (NamesEntry UInt64)}

def NamesEntry.call (entry : NamesEntry UInt64) : AddNumNameAssoc where
  number := entry.meaning
  str := entry.name

theorem appLines_entries {content : Bytes} (file : NamesFile AppNumber content apps) :
    (readLines content).foldl (NameSources.ofFiles searchTree files inetPton newMacVendorDb).appLine
        (newNumNameAssocTree searchTree) =
      numNameAssocTree searchTree (apps.map NamesEntry.call) := by
  have tokens : ∀ tree : searchTree.Tree,
      (readLines content).foldl
          (NameSources.ofFiles searchTree files inetPton newMacVendorDb).appLine tree =
        ((readLines content).filterMap hostsListTokens).foldl (fun tree tokens =>
          (parseAppId tokens.2).elim tree fun number =>
            (addNumNameAssocToTree searchTree tree { number, str := tokens.1 }).1) tree := by
    intro tree
    rw [List.foldl_filterMap]
    apply congrArg (fun step => List.foldl step tree (readLines content))
    funext tree line
    unfold NameSources.appLine
    cases hostsListTokens line with
    | none => rfl
    | some tokens =>
        dsimp only
        cases parseAppId tokens.2 <;> rfl
  unfold numNameAssocTree
  rw [tokens, file.tokens, List.foldl_map, List.foldl_map]
  apply List.foldl_ext
  intro tree entry member
  rw [AppNumber.parseAppId_eq (file.means entry member).2.2]
  rfl

theorem call_addedNode (entry : NamesEntry UInt64) :
    addedNode entry.call = some { number := entry.meaning, string := some entry.name } := rfl

theorem steps_small {node : NumNameAssocNode} (small : node.number.toNat < 2 ^ 31) :
    steps 0 node < 2 ^ 31 := by
  unfold steps
  rw [UInt32.sub_zero, UInt64.toNat_toUInt32]
  omega

/-- Small ids are told apart by the tree. -/
theorem searchName_entries (isMap : searchTree.IsMap)
    (small : ∀ entry ∈ apps, entry.meaning.toNat < 2 ^ 31) {id : UInt64}
    (searched : id.toNat < 2 ^ 31) :
    searchNameAssociatedInTree searchTree
        (numNameAssocTree searchTree (apps.map NamesEntry.call)) id =
      lastWritten (fun entry => if entry.meaning = id then some entry.name else none) apps := by
  have total : TotalOn nodeCmp
      ({ number := id, string := none } :: (apps.map NamesEntry.call).filterMap addedNode) := by
    apply (nodeCmp_totalOn_iff _).mpr
    refine ⟨0, ?_⟩
    intro node member
    rcases List.mem_cons.mp member with rfl | added
    · exact steps_small searched
    · rw [List.filterMap_map] at added
      obtain ⟨entry, inFile, isNode⟩ := List.mem_filterMap.mp added
      rw [Function.comp_apply, call_addedNode, Option.some.injEq] at isNode
      rw [← isNode]
      exact steps_small (small entry inFile)
  rw [search_of_near searchTree isMap total]
  unfold lastWritten
  rw [List.filterMap_map]
  apply congrArg
  apply List.filterMap_congr
  intro entry member
  have bound := small entry member
  have alike : entry.meaning.toUInt32 = id.toUInt32 ↔ entry.meaning = id := by
    rw [← UInt32.toNat_inj, ← UInt64.toNat_inj, UInt64.toNat_toUInt32, UInt64.toNat_toUInt32]
    omega
  rw [Function.comp_apply, addedAlike, call_addedNode, Option.bind_some]
  simp only [alike]

end Apps

end Printing

/-! From one reload on -/

section Reload

variable {searchTree : SearchTree NumNameAssocNode} {Vendors : Type}
  {files : Bytes → Option Bytes} {inetPton : InetPton} {newMacVendorDb : Bytes → Option Vendors}
  {db after : RbDatabases searchTree.Tree Vendors} {entries : NamesEntries}
  {old new : NameList → List (Nat × NameNode)} {globals : ReadOnlyGlobals}

open RbDatabases

theorem appName_reloaded (isMap : searchTree.IsMap)
    (reloaded : Reloaded (NameSources.ofFiles searchTree files inetPton newMacVendorDb) db after
      old new)
    (written : entries.Written (NameSources.ofFiles searchTree files inetPton newMacVendorDb) db)
    (flag : db.reloadAppsDatabase) (finds : FindsNames searchTree after new globals.rbDatabases)
    {id : UInt64} (small : id.toNat < 2 ^ 31) :
    (globals.rbDatabases.appsNameAsList.bind fun database => database id) =
      entries.appName id := by
  obtain ⟨content, opened, file⟩ := written.apps flag
  obtain ⟨⟨address, tree, points, stands, fresh, ran, isTree⟩, _⟩ := reloaded.apps flag
  obtain ⟨loaded, ranFresh, cells⟩ := @parseAppList_live _ _
    (NameSources.ofFiles searchTree files inetPton newMacVendorDb) _ _ _
    (databasePath db.hostsDatabasePath "/applications")
    (@Heap.alloc_self _ .empty (newNumNameAssocTree searchTree))
  obtain rfl := Except.ok.inj (ranFresh.symm.trans ran)
  have same : tree = numNameAssocTree searchTree (entries.apps.map NamesEntry.call) := by
    have lastTree : loaded.cells 0 = some (numNameAssocTree searchTree
        (entries.apps.map NamesEntry.call)) := by
      rw [cells, lines_some opened, ← appLines_entries file]
      exact Function.update_self _ _ _
    exact Option.some.inj (isTree.symm.trans lastTree)
  rw [finds.apps, points, Option.bind_some, stands, same]
  apply searchName_entries isMap _ small
  intro entry member
  exact (file.means entry member).2.2.small

theorem appName_token {content : Bytes} (file : NamesFile AppNumber content entries.apps)
    {id : UInt64} {name : Bytes} (named : entries.appName id = some name) : IsToken name := by
  obtain ⟨entry, member, written⟩ := exists_of_lastWritten named
  split at written
  · rw [← Option.some.inj written]
    exact (file.means entry member).1
  · cases written

theorem printed_of_reloaded (isMap : searchTree.IsMap)
    (reloaded : Reloaded (NameSources.ofFiles searchTree files inetPton newMacVendorDb) db after
      old new)
    (written : entries.Written (NameSources.ofFiles searchTree files inetPton newMacVendorDb) db)
    (finds : FindsNames searchTree after new globals.rbDatabases) :
    entries.Printed db globals := by
  have nodes : ∀ list, db.flagged list → (new list).map Prod.snd =
      (NameSources.ofFiles searchTree files inetPton newMacVendorDb).fileNodes
        db.hostsDatabasePath list :=
    fun list flag => (loadsFresh_iff.mp (reloaded.loaded list flag)).2
  have engines : db.reloadEnginesDatabase →
      globals.rbDatabases.enginesNameAsList = engineNames (entries.engines.map engineNode) ∧
        ∀ entry ∈ entries.engines, IsToken entry.name := by
    intro flag
    obtain ⟨content, opened, file⟩ := written.engines flag
    refine ⟨?_, fun entry member => (file.means entry member).1⟩
    rw [finds.engines, nodes .engines flag, fileNodes, listLines, lines_some opened,
      file.nodes (becomes_engine _)]
  have macs : db.reloadMacsDatabase →
      globals.rbDatabases.macNameDatabase = macNames (entries.macs.map macNode) ∧
        ∀ entry ∈ entries.macs, IsToken entry.name ∧ entry.meaning.length = 6 := by
    intro flag
    obtain ⟨content, opened, file⟩ := written.macs flag
    refine ⟨?_, fun entry member =>
      ⟨(file.means entry member).1, (file.means entry member).2.2.length⟩⟩
    rw [finds.macs, nodes .macs flag, fileNodes, listLines, lines_some opened,
      file.nodes (becomes_mac _)]
  have networks : db.reloadNetsDatabase →
      globals.rbDatabases.netsNameAsList = networkNames (entries.networks.map networkNode) ∧
        ∀ entry ∈ entries.networks, IsToken entry.name ∧ IsToken entry.number ∧
          entry.meaning.network &&& entry.meaning.networkMask = entry.meaning.network := by
    intro flag
    obtain ⟨content, opened, file⟩ := written.networks flag
    refine ⟨?_, fun entry member => ?_⟩
    · rw [finds.networks, nodes .networks flag, fileNodes, listLines, lines_some opened,
        file.nodes (becomes_network _)]
    · obtain ⟨name, number, means⟩ := file.means entry member
      exact ⟨name, number, means.base⟩
  refine ⟨?_, ?_, ?_, ?_, ?_, ?_⟩
  · intro flag id some
    obtain ⟨known, tokens⟩ := engines flag
    exact engineIdNameText_entries known tokens some
  · intro flag mac cache length some name named
    obtain ⟨known, means⟩ := macs flag
    exact printMacMap_named known means length some named
  · intro flag mac cache length some unnamed noVendor
    obtain ⟨known, means⟩ := macs flag
    exact printMacMap_unnamed known (fun entry member => (means entry member).2) length some
      unnamed noVendor
  · intro flag bits cache unknown
    obtain ⟨known, means⟩ := networks flag
    exact printNet0_entries known (fun entry member => (means entry member).2.2)
      (fun entry member => ⟨(means entry member).2.1, rfl⟩) unknown
  · intro flag bits cache unknown
    obtain ⟨known, means⟩ := networks flag
    exact printNet0_entries known (fun entry member => (means entry member).2.2)
      (fun entry member => ⟨(means entry member).1, rfl⟩) unknown
  · intro flag field cache length some small unlearned
    have database := appName_reloaded isMap reloaded written flag finds small
    unfold printApplicationIdName
    dsimp only
    have inDefaultDb : (none.orElse fun (_ : Unit) => globals.rbDatabases.appsNameAsList.bind
        fun database => database (net2number field)) = entries.appName (net2number field) :=
      database
    rw [if_neg some, unlearned, inDefaultDb]
    cases named : entries.appName (net2number field) with
    | none => rfl
    | some name =>
        obtain ⟨content, _, file⟩ := written.apps flag
        dsimp only
        rw [fastString, (appName_token file named).cString_eq]
        rfl

end Reload

/-! A first load -/

theorem NamesFile.single {Meaning : Type} {Means : Bytes → Meaning → Prop} {name number : Bytes}
    {meaning : Meaning} (isName : IsToken name) (said : name.head? ≠ some 35)
    (isNumber : IsToken number) (means : Means number meaning)
    (fits : name.length + number.length < 1022) :
    NamesFile Means (name ++ 32 :: number) [{ name, number, meaning }] := by
  have line := @NamesLine.entry _ Means [] name [32] number [] meaning nofun isName (fun _ => said)
    (by simp [Blanks]) (by simp) isNumber means nofun
  rw [List.nil_append, List.append_nil, List.append_assoc, List.singleton_append] at line
  refine .last line ?_ ?_
  · intro newline
    rcases List.mem_append.mp newline with inName | inNumber
    · exact (isName.clean 10 inName).2.2.1 rfl
    · rcases List.mem_cons.mp inNumber with blank | inNumber
      · cases blank
      · exact (isNumber.clean 10 inNumber).2.2.1 rfl
  · rw [List.length_append, List.length_cons]
    omega

def engineLines : Bytes :=
  ascii "# engines" ++ 10 :: (ascii "nbar" ++ 32 :: ascii "13")

def macLines : Bytes :=
  ascii "printer" ++ 32 :: ascii "00:1B:21:3c:9d:05"

def networkLines : Bytes :=
  ascii "office" ++ 32 :: ascii "10.0.0.0/8"

def appLines : Bytes :=
  ascii "http" ++ 32 :: ascii "80"

def officeFiles (path : Bytes) : Option Bytes :=
  if path = ascii "etc/engines" then some engineLines
  else if path = ascii "etc/macs" then some macLines
  else if path = ascii "etc/networks" then some networkLines
  else if path = ascii "etc/applications" then some appLines
  else none

def officeEntries : NamesEntries where
  engines := [{ name := ascii "nbar", number := ascii "13", meaning := 13 }]
  macs :=
    [{ name := ascii "printer"
       number := ascii "00:1B:21:3c:9d:05"
       meaning := [0x00, 0x1b, 0x21, 0x3c, 0x9d, 0x05] }]
  networks :=
    [{ name := ascii "office"
       number := ascii "10.0.0.0/8"
       meaning :=
        { network := ipv4Mapped 0x0a000000
          networkMask := prefixMask 128 (128 - 32 + decimalValue (ascii "8")) } }]
  apps := [{ name := ascii "http", number := ascii "80", meaning := 80 }]

theorem engineLines_file : NamesFile EngineNumber engineLines officeEntries.engines := by
  refine .line (.comment (ascii " engines")) (by decide +kernel) (by decide +kernel) ?_
  refine .single ⟨by decide +kernel, by decide +kernel⟩ (by decide +kernel)
    ⟨by decide +kernel, by decide +kernel⟩ ?_ (by decide +kernel)
  exact ⟨⟨by decide +kernel, by unfold IsDigit; decide +kernel⟩, by decide +kernel⟩

theorem macLines_file : NamesFile MacNumber macLines officeEntries.macs := by
  refine .single ⟨by decide +kernel, by decide +kernel⟩ (by decide +kernel)
    ⟨by decide +kernel, by decide +kernel⟩ ?_ (by decide +kernel)
  exact ⟨rfl, by decide +kernel⟩

theorem networkLines_file :
    NamesFile (NetworkNumber inetPtonTen) networkLines officeEntries.networks := by
  refine .single ⟨by decide +kernel, by decide +kernel⟩ (by decide +kernel)
    ⟨by decide +kernel, by decide +kernel⟩ ?_ (by decide +kernel)
  have whole : 47 ∉ ascii "10.0.0.0" := by decide +kernel
  have given : HostAddress inetPtonTen (ascii "10.0.0.0") (ipv4Mapped 0x0a000000) 32 :=
    .ipv4 rfl (by decide +kernel)
  have digits : IsDigits (ascii "8") := ⟨by decide +kernel, by unfold IsDigit; decide +kernel⟩
  exact ⟨.network whole given digits (by decide +kernel), by decide +kernel, by decide +kernel⟩

theorem appLines_file : NamesFile AppNumber appLines officeEntries.apps := by
  refine .single ⟨by decide +kernel, by decide +kernel⟩ (by decide +kernel)
    ⟨by decide +kernel, by decide +kernel⟩ ?_ (by decide +kernel)
  have digits : IsDigits (ascii "80") := ⟨by decide +kernel, by unfold IsDigit; decide +kernel⟩
  exact ⟨digits, by decide +kernel, by decide +kernel⟩

/-- Nothing is in memory yet, and what has files is to be loaded. -/
def freshDatabases : RbDatabases (listTree NumNameAssocNode).Tree Unit where
  reloadHostsDatabase := true
  reloadNetsDatabase := true
  reloadAppsDatabase := true
  reloadEnginesDatabase := true
  reloadDomainsDatabase := false
  reloadOsDatabase := false
  reloadDomainaliasDatabase := false
  reloadMacsDatabase := true
  reloadMacsVendorDatabase := false
  lists := .empty
  trees := .empty
  appsNameAsList := none
  vendors := .empty
  macVendorDatabase := none
  hostsDatabasePath := ascii "etc"
  macVendorDatabasePath := none

def officeSources : NameSources (listTree NumNameAssocNode).Tree Unit :=
  .ofFiles (listTree _) officeFiles inetPtonTen fun _ => some ()

theorem officeEntries_written : officeEntries.Written officeSources freshDatabases where
  engines _ := ⟨engineLines, by decide +kernel, engineLines_file⟩
  macs _ := ⟨macLines, by decide +kernel, macLines_file⟩
  networks _ := ⟨networkLines, by decide +kernel, networkLines_file⟩
  apps _ := ⟨appLines, by decide +kernel, appLines_file⟩

theorem freshDatabases_holds : freshDatabases.Holds fun _ => [] where
  lists := .empty
  apps := nofun
  vendors := nofun

theorem freshDatabases_well :
    RbDatabases.ReloadsWell officeSources freshDatabases fun _ => [] where
  engines _ := .inl rfl
  domains := nofun
  aliases := nofun
  aliasesAlone := nofun
  os := nofun
  macs _ := by
    have opened : officeSources.files (databasePath freshDatabases.hostsDatabasePath "/macs") =
        some macLines := by
      decide +kernel
    rw [listLines, lines_some opened]
    exact macLines_file.readable
  vendors := nofun

end F2k
