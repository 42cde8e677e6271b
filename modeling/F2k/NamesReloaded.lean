import F2k.NameSections

namespace F2k

open Lib NameSources

/-! When a reload leaves in every list what its file says. -/

variable {Tree Vendors : Type}

namespace RbDatabases

variable {sources : NameSources Tree Vendors} {db : RbDatabases Tree Vendors} {list : NameList}
  {old : List (Nat × NameNode)} {view : View NameList NameNode}

/-- Every list has its nodes, no two share one, and nothing points to what was freed. -/
structure Holds (db : RbDatabases Tree Vendors) (contents : NameList → List (Nat × NameNode)) :
    Prop where
  lists : db.lists.Shows (.sound contents)
  apps : ∀ address, db.appsNameAsList = some address → db.trees.cells address ≠ none
  vendors : ∀ address, db.macVendorDatabase = some address → db.vendors.cells address ≠ none

/-- The tree is the one that the file leaves in an empty database, and the old one was freed. -/
def AppsReloaded (sources : NameSources Tree Vendors) (before after : RbDatabases Tree Vendors) :
    Prop :=
  (∃ address tree, after.appsNameAsList = some address ∧ after.trees.cells address = some tree ∧
    sources.LoadsFreshTree before.hostsDatabasePath tree) ∧
  ∀ old, before.appsNameAsList = some old → after.trees.cells old = none

/-- What a run leaves when no section stops: the lists as they are shown, and the other two. -/
structure Ends (sources : NameSources Tree Vendors) (before after : RbDatabases Tree Vendors)
    (old : NameList → List (Nat × NameNode)) (view : View NameList NameNode) : Prop where
  shows : after.lists.Shows view
  settled : ∀ list, Settled sources (before.reloads list) before.hostsDatabasePath list (old list) view
  appsLive : ∀ address, after.appsNameAsList = some address → after.trees.cells address ≠ none
  apps : before.reloadAppsDatabase → AppsReloaded sources before after
  vendorsKept : before.reloadMacsVendorDatabase = false →
    after.vendors = before.vendors ∧ after.macVendorDatabase = before.macVendorDatabase
  vendors : before.reloadMacsVendorDatabase →
    (∀ old, before.macVendorDatabase = some old → after.vendors.cells old = none) ∧
    (before.macVendorDatabasePath = none → after.macVendorDatabase = before.macVendorDatabase) ∧
    ∀ path, before.macVendorDatabasePath = some path →
      (∀ address, after.macVendorDatabase = some address → after.vendors.cells address ≠ none) ∧
      after.macVendorDatabase.bind after.vendors.cells = sources.newMacVendorDb path

/-- The files whose sections can stop are read to their ends. -/
structure RunsThrough (sources : NameSources Tree Vendors) (db : RbDatabases Tree Vendors) :
    Prop where
  domains : db.reloadDomainsDatabase → sources.LoadsCleanly db.hostsDatabasePath .domainAlias
  os : db.reloadOsDatabase → sources.LoadsCleanly db.hostsDatabasePath .os
  macs : db.reloadMacsDatabase → sources.LoadsCleanly db.hostsDatabasePath .macs

theorem checkIfReload_ends {contents : NameList → List (Nat × NameNode)}
    (holds : db.Holds contents) :
    EndsWhen (db.checkIfReload sources) (RunsThrough sources db)
      (fun after => ∃ view, Ends sources db after contents view) := by
  have through : RunsThrough sources db ↔
      (db.reloads .hosts → True) ∧ (db.reloadEnginesDatabase → True) ∧
        (db.reloadDomainsDatabase → sources.LoadsCleanly db.hostsDatabasePath .domainAlias) ∧
        (db.reloadOsDatabase → sources.LoadsCleanly db.hostsDatabasePath .os) ∧
        (db.reloadMacsDatabase → sources.LoadsCleanly db.hostsDatabasePath .macs) :=
    ⟨fun through => ⟨fun _ => trivial, fun _ => trivial, through.domains, through.os, through.macs⟩,
      fun ⟨_, _, domains, os, macs⟩ => ⟨domains, os, macs⟩⟩
  rw [through]
  unfold checkIfReload
  refine (reloadHosts_ends holds.lists rfl rfl).bind ?_
  rintro _ ⟨hosts, viewHosts, rfl, shownHosts, keepsHosts, settledHosts, settledNetworks⟩
  refine EndsWhen.always_bind (reloadApps_ends holds.apps) ?_
  rintro _ ⟨trees, tree, rfl, live, apps⟩
  refine EndsWhen.bind (reloadEngines_ends shownHosts (keepsHosts.others .engines (by decide))) ?_
  rintro _ ⟨engines, viewEngines, rfl, shownEngines, keepsEngines, settledEngines⟩
  have keeps : View.Keeps [.hosts, .networks, .engines] _ viewEngines :=
    (keepsHosts.mono (by decide)).trans (keepsEngines.mono (by decide))
  refine EndsWhen.bind (reloadDomains_ends shownEngines (keeps.others .domains (by decide))
    (keeps.others .domainAlias (by decide))) ?_
  rintro _ ⟨domains, viewDomains, _, rfl, shownDomains, keepsDomains, settledDomains,
    settledAlias⟩
  have keeps : View.Keeps [.hosts, .networks, .engines, .domains, .domainAlias] _ viewDomains :=
    (keeps.mono (by decide)).trans (keepsDomains.mono (by decide))
  refine EndsWhen.bind (reloadOs_ends shownDomains (keeps.others .os (by decide))) ?_
  rintro _ ⟨os, viewOs, rfl, shownOs, keepsOs, settledOs⟩
  have keeps : View.Keeps [.hosts, .networks, .engines, .domains, .domainAlias, .os] _ viewOs :=
    (keeps.mono (by decide)).trans (keepsOs.mono (by decide))
  refine EndsWhen.bind_always (reloadMacs_ends shownOs (keeps.others .macs (by decide))) ?_
  rintro _ ⟨macs, viewMacs, rfl, shownMacs, keepsMacs, settledMacs⟩
  refine EndsWhen.mono (reloadMacsVendor_ends holds.vendors) ?_
  rintro _ ⟨vendors, vendor, rfl, kept, loaded⟩
  refine ⟨viewMacs, shownMacs, ?_, live, apps, kept, loaded⟩
  -- what is settled stays so in the sections behind
  have keepsOs : View.Keeps [.os, .macs] viewDomains viewMacs :=
    (keepsOs.mono (by decide)).trans (keepsMacs.mono (by decide))
  have keepsDomains : View.Keeps [.domains, .domainAlias, .os, .macs] viewEngines viewMacs :=
    (keepsDomains.mono (by decide)).trans (keepsOs.mono (by decide))
  have keepsEngines :
      View.Keeps [.engines, .domains, .domainAlias, .os, .macs] viewHosts viewMacs :=
    (keepsEngines.mono (by decide)).trans (keepsDomains.mono (by decide))
  intro list
  cases list with
  | hosts => exact settledHosts.keeps keepsEngines (by decide)
  | networks => exact settledNetworks.keeps keepsEngines (by decide)
  | engines => exact settledEngines.keeps keepsDomains (by decide)
  | domains => exact settledDomains.keeps keepsOs (by decide)
  | domainAlias => exact settledAlias.keeps keepsOs (by decide)
  | os => exact settledOs.keeps keepsMacs (by decide)
  | macs => exact settledMacs

/-! When a reload is as good as a fresh load -/

def flagged (db : RbDatabases Tree Vendors) : NameList → Bool
  | .hosts => db.reloadHostsDatabase
  | .networks => db.reloadNetsDatabase
  | .engines => db.reloadEnginesDatabase
  | .domains => db.reloadDomainsDatabase
  | .domainAlias => db.reloadDomainaliasDatabase
  | .os => db.reloadOsDatabase
  | .macs => db.reloadMacsDatabase

/-- Every list whose flag was set is as a fresh load leaves it. A node of before that is in no list
any more was freed, which succeeds only once. -/
structure Reloaded (sources : NameSources Tree Vendors) (before after : RbDatabases Tree Vendors)
    (old new : NameList → List (Nat × NameNode)) : Prop where
  holds : after.Holds new
  loaded : ∀ list, before.flagged list →
    sources.LoadsFresh before.hostsDatabasePath list ((new list).map Prod.snd)
  freed : ∀ list, ∀ address ∈ addresses (old list),
    (∀ other, address ∉ addresses (new other)) → after.lists.heap.cells address = none
  apps : before.reloadAppsDatabase → AppsReloaded sources before after
  vendors : before.reloadMacsVendorDatabase →
    after.macVendorDatabase.bind after.vendors.cells =
        before.macVendorDatabasePath.bind sources.newMacVendorDb ∧
      ∀ old, before.macVendorDatabase = some old → after.vendors.cells old = none

/-- Some line of the file has two tokens. -/
def HasEntry (lines : List Bytes) : Prop :=
  ∃ line ∈ lines, hostsListTokens line ≠ none

/-- The lists whose head is kept are empty or get an entry, those that lose their last node are
empty, no file of pairs goes on behind a line without a token, every hardware address is read to
its end, and vendors are destroyed only when others are loaded. -/
structure ReloadsWell (sources : NameSources Tree Vendors) (db : RbDatabases Tree Vendors)
    (old : NameList → List (Nat × NameNode)) : Prop where
  engines : db.reloadEnginesDatabase →
    old .engines = [] ∨ HasEntry (sources.listLines db.hostsDatabasePath .engines)
  domains : db.reloadDomainsDatabase →
    old .domains = [] ∨ HasEntry (sources.listLines db.hostsDatabasePath .domains)
  aliases : db.reloadDomainsDatabase →
    old .domainAlias = [] ∧ BlankEnds (sources.listLines db.hostsDatabasePath .domainAlias)
  aliasesAlone : db.reloadDomainaliasDatabase → db.reloadDomainsDatabase = false →
    BlankEnds (sources.listLines db.hostsDatabasePath .domainAlias) ∧
      (old .domainAlias).map Prod.snd =
        charCharNodes (sources.listLines db.hostsDatabasePath .domainAlias)
  os : db.reloadOsDatabase →
    old .os = [] ∧ BlankEnds (sources.listLines db.hostsDatabasePath .os)
  macs : db.reloadMacsDatabase →
    ∀ line ∈ sources.listLines db.hostsDatabasePath .macs, Readable .ifaddr line
  vendors : db.reloadMacsVendorDatabase →
    db.macVendorDatabase = none ∨ db.macVendorDatabasePath ≠ none

theorem ReloadsWell.runsThrough {contents : NameList → List (Nat × NameNode)}
    (well : ReloadsWell sources db contents) : RunsThrough sources db where
  domains := fun flag => (well.aliases flag).2
  os := fun flag => (well.os flag).2
  macs := well.macs

theorem ReloadsWell.loadsCleanly {contents : NameList → List (Nat × NameNode)}
    (well : ReloadsWell sources db contents) {list : NameList} (flag : db.reloads list) :
    sources.LoadsCleanly db.hostsDatabasePath list := by
  cases list with
  | hosts | networks | engines | domains => exact trivial
  | domainAlias => exact (well.aliases flag).2
  | os => exact (well.os flag).2
  | macs => exact well.macs flag

/-- What is found of a list whose head is kept is a list if the file has an entry. -/
theorem started_ne_dangling {added : List (Nat × NameNode)}
    (entry : old = [] ∨ added ≠ []) :
    added.foldl Found.add (Found.freed old) ≠ .dangling := by
  cases old with
  | nil => exact Found.extend_ne_dangling (by simp [Found.freed]) added
  | cons node old =>
      cases added with
      | nil => simp at entry
      | cons first added => exact Found.extend_ne_dangling (by simp [Found.freed, Found.add]) added

theorem hostsNodes_ne_nil {order : ParseHostsListOrder} {inetPton : InetPton}
    {lines : List Bytes} (isNumber : order = .engine ∨ order = .domains) :
    hostsNodes inetPton order lines ≠ [] ↔ HasEntry lines := by
  have every : ∀ line, lineNode inetPton order line = none ↔ hostsListTokens line = none := by
    intro line
    unfold lineNode
    cases hostsListTokens line with
    | none => simp
    | some tokens => rcases isNumber with rfl | rfl <;> simp [entryNode]
  unfold hostsNodes HasEntry
  rw [Ne, List.filterMap_eq_nil_iff]
  push Not
  simp only [ne_eq, every]

theorem startOf_eq (list : NameList) (old : List (Nat × NameNode)) :
    startOf list old = .cells [] ∨
      (list = .engines ∨ list = .domains) ∧ startOf list old = .freed old := by
  cases list <;> simp [startOf]

theorem eq_added {added nodes : List (Nat × NameNode)}
    (found : added.foldl Found.add (startOf list old) = .cells nodes) : nodes = added := by
  have fromEmpty : ∀ start : Found NameNode, start = .cells [] ∨ start = .dangling →
      added.foldl Found.add start = .cells nodes → nodes = added := by
    rintro _ (rfl | rfl) same
    · rw [Found.extend_cells] at same
      exact (Found.cells.inj same).symm
    · cases added with
      | nil => cases same
      | cons first added =>
          rw [List.foldl_cons, Found.add, Found.extend_cells] at same
          exact (Found.cells.inj same).symm
  apply fromEmpty _ _ found
  rcases startOf_eq list old with empty | ⟨_, freed⟩
  · exact .inl empty
  · cases old with
    | nil => exact .inl freed
    | cons node old => exact .inr freed

variable {after : RbDatabases Tree Vendors} {contents new : NameList → List (Nat × NameNode)}

theorem Ends.reloads (ends : Ends sources db after contents view) {list : NameList}
    (flag : db.reloads list) :
    Reloads sources db.hostsDatabasePath list (contents list) view := by
  have settled := ends.settled list
  rwa [Settled, if_pos flag] at settled

theorem Ends.kept (ends : Ends sources db after contents view) {list : NameList}
    (flag : ¬ db.reloads list) : view.found list = .cells (contents list) := by
  have settled := ends.settled list
  rwa [Settled, if_neg flag] at settled

theorem Ends.fileNodes_eq (ends : Ends sources db after contents view)
    (found : ∀ list, view.found list = .cells (new list)) {list : NameList}
    (flag : db.reloads list) :
    (new list).map Prod.snd = sources.fileNodes db.hostsDatabasePath list := by
  obtain ⟨added, isAdded, nodes⟩ := (ends.reloads flag).loaded
  rw [found list] at isAdded
  rw [eq_added isAdded.symm, nodes]

theorem Ends.ne_dangling (ends : Ends sources db after contents view)
    (well : ReloadsWell sources db contents) (list : NameList) :
    view.found list ≠ .dangling := by
  cases Decidable.em (db.reloads list = true) with
  | inr flag => simp [ends.kept flag]
  | inl flag =>
      obtain ⟨added, isAdded, nodes⟩ := (ends.reloads flag).loaded
      rw [isAdded]
      rcases startOf_eq list (contents list) with empty | ⟨isNumber, freed⟩
      · rw [empty]
        exact Found.extend_ne_dangling (by simp) added
      · rw [freed]
        apply started_ne_dangling
        have entry : contents list = [] ∨
            sources.fileNodes db.hostsDatabasePath list ≠ [] := by
          rcases isNumber with rfl | rfl
          · exact (well.engines flag).imp_right (hostsNodes_ne_nil (.inl rfl)).mpr
          · exact (well.domains flag).imp_right (hostsNodes_ne_nil (.inr rfl)).mpr
        apply entry.imp_right
        rw [← nodes]
        intro some none
        exact some (none ▸ rfl)

theorem Ends.reloaded (ends : Ends sources db after contents view)
    (live : ∀ address, db.macVendorDatabase = some address → db.vendors.cells address ≠ none)
    (well : ReloadsWell sources db contents) :
    ∃ new, Reloaded sources db after contents new := by
  obtain ⟨new, sound, found⟩ := ends.shows.exists_sound (ends.ne_dangling well)
  have keptNodes : ∀ list, ¬ db.reloads list → contents list = new list := by
    intro list flag
    exact Found.cells.inj ((ends.kept flag).symm.trans (found list))
  refine ⟨new, ⟨sound, ends.appsLive, ?_⟩, ?_, ?_, ends.apps, ?_⟩
  · cases flag : db.reloadMacsVendorDatabase with
    | false =>
        obtain ⟨sameVendors, samePointer⟩ := ends.vendorsKept flag
        rw [sameVendors, samePointer]
        exact live
    | true =>
        obtain ⟨_, stays, loaded⟩ := ends.vendors flag
        cases path : db.macVendorDatabasePath with
        | some path => exact (loaded _ path).1
        | none =>
            have none := (well.vendors flag).resolve_right (not_not.mpr path)
            rw [stays path, none]
            exact nofun
  · intro list flag
    cases Decidable.em (db.reloads list = true) with
    | inl reloads =>
        rw [ends.fileNodes_eq found reloads]
        exact loadsFresh_iff.mpr ⟨well.loadsCleanly reloads, rfl⟩
    | inr reloads =>
        have isAlias : list = .domainAlias := by
          cases list <;> simp_all [RbDatabases.reloads, flagged]
        subst isAlias
        obtain ⟨clean, same⟩ := well.aliasesAlone flag (eq_false_of_ne_true reloads)
        rw [← keptNodes .domainAlias reloads, same]
        exact loadsFresh_iff.mpr ⟨clean, rfl⟩
  · intro list address member gone
    cases Decidable.em (db.reloads list = true) with
    | inl reloads =>
        have released := (ends.reloads reloads).released
        have dead : address ∈ view.freed := by
          cases list with
          | hosts | networks | engines | domains | macs => exact released member
          | domainAlias =>
              rw [(well.aliases reloads).1] at member
              contradiction
          | os =>
              rw [(well.os reloads).1] at member
              contradiction
        exact (ends.shows.freed address dead).2
    | inr reloads =>
        rw [keptNodes list reloads] at member
        exact absurd member (gone list)
  · intro flag
    obtain ⟨dead, stays, loaded⟩ := ends.vendors flag
    refine ⟨?_, dead⟩
    cases path : db.macVendorDatabasePath with
    | some path => exact (loaded _ path).2
    | none =>
        have none := (well.vendors flag).resolve_right (not_not.mpr path)
        rw [stays path, none]
        rfl

theorem Ends.reloadsWell (ends : Ends sources db after contents view)
    (through : RunsThrough sources db) (reloaded : Reloaded sources db after contents new) :
    ReloadsWell sources db contents := by
  have found := ends.shows.found_eq reloaded.holds.lists
  have number : ∀ list, list = .engines ∨ list = .domains → db.reloads list →
      contents list = [] ∨ sources.fileNodes db.hostsDatabasePath list ≠ [] := by
    intro list isNumber flag
    obtain ⟨added, isAdded, nodes⟩ := (ends.reloads flag).loaded
    have start : startOf list (contents list) = .freed (contents list) := by
      rcases isNumber with rfl | rfl <;> rfl
    rw [found list, start] at isAdded
    rw [← nodes]
    cases old : contents list with
    | nil => exact .inl rfl
    | cons node rest =>
        right
        rw [old] at isAdded
        cases added with
        | nil => cases isAdded
        | cons first added => exact List.cons_ne_nil _ _
  have pairs : ∀ list, list = .domainAlias ∨ list = .os → db.reloads list →
      contents list = [] := by
    intro list isPairs flag
    have released := (ends.reloads flag).released
    have lost : addresses (contents list).getLast?.toList ⊆ view.lost := by
      rcases isPairs with rfl | rfl <;> exact released.2
    rcases List.eq_nil_or_concat' (contents list) with none | ⟨front, last, old⟩
    · exact none
    · rw [old] at lost
      obtain ⟨live, unlisted⟩ := ends.shows.lost last.1 (lost (by simp))
      apply absurd _ live
      apply reloaded.freed list
      · simp [old]
      · intro other member
        have absent := unlisted other
        rw [found other] at absent
        exact absent member
  refine ⟨?_, ?_, ?_, ?_, ?_, through.macs, ?_⟩
  · intro flag
    exact (number .engines (.inl rfl) flag).imp_right (hostsNodes_ne_nil (.inl rfl)).mp
  · intro flag
    exact (number .domains (.inr rfl) flag).imp_right (hostsNodes_ne_nil (.inr rfl)).mp
  · intro flag
    exact ⟨pairs .domainAlias (.inl rfl) flag, through.domains flag⟩
  · intro flag alone
    obtain ⟨clean, nodes⟩ := loadsFresh_iff.mp (reloaded.loaded .domainAlias flag)
    have stays : view.found .domainAlias = .cells (contents .domainAlias) :=
      ends.kept (Bool.eq_false_iff.mp alone)
    rw [Found.cells.inj (stays.symm.trans (found .domainAlias))]
    exact ⟨clean, nodes⟩
  · intro flag
    exact ⟨pairs .os (.inr rfl) flag, through.os flag⟩
  · intro flag
    obtain ⟨dead, stays, _⟩ := ends.vendors flag
    cases pointer : db.macVendorDatabase with
    | none => exact .inl rfl
    | some address =>
        right
        intro path
        apply reloaded.holds.vendors address
        · rw [stays path, pointer]
        · exact dead address pointer

theorem exists_reloaded (holds : db.Holds contents) (well : ReloadsWell sources db contents) :
    ∃ after new, db.checkIfReload sources = .ok after ∧
      Reloaded sources db after contents new := by
  obtain ⟨after, ran, view, ends⟩ := (checkIfReload_ends holds).ends well.runsThrough
  obtain ⟨new, reloaded⟩ := ends.reloaded holds.vendors well
  exact ⟨after, new, ran, reloaded⟩

theorem reloadsWell_of_reloaded (holds : db.Holds contents)
    (ran : db.checkIfReload sources = .ok after)
    (reloaded : Reloaded sources db after contents new) : ReloadsWell sources db contents := by
  obtain ⟨through, view, ends⟩ := (checkIfReload_ends holds).holds_of_ok ran
  exact ends.reloadsWell through reloaded

/-- A reload leaves what a fresh load leaves exactly under this condition. -/
theorem checkIfReload_reloads_iff (holds : db.Holds contents) :
    (∃ after new, db.checkIfReload sources = .ok after ∧
      Reloaded sources db after contents new) ↔ ReloadsWell sources db contents := by
  constructor
  · rintro ⟨after, new, ran, reloaded⟩
    exact reloadsWell_of_reloaded holds ran reloaded
  · exact exists_reloaded holds

section OneEngine

def oneEngine : NameNode := .assoc (ascii "ssh") (ascii "22") (.number 22)

/-- The engines have one node, and are to be loaded again. -/
def oneEngineDatabases : RbDatabases Unit Unit where
  reloadHostsDatabase := false
  reloadNetsDatabase := false
  reloadAppsDatabase := false
  reloadEnginesDatabase := true
  reloadDomainsDatabase := false
  reloadOsDatabase := false
  reloadDomainaliasDatabase := false
  reloadMacsDatabase := false
  reloadMacsVendorDatabase := false
  lists := .single .engines oneEngine
  trees := .empty
  appsNameAsList := none
  vendors := .empty
  macVendorDatabase := none
  hostsDatabasePath := ascii "/etc/names"
  macVendorDatabasePath := none

def engineSources (content : Option Bytes) : NameSources Unit Unit where
  files := fun _ => content
  inetPton := { ipv6 := fun _ => none, ipv4 := fun _ => none }
  newNumNameAssocTree := ()
  addNum := fun _ _ _ => ()
  newMacVendorDb := fun _ => none

def oneEngineContents : NameList → List (Nat × NameNode) :=
  Function.update (fun _ => []) .engines [(0, oneEngine)]

theorem oneEngineDatabases_holds : oneEngineDatabases.Holds oneEngineContents where
  lists := LinkedLists.Shows.single NameList.engines oneEngine
  apps := nofun
  vendors := nofun

theorem checkIfReload_reloads_engines :
    ∃ after new, oneEngineDatabases.checkIfReload (engineSources (some (ascii "http 80\n"))) =
        .ok after ∧
      Reloaded (engineSources (some (ascii "http 80\n"))) oneEngineDatabases after
        oneEngineContents new := by
  apply (checkIfReload_reloads_iff oneEngineDatabases_holds).mpr
  refine ⟨fun _ => .inr ⟨ascii "http 80\n", ?_, ?_⟩, nofun, nofun, nofun, nofun, nofun, nofun⟩
  · decide +kernel
  · decide +kernel

/-- The file is missing, and the head still points to the node that was freed. -/
theorem not_reloaded_without_file :
    oneEngineDatabases.Holds oneEngineContents ∧
      ¬ ∃ after new, oneEngineDatabases.checkIfReload (engineSources none) = .ok after ∧
        Reloaded (engineSources none) oneEngineDatabases after oneEngineContents new := by
  refine ⟨oneEngineDatabases_holds, ?_⟩
  rintro ⟨after, new, ran, reloaded⟩
  have well := reloadsWell_of_reloaded oneEngineDatabases_holds ran reloaded
  cases well.engines rfl with
  | inl none => simp [oneEngineContents] at none
  | inr entry =>
      obtain ⟨line, member, _⟩ := entry
      simp [listLines, lines, engineSources] at member

end OneEngine

end RbDatabases

end F2k
