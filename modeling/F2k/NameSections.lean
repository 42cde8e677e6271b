import F2k.NameLoads

namespace F2k

open Lib NameSources

/-! What every section of a reload leaves, whether its flag is set or not. -/

variable {Tree Vendors : Type}

namespace NameSources

variable (sources : NameSources Tree Vendors)

/-- The tree that the file of the applications leaves in an empty database. -/
def LoadsFreshTree (path : Bytes) (tree : Tree) : Prop :=
  ∃ fresh, sources.parseAppList (databasePath path "/applications") 0
      (Heap.empty.alloc sources.newNumNameAssocTree) = .ok fresh ∧
    fresh.cells 0 = some tree

def appLine (tree : Tree) (line : Bytes) : Tree :=
  match hostsListTokens line with
  | none => tree
  | some (tok1, tok2) =>
      match parseAppId tok2 with
      | none => tree
      | some appId => sources.addNum tree appId tok1

variable {sources} {trees : Heap Tree} {pointer : Nat} {tree : Tree} {appsPath : Bytes}

theorem parseAppLine_live (live : trees.cells pointer = some tree) (line : Bytes) :
    ∃ after, sources.parseAppLine pointer trees line = .ok after ∧
      after.cells = Function.update trees.cells pointer (some (sources.appLine tree line)) := by
  have kept : trees.cells = Function.update trees.cells pointer (some tree) := by
    rw [← live, Function.update_eq_self]
  unfold parseAppLine appLine
  cases hostsListTokens line with
  | none => exact ⟨trees, rfl, kept⟩
  | some tokens =>
      dsimp only
      cases parseAppId tokens.2 with
      | none => exact ⟨trees, rfl, kept⟩
      | some appId =>
          obtain ⟨after, ran, _, cells⟩ :=
            @Heap.write_live _ _ _ (sources.addNum tree appId tokens.1) _ live
          refine ⟨after, ?_, cells⟩
          dsimp only
          rw [addNumNameAssocToTree, Heap.read_live live, ok_bind, ran]
          rfl

theorem parseAppLines_live (live : trees.cells pointer = some tree) (lines : List Bytes) :
    ∃ after, lines.foldlM (sources.parseAppLine pointer) trees = .ok after ∧
      after.cells =
        Function.update trees.cells pointer (some (lines.foldl sources.appLine tree)) := by
  induction lines generalizing trees tree with
  | nil =>
      refine ⟨trees, rfl, ?_⟩
      rw [List.foldl_nil, ← live, Function.update_eq_self]
  | cons line lines ih =>
      obtain ⟨next, ran, cells⟩ := @parseAppLine_live _ _ sources _ _ _ live line
      have liveNext : next.cells pointer = some (sources.appLine tree line) := by
        rw [cells, Function.update_self]
      obtain ⟨after, ranRest, cellsRest⟩ := ih liveNext
      refine ⟨after, ?_, ?_⟩
      · rw [List.foldlM_cons, ran, ok_bind, ranRest]
      · rw [cellsRest, cells, Function.update_idem, List.foldl_cons]

theorem parseAppList_live (live : trees.cells pointer = some tree) :
    ∃ after, sources.parseAppList appsPath pointer trees = .ok after ∧
      after.cells = Function.update trees.cells pointer
        (some ((sources.lines appsPath).foldl sources.appLine tree)) := by
  unfold parseAppList
  cases opened : sources.files appsPath with
  | none =>
      rw [lines_none opened]
      exact parseAppLines_live live []
  | some content =>
      rw [lines_some opened]
      exact parseAppLines_live live (readLines content)

/-- What is loaded into a new tree does not depend on where the tree is. -/
theorem parseAppList_loadsFresh {path : Bytes}
    (live : trees.cells pointer = some sources.newNumNameAssocTree) :
    ∃ after loaded,
      sources.parseAppList (databasePath path "/applications") pointer trees = .ok after ∧
      after.cells = Function.update trees.cells pointer (some loaded) ∧
      sources.LoadsFreshTree path loaded := by
  obtain ⟨after, ran, cells⟩ := parseAppList_live live
  obtain ⟨fresh, ranFresh, cellsFresh⟩ :=
    @parseAppList_live _ _ sources _ _ _ (databasePath path "/applications")
      (@Heap.alloc_self _ .empty sources.newNumNameAssocTree)
  refine ⟨after, _, ran, cells, fresh, ranFresh, ?_⟩
  rw [cellsFresh]
  exact Function.update_self _ _ _

end NameSources

theorem freeBlock_live {Block : Type} {heap : Heap Block} {pointer : Option Nat}
    (live : ∀ address, pointer = some address → heap.cells address ≠ none) :
    ∃ after, freeBlock heap pointer = .ok after ∧ heap.next ≤ after.next ∧
      ∀ address, pointer = some address → after.cells address = none := by
  cases pointer with
  | none => exact ⟨heap, rfl, Nat.le_refl _, nofun⟩
  | some address =>
      obtain ⟨block, isBlock⟩ := Option.ne_none_iff_exists'.mp (live address rfl)
      obtain ⟨after, ran, next, cells⟩ := Heap.free_live isBlock
      refine ⟨after, ?_, Nat.le_of_eq next.symm, ?_⟩
      · rw [freeBlock, ran]
        rfl
      · rintro other same
        rw [cells, ← Option.some.inj same, Function.update_self]

namespace RbDatabases

variable (sources : NameSources Tree Vendors) (db : RbDatabases Tree Vendors)

/-- The lists that are freed and loaded. -/
def reloads : NameList → Bool
  | .hosts => db.reloadHostsDatabase || db.reloadNetsDatabase
  | .networks => db.reloadHostsDatabase || db.reloadNetsDatabase
  | .engines => db.reloadEnginesDatabase
  | .domains => db.reloadDomainsDatabase
  | .domainAlias => db.reloadDomainsDatabase
  | .os => db.reloadOsDatabase
  | .macs => db.reloadMacsDatabase

/-- A list is loaded again, or is as it was. -/
def Settled (flag : Bool) (path : Bytes) (list : NameList) (old : List (Nat × NameNode))
    (view : View NameList NameNode) : Prop :=
  if flag then Reloads sources path list old view else view.found list = .cells old

variable {sources db} {flag : Bool} {path : Bytes} {list : NameList}
  {old networks : List (Nat × NameNode)} {view : View NameList NameNode}

theorem Settled.keeps {after : View NameList NameNode} {own : List NameList}
    (settled : Settled sources flag path list old view) (keeps : view.Keeps own after)
    (other : list ∉ own) : Settled sources flag path list old after := by
  unfold Settled at settled ⊢
  cases flag with
  | true => exact Reloads.keeps settled keeps other
  | false => exact (keeps.others list other).trans settled

theorem section_ends {own : List NameList} {op : Except Misuse NameLists} {clean : Prop}
    {wrap : NameLists → RbDatabases Tree Vendors} {post : View NameList NameNode → Prop}
    (shows : db.lists.Shows view) (same : flag = false → wrap db.lists = db)
    (kept : flag = false → post view)
    (ends : flag → EndsWhen op
      clean (fun lists => ∃ after, lists.Shows after ∧ view.Keeps own after ∧ post after)) :
    EndsWhen (if flag then op.map wrap else .ok db)
      (flag → clean)
      (fun after => ∃ lists viewAfter, after = wrap lists ∧ lists.Shows viewAfter ∧
        view.Keeps own viewAfter ∧ post viewAfter) := by
  cases flag with
  | false => exact .ok nofun ⟨db.lists, view, (same rfl).symm, shows, .refl, kept rfl⟩
  | true =>
      refine ((ends rfl).map ?_).congr (by simp)
      rintro lists ⟨after, shown, keeps, posted⟩
      exact ⟨lists, after, rfl, shown, keeps, posted⟩

theorem settled_of_reloads (flagged : flag = true)
    (reloads : Reloads sources path list old view) : Settled sources flag path list old view := by
  unfold Settled
  rwa [if_pos flagged]

theorem settled_of_kept (unflagged : flag = false) (known : view.found list = .cells old) :
    Settled sources flag path list old view := by
  unfold Settled
  rwa [if_neg (Bool.eq_false_iff.mp unflagged)]

theorem reloadHosts_ends (shows : db.lists.Shows view) (known : view.found .hosts = .cells old)
    (knownNetworks : view.found .networks = .cells networks) :
    EndsWhen (db.reloadHosts sources)
      (db.reloads .hosts → True)
      (fun after => ∃ lists viewAfter,
        after = { db with lists, reloadHostsDatabase := false, reloadNetsDatabase := false } ∧
        lists.Shows viewAfter ∧ view.Keeps [.hosts, .networks] viewAfter ∧
        Settled sources (db.reloads .hosts) db.hostsDatabasePath .hosts old viewAfter ∧
        Settled sources (db.reloads .networks) db.hostsDatabasePath .networks networks viewAfter) := by
  apply section_ends shows
  · intro flag
    obtain ⟨hosts, nets⟩ := Bool.or_eq_false_iff.mp flag
    obtain ⟨⟩ := db
    subst hosts nets
    rfl
  · intro flag
    exact ⟨settled_of_kept flag known, settled_of_kept flag knownNetworks⟩
  · intro flag
    refine (reloadAddresses_ends shows known knownNetworks db.hostsDatabasePath).mono ?_
    rintro lists ⟨after, shown, keeps, hosts, nets⟩
    exact ⟨after, shown, keeps, settled_of_reloads flag hosts, settled_of_reloads flag nets⟩

theorem reloadEngines_ends (shows : db.lists.Shows view)
    (known : view.found .engines = .cells old) :
    EndsWhen (db.reloadEngines sources)
      (db.reloadEnginesDatabase → True)
      (fun after => ∃ lists viewAfter, after = { db with lists, reloadEnginesDatabase := false } ∧
        lists.Shows viewAfter ∧ view.Keeps [.engines] viewAfter ∧
        Settled sources db.reloadEnginesDatabase db.hostsDatabasePath .engines old viewAfter) := by
  apply section_ends shows
  · intro flag
    obtain ⟨⟩ := db
    subst flag
    rfl
  · intro flag
    exact settled_of_kept flag known
  · intro flag
    refine (reloadNumbers_ends (.inl rfl) shows known db.hostsDatabasePath).mono ?_
    rintro lists ⟨after, shown, keeps, reloads⟩
    exact ⟨after, shown, keeps, settled_of_reloads flag reloads⟩

theorem reloadDomains_ends {aliases : List (Nat × NameNode)} (shows : db.lists.Shows view)
    (known : view.found .domains = .cells old)
    (knownAlias : view.found .domainAlias = .cells aliases) :
    EndsWhen (db.reloadDomains sources)
      (db.reloadDomainsDatabase → sources.LoadsCleanly db.hostsDatabasePath .domainAlias)
      (fun after => ∃ lists viewAfter flagAlias,
        after =
          { db with
            lists
            reloadDomainsDatabase := false
            reloadDomainaliasDatabase := flagAlias } ∧
        lists.Shows viewAfter ∧ view.Keeps [.domains, .domainAlias] viewAfter ∧
        Settled sources db.reloadDomainsDatabase db.hostsDatabasePath .domains old viewAfter ∧
        Settled sources db.reloadDomainsDatabase db.hostsDatabasePath .domainAlias aliases
          viewAfter) := by
  unfold reloadDomains
  cases flag : db.reloadDomainsDatabase with
  | false =>
      refine .ok nofun ⟨db.lists, view, db.reloadDomainaliasDatabase, ?_, shows, .refl,
        settled_of_kept rfl known, settled_of_kept rfl knownAlias⟩
      obtain ⟨⟩ := db
      subst flag
      rfl
  | true =>
      have ends :=
        @NameSources.reloadDomains_ends _ _ sources _ _ _ _ shows known knownAlias
          db.hostsDatabasePath
      refine (ends.map ?_).congr ⟨fun all => all rfl, fun clean _ => clean⟩
      rintro lists ⟨after, shown, keeps, domains, aliased⟩
      exact ⟨lists, after, false, rfl, shown, keeps, settled_of_reloads rfl domains,
        settled_of_reloads rfl aliased⟩

theorem reloadOs_ends (shows : db.lists.Shows view) (known : view.found .os = .cells old) :
    EndsWhen (db.reloadOs sources)
      (db.reloadOsDatabase → sources.LoadsCleanly db.hostsDatabasePath .os)
      (fun after => ∃ lists viewAfter, after = { db with lists, reloadOsDatabase := false } ∧
        lists.Shows viewAfter ∧ view.Keeps [.os] viewAfter ∧
        Settled sources db.reloadOsDatabase db.hostsDatabasePath .os old viewAfter) := by
  apply section_ends shows
  · intro flag
    obtain ⟨⟩ := db
    subst flag
    rfl
  · intro flag
    exact settled_of_kept flag known
  · intro flag
    refine (reloadPairs_ends (.inr rfl) shows known db.hostsDatabasePath).mono ?_
    rintro lists ⟨after, shown, keeps, reloads⟩
    exact ⟨after, shown, keeps, settled_of_reloads flag reloads⟩

theorem reloadMacs_ends (shows : db.lists.Shows view) (known : view.found .macs = .cells old) :
    EndsWhen (db.reloadMacs sources)
      (db.reloadMacsDatabase → sources.LoadsCleanly db.hostsDatabasePath .macs)
      (fun after => ∃ lists viewAfter, after = { db with lists, reloadMacsDatabase := false } ∧
        lists.Shows viewAfter ∧ view.Keeps [.macs] viewAfter ∧
        Settled sources db.reloadMacsDatabase db.hostsDatabasePath .macs old viewAfter) := by
  apply section_ends shows
  · intro flag
    obtain ⟨⟩ := db
    subst flag
    rfl
  · intro flag
    exact settled_of_kept flag known
  · intro flag
    refine (NameSources.reloadMacs_ends shows known db.hostsDatabasePath).mono ?_
    rintro lists ⟨after, shown, keeps, reloads⟩
    exact ⟨after, shown, keeps, settled_of_reloads flag reloads⟩

theorem reloadApps_ends
    (live : ∀ address, db.appsNameAsList = some address → db.trees.cells address ≠ none) :
    EndsWhen (db.reloadApps sources) True
      (fun after => ∃ trees pointer,
        after = { db with trees, appsNameAsList := pointer, reloadAppsDatabase := false } ∧
        (∀ address, pointer = some address → trees.cells address ≠ none) ∧
        (db.reloadAppsDatabase →
          (∃ address tree, pointer = some address ∧ trees.cells address = some tree ∧
            sources.LoadsFreshTree db.hostsDatabasePath tree) ∧
          ∀ old, db.appsNameAsList = some old → trees.cells old = none)) := by
  unfold reloadApps
  cases flag : db.reloadAppsDatabase with
  | false =>
      refine .ok trivial ⟨db.trees, db.appsNameAsList, ?_, live, nofun⟩
      obtain ⟨⟩ := db
      subst flag
      rfl
  | true =>
      obtain ⟨freed, ranFree, next, dead⟩ := freeBlock_live live
      obtain ⟨after, tree, ran, cells, fresh⟩ :=
        @parseAppList_loadsFresh _ _ sources _ _ db.hostsDatabasePath
          (@Heap.alloc_self _ freed sources.newNumNameAssocTree)
      have loaded : after.cells freed.next = some tree := by
        rw [cells, Function.update_self]
      rw [if_pos rfl, ranFree, ok_bind, ran]
      refine .ok trivial ⟨after, some freed.next, rfl, ?_,
        fun _ => ⟨⟨_, tree, rfl, loaded, fresh⟩, ?_⟩⟩
      · rintro address same
        rw [← Option.some.inj same, loaded]
        exact Option.some_ne_none tree
      · intro old isOld
        obtain ⟨block, isBlock⟩ := Option.ne_none_iff_exists'.mp (live old isOld)
        have below : old < freed.next := Nat.lt_of_lt_of_le (Heap.lt_next isBlock) next
        rw [cells, Function.update_of_ne (Nat.ne_of_lt below),
          Heap.alloc_other (Nat.ne_of_lt below), dead old isOld]

/-- The vendors are loaded anew, or still pointed to when there is no path. -/
theorem reloadMacsVendor_ends
    (live : ∀ address, db.macVendorDatabase = some address → db.vendors.cells address ≠ none) :
    EndsWhen (db.reloadMacsVendor sources) True
      (fun after => ∃ vendors pointer,
        after =
          { db with
            vendors
            macVendorDatabase := pointer
            reloadMacsVendorDatabase := false } ∧
        (db.reloadMacsVendorDatabase = false →
          vendors = db.vendors ∧ pointer = db.macVendorDatabase) ∧
        (db.reloadMacsVendorDatabase →
          (∀ old, db.macVendorDatabase = some old → vendors.cells old = none) ∧
          (db.macVendorDatabasePath = none → pointer = db.macVendorDatabase) ∧
          ∀ path, db.macVendorDatabasePath = some path →
            (∀ address, pointer = some address → vendors.cells address ≠ none) ∧
            pointer.bind vendors.cells = sources.newMacVendorDb path)) := by
  unfold reloadMacsVendor
  cases flag : db.reloadMacsVendorDatabase with
  | false =>
      refine .ok trivial ⟨db.vendors, db.macVendorDatabase, ?_, fun _ => ⟨rfl, rfl⟩, nofun⟩
      obtain ⟨⟩ := db
      subst flag
      rfl
  | true =>
      obtain ⟨freed, ran, next, dead⟩ := freeBlock_live live
      rw [if_pos rfl, ran]
      cases known : db.macVendorDatabasePath with
      | none =>
          exact .ok trivial
            ⟨freed, db.macVendorDatabase, rfl, nofun, fun _ => ⟨dead, fun _ => rfl, nofun⟩⟩
      | some path =>
          cases loaded : sources.newMacVendorDb path with
          | none =>
              simp only [Except.map, loaded]
              refine .ok trivial ⟨freed, none, rfl, nofun, fun _ => ⟨dead, nofun, ?_⟩⟩
              rintro _ ⟨⟩
              exact ⟨nofun, loaded.symm⟩
          | some vendors =>
              simp only [Except.map, loaded]
              refine .ok trivial ⟨freed.alloc vendors, some freed.next, rfl, nofun,
                fun _ => ⟨?_, nofun, ?_⟩⟩
              · intro old isOld
                obtain ⟨block, isBlock⟩ := Option.ne_none_iff_exists'.mp (live old isOld)
                have below : old < freed.next := Nat.lt_of_lt_of_le (Heap.lt_next isBlock) next
                rw [Heap.alloc_other (Nat.ne_of_lt below), dead old isOld]
              · rintro _ ⟨⟩
                refine ⟨?_, ?_⟩
                · rintro address same
                  rw [← Option.some.inj same, Heap.alloc_self]
                  exact Option.some_ne_none vendors
                · rw [loaded]
                  exact Heap.alloc_self

end RbDatabases

end F2k
