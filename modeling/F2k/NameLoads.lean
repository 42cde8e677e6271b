import F2k.NameReload

namespace F2k

open Lib

/-! What a list is once its nodes are freed and its file is loaded. -/

variable {Tree Vendors : Type}

namespace NameSources

variable (sources : NameSources Tree Vendors) {path : Bytes} {list : NameList}
  {order : ParseHostsListOrder} {lists : NameLists} {view : View NameList NameNode}
  {filename : Bytes}

def loadList (path : Bytes) : NameList → NameLists → Except Misuse NameLists
  | .hosts => sources.parseHostsListFile (path ++ ascii "/hosts") .host
  | .networks => sources.parseHostsListFile (path ++ ascii "/networks") .network
  | .engines => sources.parseEngineList (databasePath path "/engines")
  | .domains => sources.parseHttpDomainsList (databasePath path "/http_domains")
  | .domainAlias =>
      sources.parseCharCharListFile .domainAlias (databasePath path "/http_host_l1_alias")
  | .os => sources.parseCharCharListFile .os (databasePath path "/os")
  | .macs => sources.parseIfAddressList (databasePath path "/macs")

/-- The nodes that the file of a list leaves in an empty database. -/
def LoadsFresh (path : Bytes) (list : NameList) (nodes : List NameNode) : Prop :=
  ∃ fresh contents, sources.loadList path list .empty = .ok fresh ∧
    fresh.Shows (.sound contents) ∧ (contents list).map Prod.snd = nodes

/-- The lines of a file, of which there are none when it cannot be opened. -/
def lines (filename : Bytes) : List Bytes :=
  ((sources.files filename).map readLines).getD []

def listLines (path : Bytes) : NameList → List Bytes
  | .hosts => sources.lines (path ++ ascii "/hosts")
  | .networks => sources.lines (path ++ ascii "/networks")
  | .engines => sources.lines (databasePath path "/engines")
  | .domains => sources.lines (databasePath path "/http_domains")
  | .domainAlias => sources.lines (databasePath path "/http_host_l1_alias")
  | .os => sources.lines (databasePath path "/os")
  | .macs => sources.lines (databasePath path "/macs")

/-- The lines can be read to the end of the file. -/
def LoadsCleanly (path : Bytes) : NameList → Prop
  | .domainAlias => BlankEnds (sources.listLines path .domainAlias)
  | .os => BlankEnds (sources.listLines path .os)
  | .macs => ∀ line ∈ sources.listLines path .macs, Readable .ifaddr line
  | _ => True

def fileNodes (path : Bytes) : NameList → List NameNode
  | .hosts => hostsNodes sources.inetPton .host (sources.listLines path .hosts)
  | .networks => hostsNodes sources.inetPton .network (sources.listLines path .networks)
  | .engines => hostsNodes sources.inetPton .engine (sources.listLines path .engines)
  | .domains => hostsNodes sources.inetPton .domains (sources.listLines path .domains)
  | .domainAlias => charCharNodes (sources.listLines path .domainAlias)
  | .os => charCharNodes (sources.listLines path .os)
  | .macs => hostsNodes sources.inetPton .ifaddr (sources.listLines path .macs)

/-- What a loader starts from: an empty list, or a head that it writes over. -/
def Startable (list : NameList) (found : Found NameNode) : Prop :=
  found = .cells [] ∨ (list = .engines ∨ list = .domains) ∧ found = .dangling

variable {sources}

theorem lines_none (missing : sources.files filename = none) : sources.lines filename = [] := by
  unfold lines
  rw [missing]
  rfl

theorem lines_some {content : Bytes} (opened : sources.files filename = some content) :
    sources.lines filename = readLines content := by
  unfold lines
  rw [opened]
  rfl

theorem startable_link {found : Found NameNode} (startable : Startable list found) :
    Link.head list = found.endLink list := by
  rcases startable with rfl | ⟨_, rfl⟩ <;> rfl

theorem startable_sound {found : Found NameNode} (startable : Startable order.list found) :
    Sound order found := by
  rintro isAddress rfl
  rcases startable with isCells | ⟨isNumber, _⟩
  · cases isCells
  · rcases isAddress with rfl | rfl <;> simp [ParseHostsListOrder.list] at isNumber

theorem startList_shows (shows : lists.Shows view)
    (startable : Startable order.list (view.found order.list)) :
    (startList order lists).Shows view := by
  unfold startList
  split
  · next isMac =>
      subst isMac
      rcases startable with known | ⟨isNumber, _⟩
      · have empty : lists.heads .macs = none := shows.segment known
        have same : lists.setHead .macs none = lists := by
          unfold LinkedLists.setHead
          rw [← empty, Function.update_eq_self]
        rwa [same]
      · simp [ParseHostsListOrder.list] at isNumber
  · exact shows

theorem parseHostsListFile_ends (shows : lists.Shows view)
    (startable : Startable order.list (view.found order.list)) (filename : Bytes) :
    EndsWhen (sources.parseHostsListFile filename order lists)
      (∀ line ∈ sources.lines filename, Readable order line)
      (Extended view order.list (hostsNodes sources.inetPton order (sources.lines filename))) := by
  have fills : Loading.Fills { lists := startList order lists, iter := .head order.list } view
      order.list :=
    ⟨startList_shows shows startable, startable_link startable⟩
  unfold parseHostsListFile
  cases opened : sources.files filename with
  | none =>
      rw [lines_none opened]
      exact .ok (by simp) (filled_nil fills).extended
  | some content =>
      rw [lines_some opened]
      exact (parseHostsListLines_end fills (startable_sound startable) (readLines content)).map
        fun after filled => filled.extended

theorem parseCharCharListFile_ends (shows : lists.Shows view)
    (empty : view.found list = .cells []) (filename : Bytes) :
    EndsWhen (sources.parseCharCharListFile list filename lists)
      (BlankEnds (sources.lines filename))
      (Extended view list (charCharNodes (sources.lines filename))) := by
  have fills : Loading.Fills { lists, iter := .head list } view list :=
    ⟨shows, startable_link (.inl empty)⟩
  unfold parseCharCharListFile
  cases opened : sources.files filename with
  | none =>
      rw [lines_none opened]
      exact .ok trivial (filled_nil fills).extended
  | some content =>
      rw [lines_some opened]
      exact (parseCharCharLines_end fills (by rw [empty]; simp) (readLines content)).map
        fun after extended => extended

theorem readable_of_ne {lines : List Bytes} (apart : order ≠ .ifaddr) :
    True ↔ ∀ line ∈ lines, Readable order line :=
  ⟨fun _ _ _ isMac => absurd isMac apart, fun _ => trivial⟩

/-- A file decides whether its list can be loaded, and what is in the list then. -/
theorem loadList_ends (shows : lists.Shows view) (startable : Startable list (view.found list))
    (path : Bytes) :
    EndsWhen (sources.loadList path list lists)
      (sources.LoadsCleanly path list) (Extended view list (sources.fileNodes path list)) := by
  cases list with
  | hosts =>
      exact (@parseHostsListFile_ends _ _ _ .host _ _ shows startable _).congr
        (readable_of_ne nofun)
  | networks =>
      exact (@parseHostsListFile_ends _ _ _ .network _ _ shows startable _).congr
        (readable_of_ne nofun)
  | engines =>
      exact (@parseHostsListFile_ends _ _ _ .engine _ _ shows startable _).congr
        (readable_of_ne nofun)
  | domains =>
      exact (@parseHostsListFile_ends _ _ _ .domains _ _ shows startable _).congr
        (readable_of_ne nofun)
  | domainAlias => exact parseCharCharListFile_ends shows (startable.resolve_right (by simp)) _
  | os => exact parseCharCharListFile_ends shows (startable.resolve_right (by simp)) _
  | macs => exact @parseHostsListFile_ends _ _ _ .ifaddr _ _ shows startable _

theorem loadsFresh_iff {nodes : List NameNode} :
    sources.LoadsFresh path list nodes ↔
      sources.LoadsCleanly path list ∧ nodes = sources.fileNodes path list := by
  have ends : EndsWhen (sources.loadList path list .empty) (sources.LoadsCleanly path list) _ :=
    loadList_ends .empty (.inl rfl) path
  constructor
  · rintro ⟨fresh, contents, ran, shows, rfl⟩
    obtain ⟨clean, added, shown, nodes⟩ := ends.holds_of_ok ran
    have found := shown.found_eq shows list
    rw [View.extend_found_self] at found
    change List.foldl Found.add (.cells []) added = _ at found
    rw [Found.extend_cells, List.nil_append] at found
    rw [← Found.cells.inj found]
    exact ⟨clean, nodes⟩
  · rintro ⟨clean, rfl⟩
    obtain ⟨fresh, ran, added, shown, nodes⟩ := ends.ends clean
    have led : ∀ other, ((View.sound fun _ => []).extend list added).found other ≠ .dangling := by
      intro other
      cases Decidable.em (other = list) with
      | inl same =>
          subst same
          rw [View.extend_found_self]
          exact Found.extend_ne_dangling (by simp [View.sound]) added
      | inr apart =>
          rw [(View.keeps_extend _ list added).others other (by simpa using apart)]
          simp [View.sound]
    obtain ⟨contents, sound, found⟩ := shown.exists_sound led
    refine ⟨fresh, contents, ran, sound, ?_⟩
    have isAdded := found list
    rw [View.extend_found_self] at isAdded
    change List.foldl Found.add (.cells []) added = _ at isAdded
    rw [Found.extend_cells, List.nil_append] at isAdded
    rw [← Found.cells.inj isAdded, nodes]

/-! One list after the other is freed and loaded -/

/-- What a head leads to when the file is about to be loaded. -/
def startOf (list : NameList) (old : List (Nat × NameNode)) : Found NameNode :=
  match list with
  | .engines | .domains => .freed old
  | _ => .cells []

/-- What became of the old nodes: two of the lists lose their last one. -/
def Released (list : NameList) (old : List (Nat × NameNode)) (view : View NameList NameNode) :
    Prop :=
  match list with
  | .domainAlias | .os =>
      addresses old.dropLast ⊆ view.freed ∧ addresses old.getLast?.toList ⊆ view.lost
  | _ => addresses old ⊆ view.freed

structure Reloads (sources : NameSources Tree Vendors) (path : Bytes) (list : NameList)
    (old : List (Nat × NameNode)) (view : View NameList NameNode) : Prop where
  released : Released list old view
  loaded : ∃ added : List (Nat × NameNode),
    view.found list = added.foldl Found.add (startOf list old) ∧
      added.map Prod.snd = sources.fileNodes path list

theorem Reloads.keeps {old : List (Nat × NameNode)} {after : View NameList NameNode}
    {own : List NameList} (reloads : Reloads sources path list old view)
    (keeps : view.Keeps own after) (other : list ∉ own) :
    Reloads sources path list old after where
  released := by
    have released := reloads.released
    unfold Released at released ⊢
    cases list with
    | domainAlias | os =>
        exact ⟨List.Subset.trans released.1 keeps.freed, List.Subset.trans released.2 keeps.lost⟩
    | hosts | networks | engines | domains | macs =>
        exact List.Subset.trans released keeps.freed
  loaded := by
    obtain ⟨added, found, nodes⟩ := reloads.loaded
    exact ⟨added, (keeps.others list other).trans found, nodes⟩

section Lists

variable {old networks : List (Nat × NameNode)}

/-- What is left of one list, and of the others, when it was loaded again. -/
def Turned (sources : NameSources Tree Vendors) (path : Bytes) (list : NameList)
    (old : List (Nat × NameNode)) (view : View NameList NameNode) (after : NameLists) : Prop :=
  ∃ viewAfter, after.Shows viewAfter ∧ view.Keeps [list] viewAfter ∧
    Reloads sources path list old viewAfter

/-- A list that was freed is loaded: what was found of it is what its loader starts from. -/
theorem load_turned {viewFreed : View NameList NameNode} (shows : lists.Shows viewFreed)
    (keeps : view.Keeps [list] viewFreed) (start : viewFreed.found list = startOf list old)
    (released : Released list old viewFreed)
    (startable : Startable list (viewFreed.found list)) (path : Bytes) :
    EndsWhen (sources.loadList path list lists) (sources.LoadsCleanly path list)
      (Turned sources path list old view) := by
  refine (loadList_ends shows startable path).mono ?_
  rintro after ⟨added, shown, nodes⟩
  refine ⟨_, shown, keeps.trans (View.keeps_extend viewFreed list added), ?_, added, ?_, nodes⟩
  · unfold Released at released ⊢
    cases list <;> exact released
  · rw [View.extend_found_self, start]

theorem startable_freed (isNumber : list = .engines ∨ list = .domains) :
    Startable list (Found.freed old) := by
  cases old with
  | nil => exact .inl rfl
  | cons node old => exact .inr ⟨isNumber, rfl⟩

theorem reloadNumbers_ends (isNumber : list = .engines ∨ list = .domains)
    (shows : lists.Shows view) (known : view.found list = .cells old) (path : Bytes) :
    EndsWhen (lists.freeList list >>= sources.loadList path list) True
      (Turned sources path list old view) := by
  obtain ⟨freed, viewFreed, ran, shown, keeps, found, dead⟩ := shows.freeList known
  have start : viewFreed.found list = startOf list old := by
    rw [found]
    rcases isNumber with rfl | rfl <;> rfl
  have released : Released list old viewFreed := by
    rcases isNumber with rfl | rfl <;> exact dead
  have clean : True ↔ sources.LoadsCleanly path list := by
    rcases isNumber with rfl | rfl <;> exact Iff.rfl
  rw [ran, ok_bind]
  exact (load_turned shown keeps start released (found ▸ startable_freed isNumber) path).congr clean

/-- Freed but for the last node, and loaded from an empty list. -/
theorem reloadPairs_ends (isPairs : list = .domainAlias ∨ list = .os)
    (shows : lists.Shows view) (known : view.found list = .cells old) (path : Bytes) :
    EndsWhen (lists.freeListButLast list >>= fun lists =>
        sources.loadList path list (lists.setHead list none)) (sources.LoadsCleanly path list)
      (Turned sources path list old view) := by
  obtain ⟨freed, viewFreed, ran, shown, keeps, found, dead, lost⟩ := shows.freeListButLast known
  have start : viewFreed.found list = startOf list old := by
    rw [found]
    rcases isPairs with rfl | rfl <;> rfl
  have released : Released list old viewFreed := by
    rcases isPairs with rfl | rfl <;> exact ⟨dead, lost⟩
  rw [ran, ok_bind]
  exact load_turned shown keeps start released (.inl found) path

theorem reloadDomains_ends {aliases : List (Nat × NameNode)} (shows : lists.Shows view)
    (known : view.found .domains = .cells old)
    (knownAlias : view.found .domainAlias = .cells aliases) (path : Bytes) :
    EndsWhen ((lists.freeList .domains >>= sources.loadList path .domains) >>= fun lists =>
        lists.freeListButLast .domainAlias >>= fun lists =>
          sources.loadList path .domainAlias (lists.setHead .domainAlias none))
      (sources.LoadsCleanly path .domainAlias)
      (fun after => ∃ viewAfter, after.Shows viewAfter ∧
        view.Keeps [.domains, .domainAlias] viewAfter ∧
        Reloads sources path .domains old viewAfter ∧
        Reloads sources path .domainAlias aliases viewAfter) := by
  refine (reloadNumbers_ends (.inr rfl) shows known path).always_bind ?_
  rintro domains ⟨viewDomains, shown, keeps, reloads⟩
  have stays := (keeps.others .domainAlias (by decide)).trans knownAlias
  refine (reloadPairs_ends (.inl rfl) shown stays path).mono ?_
  rintro after ⟨viewAfter, shownAfter, keepsAlias, reloadsAlias⟩
  exact ⟨viewAfter, shownAfter, (keeps.mono (by decide)).trans (keepsAlias.mono (by decide)),
    reloads.keeps keepsAlias (by decide), reloadsAlias⟩

theorem reloadMacs_ends (shows : lists.Shows view) (known : view.found .macs = .cells old)
    (path : Bytes) :
    EndsWhen (lists.freeList .macs >>= fun lists =>
        sources.loadList path .macs (lists.setHead .macs none)) (sources.LoadsCleanly path .macs)
      (Turned sources path .macs old view) := by
  obtain ⟨freed, viewFreed, ran, shown, keepsFreed, _, dead⟩ := shows.freeList known
  obtain ⟨cleared, shownCleared, keepsCleared, found, sameFreed⟩ := shown.clear .macs
  have released : Released .macs old cleared := by
    change addresses old ⊆ cleared.freed
    rw [sameFreed]
    exact dead
  rw [ran, ok_bind]
  exact load_turned shownCleared (keepsFreed.trans keepsCleared) found released (.inl found) path

/-- Both lists of addresses are freed before the first of them is loaded. -/
theorem reloadAddresses_ends (shows : lists.Shows view) (known : view.found .hosts = .cells old)
    (knownNetworks : view.found .networks = .cells networks) (path : Bytes) :
    EndsWhen (lists.freeList .hosts >>= fun lists => lists.freeList .networks >>= fun lists =>
        sources.parseHostsList path ((lists.setHead .networks none).setHead .hosts none))
      True
      (fun after => ∃ viewAfter, after.Shows viewAfter ∧
        view.Keeps [.hosts, .networks] viewAfter ∧
        Reloads sources path .hosts old viewAfter ∧
        Reloads sources path .networks networks viewAfter) := by
  obtain ⟨first, viewFirst, ranFirst, shownFirst, keepsFirst, _, deadFirst⟩ := shows.freeList known
  have stays := (keepsFirst.others .networks (by decide)).trans knownNetworks
  obtain ⟨second, viewSecond, ranSecond, shownSecond, keepsSecond, _, deadSecond⟩ :=
    shownFirst.freeList stays
  obtain ⟨viewThird, shownThird, keepsThird, foundThird, _⟩ := shownSecond.clear .networks
  obtain ⟨cleared, shownCleared, keepsCleared, foundHosts, _⟩ := shownThird.clear .hosts
  have foundNetworks := (keepsCleared.others .networks (by decide)).trans foundThird
  have keepsFreed : view.Keeps [.hosts, .networks] cleared :=
    (keepsFirst.mono (by decide)).trans ((keepsSecond.mono (by decide)).trans
      ((keepsThird.mono (by decide)).trans (keepsCleared.mono (by decide))))
  have releasedHosts : addresses old ⊆ cleared.freed :=
    List.Subset.trans (List.Subset.trans (List.Subset.trans deadFirst keepsSecond.freed)
      keepsThird.freed) keepsCleared.freed
  have releasedNetworks : addresses networks ⊆ cleared.freed :=
    List.Subset.trans (List.Subset.trans deadSecond keepsThird.freed) keepsCleared.freed
  rw [ranFirst, ok_bind, ranSecond, ok_bind]
  refine EndsWhen.always_bind (load_turned shownCleared .refl foundHosts releasedHosts
    (.inl foundHosts) path) ?_
  rintro hosts ⟨viewHosts, shownHosts, keepsHosts, reloadsHosts⟩
  have startNetworks := (keepsHosts.others .networks (by decide)).trans foundNetworks
  refine EndsWhen.mono (load_turned shownHosts .refl startNetworks
    (List.Subset.trans releasedNetworks keepsHosts.freed) (.inl startNetworks) path) ?_
  rintro after ⟨viewAfter, shownAfter, keepsNetworks, reloadsNetworks⟩
  refine ⟨viewAfter, shownAfter, ?_, reloadsHosts.keeps keepsNetworks (by decide),
    reloadsNetworks⟩
  exact keepsFreed.trans ((keepsHosts.mono (by decide)).trans (keepsNetworks.mono (by decide)))

end Lists

end NameSources

end F2k
