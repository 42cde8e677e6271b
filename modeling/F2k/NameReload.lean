import F2k.NameFiles

namespace F2k

open Lib

/-! The names that are loaded from files, and `check_if_reload`, which loads those again whose flag
is set. -/

/-- What the reload finds: the contents of the files by their paths, the answers of the resolver,
the tree of the applications and the database of the vendors, which libraries keep. -/
structure NameSources (Tree Vendors : Type) where
  files : Bytes → Option Bytes
  inetPton : InetPton
  newNumNameAssocTree : Tree
  addNum : Tree → UInt64 → Bytes → Tree
  newMacVendorDb : Bytes → Option Vendors

/-- `rb_databases`, with its lists, trees and vendors in memory. -/
structure RbDatabases (Tree Vendors : Type) where
  reloadHostsDatabase : Bool
  reloadNetsDatabase : Bool
  reloadAppsDatabase : Bool
  reloadEnginesDatabase : Bool
  reloadDomainsDatabase : Bool
  reloadOsDatabase : Bool
  reloadDomainaliasDatabase : Bool
  reloadMacsDatabase : Bool
  reloadMacsVendorDatabase : Bool
  lists : NameLists
  trees : Heap Tree
  appsNameAsList : Option Nat
  vendors : Heap Vendors
  macVendorDatabase : Option Nat
  hostsDatabasePath : Bytes
  macVendorDatabasePath : Option Bytes

/-- `snprintf` into a buffer of 1024 bytes. -/
def databasePath (path : Bytes) (name : String) : Bytes :=
  (path ++ ascii name).take 1023

def parseAppId (tok2 : Bytes) : Option UInt64 :=
  let (appId, rest) := strtol tok2
  if appId = 0 ∧ rest ≠ [] then none else some (Int64.ofInt appId).toUInt64

def freeBlock {Block : Type} (heap : Heap Block) : Option Nat → Except Misuse (Heap Block)
  | none => .ok heap
  | some address => orMisuse (heap.free address)

variable {Tree Vendors : Type}

namespace NameSources

variable (sources : NameSources Tree Vendors)

/-- `STAILQ_INIT` empties the list of hardware addresses before its file is opened. -/
def startList (order : ParseHostsListOrder) (lists : NameLists) : NameLists :=
  if order = .ifaddr then lists.setHead .macs none else lists

def parseHostsListFile (filename : Bytes) (order : ParseHostsListOrder) (lists : NameLists) :
    Except Misuse NameLists :=
  let lists := startList order lists
  match sources.files filename with
  | none => .ok lists
  | some content =>
      ((readLines content).foldlM (parseHostsListLine sources.inetPton order)
        { lists, iter := .head order.list }).map Loading.lists

def parseHostsList (etcPath : Bytes) (lists : NameLists) : Except Misuse NameLists :=
  sources.parseHostsListFile (etcPath ++ ascii "/hosts") .host lists >>=
    sources.parseHostsListFile (etcPath ++ ascii "/networks") .network

def parseEngineList (appsPath : Bytes) : NameLists → Except Misuse NameLists :=
  sources.parseHostsListFile appsPath .engine

def parseHttpDomainsList (listPath : Bytes) : NameLists → Except Misuse NameLists :=
  sources.parseHostsListFile listPath .domains

def parseIfAddressList (listPath : Bytes) : NameLists → Except Misuse NameLists :=
  sources.parseHostsListFile listPath .ifaddr

def parseCharCharListFile (list : NameList) (filename : Bytes) (lists : NameLists) :
    Except Misuse NameLists :=
  match sources.files filename with
  | none => .ok lists
  | some content =>
      ((readLines content).foldlM parseCharCharLine { lists, iter := .head list }).map
        Loading.lists

def addNumNameAssocToTree (pointer : Nat) (number : UInt64) (name : Bytes) (trees : Heap Tree) :
    Except Misuse (Heap Tree) :=
  orMisuse (trees.read pointer >>= fun tree =>
    trees.write pointer (sources.addNum tree number name))

def parseAppLine (pointer : Nat) (trees : Heap Tree) (line : Bytes) : Except Misuse (Heap Tree) :=
  match hostsListTokens line with
  | none => .ok trees
  | some (tok1, tok2) =>
      match parseAppId tok2 with
      | none => .ok trees
      | some appId => sources.addNumNameAssocToTree pointer appId tok1 trees

/-- `parseHostsList_File` in the order of the applications. -/
def parseAppList (appsPath : Bytes) (pointer : Nat) (trees : Heap Tree) :
    Except Misuse (Heap Tree) :=
  match sources.files appsPath with
  | none => .ok trees
  | some content => (readLines content).foldlM (sources.parseAppLine pointer) trees

end NameSources

namespace RbDatabases

variable (sources : NameSources Tree Vendors) (db : RbDatabases Tree Vendors)

def reloadHosts : Except Misuse (RbDatabases Tree Vendors) :=
  if db.reloadHostsDatabase || db.reloadNetsDatabase then
    (db.lists.freeList .hosts >>= fun lists =>
      lists.freeList .networks >>= fun lists =>
        sources.parseHostsList db.hostsDatabasePath
          ((lists.setHead .networks none).setHead .hosts none)).map fun lists =>
            { db with lists, reloadHostsDatabase := false, reloadNetsDatabase := false }
  else .ok db

def reloadApps : Except Misuse (RbDatabases Tree Vendors) :=
  if db.reloadAppsDatabase then
    freeBlock db.trees db.appsNameAsList >>= fun trees =>
      (sources.parseAppList (databasePath db.hostsDatabasePath "/applications") trees.next
        (trees.alloc sources.newNumNameAssocTree)).map fun loaded =>
          { db with
            trees := loaded
            appsNameAsList := some trees.next
            reloadAppsDatabase := false }
  else .ok db

/-- `freeNumList` frees the nodes, and the head still points to the first of them. -/
def reloadEngines : Except Misuse (RbDatabases Tree Vendors) :=
  if db.reloadEnginesDatabase then
    (db.lists.freeList .engines >>=
      sources.parseEngineList (databasePath db.hostsDatabasePath "/engines")).map fun lists =>
        { db with lists, reloadEnginesDatabase := false }
  else .ok db

/-- The aliases are loaded again with the domains; their own flag is not looked at. `freeOSList`
stops in front of the last node. -/
def reloadDomains : Except Misuse (RbDatabases Tree Vendors) :=
  if db.reloadDomainsDatabase then
    ((db.lists.freeList .domains >>=
      sources.parseHttpDomainsList (databasePath db.hostsDatabasePath "/http_domains")) >>=
        fun lists => lists.freeListButLast .domainAlias >>= fun lists =>
          sources.parseCharCharListFile .domainAlias
            (databasePath db.hostsDatabasePath "/http_host_l1_alias")
            (lists.setHead .domainAlias none)).map fun lists =>
              { db with
                lists
                reloadDomainsDatabase := false
                reloadDomainaliasDatabase := false }
  else .ok db

def reloadOs : Except Misuse (RbDatabases Tree Vendors) :=
  if db.reloadOsDatabase then
    (db.lists.freeListButLast .os >>= fun lists =>
      sources.parseCharCharListFile .os (databasePath db.hostsDatabasePath "/os")
        (lists.setHead .os none)).map fun lists =>
          { db with lists, reloadOsDatabase := false }
  else .ok db

def reloadMacs : Except Misuse (RbDatabases Tree Vendors) :=
  if db.reloadMacsDatabase then
    (db.lists.freeList .macs >>= fun lists =>
      sources.parseIfAddressList (databasePath db.hostsDatabasePath "/macs")
        (lists.setHead .macs none)).map fun lists =>
          { db with lists, reloadMacsDatabase := false }
  else .ok db

/-- Without a path the pointer to what was destroyed stays. -/
def reloadMacsVendor : Except Misuse (RbDatabases Tree Vendors) :=
  if db.reloadMacsVendorDatabase then
    (freeBlock db.vendors db.macVendorDatabase).map fun vendors =>
      match db.macVendorDatabasePath with
      | none => { db with vendors, reloadMacsVendorDatabase := false }
      | some path =>
          match sources.newMacVendorDb path with
          | none =>
              { db with vendors, macVendorDatabase := none, reloadMacsVendorDatabase := false }
          | some loaded =>
              { db with
                vendors := vendors.alloc loaded
                macVendorDatabase := some vendors.next
                reloadMacsVendorDatabase := false }
  else .ok db

def checkIfReload : Except Misuse (RbDatabases Tree Vendors) :=
  db.reloadHosts sources >>= fun db =>
    db.reloadApps sources >>= fun db =>
      db.reloadEngines sources >>= fun db =>
        db.reloadDomains sources >>= fun db =>
          db.reloadOs sources >>= fun db =>
            db.reloadMacs sources >>= fun db => db.reloadMacsVendor sources

end RbDatabases

end F2k
