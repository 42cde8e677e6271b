import F2k.Lib.CacheLog
import F2k.Lib.Memory
import F2k.Lib.Systems
import F2k.Lib.Table

namespace F2k

open Lib

/-! The cache of names that the DNS has given, whose entries are counted references. -/

/-- Where an entry was allocated. -/
abbrev Pointer := Nat

structure DnsCacheEntry where
  addr : Bytes
  name : Bytes
  lastChecked : Int
  refcnt : UInt32

/-- The memory context, the tree by address, and the list with the entry used last at its
head. -/
structure DnsCache where
  /-- `sizeof(struct dns_cache_entry)`: the name is allocated behind it. -/
  entrySize : Nat
  maxMemB : Nat
  timeoutS : Int
  memctx : Table Pointer DnsCacheEntry
  avl : Table Bytes Pointer
  lru : List Pointer

inductive DnsCacheFault
  | freedEntry
  | endlessLoop

/-- What `dns_cache_save_elm` returns: the element of a null entry is not a null pointer. -/
inductive SavedElm
  | null
  | elm (pointer : Pointer)
  | elmOfNull

namespace DnsCache

def new (entrySize maxmemM : Nat) (timeoutS : Int) : DnsCache where
  entrySize
  maxMemB := maxmemM * 1024 * 1024
  timeoutS
  memctx := ∅
  avl := ∅
  lru := []

def realEntrySize (cache : DnsCache) (name : Bytes) : Nat :=
  cache.entrySize + name.length + 1

/-- `rd_memctx_stats`: the bytes that are allocated. -/
def bytesOut (cache : DnsCache) : Nat :=
  (cache.memctx.values.map fun entry => cache.realEntrySize entry.name).sum

def decrefElm (cache : DnsCache) (pointer : Pointer) : Except DnsCacheFault DnsCache :=
  match cache.memctx.lookup pointer with
  | none => .error .freedEntry
  | some entry =>
      let refcnt := entry.refcnt - 1
      .ok
        { cache with
          memctx :=
            if refcnt = 0 then cache.memctx.erase pointer
            else cache.memctx.insert pointer { entry with refcnt } }

/-- Entries are dropped until there is room; those that others still refer to are counted, too.
The addresses that are dropped come with the result, the last one first. -/
def makeRoom (bytesOut neededSize : Nat) :
    Nat → Nat → DnsCache → List Bytes → Except DnsCacheFault (Bool × DnsCache × List Bytes)
  | 0, _, _, _ => .error .endlessLoop
  | turns + 1, freedSize, cache, dropped =>
      if bytesOut + neededSize > cache.maxMemB + freedSize then
        match cache.lru.getLast? with
        | none => .ok (false, cache, dropped)
        | some oldEntry =>
            match cache.memctx.lookup oldEntry with
            | none => .error .freedEntry
            | some entry => do
                let cache ← decrefElm
                  { cache with lru := cache.lru.dropLast, avl := cache.avl.erase entry.addr }
                  oldEntry
                makeRoom bytesOut neededSize turns (freedSize + cache.realEntrySize entry.name) cache
                  (entry.addr :: dropped)
      else .ok (true, cache, dropped)

/-- `calloc` is what the memory context allocates for the new entry, if it can. -/
def saveElm (cache : DnsCache) (addr name : Bytes) (now : Int) (calloc : Option Pointer) :
    Except DnsCacheFault (DnsCache × SavedElm × List Bytes) := do
  let neededSize := cache.realEntrySize name
  let (room, cache, dropped) ←
    makeRoom cache.bytesOut neededSize (cache.lru.length + 1) 0 cache []
  if room then
    match calloc with
    | none => .ok (cache, .elmOfNull, dropped)
    | some pointer =>
        let entry : DnsCacheEntry := { addr, name, lastChecked := now, refcnt := 2 }
        let oldentry := cache.avl.lookup addr
        let cache : DnsCache :=
          { cache with
            memctx := cache.memctx.insert pointer entry
            avl := cache.avl.insert addr pointer
            lru := pointer :: cache.lru }
        match oldentry with
        | none => .ok (cache, .elm pointer, dropped)
        | some oldentry => do
            let cache ← decrefElm { cache with lru := cache.lru.erase oldentry } oldentry
            .ok (cache, .elm pointer, dropped)
  else .ok (cache, .null, dropped)

/-- With the element, if there is one, comes whether the entry was too old. -/
def getElm (cache : DnsCache) (addr : Bytes) (now : Int) :
    Except DnsCacheFault (DnsCache × Option Pointer × Bool) :=
  match cache.avl.lookup addr with
  | none => .ok (cache, none, false)
  | some pointer =>
      match cache.memctx.lookup pointer with
      | none => .error .freedEntry
      | some entry =>
          let lru := cache.lru.erase pointer
          if now - entry.lastChecked > cache.timeoutS then do
            let cache ← decrefElm { cache with lru, avl := cache.avl.erase entry.addr } pointer
            .ok (cache, none, true)
          else
            .ok
              ({ cache with
                lru := pointer :: lru
                memctx := cache.memctx.insert pointer { entry with refcnt := entry.refcnt + 1 } },
                some pointer, false)

end DnsCache

end F2k
