import F2k.Export

namespace F2k

open Lib

/-! Printing the elements of a record into its message. -/

/-- The message so far, the flow cache, and the length that was reported for the element. -/
structure LineState where
  line : Bytes
  cache : FlowCache
  valueRet : Nat

/-- What stands before the value of an element. -/
def elementPrefix (line name : Bytes) (quote : Bool) : Bytes :=
  line ++ (if cString line ≠ ascii "\x7b" then ascii "," else []) ++ ascii "\"" ++ name ++
    ascii "\":" ++ (if quote then ascii "\"" else [])

/-- The element itself, before the elements that are printed from the same bytes: the message
is put back to where it was when nothing is reported as printed. -/
def printElement (globals : ReadOnlyGlobals) (line : Bytes) (templateElement : Element)
    (buffer : Mem) (realFieldLen : Nat) (cache : FlowCache) : Run LineState :=
  match templateElement.jsonElementName with
  | none => .error .nullElementName
  | some name => do
      let printed ←
        match templateElement.exportFn with
        | none => cache.saved
        | some exportFn => exportField globals exportFn buffer realFieldLen cache
      if printed.length > 0 then
        let before := elementPrefix line (cString name) templateElement.quote
        if templateElement.quote then
          pure
            { line := before ++ printed.text ++ ascii "\""
              cache := printed.cache
              valueRet := printed.length + 2 }
        else
          pure
            { line := before ++ printed.text
              cache := printed.cache
              valueRet := printed.length }
      else pure { line, cache := printed.cache, valueRet := 0 }

mutual

def printNetflowRecordWithTemplate (globals : ReadOnlyGlobals) (line : Bytes) :
    Element → Mem → Nat → FlowCache → Run LineState
  | .mk templateElementId quote jsonElementName exportFn postTemplate, buffer, realFieldLen,
      cache => do
      let element := .mk templateElementId quote jsonElementName exportFn postTemplate
      let own ← printElement globals line element buffer realFieldLen cache
      let after ← printPostTemplate globals own.line postTemplate buffer realFieldLen own.cache
      pure { after with valueRet := own.valueRet }

def printPostTemplate (globals : ReadOnlyGlobals) (line : Bytes) :
    List Element → Mem → Nat → FlowCache → Run LineState
  | [], _, _, cache => pure { line, cache, valueRet := 0 }
  | element :: rest, buffer, realFieldLen, cache => do
      let printed ← printNetflowRecordWithTemplate globals line element buffer realFieldLen cache
      printPostTemplate globals printed.line rest buffer realFieldLen printed.cache

end

/-- An element that is printed after the fields of the record, from no bytes at all. -/
def printFromCache (globals : ReadOnlyGlobals) (line : Bytes) (element : Element)
    (cache : FlowCache) : Run LineState :=
  printNetflowRecordWithTemplate globals line element (fun _ => 0) 0 cache

def printAllFromCache (globals : ReadOnlyGlobals) (line : Bytes) (elements : List Element)
    (cache : FlowCache) : Run LineState :=
  printPostTemplate globals line elements (fun _ => 0) 0 cache

def printSensorEnrichment (line : Bytes) (cache : FlowCache) : Bytes :=
  match cache.observationId.enrichment with
  | some enrichment => line ++ ascii "," ++ fastString enrichment
  | none => line

end F2k
