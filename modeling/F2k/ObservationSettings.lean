import F2k.Lib.LastWrites
import F2k.ObservationID

namespace F2k

open Lib

/-! What an observation id keeps of the calls that configure it and teach it names. -/

/-- The calls of the C code that change an observation id. -/
inductive Setting
  | setEnrichment (enrichment : Bytes)
  | setFallbackFirstSwitch (fallback : Int64)
  | setExporterInWanSide
  | setSpanMode
  | enablePtrDnsClient
  | enablePtrDnsTarget
  | addApplication (application : Application)
  | addSelector (selector : Selector)
  | addInterface (interface : Interface)
  | addNetwork (network : Network)
  | addTemplate (id : UInt16) (template : FlowSetV9Ipfix)

/-- The enrichment is handed over as a C string, and kept with its zero. -/
def Setting.apply (observationId : ObservationID) : Setting → ObservationID
  | .setEnrichment enrichment => observationId.setEnrichment (cString enrichment ++ [0])
  | .setFallbackFirstSwitch fallback => observationId.setFallbackFirstSwitch fallback
  | .setExporterInWanSide => observationId.setExporterInWanSide
  | .setSpanMode => observationId.setSpanMode
  | .enablePtrDnsClient => observationId.enablePtrDnsClient
  | .enablePtrDnsTarget => observationId.enablePtrDnsTarget
  | .addApplication application => observationId.addApplication application
  | .addSelector selector => observationId.addSelector selector
  | .addInterface interface => observationId.addInterface interface
  | .addNetwork network => observationId.addNetwork network
  | .addTemplate id template => observationId.addTemplate id template

def withSettings (id : UInt32) (settings : List Setting) : ObservationID :=
  settings.foldl Setting.apply (.new id)

/-! Queries -/

/-- A query of the C code, and what the calls that correspond to it store. -/
structure Query (Answer : Type) where
  ask : ObservationID → Answer
  stores : Setting → Option Answer

/-- The query gives what the last call stored that corresponds to it. -/
def Query.Faithful {Answer : Type} (query : Query Answer) (id : UInt32)
    (settings : List Setting) : Prop :=
  query.ask (withSettings id settings) =
    (lastWritten query.stores settings).getD (query.ask (.new id))

def enrichmentQuery : Query (Option Bytes) where
  ask observationId := observationId.enrichment.map cString
  stores
    | .setEnrichment enrichment => some (some (cString enrichment))
    | _ => none

def fallbackFirstSwitchQuery : Query Int64 where
  ask := ObservationID.getFallbackFirstSwitch
  stores
    | .setFallbackFirstSwitch fallback => some fallback
    | _ => none

def exporterInWanSideQuery : Query Bool where
  ask := ObservationID.exporterInWanSide
  stores
    | .setExporterInWanSide => some true
    | _ => none

def spanPortQuery : Query Bool where
  ask := ObservationID.spanPort
  stores
    | .setSpanMode => some true
    | _ => none

/-- The text under a number, of those that some of the calls add. -/
def textQuery (ask : ObservationID → UInt64 → Option Bytes)
    (added : Setting → Option (UInt64 × Bytes)) (id : UInt64) : Query (Option Bytes) where
  ask observationId := ask observationId id
  stores setting :=
    (added setting).bind fun text => if text.1 = id then some (some (cString text.2)) else none

def applicationNameQuery : UInt64 → Query (Option Bytes) :=
  textQuery ObservationID.applicationName fun
    | .addApplication application => some (application.id, application.name)
    | _ => none

def selectorNameQuery : UInt64 → Query (Option Bytes) :=
  textQuery ObservationID.selectorName fun
    | .addSelector selector => some (selector.id, selector.name)
    | _ => none

def interfaceNameQuery : UInt64 → Query (Option Bytes) :=
  textQuery ObservationID.interfaceName fun
    | .addInterface interface => some (interface.id, interface.name)
    | _ => none

def interfaceDescriptionQuery : UInt64 → Query (Option Bytes) :=
  textQuery ObservationID.interfaceDescription fun
    | .addInterface interface => some (interface.id, interface.description)
    | _ => none

def templateQuery (id : UInt16) : Query (Option FlowSetV9Ipfix) where
  ask observationId := observationId.getTemplate id
  stores
    | .addTemplate other template => if other = id then some (some template) else none
    | _ => none

/-- Home networks are looked up by address, in the table of all that were added. -/
def addedNetwork : Setting → Option Network
  | .addNetwork network => some network
  | _ => none

/-- Every query gives what the last call stored that corresponds to it, and the names of clients
and targets are wanted once that was enabled. -/
structure FaithfulRecord (id : UInt32) (settings : List Setting) : Prop where
  enrichment : enrichmentQuery.Faithful id settings
  fallbackFirstSwitch : fallbackFirstSwitchQuery.Faithful id settings
  exporterInWanSide : (withSettings id settings).exporterInWanSide = true ↔
    .setExporterInWanSide ∈ settings
  spanPort : (withSettings id settings).spanPort = true ↔ .setSpanMode ∈ settings
  wantClientDns : (withSettings id settings).wantClientDns = true ↔
    .enablePtrDnsClient ∈ settings
  wantTargetDns : (withSettings id settings).wantTargetDns = true ↔
    .enablePtrDnsTarget ∈ settings
  applicationName : ∀ key, (applicationNameQuery key).Faithful id settings
  selectorName : ∀ key, (selectorNameQuery key).Faithful id settings
  interfaceName : ∀ key, (interfaceNameQuery key).Faithful id settings
  interfaceDescription : ∀ key, (interfaceDescriptionQuery key).Faithful id settings
  template : ∀ key, (templateQuery key).Faithful id settings
  networks : (withSettings id settings).networks =
    Table.insertAll Network.network ∅ (settings.filterMap addedNetwork)

/-! What one call does to an answer -/

def Query.Own {Answer : Type} (query : Query Answer) : Prop :=
  ∀ observationId setting,
    query.ask (Setting.apply observationId setting) =
      (query.stores setting).getD (query.ask observationId)

theorem Query.Own.faithful {Answer : Type} {query : Query Answer} (own : query.Own) (id : UInt32)
    (settings : List Setting) : query.Faithful id settings :=
  foldl_reads own (.new id) settings

theorem cString_stored (text : Bytes) : cString (cString text ++ [0]) = cString text := by
  have kept : ∀ byte ∈ cString text, (byte != 0) = true :=
    fun byte member => bne_iff_ne.mpr (cString_ne_zero member)
  rw [cString, List.takeWhile_append_of_pos kept]
  exact List.append_nil _

theorem enrichmentQuery_own : enrichmentQuery.Own := by
  intro observationId setting
  cases setting with
  | setEnrichment enrichment => exact congrArg some (cString_stored enrichment)
  | _ => rfl

theorem fallbackFirstSwitchQuery_own : fallbackFirstSwitchQuery.Own := by
  intro observationId setting
  cases setting <;> rfl

theorem lookup_insert_text {Key Value Answer : Type} [DecidableEq Key] (table : Table Key Value)
    (key id : Key) (value : Value) (answer : Value → Answer) :
    ((table.insert key value).lookup id).map answer =
      ((if key = id then some (some (answer value)) else none).getD
        ((table.lookup id).map answer)) := by
  split
  · next same =>
      rw [same, AList.lookup_insert]
      rfl
  · next other =>
      rw [AList.lookup_insert_ne (Ne.symm other)]
      rfl

theorem applicationNameQuery_own (id : UInt64) : (applicationNameQuery id).Own := by
  intro observationId setting
  cases setting with
  | addApplication application => exact lookup_insert_text _ _ _ _ _
  | _ => rfl

theorem selectorNameQuery_own (id : UInt64) : (selectorNameQuery id).Own := by
  intro observationId setting
  cases setting with
  | addSelector selector => exact lookup_insert_text _ _ _ _ _
  | _ => rfl

theorem interfaceNameQuery_own (id : UInt64) : (interfaceNameQuery id).Own := by
  intro observationId setting
  cases setting with
  | addInterface interface => exact lookup_insert_text _ _ _ _ _
  | _ => rfl

theorem interfaceDescriptionQuery_own (id : UInt64) : (interfaceDescriptionQuery id).Own := by
  intro observationId setting
  cases setting with
  | addInterface interface => exact lookup_insert_text _ _ _ _ _
  | _ => rfl

theorem templateQuery_own (id : UInt16) : (templateQuery id).Own := by
  intro observationId setting
  cases setting with
  | addTemplate other template =>
      have stored := lookup_insert_text observationId.templates other id template (fun kept => kept)
      rw [Option.map_id', Option.map_id'] at stored
      exact stored
  | _ => rfl

theorem networks_eq (id : UInt32) (settings : List Setting) :
    (withSettings id settings).networks =
      Table.insertAll Network.network ∅ (settings.filterMap addedNetwork) := by
  have grown : ∀ observationId : ObservationID,
      (settings.foldl Setting.apply observationId).networks =
        Table.insertAll Network.network observationId.networks
          (settings.filterMap addedNetwork) := by
    induction settings with
    | nil => exact fun _ => rfl
    | cons setting settings ih =>
        intro observationId
        rw [List.foldl_cons, ih]
        cases setting <;> rfl
  exact grown (.new id)

/-! Flags -/

/-- The flag is set by one of the calls, and by no other one. -/
def Query.SetBy (query : Query Bool) (setter : Setting) : Prop :=
  ∀ setting, (setting = setter ∧ query.stores setting = some true) ∨
    (setting ≠ setter ∧ query.stores setting = none)

theorem Query.SetBy.iff {query : Query Bool} {setter : Setting} (set : query.SetBy setter)
    (own : query.Own) {id : UInt32} (start : query.ask (.new id) = false)
    (settings : List Setting) :
    query.ask (withSettings id settings) = true ↔ setter ∈ settings := by
  have stores : ∀ setting, query.stores setting = some true ↔ setting = setter := by
    intro setting
    rcases set setting with known | other
    · exact iff_of_true known.2 known.1
    · refine iff_of_false ?_ other.1
      rw [other.2]
      decide
  have sets : ∀ setting, query.stores setting ≠ some false := by
    intro setting
    rcases set setting with known | other
    · rw [known.2]
      decide
    · rw [other.2]
      decide
  have faithful : query.ask (withSettings id settings) = _ := own.faithful id settings
  rw [faithful, start, lastWritten_flag sets]
  simp only [stores, exists_eq_right]

theorem exporterInWanSideQuery_setBy : exporterInWanSideQuery.SetBy .setExporterInWanSide := by
  intro setting
  cases setting with
  | setExporterInWanSide => exact .inl ⟨rfl, rfl⟩
  | _ => exact .inr ⟨by simp, rfl⟩

theorem spanPortQuery_setBy : spanPortQuery.SetBy .setSpanMode := by
  intro setting
  cases setting with
  | setSpanMode => exact .inl ⟨rfl, rfl⟩
  | _ => exact .inr ⟨by simp, rfl⟩

theorem exporterInWanSideQuery_own : exporterInWanSideQuery.Own := by
  intro observationId setting
  cases setting <;> rfl

theorem spanPortQuery_own : spanPortQuery.Own := by
  intro observationId setting
  cases setting <;> rfl

/-- Nothing is stored where the answer comes from. -/
theorem foldl_apply_unwritten {ask : ObservationID → Bool}
    (kept : ∀ observationId setting, ask (Setting.apply observationId setting) = ask observationId)
    (id : UInt32) (settings : List Setting) :
    ask (withSettings id settings) = ask (.new id) := by
  have unwritten := @foldl_reads _ _ _ Setting.apply ask (fun _ => none) kept (.new id) settings
  rwa [lastWritten_eq_none_iff.mpr (fun _ _ => rfl)] at unwritten

theorem wantClientDns_eq (id : UInt32) (settings : List Setting) :
    (withSettings id settings).wantClientDns = false := by
  apply foldl_apply_unwritten
  intro observationId setting
  cases setting <;> rfl

theorem wantTargetDns_eq (id : UInt32) (settings : List Setting) :
    (withSettings id settings).wantTargetDns = false := by
  apply foldl_apply_unwritten
  intro observationId setting
  cases setting <;> rfl

/-- The record is faithful as long as the names of neither end are asked for. -/
theorem faithfulRecord_iff (id : UInt32) (settings : List Setting) :
    FaithfulRecord id settings ↔
      .enablePtrDnsClient ∉ settings ∧ .enablePtrDnsTarget ∉ settings := by
  have client := wantClientDns_eq id settings
  have target := wantTargetDns_eq id settings
  constructor
  · intro record
    constructor
    · intro enabled
      cases client.symm.trans (record.wantClientDns.mpr enabled)
    · intro enabled
      cases target.symm.trans (record.wantTargetDns.mpr enabled)
  · intro disabled
    refine
      { enrichment := enrichmentQuery_own.faithful id settings
        fallbackFirstSwitch := fallbackFirstSwitchQuery_own.faithful id settings
        exporterInWanSide := exporterInWanSideQuery_setBy.iff exporterInWanSideQuery_own rfl settings
        spanPort := spanPortQuery_setBy.iff spanPortQuery_own rfl settings
        wantClientDns := ?_
        wantTargetDns := ?_
        applicationName := fun key => (applicationNameQuery_own key).faithful id settings
        selectorName := fun key => (selectorNameQuery_own key).faithful id settings
        interfaceName := fun key => (interfaceNameQuery_own key).faithful id settings
        interfaceDescription := fun key =>
          (interfaceDescriptionQuery_own key).faithful id settings
        template := fun key => (templateQuery_own key).faithful id settings
        networks := networks_eq id settings }
    · rw [client]
      exact iff_of_false Bool.false_ne_true disabled.1
    · rw [target]
      exact iff_of_false Bool.false_ne_true disabled.2

/-- The names of clients are not wanted although that was enabled. -/
theorem not_faithfulRecord : ¬FaithfulRecord 1 [.enablePtrDnsClient] := by
  intro record
  have wanted := record.wantClientDns.mpr List.mem_cons_self
  cases wanted

end F2k
