import F2k.Announcements
import F2k.InterfaceTexts
import Mathlib.Data.List.Induction

namespace F2k

open Lib

/-! What the records of an option template announce, and what an observation id learns of them. -/

/-! Announced names -/

/-- The values of a record have the lengths the template announces. -/
def Conforms (fields : List AnnouncedField) (record : List Bytes) : Prop :=
  record.map List.length = fields.map fun field => field.fieldLen.toNat

/-- What a record says of an information element; of one that is there twice, the later one. -/
def announcedValue (fields : List AnnouncedField) (record : List Bytes) (id : UInt16) :
    Option Bytes :=
  ((fields.zip record).reverse.find? fun value =>
    value.1.fieldId = id ∧ value.1.enterprise = none).map fun value => value.2

/-- The id and the name of a record; a name without bytes is none. -/
def announcedName (fields : List AnnouncedField) (record : List Bytes)
    (idField nameField : UInt16) : Option (Nat × Bytes) := do
  let id ← announcedValue fields record idField
  let name ← announcedValue fields record nameField
  if name = [] then none else some (beNat id, name)

def announcedInterface (fields : List AnnouncedField) (record : List Bytes) :
    Option (Nat × Bytes × Bytes) := do
  let id ← announcedValue fields record 10
  let name := (announcedValue fields record 82).getD []
  let description := (announcedValue fields record 83).getD []
  if name = [] ∧ description = [] then none else some (beNat id, name, description)

section Following

variable {Text : Type}

def lastAnnounced (announced : List (Nat × Text)) (id : UInt64) : Option Text :=
  (announced.reverse.find? fun one => one.1 = id.toNat).map fun one => one.2

/-- Every id has what was said last of it, and what it had if nothing was said. -/
def Follows (announced : List (Nat × Text)) (before after : UInt64 → Option Text) : Prop :=
  ∀ id, after id = (lastAnnounced announced id).or (before id)

theorem lastAnnounced_append (first second : List (Nat × Text)) (id : UInt64) :
    lastAnnounced (first ++ second) id =
      (lastAnnounced second id).or (lastAnnounced first id) := by
  unfold lastAnnounced
  rw [List.reverse_append, List.find?_append, Option.map_or]

theorem Follows.append {first second : List (Nat × Text)}
    {before between after : UInt64 → Option Text}
    (followsFirst : Follows first before between) (followsSecond : Follows second between after) :
    Follows (first ++ second) before after := by
  intro id
  rw [followsSecond id, followsFirst id, lastAnnounced_append, Option.or_assoc]

theorem Follows.refl (texts : UInt64 → Option Text) : Follows [] texts texts :=
  fun _ => rfl

theorem lastAnnounced_toList (announced : Option (Nat × Text)) (id : UInt64) :
    lastAnnounced announced.toList id =
      announced.bind fun one => if one.1 = id.toNat then some one.2 else none := by
  unfold lastAnnounced
  cases announced with
  | none => rfl
  | some one =>
      by_cases same : one.1 = id.toNat
      · simp [same]
      · simp [same]

/-- Two announcements of at most one id each leave the same when they are the same. -/
theorem Follows.unique {one other : Option (Nat × Text)} {before after : UInt64 → Option Text}
    (small : ∀ text ∈ one, text.1 < 2 ^ 64) (otherSmall : ∀ text ∈ other, text.1 < 2 ^ 64)
    (unknown : ∀ id, before id = none) (follows : Follows one.toList before after)
    (followsOther : Follows other.toList before after) : one = other := by
  have agree : ∀ id : UInt64,
      (one.bind fun text => if text.1 = id.toNat then some text.2 else none) =
        other.bind fun text => if text.1 = id.toNat then some text.2 else none := by
    intro id
    have first := follows id
    have second := followsOther id
    rw [unknown, Option.or_none, lastAnnounced_toList] at first second
    rw [← first, second]
  have number : ∀ {key : Nat}, key < 2 ^ 64 → (UInt64.ofNat key).toNat = key := by
    intro key bound
    rw [UInt64.toNat_ofNat']
    exact Nat.mod_eq_of_lt bound
  cases one with
  | none =>
      cases other with
      | none => rfl
      | some text =>
          have there := agree (UInt64.ofNat text.1)
          rw [number (otherSmall text rfl), Option.bind_none, Option.bind_some, if_pos rfl] at there
          cases there
  | some text =>
      have there := agree (UInt64.ofNat text.1)
      rw [number (small text rfl)] at there
      cases other with
      | none => simp at there
      | some otherText =>
          simp only [Option.bind_some, if_true] at there
          split at there
          · next same => exact congrArg some (Prod.ext same.symm (Option.some.inj there))
          · cases there

theorem Follows.nothing {one : Option (Nat × Text)} {before after : UInt64 → Option Text}
    (small : ∀ text ∈ one, text.1 < 2 ^ 64) (unknown : ∀ id, before id = none)
    (follows : Follows one.toList before after) (same : Follows [] before after) : one = none := by
  refine follows.unique small ?_ unknown same
  intro text absent
  cases absent

end Following

/-! The texts of an observation id -/

namespace ObservationID

def applicationTexts (observationId : ObservationID) (id : UInt64) : Option Bytes :=
  (observationId.getApplication id).map fun application => application.name

def selectorTexts (observationId : ObservationID) (id : UInt64) : Option Bytes :=
  (observationId.getSelector id).map fun selector => selector.name

def interfaceTexts (observationId : ObservationID) (id : UInt64) : Option (Bytes × Bytes) :=
  (observationId.getInterface id).map fun interface => (interface.name, interface.description)

end ObservationID

/-- The observation id has learned what the records announce, in their order, and nothing
else: `APPLICATION_ID` (95) and `APPLICATION_NAME` (96), `SELECTOR_ID` (302) and
`SELECTOR_NAME` (335), `INPUT_SNMP` with the texts of the interface. -/
structure Teaches (fields : List AnnouncedField) (records : List (List Bytes))
    (before after : ObservationID) : Prop where
  applications : Follows (records.filterMap fun record => announcedName fields record 95 96)
    before.applicationTexts after.applicationTexts
  selectors : Follows (records.filterMap fun record => announcedName fields record 302 335)
    before.selectorTexts after.selectorTexts
  interfaces : Follows (records.filterMap (announcedInterface fields))
    before.interfaceTexts after.interfaceTexts

namespace Teaches

variable {fields : List AnnouncedField}

theorem refl (observationId : ObservationID) : Teaches fields [] observationId observationId :=
  ⟨.refl _, .refl _, .refl _⟩

theorem append {first second : List (List Bytes)} {before between after : ObservationID}
    (teachesFirst : Teaches fields first before between)
    (teachesSecond : Teaches fields second between after) :
    Teaches fields (first ++ second) before after := by
  constructor
  · rw [List.filterMap_append]
    exact teachesFirst.applications.append teachesSecond.applications
  · rw [List.filterMap_append]
    exact teachesFirst.selectors.append teachesSecond.selectors
  · rw [List.filterMap_append]
    exact teachesFirst.interfaces.append teachesSecond.interfaces

end Teaches

/-! What is read -/

def lastValue (values : List (Nat × Bytes)) (id : Nat) : Option Bytes :=
  (values.reverse.find? fun value => value.1 == id).map fun value => value.2

def readValues (values : List (Nat × Bytes)) : OptionNames :=
  values.foldl (fun names value => names.read value.1 value.2) {}

theorem lastValue_concat (values : List (Nat × Bytes)) (value : Nat × Bytes) (id : Nat) :
    lastValue (values ++ [value]) id =
      if value.1 = id then some value.2 else lastValue values id := by
  unfold lastValue
  rw [List.reverse_append]
  by_cases same : value.1 = id
  · simp [same]
  · simp [same]

theorem readValues_eq (values : List (Nat × Bytes)) :
    readValues values =
      { appId := ((lastValue values 95).map net2number).getD 0
        appName := lastValue values 96
        selectorId := ((lastValue values 302).map net2number).getD 0
        selectorName := lastValue values 335
        snmpId := ((lastValue values 10).map net2number).getD 0
        snmpName := lastValue values 82
        snmpDescription := lastValue values 83 } := by
  induction values using List.reverseRecOn with
  | nil => rfl
  | append_singleton values value ih =>
      have step : readValues (values ++ [value]) = (readValues values).read value.1 value.2 := by
        unfold readValues
        rw [List.foldl_append]
        rfl
      rw [step, ih]
      simp only [lastValue_concat]
      unfold OptionNames.read
      split <;> simp_all

/-! What is learned of one record -/

def learnedName (id : UInt64) (name : Option Bytes) : Option (Nat × Bytes) :=
  name.bind fun name => if name = [] then none else some (id.toNat, name)

def learnedInterface (names : OptionNames) : Option (Nat × Bytes × Bytes) := do
  let name ← names.snmpName
  let description ← names.snmpDescription
  if name = [] ∧ description = [] then none else some (names.snmpId.toNat, name, description)

theorem learnedName_of_noName {id : UInt64} {name : Option Bytes}
    (missing : ∀ first rest, name = some (first :: rest) → False) :
    learnedName id name = none := by
  cases name with
  | none => rfl
  | some name =>
      cases name with
      | nil => rfl
      | cons first rest => exact absurd rfl (missing first rest)

theorem follows_insert {Entry Text : Type} (table : AList fun _ : UInt64 => Entry)
    (textOf : Entry → Text) (id : UInt64) (entry : Entry) :
    Follows (some (id.toNat, textOf entry)).toList (fun wanted => (table.lookup wanted).map textOf)
      (fun wanted => ((table.insert id entry).lookup wanted).map textOf) := by
  intro wanted
  rw [lastAnnounced_toList, Option.bind_some]
  dsimp only
  by_cases same : wanted = id
  · subst same
    simp
  · have apart : ¬id.toNat = wanted.toNat := fun equal => same (UInt64.toNat_inj.mp equal.symm)
    rw [AList.lookup_insert_ne same, if_neg apart, Option.none_or]

theorem learnApplication_follows (names : OptionNames) (observationId : ObservationID) :
    Follows (learnedName names.appId names.appName).toList observationId.applicationTexts
      (learnApplication names observationId).applicationTexts := by
  unfold learnApplication
  split
  · next first rest given =>
      rw [given]
      exact follows_insert observationId.applications (fun application => application.name)
        names.appId { id := names.appId, name := first :: rest }
  · next missing =>
      rw [learnedName_of_noName missing]
      exact .refl _

theorem learnSelector_follows (names : OptionNames) (observationId : ObservationID) :
    Follows (learnedName names.selectorId names.selectorName).toList
      observationId.selectorTexts (learnSelector names observationId).selectorTexts := by
  unfold learnSelector
  split
  · next first rest given =>
      rw [given]
      exact follows_insert observationId.selectors (fun selector => selector.name)
        names.selectorId { id := names.selectorId, name := first :: rest }
  · next missing =>
      rw [learnedName_of_noName missing]
      exact .refl _

theorem learnInterface_ok {names : OptionNames} {before after : ObservationID}
    (learned : learnInterface names before = .ok after) :
    (learnedInterface names = none ∧ after = before) ∨
      ∃ name description,
        learnedInterface names = some (names.snmpId.toNat, name, description) ∧
          after = before.addInterface { id := names.snmpId, name, description } := by
  unfold learnInterface at learned
  unfold learnedInterface
  cases nameGiven : names.snmpName with
  | none =>
      cases descriptionGiven : names.snmpDescription with
      | none => simp_all
      | some description => cases description <;> simp_all
  | some name =>
      cases descriptionGiven : names.snmpDescription with
      | none => cases name <;> simp_all
      | some description =>
          by_cases given : name = [] ∧ description = []
          · simp_all
          · have bytes : 0 < name.length ∨ 0 < description.length := by
              simp only [List.length_pos_iff]
              exact Classical.not_and_iff_not_or_not.mp given
            simp only [nameGiven, descriptionGiven, Option.getD_some, gt_iff_lt, if_pos bytes,
              Run.pure_eq_ok, Except.ok.injEq] at learned
            exact .inr ⟨name, description, by simp [given], learned.symm⟩

theorem learnInterface_follows {names : OptionNames} {before after : ObservationID}
    (learned : learnInterface names before = .ok after) :
    Follows (learnedInterface names).toList before.interfaceTexts after.interfaceTexts := by
  obtain ⟨nothing, rfl⟩ | ⟨name, description, one, rfl⟩ := learnInterface_ok learned
  · rw [nothing]
    exact .refl _
  · rw [one]
    exact follows_insert before.interfaces
      (fun interface => (interface.name, interface.description)) names.snmpId
      { id := names.snmpId, name, description }

/-- What is learned of the names that were read, of each kind. -/
structure Learns (names : OptionNames) (before after : ObservationID) : Prop where
  applications : Follows (learnedName names.appId names.appName).toList
    before.applicationTexts after.applicationTexts
  selectors : Follows (learnedName names.selectorId names.selectorName).toList
    before.selectorTexts after.selectorTexts
  interfaces : Follows (learnedInterface names).toList
    before.interfaceTexts after.interfaceTexts

theorem learnApplication_others (names : OptionNames) (observationId : ObservationID) :
    (learnApplication names observationId).selectorTexts = observationId.selectorTexts ∧
      (learnApplication names observationId).interfaceTexts = observationId.interfaceTexts := by
  unfold learnApplication
  split <;> exact ⟨rfl, rfl⟩

theorem learnSelector_others (names : OptionNames) (observationId : ObservationID) :
    (learnSelector names observationId).applicationTexts = observationId.applicationTexts ∧
      (learnSelector names observationId).interfaceTexts = observationId.interfaceTexts := by
  unfold learnSelector
  split <;> exact ⟨rfl, rfl⟩

theorem learnInterface_others {names : OptionNames} {before after : ObservationID}
    (learned : learnInterface names before = .ok after) :
    after.applicationTexts = before.applicationTexts ∧
      after.selectorTexts = before.selectorTexts := by
  obtain ⟨_, rfl⟩ | ⟨_, _, _, rfl⟩ := learnInterface_ok learned
  · exact ⟨rfl, rfl⟩
  · exact ⟨rfl, rfl⟩

theorem learnNames_learns {names : OptionNames} {before after : ObservationID}
    (learned : learnNames names before = .ok after) : Learns names before after := by
  obtain ⟨applications, selectors⟩ := learnInterface_others learned
  constructor
  · rw [applications, (learnSelector_others _ _).1]
    exact learnApplication_follows names before
  · rw [selectors, ← (learnApplication_others names before).1]
    exact learnSelector_follows names _
  · rw [← (learnApplication_others names before).2, ← (learnSelector_others names _).2]
    exact learnInterface_follows learned

/-! What is read of a record -/

/-- What an option template keeps of a field: an enterprise leaves its bit in the identifier. -/
def AnnouncedField.stored (field : AnnouncedField) : TemplateField where
  fieldId := UInt16.ofNat field.header
  fieldLen := field.fieldLen
  v9Template := none

theorem AnnouncedField.stored_fieldId_iff {handleIpfix : Bool} {field : AnnouncedField}
    (allowed : field.Allowed handleIpfix) {id : UInt16} (known : id < 32768) :
    field.stored.fieldId.toNat = id.toNat ↔ field.fieldId = id ∧ field.enterprise = none := by
  have bound := allowed.header_lt
  have below : id.toNat < 32768 := UInt16.lt_iff_toNat_lt.mp known
  rw [stored, UInt16.toNat_ofNat', Nat.mod_eq_of_lt bound, header, ← UInt16.toNat_inj]
  cases field.enterprise with
  | none => simp
  | some number => simp; omega

def storedValues (fields : List AnnouncedField) (record : List Bytes) : List (Nat × Bytes) :=
  (fields.zip record).map fun value => (value.1.stored.fieldId.toNat, value.2)

theorem lastValue_cons (value : Nat × Bytes) (rest : List (Nat × Bytes)) (id : Nat) :
    lastValue (value :: rest) id =
      (lastValue rest id).or (if value.1 = id then some value.2 else none) := by
  unfold lastValue
  rw [List.reverse_cons, List.find?_append, Option.map_or]
  by_cases same : value.1 = id
  · simp [same]
  · simp [same]

theorem announcedValue_cons (field : AnnouncedField) (fields : List AnnouncedField)
    (value : Bytes) (record : List Bytes) (id : UInt16) :
    announcedValue (field :: fields) (value :: record) id =
      (announcedValue fields record id).or
        (if field.fieldId = id ∧ field.enterprise = none then some value else none) := by
  unfold announcedValue
  rw [List.zip_cons_cons, List.reverse_cons, List.find?_append, Option.map_or]
  by_cases same : field.fieldId = id ∧ field.enterprise = none
  · simp [same]
  · simp [same]

theorem lastValue_storedValues {handleIpfix : Bool} {fields : List AnnouncedField}
    (allowed : ∀ field ∈ fields, field.Allowed handleIpfix) (record : List Bytes) {id : UInt16}
    (known : id < 32768) :
    lastValue (storedValues fields record) id.toNat = announcedValue fields record id := by
  induction fields generalizing record with
  | nil => rfl
  | cons field rest ih =>
      obtain ⟨first, others⟩ := List.forall_mem_cons.mp allowed
      cases record with
      | nil => rfl
      | cons value record =>
          have later := ih others record
          unfold storedValues at later ⊢
          rw [List.zip_cons_cons, List.map_cons, lastValue_cons, announcedValue_cons, later]
          simp only [AnnouncedField.stored_fieldId_iff first known]

/-- The fields from a place on, with the bytes that stand there. -/
def slicesOf (memory : Mem) : List TemplateField → Nat → List (Nat × Bytes)
  | [], _ => []
  | field :: rest, cursor =>
      (field.fieldId.toNat, (memory.shift cursor).slice field.fieldLen.toNat) ::
        slicesOf memory rest (cursor + field.fieldLen.toNat)

theorem readOptionFields_values (sbuffer : SizedBuffer) (fields : List TemplateField)
    {cursor : Nat} (names : OptionNames) (inside : cursor ≤ sbuffer.size) :
    (readOptionFields sbuffer fields cursor names).1 =
      (slicesOf sbuffer.buffer (fittingFields fields (sbuffer.size - cursor)) cursor).foldl
        (fun names value => names.read value.1 value.2) names := by
  induction fields generalizing cursor names with
  | nil => rfl
  | cons field rest ih =>
      rw [readOptionFields, fittingFields]
      by_cases fits : field.fieldLen.toNat ≤ sbuffer.size - cursor
      · rw [if_neg (by omega), if_pos fits, ih _ (by omega), Nat.sub_add_eq]
        rfl
      · rw [if_pos (by omega), if_neg fits]
        rfl

theorem slicesOf_record {fields : List AnnouncedField} {record : List Bytes}
    (conforms : Conforms fields record) {memory : Mem} {cursor : Nat}
    (starts : (memory.shift cursor).StartsWith record.flatten) :
    slicesOf memory (fields.map AnnouncedField.stored) cursor = storedValues fields record := by
  unfold Conforms at conforms
  induction fields generalizing record cursor with
  | nil => rfl
  | cons field rest ih =>
      cases record with
      | nil => cases conforms
      | cons value record =>
          simp only [List.map_cons, List.cons.injEq] at conforms
          rw [List.flatten_cons, Mem.startsWith_append, Mem.shift_shift] at starts
          have later := ih conforms.2 starts.2
          rw [conforms.1] at later
          rw [List.map_cons, slicesOf]
          unfold storedValues at later ⊢
          rw [List.zip_cons_cons, List.map_cons]
          refine List.cons_eq_cons.mpr ⟨?_, later⟩
          have read := starts.1
          rw [Mem.StartsWith, conforms.1] at read
          exact Prod.ext rfl read

theorem lastValue_slicesOf (memory : Mem) (fields : List TemplateField) (cursor id : Nat) :
    (lastValue (slicesOf memory fields cursor) id).map List.length = textLen fields id := by
  induction fields generalizing cursor with
  | nil => rfl
  | cons field rest ih =>
      rw [slicesOf, lastValue_cons, textLen_cons, Option.map_or, ih]
      congr 1
      split <;> simp

theorem lastValue_storedValues_length {fields : List AnnouncedField} {record : List Bytes}
    (conforms : Conforms fields record) (id : Nat) :
    (lastValue (storedValues fields record) id).map List.length =
      textLen (fields.map AnnouncedField.stored) id := by
  have read := @slicesOf_record fields record conforms (.ofBytes record.flatten) 0
    (by rw [Mem.shift_zero]; exact Mem.startsWith_ofBytes _)
  rw [← read]
  exact lastValue_slicesOf _ _ _ _

/-! Records that are read -/

def learnRecords (fields : List AnnouncedField) :
    List (List Bytes) → ObservationID → Run ObservationID
  | [], observationId => pure observationId
  | record :: rest, observationId => do
      let learned ← learnNames (readValues (storedValues fields record)) observationId
      learnRecords fields rest learned

/-- What is done with the bytes after the last whole record. -/
def learnRest (memory : Mem) (fields : List TemplateField) (left : Nat)
    (observationId : ObservationID) : Run ObservationID :=
  if left = 0 then pure observationId
  else learnNames (readValues (slicesOf memory (fittingFields fields left) 0)) observationId

def optionRecordsBytes (records : List (List Bytes)) : Bytes :=
  records.flatMap List.flatten

theorem length_record {fields : List AnnouncedField} {record : List Bytes}
    (conforms : Conforms fields record) :
    record.flatten.length = recordLen (fields.map AnnouncedField.stored) := by
  rw [List.length_flatten, conforms, recordLen, List.map_map]
  rfl

theorem dissectOptionFlows_records {fields : List AnnouncedField} {template : FlowSetV9Ipfix}
    (stored : template.fields = fields.map AnnouncedField.stored) {sbuffer : SizedBuffer}
    (small : sbuffer.size < 2 ^ 64) {records : List (List Bytes)} {left : Nat}
    (conform : ∀ record ∈ records, Conforms fields record)
    (short : left < recordLen template.fields) {turns cursor : Nat}
    (starts : (sbuffer.buffer.shift cursor).StartsWith (optionRecordsBytes records))
    (size : sbuffer.size = cursor + (optionRecordsBytes records).length + left)
    (enough : sbuffer.size < turns + cursor) (observationId : ObservationID) :
    dissectOptionFlows template sbuffer turns cursor observationId =
      learnRecords fields records observationId >>=
        learnRest (sbuffer.buffer.shift (sbuffer.size - left)) template.fields left := by
  induction records generalizing turns cursor observationId with
  | nil =>
      have place : sbuffer.size = cursor + left := by simpa [optionRecordsBytes] using size
      obtain ⟨more, rfl⟩ : ∃ more, turns = more + 1 := ⟨turns - 1, by omega⟩
      rw [learnRecords, Run.pure_eq_ok, Run.ok_bind, learnRest]
      by_cases none : left = 0
      · rw [dissectOptionFlows, if_neg (by omega), if_pos none]
      · have after := after_size (show cursor ≤ sbuffer.size by omega) small
        have read := readOptionFields_cursor (sbuffer.after cursor) template.fields {}
          (Nat.zero_le (sbuffer.after cursor).size)
        have names := readOptionFields_values (sbuffer.after cursor) template.fields {}
          (Nat.zero_le (sbuffer.after cursor).size)
        have rest : sbuffer.size - cursor = left := by omega
        have here : sbuffer.size - left = cursor := by omega
        rw [after, rest, Nat.zero_add, if_neg (Nat.not_le.mpr short)] at read
        rw [Nat.sub_zero, after, rest] at names
        obtain ⟨last, rfl⟩ : ∃ last, more = last + 1 := ⟨more - 1, by omega⟩
        rw [dissectOptionFlows_turn (by omega), read, names, if_neg none, here]
        have ends : ∀ learned, dissectOptionFlows template sbuffer (last + 1) (cursor + left)
            learned = pure learned := by
          intro learned
          rw [dissectOptionFlows, if_neg (by omega)]
        simp only [ends, bind_pure]
        rfl
  | cons record rest ih =>
      obtain ⟨first, others⟩ := List.forall_mem_cons.mp conform
      have extent := length_record first
      rw [← stored] at extent
      rw [optionRecordsBytes, List.flatMap_cons, List.length_append, extent] at size
      rw [optionRecordsBytes, List.flatMap_cons, Mem.startsWith_append, Mem.shift_shift,
        extent] at starts
      obtain ⟨more, rfl⟩ : ∃ more, turns = more + 1 := ⟨turns - 1, by omega⟩
      have after := after_size (show cursor ≤ sbuffer.size by omega) small
      have whole : recordLen template.fields ≤ sbuffer.size - cursor := by omega
      have read := readOptionFields_cursor (sbuffer.after cursor) template.fields {}
        (Nat.zero_le (sbuffer.after cursor).size)
      rw [after, Nat.zero_add, if_pos whole] at read
      have names := readOptionFields_values (sbuffer.after cursor) template.fields {}
        (Nat.zero_le (sbuffer.after cursor).size)
      rw [Nat.sub_zero, after, fittingFields_whole whole, stored,
        @slicesOf_record _ _ first (sbuffer.after cursor).buffer 0
          (by rw [Mem.shift_zero]; exact starts.1)] at names
      rw [dissectOptionFlows_turn (by omega), read, stored, names, learnRecords, bind_assoc]
      refine congrArg _ (funext fun learned => ?_)
      rw [← stored]
      exact ih others starts.2 (by rw [optionRecordsBytes]; omega) (by omega) learned

end F2k
