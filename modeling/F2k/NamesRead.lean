import F2k.AnnouncedNames

namespace F2k

open Lib

/-! Which templates are read as they are announced -/

/-- The lengths of the numbers that are read. -/
def NumberRead (length : Option Nat) : Prop :=
  ∃ bytes ∈ [0, 1, 2, 4, 6, 8], length = some bytes

/-- Every name that has bytes has an id that is read, and interfaces have both texts or none. -/
structure NamesRead (fields : List TemplateField) : Prop where
  application : 0 < (textLen fields 96).getD 0 → NumberRead (textLen fields 95)
  selector : 0 < (textLen fields 335).getD 0 → NumberRead (textLen fields 302)
  interface : 0 < (textLen fields 82).getD 0 ∨ 0 < (textLen fields 83).getD 0 →
    NumberRead (textLen fields 10)
  together : TextsTogether fields

/-- None of the fields is a name that has bytes. -/
def NoNames (fields : List TemplateField) : Prop :=
  ∀ id ∈ [96, 335, 82, 83], (textLen fields id).getD 0 = 0

/-- Of a set with so many bytes behind its records, none of them holds the whole of a name, and
the names of its records are read if there is room for one. -/
structure ReadsAnnounced (fields : List TemplateField) (left : Nat) : Prop where
  padding : NoNames (fittingFields fields left)
  records : 4 + recordLen fields + left < 65536 → NamesRead fields

theorem net2number_toNat {bytes : Bytes} (read : NumberRead (some bytes.length)) :
    (net2number bytes).toNat = beNat bytes := by
  obtain ⟨length, known, same⟩ := read
  have bound := beNat_lt bytes
  have value : net2number bytes = UInt64.ofNat (beNat bytes) := by
    rw [Option.some.injEq] at same
    unfold net2number
    simp only [List.mem_cons, List.not_mem_nil, or_false] at known
    rcases known with rfl | rfl | rfl | rfl | rfl | rfl
    · rw [List.length_eq_zero_iff.mp same]
      rfl
    all_goals
      rw [same]
      simp only [Nat.reduceMod]
      rw [List.take_of_length_le (by omega)]
  rw [value, UInt64.toNat_ofNat']
  apply Nat.mod_eq_of_lt
  refine Nat.lt_of_lt_of_le bound ?_
  have short : bytes.length ≤ 8 := by
    rw [Option.some.injEq] at same
    simp only [List.mem_cons, List.not_mem_nil, or_false] at known
    omega
  exact Nat.pow_le_pow_right (by decide) short

theorem net2number_eq_zero {bytes : Bytes} (unread : ¬NumberRead (some bytes.length))
    (small : bytes.length < 65536) : net2number bytes = 0 := by
  unfold net2number
  rw [Nat.mod_eq_of_lt small]
  split
  all_goals first
    | rfl
    | next same => exact absurd ⟨_, by rw [same]; decide, rfl⟩ unread

theorem interface_agrees {id name description : Option Bytes}
    (read : 0 < (name.map List.length).getD 0 ∨ 0 < (description.map List.length).getD 0 →
      NumberRead (id.map List.length))
    (together : BothTexts (name.map List.length) (description.map List.length)) :
    (name.bind fun name => description.bind fun description =>
        if name = [] ∧ description = [] then none
        else some (((id.map net2number).getD 0).toNat, name, description)) =
      id.bind fun id =>
        if name.getD [] = [] ∧ description.getD [] = [] then none
        else some (beNat id, name.getD [], description.getD []) := by
  by_cases empty : name.getD [] = [] ∧ description.getD [] = []
  · have right : (id.bind fun id =>
        if name.getD [] = [] ∧ description.getD [] = [] then none
        else some (beNat id, name.getD [], description.getD [])) = none := by
      cases id <;> simp [empty]
    rw [right]
    cases name with
    | none => rfl
    | some name =>
        cases description with
        | none => rfl
        | some description => simpa using empty
  · have given : 0 < (name.map List.length).getD 0 ∨
        0 < (description.map List.length).getD 0 := by
      rcases Classical.not_and_iff_not_or_not.mp empty with text | text
      · cases name with
        | none => simp at text
        | some name => exact .inl (List.length_pos_iff.mpr text)
      · cases description with
        | none => simp at text
        | some description => exact .inr (List.length_pos_iff.mpr text)
    obtain ⟨nameGiven, descriptionGiven⟩ := together given
    have number := read given
    cases id with
    | none =>
        obtain ⟨_, _, absent⟩ := number
        cases absent
    | some id =>
        obtain ⟨name, rfl⟩ := Option.isSome_iff_exists.mp (by simpa using nameGiven)
        obtain ⟨description, rfl⟩ := Option.isSome_iff_exists.mp (by simpa using descriptionGiven)
        simp only [Option.getD_some] at empty
        simp [empty, net2number_toNat number]

theorem filterMap_one {Record Announced : Type} (announce : Record → Option Announced)
    (record : Record) : [record].filterMap announce = (announce record).toList := by
  rw [List.filterMap_cons]
  cases announce record <;> rfl

section OneRecord

variable {handleIpfix : Bool} {fields : List AnnouncedField} {record : List Bytes}

theorem learnedName_eq (allowed : ∀ field ∈ fields, field.Allowed handleIpfix)
    (conforms : Conforms fields record) {idField nameField : UInt16} (idKnown : idField < 32768)
    (nameKnown : nameField < 32768)
    (read : 0 < (textLen (fields.map AnnouncedField.stored) nameField.toNat).getD 0 →
      NumberRead (textLen (fields.map AnnouncedField.stored) idField.toNat)) :
    learnedName (((lastValue (storedValues fields record) idField.toNat).map net2number).getD 0)
        (lastValue (storedValues fields record) nameField.toNat) =
      announcedName fields record idField nameField := by
  have idLen := lastValue_storedValues_length conforms idField.toNat
  have nameLen := lastValue_storedValues_length conforms nameField.toNat
  rw [lastValue_storedValues allowed record idKnown] at idLen ⊢
  rw [lastValue_storedValues allowed record nameKnown] at nameLen ⊢
  rw [← idLen, ← nameLen] at read
  unfold learnedName announcedName
  cases given : announcedValue fields record nameField with
  | none => cases announcedValue fields record idField <;> rfl
  | some name =>
      rw [given] at read
      by_cases empty : name = []
      · cases announcedValue fields record idField <;> simp [empty]
      · have number := read (List.length_pos_iff.mpr empty)
        cases id : announcedValue fields record idField with
        | none =>
            rw [id] at number
            obtain ⟨_, _, absent⟩ := number
            cases absent
        | some id =>
            rw [id] at number
            simp [empty, net2number_toNat number]

theorem learnedInterface_eq (allowed : ∀ field ∈ fields, field.Allowed handleIpfix)
    (conforms : Conforms fields record)
    (read : 0 < (textLen (fields.map AnnouncedField.stored) 82).getD 0 ∨
        0 < (textLen (fields.map AnnouncedField.stored) 83).getD 0 →
      NumberRead (textLen (fields.map AnnouncedField.stored) 10))
    (together : TextsTogether (fields.map AnnouncedField.stored)) :
    learnedInterface (readValues (storedValues fields record)) =
      announcedInterface fields record := by
  unfold TextsTogether at together
  rw [← lastValue_storedValues_length conforms,
    ← lastValue_storedValues_length conforms] at together
  rw [← lastValue_storedValues_length conforms, ← lastValue_storedValues_length conforms,
    ← lastValue_storedValues_length conforms] at read
  have agrees := interface_agrees read together
  have idEq := @lastValue_storedValues handleIpfix fields allowed record 10 (by decide)
  have nameEq := @lastValue_storedValues handleIpfix fields allowed record 82 (by decide)
  have descriptionEq := @lastValue_storedValues handleIpfix fields allowed record 83 (by decide)
  rw [readValues_eq]
  unfold learnedInterface announcedInterface
  rw [← idEq, ← nameEq, ← descriptionEq]
  exact agrees

theorem learnNames_teaches (allowed : ∀ field ∈ fields, field.Allowed handleIpfix)
    (conforms : Conforms fields record)
    (read : NamesRead (fields.map AnnouncedField.stored)) (observationId : ObservationID) :
    ∃ after, learnNames (readValues (storedValues fields record)) observationId = .ok after ∧
      Teaches fields [record] observationId after := by
  have fine : learnNames (readValues (storedValues fields record)) observationId ≠
      .error .nullInterfaceText := by
    rw [learnNames_asserted_iff, readValues_eq]
    simp only [lastValue_storedValues_length conforms]
    exact read.together
  cases learned : learnNames (readValues (storedValues fields record)) observationId with
  | error fault =>
      have asserted := (learnNames_outcome _ observationId).of_error learned
      rw [learned, asserted] at fine
      exact absurd rfl fine
  | ok after =>
      have learns := learnNames_learns learned
      rw [readValues_eq] at learns
      refine ⟨after, rfl, ?_, ?_, ?_⟩
      · rw [filterMap_one, ← @learnedName_eq handleIpfix fields record allowed conforms 95 96
          (by decide) (by decide) read.application]
        exact learns.applications
      · rw [filterMap_one, ← @learnedName_eq handleIpfix fields record allowed conforms 302 335
          (by decide) (by decide) read.selector]
        exact learns.selectors
      · rw [filterMap_one, ← learnedInterface_eq allowed conforms read.interface read.together,
          readValues_eq]
        exact learns.interfaces

theorem learnRecords_teaches (allowed : ∀ field ∈ fields, field.Allowed handleIpfix)
    {records : List (List Bytes)} (conform : ∀ record ∈ records, Conforms fields record)
    (read : records ≠ [] → NamesRead (fields.map AnnouncedField.stored))
    (observationId : ObservationID) :
    ∃ after, learnRecords fields records observationId = .ok after ∧
      Teaches fields records observationId after := by
  induction records generalizing observationId with
  | nil => exact ⟨observationId, rfl, .refl observationId⟩
  | cons record rest ih =>
      obtain ⟨first, others⟩ := List.forall_mem_cons.mp conform
      have known := read (List.cons_ne_nil _ _)
      obtain ⟨between, learned, teaches⟩ :=
        learnNames_teaches allowed first known observationId
      obtain ⟨after, learnedRest, teachesRest⟩ := ih others (fun _ => known) between
      refine ⟨after, ?_, teaches.append teachesRest⟩
      rw [learnRecords, learned, Run.ok_bind, learnedRest]

/-! Records that show which templates are not read as they are announced -/

def ones (fields : List AnnouncedField) : List Bytes :=
  fields.map fun field => toBe field.fieldLen.toNat 1

theorem ones_conforms (fields : List AnnouncedField) : Conforms fields (ones fields) := by
  unfold Conforms ones
  rw [List.map_map]
  apply List.map_congr_left
  intro field _
  exact length_toBe _ _

theorem lastValue_ones (fields : List AnnouncedField) (id : Nat) :
    lastValue (storedValues fields (ones fields)) id =
      (textLen (fields.map AnnouncedField.stored) id).map fun length => toBe length 1 := by
  induction fields with
  | nil => rfl
  | cons field rest ih =>
      unfold storedValues ones at ih ⊢
      rw [List.map_cons, List.zip_cons_cons, List.map_cons, List.map_cons, lastValue_cons,
        textLen_cons, ih, Option.map_or]
      congr 1
      split <;> rfl

theorem textLen_lt {fields : List TemplateField} {id length : Nat}
    (given : textLen fields id = some length) : length < 65536 := by
  unfold textLen at given
  obtain ⟨field, _, rfl⟩ := Option.map_eq_some_iff.mp given
  exact field.fieldLen.toNat_lt

/-- A number one that is read as the number it is. -/
theorem numberRead_of_one {length : Nat} (short : length < 65536)
    (same : (net2number (toBe length 1)).toNat = beNat (toBe length 1)) :
    NumberRead (some length) := by
  by_contra unread
  rw [net2number_eq_zero (by rwa [length_toBe]) (by rwa [length_toBe]), beNat_toBe] at same
  have none : length = 0 := by
    by_contra some
    have large : 1 < 256 ^ length := Nat.one_lt_pow some (by decide)
    rw [Nat.mod_eq_of_lt large] at same
    cases same
  exact unread ⟨0, by decide, by rw [none]⟩

theorem beNat_one_lt (length : Nat) : beNat (toBe length 1) < 2 ^ 64 := by
  rw [beNat_toBe]
  exact Nat.lt_of_le_of_lt (Nat.mod_le _ _) (by decide)

theorem toBe_ne_nil {length : Nat} (some : 0 < length) (number : Nat) :
    toBe length number ≠ [] := by
  apply List.ne_nil_of_length_pos
  rwa [length_toBe]

/-- The names of such a record are learned as they are announced only if they are read. -/
theorem numberRead_of_learnedName (allowed : ∀ field ∈ fields, field.Allowed handleIpfix)
    {idField nameField : UInt16} (idKnown : idField < 32768) (nameKnown : nameField < 32768)
    (same : learnedName
        (((lastValue (storedValues fields (ones fields)) idField.toNat).map net2number).getD 0)
        (lastValue (storedValues fields (ones fields)) nameField.toNat) =
      announcedName fields (ones fields) idField nameField)
    (bytes : 0 < (textLen (fields.map AnnouncedField.stored) nameField.toNat).getD 0) :
    NumberRead (textLen (fields.map AnnouncedField.stored) idField.toNat) := by
  unfold learnedName announcedName at same
  rw [← lastValue_storedValues allowed _ idKnown, ← lastValue_storedValues allowed _ nameKnown,
    lastValue_ones, lastValue_ones] at same
  cases nameGiven : textLen (fields.map AnnouncedField.stored) nameField.toNat with
  | none =>
      rw [nameGiven] at bytes
      cases bytes
  | some nameLength =>
      rw [nameGiven] at bytes same
      have text : toBe nameLength 1 ≠ [] := toBe_ne_nil (by simpa using bytes) 1
      cases idGiven : textLen (fields.map AnnouncedField.stored) idField.toNat with
      | none =>
          rw [idGiven] at same
          simp [text] at same
      | some idLength =>
          rw [idGiven] at same
          simp only [Option.map_some, Option.bind_some, Option.getD_some, if_neg text,
            Option.bind_eq_bind, Option.some.injEq, Prod.mk.injEq, and_true] at same
          exact numberRead_of_one (textLen_lt idGiven) same

theorem announcedName_small (allowed : ∀ field ∈ fields, field.Allowed handleIpfix)
    {idField nameField : UInt16} (idKnown : idField < 32768) :
    ∀ text ∈ announcedName fields (ones fields) idField nameField, text.1 < 2 ^ 64 := by
  intro text given
  unfold announcedName at given
  obtain ⟨id, idGiven, given⟩ := Option.bind_eq_some_iff.mp given
  obtain ⟨name, _, given⟩ := Option.bind_eq_some_iff.mp given
  rw [← lastValue_storedValues allowed _ idKnown, lastValue_ones] at idGiven
  obtain ⟨length, _, rfl⟩ := Option.map_eq_some_iff.mp idGiven
  split at given
  · cases given
  · rw [← Option.some.inj given]
    exact beNat_one_lt length

theorem learnedName_small (id : UInt64) (name : Option Bytes) :
    ∀ text ∈ learnedName id name, text.1 < 2 ^ 64 := by
  intro text given
  obtain ⟨name, _, given⟩ := Option.bind_eq_some_iff.mp given
  split at given
  · cases given
  · rw [← Option.some.inj given]
    exact id.toNat_lt

theorem numberRead_of_learnedInterface (allowed : ∀ field ∈ fields, field.Allowed handleIpfix)
    (same : learnedInterface (readValues (storedValues fields (ones fields))) =
      announcedInterface fields (ones fields))
    (together : TextsTogether (fields.map AnnouncedField.stored))
    (bytes : 0 < (textLen (fields.map AnnouncedField.stored) 82).getD 0 ∨
      0 < (textLen (fields.map AnnouncedField.stored) 83).getD 0) :
    NumberRead (textLen (fields.map AnnouncedField.stored) 10) := by
  obtain ⟨nameGiven, descriptionGiven⟩ := together bytes
  obtain ⟨nameLength, nameLen⟩ := Option.isSome_iff_exists.mp nameGiven
  obtain ⟨descriptionLength, descriptionLen⟩ := Option.isSome_iff_exists.mp descriptionGiven
  have idEq := @lastValue_storedValues handleIpfix fields allowed (ones fields) 10 (by decide)
  have nameEq := @lastValue_storedValues handleIpfix fields allowed (ones fields) 82 (by decide)
  have descriptionEq :=
    @lastValue_storedValues handleIpfix fields allowed (ones fields) 83 (by decide)
  rw [lastValue_ones] at idEq nameEq descriptionEq
  have nameValue : textLen (fields.map AnnouncedField.stored) (UInt16.toNat 82) = _ := nameLen
  have descriptionValue : textLen (fields.map AnnouncedField.stored) (UInt16.toNat 83) = _ :=
    descriptionLen
  rw [nameValue] at nameEq
  rw [descriptionValue] at descriptionEq
  rw [nameLen, descriptionLen] at bytes
  have text : ¬(toBe nameLength 1 = [] ∧ toBe descriptionLength 1 = []) := by
    intro both
    obtain ⟨noName, noDescription⟩ := both
    rcases bytes with some | some
    · exact toBe_ne_nil some 1 noName
    · exact toBe_ne_nil some 1 noDescription
  rw [readValues_eq] at same
  unfold learnedInterface announcedInterface at same
  simp only [lastValue_ones, nameLen, descriptionLen] at same
  rw [← idEq, ← nameEq, ← descriptionEq] at same
  cases idGiven : textLen (fields.map AnnouncedField.stored) 10 with
  | none =>
      have idValue : textLen (fields.map AnnouncedField.stored) (UInt16.toNat 10) = none := idGiven
      rw [idValue] at same
      simp [text] at same
  | some idLength =>
      have idValue : textLen (fields.map AnnouncedField.stored) (UInt16.toNat 10) =
        some idLength := idGiven
      rw [idValue, idGiven] at same
      simp only [Option.map_some, Option.bind_some, Option.getD_some, if_neg text,
        Option.bind_eq_bind, Option.some.injEq, Prod.mk.injEq, and_true] at same
      exact numberRead_of_one (textLen_lt idGiven) same

theorem learnedInterface_small (names : OptionNames) :
    ∀ text ∈ learnedInterface names, text.1 < 2 ^ 64 := by
  intro text given
  unfold learnedInterface at given
  obtain ⟨name, _, given⟩ := Option.bind_eq_some_iff.mp given
  obtain ⟨description, _, given⟩ := Option.bind_eq_some_iff.mp given
  split at given
  · cases given
  · rw [← Option.some.inj given]
    exact names.snmpId.toNat_lt

theorem announcedInterface_small (allowed : ∀ field ∈ fields, field.Allowed handleIpfix) :
    ∀ text ∈ announcedInterface fields (ones fields), text.1 < 2 ^ 64 := by
  intro text given
  unfold announcedInterface at given
  obtain ⟨id, idGiven, given⟩ := Option.bind_eq_some_iff.mp given
  rw [← lastValue_storedValues allowed _ (by decide), lastValue_ones] at idGiven
  obtain ⟨length, _, rfl⟩ := Option.map_eq_some_iff.mp idGiven
  simp only at given
  split at given
  · cases given
  · rw [← Option.some.inj given]
    exact beNat_one_lt length

structure Unnamed (observationId : ObservationID) : Prop where
  applications : ∀ id, observationId.applicationTexts id = none
  selectors : ∀ id, observationId.selectorTexts id = none
  interfaces : ∀ id, observationId.interfaceTexts id = none

theorem namesRead_of_teaches (allowed : ∀ field ∈ fields, field.Allowed handleIpfix)
    {before after : ObservationID} (unnamed : Unnamed before)
    (learned : learnNames (readValues (storedValues fields (ones fields))) before = .ok after)
    (teaches : Teaches fields [ones fields] before after) :
    NamesRead (fields.map AnnouncedField.stored) := by
  have learns := learnNames_learns learned
  have together : TextsTogether (fields.map AnnouncedField.stored) := by
    have fine : learnNames (readValues (storedValues fields (ones fields))) before ≠
        .error .nullInterfaceText := by
      rw [learned]
      exact nofun
    rw [learnNames_asserted_iff, readValues_eq] at fine
    simp only [lastValue_storedValues_length (ones_conforms fields)] at fine
    exact fine
  obtain ⟨applications, selectors, interfaces⟩ := teaches
  rw [filterMap_one] at applications selectors interfaces
  have application := learns.applications.unique (learnedName_small _ _)
    (announcedName_small allowed (by decide)) unnamed.applications applications
  have selector := learns.selectors.unique (learnedName_small _ _)
    (announcedName_small allowed (by decide)) unnamed.selectors selectors
  rw [readValues_eq] at application selector
  refine ⟨?_, ?_, ?_, together⟩
  · exact @numberRead_of_learnedName handleIpfix fields allowed 95 96 (by decide) (by decide)
      application
  · exact @numberRead_of_learnedName handleIpfix fields allowed 302 335 (by decide) (by decide)
      selector
  · have interface := learns.interfaces.unique (learnedInterface_small _)
      (announcedInterface_small allowed) unnamed.interfaces interfaces
    exact numberRead_of_learnedInterface allowed interface together

end OneRecord

/-! The bytes behind the records -/

theorem learnApplication_quiet {names : OptionNames} (quiet : names.appName.getD [] = [])
    (observationId : ObservationID) : learnApplication names observationId = observationId := by
  unfold learnApplication
  split
  · next given =>
      rw [given] at quiet
      cases quiet
  · rfl

theorem learnSelector_quiet {names : OptionNames} (quiet : names.selectorName.getD [] = [])
    (observationId : ObservationID) : learnSelector names observationId = observationId := by
  unfold learnSelector
  split
  · next given =>
      rw [given] at quiet
      cases quiet
  · rfl

theorem learnInterface_quiet {names : OptionNames} (name : names.snmpName.getD [] = [])
    (description : names.snmpDescription.getD [] = []) (observationId : ObservationID) :
    learnInterface names observationId = .ok observationId := by
  unfold learnInterface
  simp only [name, description]
  rfl

theorem getD_eq_nil_iff (text : Option Bytes) :
    text.getD [] = [] ↔ (text.map List.length).getD 0 = 0 := by
  cases text with
  | none => simp
  | some text => simp

theorem learnedName_eq_none {id : UInt64} {name : Option Bytes}
    (nothing : learnedName id name = none) : name.getD [] = [] := by
  unfold learnedName at nothing
  cases name with
  | none => rfl
  | some name =>
      rw [Option.bind_some] at nothing
      split at nothing
      · assumption
      · cases nothing

theorem learnedInterface_eq_none {names : OptionNames}
    (together : BothTexts (names.snmpName.map List.length)
      (names.snmpDescription.map List.length))
    (nothing : learnedInterface names = none) :
    names.snmpName.getD [] = [] ∧ names.snmpDescription.getD [] = [] := by
  unfold BothTexts at together
  unfold learnedInterface at nothing
  rw [getD_eq_nil_iff, getD_eq_nil_iff]
  by_contra some
  obtain ⟨name, description⟩ := together (by omega)
  obtain ⟨name, nameGiven⟩ := Option.isSome_iff_exists.mp (by simpa using name)
  obtain ⟨description, descriptionGiven⟩ :=
    Option.isSome_iff_exists.mp (by simpa using description)
  rw [nameGiven, descriptionGiven] at nothing some
  simp only [Option.bind_eq_bind, Option.bind_some] at nothing
  split at nothing
  · next empty => exact some (by simp [empty])
  · cases nothing

section Rest

variable (memory : Mem) {fields : List TemplateField} {left : Nat}

theorem learnRest_quiet (quiet : NoNames (fittingFields fields left))
    (observationId : ObservationID) :
    learnRest memory fields left observationId = .ok observationId := by
  unfold learnRest
  split
  · rfl
  · have noText : ∀ id ∈ [96, 335, 82, 83],
        (lastValue (slicesOf memory (fittingFields fields left) 0) id).getD [] = [] := by
      intro id name
      rw [getD_eq_nil_iff, lastValue_slicesOf]
      exact quiet id name
    rw [learnNames, readValues_eq, learnApplication_quiet (noText 96 (by decide)),
      learnSelector_quiet (noText 335 (by decide)),
      learnInterface_quiet (noText 82 (by decide)) (noText 83 (by decide))]

theorem noNames_of_teaches {announced : List AnnouncedField} {before after : ObservationID}
    (unnamed : Unnamed before) (learned : learnRest memory fields left before = .ok after)
    (teaches : Teaches announced [] before after) : NoNames (fittingFields fields left) := by
  unfold learnRest at learned
  split at learned
  · next ended =>
      subst ended
      exact fun id _ => textLen_of_noBytes (fittingFields_zero_noBytes fields) id
  · have learns := learnNames_learns learned
    have fine : learnNames (readValues (slicesOf memory (fittingFields fields left) 0)) before ≠
        .error .nullInterfaceText := by
      rw [learned]
      exact nofun
    rw [learnNames_asserted_iff] at fine
    have application := learnedName_eq_none
      (learns.applications.nothing (learnedName_small _ _) unnamed.applications
        teaches.applications)
    have selector := learnedName_eq_none
      (learns.selectors.nothing (learnedName_small _ _) unnamed.selectors teaches.selectors)
    have interface := learnedInterface_eq_none fine
      (learns.interfaces.nothing (learnedInterface_small _) unnamed.interfaces teaches.interfaces)
    rw [readValues_eq] at application selector interface
    simp only [getD_eq_nil_iff, lastValue_slicesOf] at application selector interface
    intro id name
    simp only [List.mem_cons, List.not_mem_nil, or_false] at name
    rcases name with rfl | rfl | rfl | rfl
    · exact application
    · exact selector
    · exact interface.1
    · exact interface.2

end Rest

end F2k
