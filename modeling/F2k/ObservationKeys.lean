import F2k.CidrTexts
import F2k.Lib.Outcome
import F2k.SensorConfig

namespace F2k

open Lib

/-! Which observation ids the keys of a sensor's configuration stand for. -/

instance (byte : UInt8) : Decidable (IsDigit byte) :=
  inferInstanceAs (Decidable (48 ≤ byte ∧ byte ≤ 57))

instance (text : Bytes) : Decidable (IsDigits text) :=
  @instDecidableAnd _ _ _ (List.decidableBAll IsDigit text)

/-- The number of an observation id, or the default one. -/
def configuredKey (key : Bytes) : Option (Option UInt32) :=
  if key = ascii "default" then some none
  else if IsDigits key ∧ decimalValue key < 2 ^ 32 then
    some (some (UInt32.ofNat (decimalValue key)))
  else none

theorem configuredKey_decimal {number : Nat} (small : number < 2 ^ 32) :
    configuredKey (decimal number) = some (some (UInt32.ofNat number)) := by
  have digits := decimal_isDigits number
  have other : decimal number ≠ ascii "default" := by
    intro same
    have digit := digits.2 100 (by rw [same]; decide)
    exact absurd digit (by unfold IsDigit; decide)
  have known : IsDigits (decimal number) ∧ decimalValue (decimal number) < 2 ^ 32 :=
    ⟨digits, by rwa [decimalValue_decimal]⟩
  unfold configuredKey
  rw [if_neg other, if_pos known, decimalValue_decimal]

/-- The observation ids of an object whose keys are read in this way. -/
def idsBy (reads : Bytes → Option (Option UInt32)) (members : List (Bytes × Json)) :
    List (Option UInt32 × Json) :=
  members.filterMap fun member => (reads member.1).map fun number => (number, member.2)

theorem mem_idsBy_iff {reads : Bytes → Option (Option UInt32)} {members : List (Bytes × Json)}
    {id : Option UInt32 × Json} :
    id ∈ idsBy reads members ↔
      ∃ member ∈ members, reads member.1 = some id.1 ∧ id.2 = member.2 := by
  unfold idsBy
  simp only [List.mem_filterMap, Option.map_eq_some_iff]
  apply exists_congr
  intro member
  apply and_congr_right
  intro _
  constructor
  · intro read
    obtain ⟨number, known, rfl⟩ := read
    exact ⟨known, rfl⟩
  · intro read
    exact ⟨id.1, read.1, by rw [← read.2]⟩

/-- The observation ids are added in turn, each under its number; what they are configured with
has to be accepted. -/
def addConfigured (reader : ConfigReader) :
    Sensor → List (Option UInt32 × Json) → Run (Option Sensor)
  | sensor, [] => pure (some sensor)
  | sensor, (number, configuration) :: rest => do
      match ← parseObservationId reader (.new (number.getD 0)) configuration with
      | none => pure none
      | some observationId =>
          match number with
          | none => addConfigured reader { sensor with defaultObservationId := observationId } rest
          | some number =>
              addConfigured reader
                { sensor with
                  observationId := sensor.observationId.insert number observationId } rest

/-- The sensor of a configuration that has these observation ids. -/
def sensorOfKeys (reader : ConfigReader) (ipStr : Bytes) (members : List (Bytes × Json)) :
    Run (Option Sensor) :=
  if members = [] then pure none
  else
    match safeParseAddress reader.inetPton ipStr (reader.unset ipStr) with
    | none => pure none
    | some ip => do
        let sensor ← Sensor.new (.v6 ip.network) (.v6 ip.networkMask)
        addConfigured reader sensor (idsBy configuredKey members)

/-- A text that `strtoul` takes as a whole: nothing, or digits behind blanks and a sign. -/
inductive StrtoulText : Bytes → Prop
  | empty : StrtoulText []
  | number {blanks sign digits : Bytes} (blank : ∀ byte ∈ blanks, isBlank byte = true)
      (signed : sign ∈ [[], [43], [45]]) (decimal : IsDigits digits) :
      StrtoulText (blanks ++ sign ++ digits)

/-- The default observation id, a number of 32 bits in digits, or no number at all. -/
def KeyRead (key : Bytes) : Prop :=
  key = ascii "default" ∨ (IsDigits key ∧ decimalValue key < 2 ^ 32) ∨ ¬StrtoulText key

/-! What `strtoul` takes -/

/-- Whether there is a minus, and what stands behind the sign. -/
def signSplit (text : Bytes) : Bool × Bytes :=
  match text with
  | 45 :: rest => (true, rest)
  | 43 :: rest => (false, rest)
  | _ => (false, text)

theorem signSplit_digits {digits : Bytes} (decimal : IsDigits digits) :
    signSplit digits = (false, digits) := by
  cases digits with
  | nil => rfl
  | cons first rest =>
      obtain ⟨_, notMinus, notPlus⟩ := IsDigit.bare (decimal.2 first List.mem_cons_self)
      simp [signSplit, notMinus, notPlus]

theorem signSplit_signed {sign digits : Bytes} (signed : sign ∈ [[], [43], [45]])
    (decimal : IsDigits digits) : (signSplit (sign ++ digits)).2 = digits := by
  simp only [List.mem_cons, List.not_mem_nil, or_false] at signed
  rcases signed with rfl | rfl | rfl
  · rw [List.nil_append, signSplit_digits decimal]
  · rfl
  · rfl

theorem exists_sign (text : Bytes) :
    ∃ sign ∈ [[], [43], [45]], text = sign ++ (signSplit text).2 := by
  unfold signSplit
  split
  · exact ⟨[45], by simp, rfl⟩
  · exact ⟨[43], by simp, rfl⟩
  · exact ⟨[], by simp, rfl⟩

theorem isDigits_iff (text : Bytes) :
    IsDigits text ↔ text.takeWhile isDigit ≠ [] ∧ text.dropWhile isDigit = [] := by
  have parts := List.takeWhile_append_dropWhile (p := isDigit) (l := text)
  have all : text.dropWhile isDigit = [] ↔ ∀ byte ∈ text, IsDigit byte := by
    rw [List.dropWhile_eq_nil_iff]
    simp only [isDigit_iff]
  unfold IsDigits
  rw [← all]
  apply and_congr_left
  intro whole
  rw [whole, List.append_nil] at parts
  rw [parts]

theorem parseObservationIdNumber_digits {key : Bytes}
    (decimal : IsDigits (signSplit (key.dropWhile isBlank)).2) :
    parseObservationIdNumber key =
      some (if decimalValue (signSplit (key.dropWhile isBlank)).2 < 2 ^ 64 then
        (if (signSplit (key.dropWhile isBlank)).1 then
          -UInt64.ofNat (decimalValue (signSplit (key.dropWhile isBlank)).2)
        else UInt64.ofNat (decimalValue (signSplit (key.dropWhile isBlank)).2))
        else 0xffffffffffffffff).toUInt32 := by
  obtain ⟨some, whole⟩ := (isDigits_iff _).mp decimal
  have taken := IsDigits.takeWhile decimal
  unfold parseObservationIdNumber
  dsimp only
  split
  · next none => exact absurd none some
  · refine (if_pos whole).trans ?_
    unfold decimalValue
    rw [← taken]
    rfl

theorem parseObservationIdNumber_noDigits {key : Bytes}
    (other : ¬IsDigits (signSplit (key.dropWhile isBlank)).2) :
    parseObservationIdNumber key = if key = [] then some 0 else none := by
  rw [isDigits_iff] at other
  unfold parseObservationIdNumber
  dsimp only
  split
  · rfl
  · next digits some =>
      have more : ¬(signSplit (key.dropWhile isBlank)).2.dropWhile isDigit = [] :=
        fun whole => other ⟨some, whole⟩
      have notEmpty : key ≠ [] := by
        rintro rfl
        exact some rfl
      rw [if_neg notEmpty]
      exact if_neg more

theorem parseObservationIdNumber_isSome_iff (key : Bytes) :
    (parseObservationIdNumber key).isSome ↔ StrtoulText key := by
  constructor
  · intro accepted
    obtain ⟨sign, signed, known⟩ := exists_sign (key.dropWhile isBlank)
    rcases Classical.em (IsDigits (signSplit (key.dropWhile isBlank)).2) with decimal | other
    · rw [← List.takeWhile_append_dropWhile (p := isBlank) (l := key), known,
        ← List.append_assoc]
      exact .number (fun _ => List.mem_takeWhile_imp) signed decimal
    · rw [parseObservationIdNumber_noDigits other] at accepted
      split at accepted
      · next empty =>
          rw [empty]
          exact .empty
      · cases accepted
  · intro text
    cases text with
    | empty => rfl
    | @number blanks sign digits blank signed decimal =>
        have rest : (blanks ++ sign ++ digits).dropWhile isBlank = sign ++ digits := by
          have first : ∃ first rest, sign ++ digits = first :: rest ∧ isBlank first = false := by
            obtain ⟨first, others, rfl⟩ := List.exists_cons_of_ne_nil decimal.1
            have bare := IsDigit.bare (decimal.2 first List.mem_cons_self)
            simp only [List.mem_cons, List.not_mem_nil, or_false] at signed
            rcases signed with rfl | rfl | rfl
            · exact ⟨first, others, rfl, bare.1⟩
            · exact ⟨43, first :: others, rfl, rfl⟩
            · exact ⟨45, first :: others, rfl, rfl⟩
          obtain ⟨first, others, same, notBlank⟩ := first
          rw [List.append_assoc, List.dropWhile_append_of_pos blank, same,
            List.dropWhile_cons_of_neg (by simp [notBlank])]
        have known := signSplit_signed signed decimal
        rw [← rest] at known
        rw [parseObservationIdNumber_digits (by rwa [known])]
        rfl

theorem parseObservationIdNumber_small {key : Bytes} (decimal : IsDigits key)
    (small : decimalValue key < 2 ^ 32) :
    parseObservationIdNumber key = some (UInt32.ofNat (decimalValue key)) := by
  have rest : key.dropWhile isBlank = key := by
    obtain ⟨first, others, rfl⟩ := List.exists_cons_of_ne_nil decimal.1
    have bare := IsDigit.bare (decimal.2 first List.mem_cons_self)
    exact List.dropWhile_cons_of_neg (by simp [bare.1])
  have signed := signSplit_digits decimal
  have fits : decimalValue key < 2 ^ 64 := Nat.lt_trans small (by decide)
  have known := @parseObservationIdNumber_digits key (by rwa [rest, signed])
  rw [rest, signed] at known
  rw [known, if_pos fits]
  apply congrArg some
  apply UInt32.toNat_inj.mp
  simp only [Bool.false_eq_true, if_false, UInt64.toNat_toUInt32, UInt64.toNat_ofNat',
    UInt32.toNat_ofNat']
  omega

/-! The keys that are taken -/

/-- What the loop takes a key for. -/
def takenKey (key : Bytes) : Option (Option UInt32) :=
  if key = ascii "default" then some none else (parseObservationIdNumber key).map some

theorem keyRead_iff (key : Bytes) : KeyRead key ↔ takenKey key = configuredKey key := by
  unfold takenKey configuredKey
  split
  · next isDefault => exact iff_of_true (.inl isDefault) rfl
  · next other =>
      have read : KeyRead key ↔
          (IsDigits key ∧ decimalValue key < 2 ^ 32) ∨ ¬StrtoulText key := by
        unfold KeyRead
        rw [or_iff_right other]
      rw [read]
      split
      · next known =>
          rw [parseObservationIdNumber_small known.1 known.2]
          exact iff_of_true (.inl known) rfl
      · next unknown =>
          rw [or_iff_right unknown, ← parseObservationIdNumber_isSome_iff, Option.map_eq_none_iff,
            Bool.not_eq_true, Option.isSome_eq_false_iff, Option.isNone_iff_eq_none]

theorem takenKey_isSome {key : Bytes} (unread : ¬KeyRead key) : (takenKey key).isSome := by
  unfold takenKey
  split
  · rfl
  · next other =>
      rw [Option.isSome_map, parseObservationIdNumber_isSome_iff]
      apply Classical.byContradiction
      intro noText
      exact unread (.inr (.inr noText))

theorem configuredKey_read {key : Bytes} (known : (configuredKey key).isSome) : KeyRead key := by
  unfold configuredKey at known
  split at known
  · next isDefault => exact .inl isDefault
  · split at known
    · next plain => exact .inr (.inl plain)
    · cases known

/-! The loop over the keys -/

theorem addHomeNets_id (reader : ConfigReader) (observationId : ObservationID)
    (homeNets : List Json) :
    Outcome (fun _ => True) (fun parsed => parsed.id = observationId.id)
      (addHomeNets reader observationId homeNets) := by
  induction homeNets generalizing observationId with
  | nil => rfl
  | cons value rest ih =>
      unfold addHomeNets
      have own : Outcome (fun _ => True)
          (fun parsed => ∀ next ∈ parsed, next.id = observationId.id)
          (observationIdAddHomeNet reader observationId value) := by
        unfold observationIdAddHomeNet
        split
        · split
          · simp
          · next address _ =>
              cases Network.new (.v6 address.network) (.v6 address.networkMask) _ with
              | error fault => trivial
              | ok homeNet => simp [ObservationID.addNetwork]
        · simp
      refine own.bind ?_
      intro parsed _ kept
      cases parsed with
      | none => rfl
      | some next =>
          refine (ih next).mono ?_
          intro parsed same
          exact same.trans (kept next rfl)

theorem withEnrichment_id (reader : ConfigReader) (observationId : ObservationID)
    (configuration : Json) :
    (withEnrichment reader observationId configuration).id = observationId.id := by
  unfold withEnrichment
  split
  · rfl
  · unfold parseObservationIdEnrichment
    split
    · split
      · rfl
      · dsimp only
        split <;> split <;> rfl
    · rfl

theorem withModes_id (unpacked : Unpacked) (observationId : ObservationID) :
    (withModes unpacked observationId).id = observationId.id := by
  unfold withModes
  split <;> split <;> rfl

theorem parseObservationId_id (reader : ConfigReader) (observationId : ObservationID)
    (configuration : Json) :
    Outcome (fun _ => True) (fun parsed => ∀ kept ∈ parsed, kept.id = observationId.id)
      (parseObservationId reader observationId configuration) := by
  have homeNets : Outcome (fun _ => True) (fun parsed => parsed.id = observationId.id)
      (withHomeNets reader observationId configuration) := by
    unfold withHomeNets
    split
    · rfl
    · unfold parseObservationIdHomeNets
      split
      · exact addHomeNets_id reader observationId _
      · rfl
  unfold parseObservationId
  split
  · simp
  · next unpacked _ =>
      refine homeNets.bind ?_
      intro parsed _ same
      simp only [Run.pure_eq_ok, Outcome.ok_iff, Option.mem_some_iff, forall_eq']
      rw [withModes_id, withEnrichment_id, same]

theorem parseObservationsId_eq (reader : ConfigReader) (sensor : Sensor)
    (members : List (Bytes × Json)) :
    parseObservationsId reader sensor members =
      addConfigured reader sensor (idsBy takenKey members) := by
  induction members generalizing sensor with
  | nil => rfl
  | cons member rest ih =>
      obtain ⟨key, configuration⟩ := member
      have taken : idsBy takenKey ((key, configuration) :: rest) =
          ((takenKey key).map fun number => (number, configuration)).toList ++ idsBy takenKey rest := by
        unfold idsBy
        rw [List.filterMap_cons]
        cases takenKey key <;> rfl
      rw [taken, parseObservationsId]
      rcases Classical.em (key = ascii "default") with isDefault | other
      · have read : takenKey key = some none := if_pos isDefault
        rw [read, beq_iff_eq.mpr isDefault]
        simp only [if_true, Option.map_some, Option.toList_some, List.singleton_append,
          addConfigured]
        apply congrArg
        funext parsed
        cases parsed with
        | none => rfl
        | some observationId => exact ih _
      · have read : takenKey key = (parseObservationIdNumber key).map some := if_neg other
        rw [read, beq_eq_false_iff_ne.mpr other]
        simp only [Bool.false_eq_true, if_false]
        cases parsed : parseObservationIdNumber key with
        | none => exact ih sensor
        | some number =>
            have kept := parseObservationId_id reader (.new number) configuration
            simp only [Option.map_some, Option.toList_some, List.singleton_append, addConfigured,
              Option.getD_some]
            cases ran : parseObservationId reader (.new number) configuration with
            | error fault => rfl
            | ok parsed =>
                cases parsed with
                | none => rfl
                | some observationId =>
                    have same : observationId.id = number := kept.of_ok ran _ rfl
                    simp only [Run.ok_bind, ih]
                    unfold Sensor.addObservationId
                    rw [same]

/-! Whole configurations -/

/-- Every sensor whose observation ids have these keys is the one of its configuration. -/
def KeysExact (keys : List Bytes) : Prop :=
  ∀ reader jsensor ipStr members,
    jsensor.objectGet "observations_id" = some (.object members) →
      members.map Prod.fst = keys →
        parseSensor reader jsensor ipStr = sensorOfKeys reader ipStr members

theorem parseSensor_eq (reader : ConfigReader) {jsensor : Json} (ipStr : Bytes)
    {members : List (Bytes × Json)}
    (known : jsensor.objectGet "observations_id" = some (.object members))
    (same : idsBy takenKey members = idsBy configuredKey members) :
    parseSensor reader jsensor ipStr = sensorOfKeys reader ipStr members := by
  unfold parseSensor sensorOfKeys
  rw [known]
  cases members with
  | nil => rfl
  | cons first rest =>
      rw [if_neg (List.cons_ne_nil _ _), ← same]
      dsimp only
      cases safeParseAddress reader.inetPton ipStr (reader.unset ipStr) with
      | none => rfl
      | some ip =>
          apply bind_congr
          intro sensor
          exact parseObservationsId_eq reader sensor (first :: rest)

theorem idsBy_takenKey_eq {members : List (Bytes × Json)}
    (read : ∀ key ∈ members.map Prod.fst, KeyRead key) :
    idsBy takenKey members = idsBy configuredKey members := by
  unfold idsBy
  apply List.filterMap_congr
  intro member inside
  rw [(keyRead_iff member.1).mp (read _ (List.mem_map_of_mem inside))]

/-! A configuration that is refused under every key that is not read -/

def refusal (key : Bytes) : Json :=
  if takenKey key = configuredKey key then .object [] else .null

def quietReader : ConfigReader where
  inetPton := { ipv6 := fun _ => none, ipv4 := fun _ => none }
  jsonDumps _ := none
  unset _ := { network := 0, networkMask := 0 }

theorem addConfigured_accepts (reader : ConfigReader) (sensor : Sensor)
    {ids : List (Option UInt32 × Json)} (accepted : ∀ id ∈ ids, id.2 = .object []) :
    ∃ after, addConfigured reader sensor ids = .ok (some after) := by
  induction ids generalizing sensor with
  | nil => exact ⟨sensor, rfl⟩
  | cons id rest ih =>
      obtain ⟨own, others⟩ := List.forall_mem_cons.mp accepted
      obtain ⟨number, configuration⟩ := id
      obtain rfl : configuration = .object [] := own
      cases number with
      | none => exact ih _ others
      | some number => exact ih _ others

theorem addConfigured_refuses (reader : ConfigReader) (sensor : Sensor)
    {ids : List (Option UInt32 × Json)} (known : ∀ id ∈ ids, id.2 = .object [] ∨ id.2 = .null)
    (refused : ∃ id ∈ ids, id.2 = .null) : addConfigured reader sensor ids = .ok none := by
  induction ids generalizing sensor with
  | nil =>
      obtain ⟨_, inside, _⟩ := refused
      cases inside
  | cons id rest ih =>
      obtain ⟨own, others⟩ := List.forall_mem_cons.mp known
      obtain ⟨number, configuration⟩ := id
      rcases own with rfl | rfl
      · have later : ∃ id ∈ rest, id.2 = .null := by
          obtain ⟨id, inside, isNull⟩ := refused
          rcases List.mem_cons.mp inside with rfl | inRest
          · cases isNull
          · exact ⟨id, inRest, isNull⟩
        cases number with
        | none => exact ih _ others later
        | some number => exact ih _ others later
      · rfl

theorem quietSensor : ∃ ip sensor,
    safeParseAddress quietReader.inetPton [] (quietReader.unset []) = some ip ∧
      Sensor.new (.v6 ip.network) (.v6 ip.networkMask) = .ok sensor :=
  ⟨_, _, rfl, rfl⟩

theorem KeysExact.read {keys : List Bytes} (exact : KeysExact keys) :
    ∀ key ∈ keys, KeyRead key := by
  intro key inside
  apply Classical.byContradiction
  intro unread
  let members := keys.map fun key => (key, refusal key)
  have refusals : ∀ member ∈ members, member.2 = refusal member.1 := by
    intro member known
    obtain ⟨key, _, rfl⟩ := List.mem_map.mp known
    rfl
  have names : members.map Prod.fst = keys := by
    simp [members, Function.comp_def]
  have given : (Json.object [(ascii "observations_id", .object members)]).objectGet
      "observations_id" = some (.object members) := by
    simp [Json.objectGet]
  have same := exact quietReader _ [] members given names
  obtain ⟨ip, sensor, parsed, built⟩ := quietSensor
  have notEmpty : members ≠ [] := by
    intro empty
    rw [← names, empty] at inside
    cases inside
  have taken : parseSensor quietReader (.object [(ascii "observations_id", .object members)]) [] =
      addConfigured quietReader sensor (idsBy takenKey members) := by
    obtain ⟨first, rest, shape⟩ := List.exists_cons_of_ne_nil notEmpty
    unfold parseSensor
    rw [given, shape]
    dsimp only
    simp only [parsed, built, Run.ok_bind, parseObservationsId_eq]
  have configured : sensorOfKeys quietReader [] members =
      addConfigured quietReader sensor (idsBy configuredKey members) := by
    unfold sensorOfKeys
    simp only [if_neg notEmpty, parsed, built, Run.ok_bind]
  rw [taken, configured] at same
  have refused : addConfigured quietReader sensor (idsBy takenKey members) = .ok none := by
    apply addConfigured_refuses
    · intro id known
      obtain ⟨member, among, _, same⟩ := mem_idsBy_iff.mp known
      rw [same, refusals member among]
      unfold refusal
      split
      · exact .inl rfl
      · exact .inr rfl
    · obtain ⟨number, known⟩ := Option.isSome_iff_exists.mp (takenKey_isSome unread)
      refine ⟨(number, .null), mem_idsBy_iff.mpr ⟨(key, refusal key), ?_, known, ?_⟩, rfl⟩
      · exact List.mem_map_of_mem inside
      · exact (if_neg fun same => unread ((keyRead_iff key).mpr same)).symm
  have accepted : ∃ after,
      addConfigured quietReader sensor (idsBy configuredKey members) = .ok (some after) := by
    apply addConfigured_accepts
    intro id known
    obtain ⟨member, among, read, same⟩ := mem_idsBy_iff.mp known
    rw [same, refusals member among]
    exact if_pos ((keyRead_iff _).mp (configuredKey_read (by rw [read]; rfl)))
  obtain ⟨after, accepted⟩ := accepted
  rw [refused, accepted] at same
  cases same

theorem parseSensor_keys_iff (keys : List Bytes) :
    KeysExact keys ↔ ∀ key ∈ keys, KeyRead key := by
  constructor
  · exact KeysExact.read
  · intro read reader jsensor ipStr members known names
    rw [← names] at read
    exact parseSensor_eq reader ipStr known (idsBy_takenKey_eq read)

/-- The configuration of a sensor with one observation id. -/
def oneKey (key : Bytes) : Json :=
  .object [(ascii "observations_id", .object [(key, .object [])])]

/-- The number 2^32 + 1 becomes an observation id, and so does no number at all. -/
theorem not_parseSensor_keys :
    (parseSensor quietReader (oneKey (ascii "4294967297")) []).map
          (fun sensor => sensor.map fun sensor => (sensor.observationId.lookup 1).isSome) =
        .ok (some true) ∧
      (sensorOfKeys quietReader [] [(ascii "4294967297", .object [])]).map
          (fun sensor => sensor.map fun sensor => (sensor.observationId.lookup 1).isSome) =
        .ok (some false) ∧
      (parseSensor quietReader (oneKey []) []).map
          (fun sensor => sensor.map fun sensor => (sensor.observationId.lookup 0).isSome) =
        .ok (some true) ∧
      (sensorOfKeys quietReader [] [([], .object [])]).map
          (fun sensor => sensor.map fun sensor => (sensor.observationId.lookup 0).isSome) =
        .ok (some false) := by
  decide +kernel

end F2k
