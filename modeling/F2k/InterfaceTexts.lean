import F2k.SetRuns

namespace F2k

open Lib

/-! The names and descriptions of interfaces that option data teaches: `interface_new` asserts
that it gets both, and is called when one of them has bytes. -/

def BothTexts (name description : Option Nat) : Prop :=
  0 < name.getD 0 ∨ 0 < description.getD 0 → name.isSome ∧ description.isSome

theorem learnNames_asserted_iff (names : OptionNames) (observationId : ObservationID) :
    learnNames names observationId ≠ .error .nullInterfaceText ↔
      BothTexts (names.snmpName.map List.length) (names.snmpDescription.map List.length) := by
  unfold learnNames learnInterface BothTexts
  cases names.snmpName with
  | none =>
      cases names.snmpDescription with
      | none => simp
      | some description => cases description <;> simp
  | some name =>
      cases names.snmpDescription with
      | none => cases name <;> simp
      | some description =>
          by_cases given : 0 < name.length ∨ 0 < description.length
          · simp [given]
          · simp [given]

/-! Which fields a record reads -/

def recordLen (fields : List TemplateField) : Nat :=
  (fields.map fun field => field.fieldLen.toNat).sum

/-- The fields that are read of a record where so many bytes are left. -/
def fittingFields : List TemplateField → Nat → List TemplateField
  | [], _ => []
  | field :: rest, left =>
      if field.fieldLen.toNat ≤ left then
        field :: fittingFields rest (left - field.fieldLen.toNat)
      else []

theorem fittingFields_whole {fields : List TemplateField} {left : Nat}
    (fits : recordLen fields ≤ left) : fittingFields fields left = fields := by
  induction fields generalizing left with
  | nil => rfl
  | cons field rest ih =>
      simp only [recordLen, List.map_cons, List.sum_cons] at fits ih
      rw [fittingFields, if_pos (by omega), ih (by omega)]

theorem mem_of_mem_fittingFields {fields : List TemplateField} {left : Nat}
    {field : TemplateField} (member : field ∈ fittingFields fields left) : field ∈ fields := by
  induction fields generalizing left with
  | nil => contradiction
  | cons first rest ih =>
      rw [fittingFields] at member
      split at member
      · rcases List.mem_cons.mp member with rfl | inRest
        · exact List.mem_cons_self
        · exact List.mem_cons_of_mem _ (ih inRest)
      · contradiction

def textLen (fields : List TemplateField) (id : Nat) : Option Nat :=
  (fields.reverse.find? fun field => field.fieldId.toNat == id).map
    fun field => field.fieldLen.toNat

theorem textLen_cons (field : TemplateField) (rest : List TemplateField) (id : Nat) :
    textLen (field :: rest) id =
      (textLen rest id).or
        (if field.fieldId.toNat = id then some field.fieldLen.toNat else none) := by
  unfold textLen
  rw [List.reverse_cons, List.find?_append, Option.map_or]
  congr 1
  by_cases same : field.fieldId.toNat = id
  · simp [same]
  · simp [same]

/-- The fields give an interface a name, `IF_NAME` (82), and a description, `IF_DESCRIPTION`
(83), if one of them has bytes. -/
def TextsTogether (fields : List TemplateField) : Prop :=
  BothTexts (textLen fields 82) (textLen fields 83)

theorem textLen_of_noBytes {fields : List TemplateField}
    (noBytes : ∀ field ∈ fields, field.fieldLen = 0) (id : Nat) :
    (textLen fields id).getD 0 = 0 := by
  unfold textLen
  cases found : fields.reverse.find? fun field => field.fieldId.toNat == id with
  | none => rfl
  | some field =>
      have member := List.mem_reverse.mp (List.mem_of_find?_eq_some found)
      rw [Option.map_some, Option.getD_some, noBytes field member]
      rfl

theorem textsTogether_of_noBytes {fields : List TemplateField}
    (noBytes : ∀ field ∈ fields, field.fieldLen = 0) : TextsTogether fields := by
  intro given
  rw [textLen_of_noBytes noBytes, textLen_of_noBytes noBytes] at given
  simp at given

section Reading

variable (sbuffer : SizedBuffer)

theorem OptionNames.read_snmpName (names : OptionNames) (id : Nat) (value : Bytes) :
    (names.read id value).snmpName = if id = 82 then some value else names.snmpName := by
  unfold OptionNames.read
  split <;> first | rfl | (rw [if_neg]; assumption)

theorem OptionNames.read_snmpDescription (names : OptionNames) (id : Nat) (value : Bytes) :
    (names.read id value).snmpDescription =
      if id = 83 then some value else names.snmpDescription := by
  unfold OptionNames.read
  split <;> first | rfl | (rw [if_neg]; assumption)

theorem readOptionFields_texts (fields : List TemplateField) {cursor : Nat}
    (names : OptionNames) (inside : cursor ≤ sbuffer.size) :
    (readOptionFields sbuffer fields cursor names).1.snmpName.map List.length =
        (textLen (fittingFields fields (sbuffer.size - cursor)) 82).or
          (names.snmpName.map List.length) ∧
      (readOptionFields sbuffer fields cursor names).1.snmpDescription.map List.length =
        (textLen (fittingFields fields (sbuffer.size - cursor)) 83).or
          (names.snmpDescription.map List.length) := by
  induction fields generalizing cursor names with
  | nil => exact ⟨rfl, rfl⟩
  | cons field rest ih =>
      rw [readOptionFields, fittingFields]
      by_cases fits : field.fieldLen.toNat ≤ sbuffer.size - cursor
      · obtain ⟨name, description⟩ := ih
          (names.read field.fieldId.toNat
            ((sbuffer.buffer.shift cursor).slice field.fieldLen.toNat))
          (show cursor + field.fieldLen.toNat ≤ sbuffer.size by omega)
        rw [Nat.sub_add_eq] at name description
        rw [if_neg (by omega), if_pos fits, textLen_cons, textLen_cons, Option.or_assoc,
          Option.or_assoc]
        simp only [name, description, OptionNames.read_snmpName,
          OptionNames.read_snmpDescription]
        constructor
        · split <;> simp
        · split <;> simp
      · rw [if_pos (by omega), if_neg fits]
        exact ⟨rfl, rfl⟩

theorem readOptionFields_cursor (fields : List TemplateField) {cursor : Nat}
    (names : OptionNames) (inside : cursor ≤ sbuffer.size) :
    (readOptionFields sbuffer fields cursor names).2 =
      if cursor + recordLen fields ≤ sbuffer.size then cursor + recordLen fields
      else sbuffer.size := by
  induction fields generalizing cursor names with
  | nil => simp [readOptionFields, recordLen, inside]
  | cons field rest ih =>
      rw [readOptionFields]
      simp only [recordLen, List.map_cons, List.sum_cons] at ih ⊢
      split
      · rw [if_neg (by omega)]
      · rw [ih _ (by omega)]
        simp only [Nat.add_assoc]

end Reading

/-! Records and sets -/

/-- The names of one record decide whether its turn of the loop is the last one. -/
theorem dissectOptionFlows_turn {template : FlowSetV9Ipfix} {sbuffer : SizedBuffer}
    {turns cursor : Nat} (inside : cursor < sbuffer.size) (observationId : ObservationID) :
    dissectOptionFlows template sbuffer (turns + 1) cursor observationId =
      (learnNames (readOptionFields (sbuffer.after cursor) template.fields 0 {}).1
        observationId) >>= fun learned =>
          dissectOptionFlows template sbuffer turns
            (cursor + (readOptionFields (sbuffer.after cursor) template.fields 0 {}).2)
            learned := by
  rw [dissectOptionFlows, if_pos inside]
  simp only [dissectNf9OptionFlow, bind_assoc]
  rfl

theorem learnNames_read_iff (template : FlowSetV9Ipfix) (sbuffer : SizedBuffer)
    (observationId : ObservationID) :
    learnNames (readOptionFields sbuffer template.fields 0 {}).1 observationId ≠
        .error .nullInterfaceText ↔
      TextsTogether (fittingFields template.fields sbuffer.size) := by
  obtain ⟨name, description⟩ :=
    readOptionFields_texts sbuffer template.fields {} (Nat.zero_le sbuffer.size)
  simp only [Nat.sub_zero, Option.map_none, Option.or_none] at name description
  rw [TextsTogether, ← name, ← description]
  exact learnNames_asserted_iff _ observationId

/-- In a set of so many bytes whole records, and the one that is cut off, give both texts. -/
def InterfaceTexts (fields : List TemplateField) (size : Nat) : Prop :=
  (recordLen fields ≤ size → TextsTogether fields) ∧
    TextsTogether (fittingFields fields (size % recordLen fields))

theorem recordLen_eq_zero_iff {fields : List TemplateField} :
    recordLen fields = 0 ↔ ∀ field ∈ fields, field.fieldLen = 0 := by
  induction fields with
  | nil => simp [recordLen]
  | cons field rest ih =>
      simp only [recordLen, List.map_cons, List.sum_cons, List.forall_mem_cons] at ih ⊢
      rw [Nat.add_eq_zero_iff, ih, ← UInt16.toNat_inj]
      rfl

theorem textsTogether_fitting_of_noBytes {fields : List TemplateField}
    (noBytes : ∀ field ∈ fields, field.fieldLen = 0) (left : Nat) :
    TextsTogether (fittingFields fields left) :=
  textsTogether_of_noBytes fun field member => noBytes field (mem_of_mem_fittingFields member)

theorem fittingFields_zero_noBytes (fields : List TemplateField) :
    ∀ field ∈ fittingFields fields 0, field.fieldLen = 0 := by
  induction fields with
  | nil => simp [fittingFields]
  | cons field rest ih =>
      rw [fittingFields]
      split
      · next fits =>
          have zero : field.fieldLen.toNat = 0 := by omega
          rw [zero]
          exact List.forall_mem_cons.mpr ⟨UInt16.toNat_inj.mp zero, ih⟩
      · simp

theorem textsTogether_fitting_zero (fields : List TemplateField) :
    TextsTogether (fittingFields fields 0) :=
  textsTogether_of_noBytes (fittingFields_zero_noBytes fields)

theorem interfaceTexts_iff_of_whole {fields : List TemplateField} {left : Nat}
    (whole : recordLen fields ≤ left) :
    InterfaceTexts fields left ↔
      TextsTogether fields ∧ InterfaceTexts fields (left - recordLen fields) := by
  unfold InterfaceTexts
  rw [Nat.mod_eq_sub_mod whole]
  constructor
  · intro both
    obtain ⟨together, rest⟩ := both
    exact ⟨together whole, fun _ => together whole, rest⟩
  · intro both
    obtain ⟨together, _, rest⟩ := both
    exact ⟨fun _ => together, rest⟩

theorem interfaceTexts_iff_of_cut {fields : List TemplateField} {left : Nat}
    (cut : left < recordLen fields) :
    InterfaceTexts fields left ↔ TextsTogether (fittingFields fields left) := by
  unfold InterfaceTexts
  rw [Nat.mod_eq_of_lt cut]
  exact and_iff_right fun whole => absurd whole (Nat.not_le.mpr cut)

/-- A bind whose first run fails with this fault alone. -/
theorem bind_asserted_iff {run : Run α} {next : α → Run β} {condition rest : Prop}
    (faults : Outcome (fun fault => fault = .nullInterfaceText) (fun _ => True) run)
    (first : run ≠ .error .nullInterfaceText ↔ condition)
    (later : ∀ value, next value ≠ .error .nullInterfaceText ↔ rest) :
    run >>= next ≠ .error .nullInterfaceText ↔ condition ∧ rest := by
  rw [← first]
  cases run with
  | error fault =>
      obtain rfl : fault = .nullInterfaceText := faults
      simp
  | ok value => simpa using later value

theorem dissectOptionFlows_asserted_iff {template : FlowSetV9Ipfix} {sbuffer : SizedBuffer}
    (small : sbuffer.size < 2 ^ 64) (hasBytes : 0 < recordLen template.fields) {turns cursor : Nat}
    (inside : cursor ≤ sbuffer.size) (enough : sbuffer.size < turns + cursor)
    (observationId : ObservationID) :
    dissectOptionFlows template sbuffer turns cursor observationId ≠ .error .nullInterfaceText ↔
      InterfaceTexts template.fields (sbuffer.size - cursor) := by
  induction turns generalizing cursor observationId with
  | zero => omega
  | succ turns ih =>
      rcases Nat.lt_or_eq_of_le inside with more | ended
      · have left := after_size inside small
        have names := learnNames_read_iff template (sbuffer.after cursor)
        have read := readOptionFields_cursor (sbuffer.after cursor) template.fields {}
          (Nat.zero_le (sbuffer.after cursor).size)
        rw [left, Nat.zero_add] at read
        rw [left] at names
        rw [dissectOptionFlows_turn more]
        by_cases whole : recordLen template.fields ≤ sbuffer.size - cursor
        · rw [if_pos whole] at read
          rw [fittingFields_whole whole] at names
          rw [interfaceTexts_iff_of_whole whole, read, ← Nat.sub_add_eq]
          exact bind_asserted_iff (learnNames_outcome _ _) (names observationId)
            fun learned => ih (by omega) (by omega) learned
        · rw [if_neg whole] at read
          have last : cursor + (sbuffer.size - cursor) = sbuffer.size := by omega
          rw [interfaceTexts_iff_of_cut (Nat.not_le.mp whole), read, last, ← and_true
            (TextsTogether _)]
          refine bind_asserted_iff (learnNames_outcome _ _) (names observationId) ?_
          intro learned
          have done : InterfaceTexts template.fields (sbuffer.size - sbuffer.size) := by
            rw [Nat.sub_self, interfaceTexts_iff_of_cut hasBytes]
            exact textsTogether_fitting_zero _
          rw [ih (Nat.le_refl _) (by omega) learned]
          exact iff_true_intro done
      · rw [dissectOptionFlows, if_neg (by omega), ended, Nat.sub_self,
          interfaceTexts_iff_of_cut hasBytes]
        simp [textsTogether_fitting_zero]

theorem dissectOptionFlowSet_asserted_iff {template : FlowSetV9Ipfix} {sbuffer : SizedBuffer}
    (small : sbuffer.size < 2 ^ 64) (observationId : ObservationID) :
    dissectOptionFlowSet template sbuffer observationId ≠ .error .nullInterfaceText ↔
      InterfaceTexts template.fields sbuffer.size := by
  rcases Nat.eq_zero_or_pos (recordLen template.fields) with empty | hasBytes
  · have noBytes := recordLen_eq_zero_iff.mp empty
    have holds : InterfaceTexts template.fields sbuffer.size :=
      ⟨fun _ => textsTogether_of_noBytes noBytes, textsTogether_fitting_of_noBytes noBytes _⟩
    refine iff_of_true ?_ holds
    intro asserted
    have fine : Outcome (fun fault => fault ≠ .nullInterfaceText) (fun _ => True)
        (dissectOptionFlowSet template sbuffer observationId) := by
      refine dissectOptionFlows_fails (by simp) ?_ _ observationId .refl
      intro cursor observationId _ _
      have names := (learnNames_read_iff template (sbuffer.after cursor) observationId).mpr
        (textsTogether_fitting_of_noBytes noBytes _)
      cases learned : learnNames
          (readOptionFields (sbuffer.after cursor) template.fields 0 {}).1 observationId with
      | error fault =>
          rw [learned] at names
          simpa using names
      | ok learned => exact trivial
    exact fine.of_error asserted rfl
  · exact dissectOptionFlows_asserted_iff small hasBytes (Nat.zero_le _) (by omega) observationId

/-! Runs -/

/-- A set of option data gives every interface both texts or none. -/
def SetInterfaceTexts (context : PacketContext) (observationId : ObservationID)
    (set : SizedBuffer) : Prop :=
  isTemplateSet context.handleIpfix set = false → ∀ template,
    usableTemplate observationId (set.u16 0) = some template →
      template.isOptionTemplate = true →
        InterfaceTexts template.fields (optionBody set).size

theorem dissectSet_asserted_iff {context : PacketContext} (small : context.flowVersion < 65536)
    (flowSequenceNumber : UInt16) (observationId : ObservationID) (set : SizedBuffer) :
    dissectSet context flowSequenceNumber observationId set ≠ .error .nullInterfaceText ↔
      SetInterfaceTexts context observationId set := by
  unfold SetInterfaceTexts dissectSet
  cases data : isTemplateSet context.handleIpfix set with
  | true => simp
  | false =>
      unfold dissectNetFlowV9V10Flow
      cases usable : usableTemplate observationId (set.u16 0) with
      | none => simp
      | some template =>
          simp only [Bool.false_eq_true, if_false, true_implies, Option.some.injEq,
            forall_eq']
          cases kind : template.isOptionTemplate with
          | true =>
              have learned := @dissectOptionFlowSet_asserted_iff template _
                (optionBody_small set) observationId
              simp only [if_true, true_implies]
              rw [← learned]
              change (dissectOptionFlowSet template (optionBody set) observationId >>= _) ≠ _ ↔ _
              cases dissectOptionFlowSet template (optionBody set) observationId with
              | error fault => simp
              | ok changed => simp
          | false =>
              simp only [Bool.false_eq_true, if_false, false_implies, iff_true]
              have printed : Outcome (fun fault => fault ≠ .nullInterfaceText) (fun _ => True)
                  (dissectNetFlowV9V10FlowSetWithTemplate context template (set.u16 2) set.buffer
                    observationId flowSequenceNumber) := by
                refine dissectRecords_fails (by simp) ?_ _ _ .refl
                intro displ flowSequenceNumber _ _
                refine printRecord_fails small (by simp) _ _ _ ?_
                intro place _ element _
                exact Element.every_of_forall (fun _ _ => by simp) element
              cases ran : dissectNetFlowV9V10FlowSetWithTemplate context template (set.u16 2)
                  set.buffer observationId flowSequenceNumber with
              | error fault =>
                  rw [ran] at printed
                  simpa using printed
              | ok records => simp

theorem dissectNetFlowV5_asserted (globals : ReadOnlyGlobals) (the5Record : Mem)
    (observationId : Option ObservationID) :
    dissectNetFlowV5 globals the5Record observationId ≠ .error .nullInterfaceText := by
  cases observationId with
  | none =>
      simp only [dissectNetFlowV5]
      split <;> simp
  | some observationId =>
      intro asserted
      have fine : Outcome (fun fault => fault ≠ .nullInterfaceText) (fun _ => True)
          (dissectNetFlowV5 globals the5Record (some observationId)) :=
        dissectNetFlowV5_fails (by simp) globals the5Record observationId
      exact fine.of_error asserted rfl

theorem map_ne_error_iff {run : Run α} {convert : α → β} {fault : Fault} :
    run.map convert ≠ .error fault ↔ run ≠ .error fault := by
  cases run with
  | error other => simp [Except.map]
  | ok value => simp [Except.map]

theorem dissectReceived_asserted_iff (sensor : Sensor) (received : Received) :
    dissectReceived sensor received ≠ .error .nullInterfaceText ↔
      received.EverySet SetInterfaceTexts sensor := by
  unfold Received.EverySet
  cases hasSets : received.hasSets with
  | true =>
      rw [dissectReceived_sets hasSets]
      simp only [true_implies]
      cases sensor.getObservationId (packetObservationId received.buffer) with
      | none => simp
      | some observationId =>
          simp only [Option.some.injEq, forall_eq']
          rw [map_ne_error_iff]
          apply runSteps_ne_error_iff
          intro observationId set
          exact @dissectSet_asserted_iff received.context (headerNumber_lt received.buffer 0 2)
            (packetSequence received.buffer).toUInt16 observationId set
  | false =>
      simp only [Bool.false_eq_true, false_implies, iff_true]
      by_cases v5 : received.globals.sensorsInfo = true ∧ headerNumber received.buffer 0 2 = 5
      · rw [dissectReceived_v5 v5.1 v5.2, map_ne_error_iff]
        exact dissectNetFlowV5_asserted _ _ _
      · rw [dissectReceived_other hasSets (by simpa using v5)]
        simp

/-- Datagrams abort the program in `interface_new` exactly when option data gives an interface
one of its texts without the other. -/
theorem runSteps_asserted_iff (sensor : Sensor) (datagrams : List Received) :
    runSteps dissectReceived sensor datagrams ≠ .error .nullInterfaceText ↔
      AlongRun dissectReceived
        (fun sensor received => received.EverySet SetInterfaceTexts sensor) sensor datagrams :=
  runSteps_ne_error_iff dissectReceived_asserted_iff sensor datagrams

/-- An option template of an interface and its name alone, and then a record of it. -/
def namedInterfaceDatagrams : List Received :=
  let received := fun bytes =>
    ({ globals := splittingGlobals, buffer := .ofBytes bytes, bufferLen := bytes.length } :
      Received)
  [received (v9PacketBytes 1 [setBytes 1 (v9OptionTemplateBytes 256 [(10, 4)] [(82, 4)])]),
    received (v9PacketBytes 2 [setBytes 256 (toBe 4 1 ++ ascii "eth0")])]

theorem runSteps_asserts_namedInterface :
    runSteps dissectReceived (sensorOf (.new 7)) namedInterfaceDatagrams =
      .error .nullInterfaceText := by
  have mapped : (runSteps dissectReceived (sensorOf (.new 7)) namedInterfaceDatagrams).map
      (fun _ => ()) = .error .nullInterfaceText := by
    decide +kernel
  exact eq_error_of_map mapped

end F2k
