import F2k.DataSet
import F2k.Lib.Runs

namespace F2k

open Lib

/-! A packet as the list of its sets: what each of them announces or holds does not depend on
what the sensor knows, and dissecting the packet is a run over them. -/

/-- The set at an offset, when it is within the packet. -/
def setAt (packet : SizedBuffer) (displ : Nat) : Option SizedBuffer :=
  if packet.size < displ + 4 then none
  else if packet.size < displ + packet.u16 (displ + 2) then none
  else some { buffer := packet.buffer.shift displ, size := packet.u16 (displ + 2) }

def packetSets (packet : SizedBuffer) (bufferLen : Nat) : Nat → Nat → List SizedBuffer
  | 0, _ => []
  | entries + 1, displ =>
      if displ < bufferLen then
        match setAt packet displ with
        | none => []
        | some set => set :: packetSets packet bufferLen entries (displ + set.size)
      else []

def isTemplateSet (handleIpfix : Bool) (set : SizedBuffer) : Bool :=
  set.buffer 0 == 0 || (!handleIpfix && set.u16 0 == 1)

theorem u16_lt (sbuffer : SizedBuffer) (offset : Nat) : sbuffer.u16 offset < 65536 := by
  have bound := beNat_lt ((sbuffer.buffer.shift offset).slice 2)
  rwa [Mem.length_slice] at bound

theorem setAt_eq_some {packet set : SizedBuffer} {displ : Nat}
    (found : setAt packet displ = some set) :
    set.buffer = packet.buffer.shift displ ∧ set.size = set.u16 2 ∧
      displ + 4 ≤ packet.size ∧ displ + set.size ≤ packet.size := by
  simp only [setAt] at found
  split at found
  · contradiction
  · split at found
    · contradiction
    · cases found
      refine ⟨rfl, ?_, by omega, by simp only; omega⟩
      simp only [SizedBuffer.u16, Mem.shift_shift]

theorem setAt_beyond {packet : SizedBuffer} {displ : Nat} (beyond : packet.size < displ + 4) :
    setAt packet displ = none := by
  rw [setAt, if_pos beyond]

/-! Templates -/

def flowTemplates (handleIpfix : Bool) (set : SizedBuffer) :
    Nat → Nat → Option (List FlowSetV9Ipfix)
  | 0, _ => none
  | turns + 1, displ =>
      if displ < set.size then
        let (template, processed) := dissectFlowTemplate handleIpfix (set.after displ)
        (flowTemplates handleIpfix set turns (displ + processed)).map (template.toList ++ ·)
      else some []

/-- The templates a set announces, in order. -/
def announcedTemplates (handleIpfix : Bool) (set : SizedBuffer) : List FlowSetV9Ipfix :=
  if set.buffer 1 != 0 && !(handleIpfix && set.buffer 1 == 2) then
    (dissectOptionTemplate handleIpfix (set.after 4)).toList
  else (flowTemplates handleIpfix set (set.size + 1) 4).getD []

theorem after_size {sbuffer : SizedBuffer} {displ : Nat} (inside : displ ≤ sbuffer.size)
    (small : sbuffer.size < 2 ^ 64) : (sbuffer.after displ).size = sbuffer.size - displ := by
  simp only [SizedBuffer.after]
  omega

theorem dissectTemplateFields_after {handleIpfix : Bool} {sbuffer : SizedBuffer}
    {count displ : Nat} {fields : List TemplateField} {after : Nat}
    (parsed : dissectTemplateFields handleIpfix sbuffer count displ = some (fields, after)) :
    displ ≤ after ∧ fields.length = count := by
  induction count generalizing displ fields with
  | zero =>
      simp only [dissectTemplateFields, Option.some.injEq, Prod.mk.injEq] at parsed
      obtain ⟨rfl, rfl⟩ := parsed
      exact ⟨Nat.le_refl _, rfl⟩
  | succ count ih =>
      simp only [dissectTemplateFields] at parsed
      generalize (if (handleIpfix && sbuffer.buffer displ &&& 128 != 0) = true then 8 else 4) =
        fieldLen at parsed
      split at parsed
      · contradiction
      · obtain ⟨⟨rest, last⟩, parsedRest, same⟩ := Option.map_eq_some_iff.mp parsed
        cases same
        obtain ⟨le, lengths⟩ := ih parsedRest
        exact ⟨by omega, by rw [List.length_cons, lengths]⟩

theorem dissectFlowTemplate_processed_pos {handleIpfix : Bool} {sbuffer : SizedBuffer}
    (some : 0 < sbuffer.size) : 0 < (dissectFlowTemplate handleIpfix sbuffer).2 := by
  simp only [dissectFlowTemplate]
  split
  · exact some
  · split
    · exact some
    · next fields displ parsed =>
        have le := (dissectTemplateFields_after parsed).1
        split
        · exact some
        · simp only
          split <;> omega

theorem flowTemplates_ends (handleIpfix : Bool) {set : SizedBuffer}
    (small : set.size < 2 ^ 64) {turns displ : Nat} (left : 0 < turns)
    (enough : set.size < turns + displ) :
    ∃ templates, flowTemplates handleIpfix set turns displ = some templates := by
  induction turns generalizing displ with
  | zero => contradiction
  | succ turns ih =>
      rw [flowTemplates]
      by_cases inside : displ < set.size
      · have progress : 0 < (dissectFlowTemplate handleIpfix (set.after displ)).2 := by
          apply dissectFlowTemplate_processed_pos
          rw [after_size (by omega) small]
          omega
        obtain ⟨rest, parsed⟩ : ∃ rest, flowTemplates handleIpfix set turns
            (displ + (dissectFlowTemplate handleIpfix (set.after displ)).2) = some rest :=
          ih (by omega) (by omega)
        refine ⟨(dissectFlowTemplate handleIpfix (set.after displ)).1.toList ++ rest, ?_⟩
        simp only [if_pos inside, parsed, Option.map_some]
      · exact ⟨[], by rw [if_neg inside]⟩

theorem dissectFlowTemplates_eq {handleIpfix : Bool} {set : SizedBuffer} {turns displ : Nat}
    {templates : List FlowSetV9Ipfix}
    (parsed : flowTemplates handleIpfix set turns displ = some templates)
    (observationId : ObservationID) :
    dissectFlowTemplates handleIpfix set turns displ observationId =
      .ok (templates.foldl ObservationID.saveTemplate observationId) := by
  induction turns generalizing displ templates observationId with
  | zero => contradiction
  | succ turns ih =>
      rw [flowTemplates] at parsed
      rw [dissectFlowTemplates]
      by_cases inside : displ < set.size
      · simp only [if_pos inside, Option.map_eq_some_iff] at parsed
        obtain ⟨rest, parsedRest, rfl⟩ := parsed
        simp only [if_pos inside, ih parsedRest, List.foldl_append]
        cases (dissectFlowTemplate handleIpfix (set.after displ)).1 with
        | none => rfl
        | some template => rfl
      · rw [if_neg inside, Option.some.injEq] at parsed
        subst parsed
        rw [if_neg inside]
        rfl

theorem dissectNetFlowV9V10TemplateSet_eq (handleIpfix : Bool) {set : SizedBuffer}
    (small : set.size < 2 ^ 64) (observationId : ObservationID) :
    dissectNetFlowV9V10TemplateSet handleIpfix set observationId =
      .ok ((announcedTemplates handleIpfix set).foldl ObservationID.saveTemplate
        observationId) := by
  rw [dissectNetFlowV9V10TemplateSet, announcedTemplates]
  split
  · cases dissectOptionTemplate handleIpfix (set.after 4) with
    | none => rfl
    | some template => rfl
  · obtain ⟨templates, parsed⟩ :=
      flowTemplates_ends handleIpfix small (Nat.succ_pos set.size) (Nat.lt_add_right 4 (by omega))
    rw [dissectFlowTemplates_eq parsed, parsed]
    rfl

/-! Sets -/

/-- What one set leaves of the observation id, and its records. -/
def dissectSet (context : PacketContext) (flowSequenceNumber : UInt16)
    (observationId : ObservationID) (set : SizedBuffer) :
    Run (ObservationID × List FlowRecord) :=
  if isTemplateSet context.handleIpfix set then
    .ok ((announcedTemplates context.handleIpfix set).foldl ObservationID.saveTemplate
      observationId, [])
  else dissectNetFlowV9V10Flow context set observationId flowSequenceNumber

section

variable (context : PacketContext) {packet : SizedBuffer}

theorem dissectNetFlowV9V10Set_none (flowSequenceNumber : UInt16)
    (observationId : ObservationID) {displ : Nat} (noSet : setAt packet displ = none) :
    dissectNetFlowV9V10Set context packet flowSequenceNumber observationId displ =
      .ok { observationId, records := [], displ := packet.size + 1 } := by
  rw [dissectNetFlowV9V10Set]
  rw [setAt] at noSet
  split at noSet
  · next short => rw [if_pos short]; rfl
  · next long =>
      split at noSet
      · next short =>
          simp only [if_neg long, if_pos short]
          rfl
      · contradiction

theorem dissectNetFlowV9V10Set_some (flowSequenceNumber : UInt16)
    (observationId : ObservationID) {displ : Nat} {set : SizedBuffer}
    (found : setAt packet displ = some set) :
    dissectNetFlowV9V10Set context packet flowSequenceNumber observationId displ =
      (dissectSet context flowSequenceNumber observationId set).map fun result =>
        { observationId := result.1, records := result.2, displ := displ + set.size } := by
  rw [setAt] at found
  split at found
  · contradiction
  · next long =>
      split at found
      · contradiction
      · next fits =>
          cases found
          have kinds : isTemplateSet context.handleIpfix
              { buffer := packet.buffer.shift displ, size := packet.u16 (displ + 2) } =
              (packet.buffer displ == 0 || !context.handleIpfix && packet.u16 displ == 1) := by
            simp [isTemplateSet, SizedBuffer.u16]
          have small : packet.u16 (displ + 2) < 2 ^ 64 := by
            have := u16_lt packet (displ + 2)
            omega
          simp only [dissectNetFlowV9V10Set, if_neg long, if_neg fits, dissectSet, kinds]
          split
          · rw [dissectNetFlowV9V10TemplateSet_eq _ (by exact small)]
            rfl
          · cases dissectNetFlowV9V10Flow context _ observationId flowSequenceNumber with
            | error fault => rfl
            | ok result => rfl

/-- Nothing comes after a set that is not within the packet. -/
theorem dissectSets_beyond (bufferLen : Nat) (flowSequenceNumber : UInt32) (entries : Nat)
    (observationId : ObservationID) {displ : Nat} (noSet : setAt packet displ = none) :
    ∃ sets, dissectSets context packet bufferLen flowSequenceNumber entries observationId displ =
      .ok (observationId, sets) ∧ sets.flatten = [] := by
  induction entries generalizing displ with
  | zero => exact ⟨[], rfl, rfl⟩
  | succ entries ih =>
      rw [dissectSets]
      by_cases inside : displ < bufferLen
      · obtain ⟨sets, ran, empty⟩ :=
          ih (setAt_beyond (show packet.size < packet.size + 1 + 4 by omega))
        refine ⟨[] :: sets, ?_, by simpa using empty⟩
        rw [if_pos inside, dissectNetFlowV9V10Set_none context _ _ noSet, Run.ok_bind, ran]
        rfl
      · exact ⟨[], by rw [if_neg inside]; rfl, rfl⟩

theorem dissectSets_eq (bufferLen : Nat) (flowSequenceNumber : UInt32) (entries : Nat)
    (observationId : ObservationID) (displ : Nat) :
    (dissectSets context packet bufferLen flowSequenceNumber entries observationId displ).map
        (fun result => (result.1, result.2.flatten)) =
      (runSteps (dissectSet context flowSequenceNumber.toUInt16) observationId
        (packetSets packet bufferLen entries displ)).map
        fun result => (result.1, result.2.flatten) := by
  induction entries generalizing observationId displ with
  | zero => rfl
  | succ entries ih =>
      rw [packetSets]
      by_cases inside : displ < bufferLen
      · cases found : setAt packet displ with
        | none =>
            obtain ⟨sets, ran, empty⟩ :=
              dissectSets_beyond context bufferLen flowSequenceNumber (entries + 1)
                observationId found
            rw [ran, if_pos inside]
            simp only [Except.map, empty, runSteps, List.flatten_nil]
        | some set =>
            simp only [if_pos inside]
            rw [dissectSets, if_pos inside, dissectNetFlowV9V10Set_some context _ _ found,
              runSteps]
            cases dissectSet context flowSequenceNumber.toUInt16 observationId set with
            | error fault => rfl
            | ok result =>
                have rest := ih result.1 (displ + set.size)
                simp only [Except.map, Run.ok_bind] at rest ⊢
                cases left : dissectSets context packet bufferLen flowSequenceNumber entries
                    result.1 (displ + set.size) with
                | error fault =>
                    cases right : runSteps (dissectSet context flowSequenceNumber.toUInt16)
                        result.1 (packetSets packet bufferLen entries (displ + set.size)) with
                    | error other =>
                        rw [left, right] at rest
                        cases rest
                        rfl
                    | ok later =>
                        rw [left, right] at rest
                        contradiction
                | ok before =>
                    cases right : runSteps (dissectSet context flowSequenceNumber.toUInt16)
                        result.1 (packetSets packet bufferLen entries (displ + set.size)) with
                    | error other =>
                        rw [left, right] at rest
                        contradiction
                    | ok later =>
                        rw [left, right] at rest
                        simp only [Except.ok.injEq, Prod.mk.injEq] at rest
                        obtain ⟨observationIds, records⟩ := rest
                        simp only [Run.ok_bind, Run.pure_eq_ok, List.flatten_cons, records,
                          observationIds]
      · rw [dissectSets, if_neg inside, if_neg inside]
        rfl

end

/-! Packets -/

theorem headerNumber_lt (header : Mem) (offset length : Nat) :
    headerNumber header offset length < 256 ^ length := by
  have bound := beNat_lt ((header.shift offset).slice length)
  rwa [Mem.length_slice] at bound

def packetContext (globals : ReadOnlyGlobals) (buffer : Mem) : PacketContext where
  globals
  flowVersion := headerNumber buffer 0 2
  flowHeader := buffer

def packetHandleIpfix (buffer : Mem) : Bool :=
  headerNumber buffer 0 2 = 10

def packetSequence (buffer : Mem) : UInt32 :=
  UInt32.ofNat (headerNumber buffer (headerLayout (packetHandleIpfix buffer)).flowSequence 4)

def packetObservationId (buffer : Mem) : UInt32 :=
  UInt32.ofNat (headerNumber buffer (headerLayout (packetHandleIpfix buffer)).observationId 4)

/-- The sets of a V9 or IPFIX packet. -/
def setsOf (buffer : Mem) (bufferLen : Nat) : List SizedBuffer :=
  let numEntries := headerNumber buffer 2 2
  let size := if packetHandleIpfix buffer then min bufferLen numEntries else bufferLen
  packetSets { buffer, size } bufferLen numEntries (headerLayout (packetHandleIpfix buffer)).size

theorem dissectNetflowV9V10_eq (globals : ReadOnlyGlobals) (sensor : Sensor) (buffer : Mem)
    (bufferLen : Nat) :
    (dissectNetflowV9V10 globals sensor buffer bufferLen).map
        (fun dissected => (dissected.sensor, dissected.records)) =
      match sensor.getObservationId (packetObservationId buffer) with
      | none => .ok (sensor, [])
      | some observationId =>
          (runSteps (dissectSet (packetContext globals buffer) (packetSequence buffer).toUInt16)
            observationId (setsOf buffer bufferLen)).map fun result =>
              (sensor.updateObservationId (packetObservationId buffer) result.1,
                result.2.flatten) := by
  let numEntries := headerNumber buffer 2 2
  let size := if packetHandleIpfix buffer then min bufferLen numEntries else bufferLen
  let packet : SizedBuffer := { buffer, size }
  let id := packetObservationId buffer
  let update := fun (result : ObservationID × List FlowRecord) =>
    (sensor.updateObservationId id result.1, result.2)
  let flat := fun (result : ObservationID × List (List FlowRecord)) =>
    (result.1, result.2.flatten)
  have sets (observationId : ObservationID) := congrArg (Except.map update)
    (@dissectSets_eq (packetContext globals buffer) packet bufferLen (packetSequence buffer)
      numEntries observationId (headerLayout (packetHandleIpfix buffer)).size)
  change Except.map _ (match sensor.getObservationId id with
    | none => _
    | some observationId =>
        dissectSets (packetContext globals buffer) packet bufferLen (packetSequence buffer)
          numEntries observationId (headerLayout (packetHandleIpfix buffer)).size >>= _) = _
  cases sensor.getObservationId id with
  | none => rfl
  | some observationId =>
      have run := sets observationId
      simp only
      cases left : dissectSets (packetContext globals buffer) packet bufferLen
          (packetSequence buffer) numEntries observationId
          (headerLayout (packetHandleIpfix buffer)).size with
      | error fault =>
          rw [left] at run
          exact run.trans (comp_map (f := Except Fault) flat update _).symm
      | ok result =>
          rw [left] at run
          exact run.trans (comp_map (f := Except Fault) flat update _).symm

theorem dissectNetflowV9V10_outcome {globals : ReadOnlyGlobals} {sensor : Sensor} {buffer : Mem}
    {bufferLen : Nat} {fails : Fault → Prop} (post : Sensor → List FlowRecord → Prop)
    (unknown : sensor.getObservationId (packetObservationId buffer) = none → post sensor [])
    (known : ∀ observationId,
      sensor.getObservationId (packetObservationId buffer) = some observationId →
      Outcome fails
        (fun result =>
          post (sensor.updateObservationId (packetObservationId buffer) result.1)
            result.2.flatten)
        (runSteps (dissectSet (packetContext globals buffer) (packetSequence buffer).toUInt16)
          observationId (setsOf buffer bufferLen))) :
    Outcome fails (fun dissected => post dissected.sensor dissected.records)
      (dissectNetflowV9V10 globals sensor buffer bufferLen) := by
  have mapped : Outcome fails (fun result => post result.1 result.2)
      ((dissectNetflowV9V10 globals sensor buffer bufferLen).map
        fun dissected => (dissected.sensor, dissected.records)) := by
    rw [dissectNetflowV9V10_eq]
    cases found : sensor.getObservationId (packetObservationId buffer) with
    | none => exact unknown found
    | some observationId => exact Outcome.map_iff.mpr (known observationId found)
  exact Outcome.map_iff.mp mapped

end F2k
