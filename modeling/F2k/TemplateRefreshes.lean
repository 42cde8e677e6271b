import F2k.SameRecords

namespace F2k

open Lib

/-! Datagrams that only announce templates: exporters send them again and again, and they may
be lost, repeated or overtake each other. -/

namespace Received

/-- The templates that the sets of a datagram announce, in order. -/
def announced (received : Received) : List FlowSetV9Ipfix :=
  received.sets.flatMap fun set =>
    if isTemplateSet received.handleIpfix set then announcedTemplates received.handleIpfix set
    else []

def templatesOnly (received : Received) : Bool :=
  received.hasSets && received.sets.all (isTemplateSet received.handleIpfix)

/-- What a datagram announces, when this is the observation id that answers for its own. -/
def announcedTo (received : Received) (configuredId : UInt32 → Option UInt32)
    (configured : Option UInt32) : List FlowSetV9Ipfix :=
  if received.hasSets && configuredId (packetObservationId received.buffer) == configured then
    received.announced
  else []

end Received

/-! Observation ids -/

theorem saveTemplates_keeps (templates : List FlowSetV9Ipfix) (observationId : ObservationID) :
    templates.foldl ObservationID.saveTemplate observationId =
      { observationId with
        templates := (templates.foldl ObservationID.saveTemplate observationId).templates } := by
  induction templates generalizing observationId with
  | nil => rfl
  | cons template rest ih =>
      rw [List.foldl_cons, ih]
      rfl

/-- What counts of the templates that are saved is the last one under each id. -/
theorem saveTemplates_answersAlike {templates others : List FlowSetV9Ipfix}
    {observationId : ObservationID}
    (same : ∀ id, ((lastTemplate templates id).map storedTemplate).or
        (observationId.getTemplate id) =
      ((lastTemplate others id).map storedTemplate).or (observationId.getTemplate id)) :
    (templates.foldl ObservationID.saveTemplate observationId).AnswersAlike
      (others.foldl ObservationID.saveTemplate observationId) where
  settings := by
    rw [saveTemplates_keeps templates, saveTemplates_keeps others]
    rfl
  names := by
    rw [saveTemplates_keeps templates, saveTemplates_keeps others]
    exact ⟨fun _ => rfl, fun _ => rfl, fun _ => rfl⟩
  templates := by
    intro id
    rw [getTemplate_foldl_saveTemplate, getTemplate_foldl_saveTemplate, same id]

theorem runSteps_dissectSet_templates {context : PacketContext} {flowSequenceNumber : UInt16}
    {sets : List SizedBuffer}
    (templates : ∀ set ∈ sets, isTemplateSet context.handleIpfix set = true)
    (observationId : ObservationID) :
    (runSteps (dissectSet context flowSequenceNumber) observationId sets).map
        (fun result => (result.1, result.2.flatten)) =
      .ok ((sets.flatMap fun set =>
          if isTemplateSet context.handleIpfix set then
            announcedTemplates context.handleIpfix set
          else []).foldl ObservationID.saveTemplate observationId, []) := by
  induction sets generalizing observationId with
  | nil => rfl
  | cons set rest ih =>
      obtain ⟨first, others⟩ := List.forall_mem_cons.mp templates
      have later := ih others
        ((announcedTemplates context.handleIpfix set).foldl ObservationID.saveTemplate
          observationId)
      rw [runSteps, dissectSet, if_pos first, List.flatMap_cons, if_pos first,
        List.foldl_append]
      obtain ⟨result, ran, same⟩ := exists_of_map_eq_ok later
      simp only [Run.ok_bind, ran]
      exact congrArg Except.ok same

/-! Sensors -/

/-- A sensor after a datagram that only announces templates. -/
def Sensor.announce (sensor : Sensor) (received : Received) : Sensor :=
  match sensor.getObservationId (packetObservationId received.buffer) with
  | none => sensor
  | some observationId =>
      sensor.updateObservationId (packetObservationId received.buffer)
        (received.announced.foldl ObservationID.saveTemplate observationId)

theorem dissectReceived_announces {received : Received} (only : received.templatesOnly = true)
    (sensor : Sensor) : dissectReceived sensor received = .ok (sensor.announce received, []) := by
  obtain ⟨hasSets, all⟩ := Bool.and_eq_true_iff.mp only
  rw [dissectReceived_sets hasSets, Sensor.announce]
  cases sensor.getObservationId (packetObservationId received.buffer) with
  | none => rfl
  | some observationId =>
      have templates : ∀ set ∈ received.sets,
          isTemplateSet received.context.handleIpfix set = true := List.all_eq_true.mp all
      have ran := @runSteps_dissectSet_templates received.context
        (packetSequence received.buffer).toUInt16 received.sets templates observationId
      obtain ⟨result, ends, same⟩ := exists_of_map_eq_ok ran
      obtain ⟨saved, silent⟩ := Prod.mk.inj same
      simp only
      rw [show runSteps received.dissectSet observationId
        (setsOf received.buffer received.bufferLen) = .ok result from ends]
      change Except.ok (sensor.updateObservationId _ result.1, result.2.flatten) = _
      rw [saved, silent]
      rfl

theorem configuredId_announce (sensor : Sensor) (received : Received) :
    (sensor.announce received).configuredId = sensor.configuredId := by
  unfold Sensor.announce
  cases sensor.getObservationId (packetObservationId received.buffer) with
  | none => rfl
  | some observationId =>
      funext id
      exact Sensor.configuredId_updateObservationId _ id

theorem configured_announce {received : Received} (hasSets : received.hasSets = true)
    (sensor : Sensor) (configured : Option UInt32) :
    (sensor.announce received).configured configured =
      (sensor.configured configured).map fun observationId =>
        (received.announcedTo sensor.configuredId configured).foldl ObservationID.saveTemplate
          observationId := by
  rw [Sensor.announce, Received.announcedTo, hasSets, Bool.true_and, Sensor.getObservationId_eq]
  by_cases answers :
      sensor.configuredId (packetObservationId received.buffer) = configured
  · subst answers
    rw [beq_self_eq_true, if_pos rfl]
    cases known : sensor.configured
        (sensor.configuredId (packetObservationId received.buffer)) with
    | none => simpa using known
    | some observationId =>
        simp only [Sensor.configured_updateObservationId, if_true, Option.map_some]
  · rw [beq_false_of_ne answers]
    cases known : sensor.configured
        (sensor.configuredId (packetObservationId received.buffer)) with
    | none => simp
    | some observationId =>
        simp only [Sensor.configured_updateObservationId, if_neg (Ne.symm answers)]
        simp

/-! Runs -/

/-- The records of the datagrams, one after another. -/
def printedOf (sensor : Sensor) (datagrams : List Received) : Run (List FlowRecord) :=
  (runSteps dissectReceived sensor datagrams).map fun result => result.2.flatten

theorem Sensor.AnswersAlike.printedOf {one other : Sensor} (alike : one.AnswersAlike other)
    (datagrams : List Received) :
    F2k.printedOf one datagrams = F2k.printedOf other datagrams := by
  apply Together.eq
  refine (alike.runSteps datagrams).map ?_
  intro left right after
  rw [after.2]

/-- Nothing is printed for announcements. -/
theorem printedOf_announcements {announcements : List Received}
    (only : ∀ received ∈ announcements, received.templatesOnly = true) (sensor : Sensor)
    (rest : List Received) :
    printedOf sensor (announcements ++ rest) =
      printedOf (announcements.foldl Sensor.announce sensor) rest := by
  induction announcements generalizing sensor with
  | nil => rfl
  | cons received others ih =>
      obtain ⟨first, later⟩ := List.forall_mem_cons.mp only
      rw [List.foldl_cons, ← ih later, printedOf, printedOf, List.cons_append, runSteps,
        dissectReceived_announces first, Run.ok_bind]
      change ((runSteps dissectReceived (sensor.announce received) _ >>= _).map _) = _
      cases runSteps dissectReceived (sensor.announce received) (others ++ rest) with
      | error fault => rfl
      | ok result => rfl

theorem configuredId_announcements (announcements : List Received) (sensor : Sensor) :
    (announcements.foldl Sensor.announce sensor).configuredId = sensor.configuredId := by
  induction announcements generalizing sensor with
  | nil => rfl
  | cons received others ih => exact (ih _).trans (configuredId_announce sensor received)

theorem configured_announcements {announcements : List Received}
    (hasSets : ∀ received ∈ announcements, received.hasSets = true) (sensor : Sensor)
    (configured : Option UInt32) :
    (announcements.foldl Sensor.announce sensor).configured configured =
      (sensor.configured configured).map fun observationId =>
        (announcements.flatMap fun received =>
          received.announcedTo sensor.configuredId configured).foldl
            ObservationID.saveTemplate observationId := by
  induction announcements generalizing sensor with
  | nil => simp
  | cons received others ih =>
      obtain ⟨first, later⟩ := List.forall_mem_cons.mp hasSets
      rw [List.foldl_cons, ih later, configured_announce first, configuredId_announce,
        Option.map_map]
      congr 1
      funext observationId
      rw [List.flatMap_cons, List.foldl_append]
      rfl

/-- Which template each observation id has last for an id is all that counts of a sequence of
announcements: not their order, nor which of them come twice or are lost. -/
theorem printedOf_announcements_congr {sensor : Sensor} {announcements others : List Received}
    (only : ∀ received ∈ announcements ++ others, received.templatesOnly = true)
    (same : ∀ configured id,
      lastTemplate (announcements.flatMap fun received =>
          received.announcedTo sensor.configuredId configured) id =
        lastTemplate (others.flatMap fun received =>
          received.announcedTo sensor.configuredId configured) id)
    (rest : List Received) :
    printedOf sensor (announcements ++ rest) = printedOf sensor (others ++ rest) := by
  obtain ⟨onlyOne, onlyOther⟩ := List.forall_mem_append.mp only
  have hasSets : ∀ {received : Received}, received.templatesOnly = true →
      received.hasSets = true := fun only => (Bool.and_eq_true_iff.mp only).1
  rw [printedOf_announcements onlyOne, printedOf_announcements onlyOther]
  apply Sensor.AnswersAlike.printedOf
  constructor
  · rw [configuredId_announcements, configuredId_announcements]
  · intro configured
    rw [configured_announcements fun received member => hasSets (onlyOne received member),
      configured_announcements fun received member => hasSets (onlyOther received member)]
    cases sensor.configured configured with
    | none => exact .none
    | some observationId =>
        refine .some (saveTemplates_answersAlike ?_)
        intro id
        rw [same configured id]

def announcementOf (templateId : Nat) : Received :=
  (packetOf [setBytes 0 (templateBytes templateId [(500, 4)])]).received

def dataOf (templateId : Nat) : Received :=
  (packetOf [setBytes templateId [1, 2, 3, 4]]).received

/-- The second announcement comes first, and once more at the end. -/
theorem printedOf_announcements_congr_overtaken :
    printedOf (sensorOf (.new 7))
        ([announcementOf 257, announcementOf 258] ++ [dataOf 257, dataOf 258]) =
      printedOf (sensorOf (.new 7))
        ([announcementOf 258, announcementOf 257, announcementOf 258] ++
          [dataOf 257, dataOf 258]) := by
  apply printedOf_announcements_congr
  · decide +kernel
  · intro configured id
    simp only [List.flatMap_cons, List.flatMap_nil, lastTemplate_append, List.append_nil]
    cases lastTemplate ((announcementOf 258).announcedTo
        (sensorOf (.new 7)).configuredId configured) id with
    | none => rw [Option.or_none]
    | some template => rfl

/-! Data in between -/

/-- Templates that no set announces stay as they are. -/
theorem runSteps_dissectSet_keepsTemplates (context : PacketContext)
    (flowSequenceNumber : UInt16) {sets : List SizedBuffer} {id : UInt16}
    (silent : ∀ set ∈ sets, isTemplateSet context.handleIpfix set = true →
      ∀ template ∈ announcedTemplates context.handleIpfix set, template.templateId ≠ id)
    (observationId : ObservationID) :
    Outcome (fun _ => True) (fun result => result.1.getTemplate id = observationId.getTemplate id)
      (runSteps (dissectSet context flowSequenceNumber) observationId sets) := by
  induction sets generalizing observationId with
  | nil => exact rfl
  | cons set rest ih =>
      obtain ⟨first, others⟩ := List.forall_mem_cons.mp silent
      have one : Outcome (fun _ => True)
          (fun result => result.1.getTemplate id = observationId.getTemplate id)
          (dissectSet context flowSequenceNumber observationId set) := by
        rw [dissectSet]
        split
        · next isTemplate =>
            have absent := lastTemplate_eq_none.mpr (first isTemplate)
            change ObservationID.getTemplate _ id = _
            rw [getTemplate_foldl_saveTemplate, absent]
            rfl
        · refine (dissectNetFlowV9V10Flow_templates context set observationId _).mono ?_
          intro result kept
          rw [ObservationID.getTemplate, kept]
          rfl
      rw [runSteps]
      refine one.bind ?_
      intro result _ kept
      refine (ih others result.1).bind ?_
      intro final _ keptLater
      exact keptLater.trans kept

/-- What a datagram leaves of the observation ids it was dissected with. -/
structure Sensor.KeepsTemplates (sensor : Sensor) (received : Received) (next : Sensor) :
    Prop where
  configuredId : next.configuredId = sensor.configuredId
  configured : ∀ configured changed, next.configured configured = some changed →
    ∃ observationId, sensor.configured configured = some observationId ∧
      ∀ id, (∀ template ∈ received.announcedTo sensor.configuredId configured,
        template.templateId ≠ id) → changed.getTemplate id = observationId.getTemplate id

theorem Sensor.KeepsTemplates.refl (sensor : Sensor) (received : Received) :
    sensor.KeepsTemplates received sensor :=
  ⟨rfl, fun _ changed known => ⟨changed, known, fun _ _ => rfl⟩⟩

theorem dissectReceived_keepsTemplates (sensor : Sensor) (received : Received) :
    Outcome (fun _ => True) (fun result => sensor.KeepsTemplates received result.1)
      (dissectReceived sensor received) := by
  apply dissectReceived_outcome fun next _ => sensor.KeepsTemplates received next
  · exact fun _ => .refl sensor received
  · intro hasSets observationId known
    have each : ∀ id, Outcome (fun _ => True)
        (fun result => (∀ template ∈ received.announced, template.templateId ≠ id) →
          result.1.getTemplate id = observationId.getTemplate id)
        (runSteps received.dissectSet observationId
          (setsOf received.buffer received.bufferLen)) := by
      intro id
      by_cases silent : ∀ template ∈ received.announced, template.templateId ≠ id
      · refine (runSteps_dissectSet_keepsTemplates received.context _ ?_ observationId).mono
          fun _ kept _ => kept
        intro set member isTemplate template announces
        apply silent template
        refine List.mem_flatMap.mpr ⟨set, member, ?_⟩
        rw [if_pos (show isTemplateSet received.handleIpfix set = true from isTemplate)]
        exact announces
      · cases runSteps received.dissectSet observationId
            (setsOf received.buffer received.bufferLen) with
        | error fault => exact trivial
        | ok result => exact fun quiet => absurd quiet silent
    cases ran : runSteps received.dissectSet observationId
        (setsOf received.buffer received.bufferLen) with
    | error fault => exact trivial
    | ok result =>
        constructor
        · exact funext (Sensor.configuredId_updateObservationId _)
        · intro configured changed found
          rw [Sensor.configured_updateObservationId] at found
          by_cases answers : configured = sensor.configuredId (packetObservationId received.buffer)
          · rw [if_pos answers] at found
            cases found
            rw [Sensor.getObservationId_eq, ← answers] at known
            refine ⟨observationId, known, ?_⟩
            intro id silent
            rw [Received.announcedTo, hasSets, answers] at silent
            simp only [beq_self_eq_true, Bool.and_self, if_true] at silent
            exact (each id).of_ok ran silent
          · rw [if_neg answers] at found
            exact ⟨changed, found, fun _ _ => rfl⟩
  · intro _
    refine (dissectNetFlowV5_unchanged _ _ _).mono ?_
    intro _ _
    exact .refl sensor received

/-- The sensor has the templates of an announcement, as far as it has the observation id. -/
def Sensor.Has (sensor : Sensor) (refresh : Received) : Prop :=
  ∀ observationId,
    sensor.getObservationId (packetObservationId refresh.buffer) = some observationId →
    ∀ id template, lastTemplate refresh.announced id = some template →
      observationId.getTemplate id = some (storedTemplate template)

theorem Sensor.Has.answersAlike {sensor : Sensor} {refresh : Received}
    (hasSets : refresh.hasSets = true) (has : sensor.Has refresh) :
    sensor.AnswersAlike (sensor.announce refresh) where
  configuredId := configuredId_announce sensor refresh
  configured := by
    intro configured
    rw [configured_announce hasSets, Received.announcedTo, hasSets, Bool.true_and]
    cases known : sensor.configured configured with
    | none => exact .none
    | some observationId =>
        refine .some ?_
        by_cases answers : sensor.configuredId (packetObservationId refresh.buffer) = configured
        · rw [answers, beq_self_eq_true, if_pos rfl]
          rw [← answers, ← Sensor.getObservationId_eq] at known
          apply @saveTemplates_answersAlike []
          intro id
          cases last : lastTemplate refresh.announced id with
          | none => rfl
          | some template => exact has observationId known id template last
        · rw [beq_false_of_ne answers]
          exact .refl observationId

theorem Sensor.has_announce (sensor : Sensor) {refresh : Received}
    (hasSets : refresh.hasSets = true) : (sensor.announce refresh).Has refresh := by
  intro changed known id template last
  rw [Sensor.getObservationId_eq, configuredId_announce, configured_announce hasSets,
    Received.announcedTo, hasSets, beq_self_eq_true, Bool.and_self, if_pos rfl] at known
  obtain ⟨observationId, _, rfl⟩ := Option.map_eq_some_iff.mp known
  rw [getTemplate_foldl_saveTemplate, last]
  rfl

/-- No datagram announces one of the templates for the same observation id. -/
def Silent (configuredId : UInt32 → Option UInt32) (refresh : Received)
    (between : List Received) : Prop :=
  ∀ received ∈ between,
    ∀ template ∈ received.announcedTo configuredId
      (configuredId (packetObservationId refresh.buffer)),
    ∀ announced ∈ refresh.announced, template.templateId ≠ announced.templateId

theorem Sensor.Has.runSteps {sensor : Sensor} {refresh : Received} (has : sensor.Has refresh)
    {between : List Received} (silent : Silent sensor.configuredId refresh between) :
    Outcome (fun _ => True) (fun result => result.1.Has refresh)
      (Lib.runSteps dissectReceived sensor between) := by
  induction between generalizing sensor with
  | nil => exact has
  | cons received rest ih =>
      obtain ⟨first, later⟩ := List.forall_mem_cons.mp silent
      rw [Lib.runSteps]
      refine (dissectReceived_keepsTemplates sensor received).bind ?_
      intro result _ keeps
      have hasStill : result.1.Has refresh := by
        intro changed known id template last
        rw [Sensor.getObservationId_eq, keeps.configuredId] at known
        obtain ⟨observationId, before, same⟩ := keeps.configured _ changed known
        rw [← Sensor.getObservationId_eq] at before
        rw [same id, has observationId before id template last]
        have member : ∃ announced ∈ refresh.announced, announced.templateId = id := by
          by_contra absent
          push Not at absent
          rw [lastTemplate_eq_none.mpr absent] at last
          contradiction
        obtain ⟨announced, inRefresh, rfl⟩ := member
        exact fun other announces => first other announces announced inRefresh
      have stillSilent : Silent result.1.configuredId refresh rest := by
        rw [keeps.configuredId]
        exact later
      refine (ih hasStill stillSilent).bind ?_
      intro final _ hasFinally
      exact hasFinally

theorem printedOf_append (sensor : Sensor) (datagrams more : List Received) :
    printedOf sensor (datagrams ++ more) =
      runSteps dissectReceived sensor datagrams >>= fun reached =>
        (printedOf reached.1 more).map (reached.2.flatten ++ ·) := by
  rw [printedOf, runSteps_append]
  cases runSteps dissectReceived sensor datagrams with
  | error fault => rfl
  | ok reached =>
      rw [Run.ok_bind, Run.ok_bind, printedOf]
      cases runSteps dissectReceived reached.1 more with
      | error fault => rfl
      | ok result => exact congrArg Except.ok List.flatten_append

/-- Templates that are sent again, after whatever did not announce others in their place, leave
no trace in any later record. -/
theorem printedOf_refresh {sensor : Sensor} {refresh : Received}
    (only : refresh.templatesOnly = true) {between : List Received}
    (silent : Silent sensor.configuredId refresh between) (rest : List Received) :
    printedOf sensor (refresh :: (between ++ refresh :: rest)) =
      printedOf sensor (refresh :: (between ++ rest)) := by
  have hasSets : refresh.hasSets = true := (Bool.and_eq_true_iff.mp only).1
  have once : ∀ (sensor : Sensor) (more : List Received),
      printedOf sensor (refresh :: more) = printedOf (sensor.announce refresh) more := by
    intro sensor more
    exact @printedOf_announcements [refresh] (List.forall_mem_singleton.mpr only) sensor more
  rw [once, once, printedOf_append, printedOf_append]
  have has : (sensor.announce refresh).Has refresh := sensor.has_announce hasSets
  have silent : Silent (sensor.announce refresh).configuredId refresh between := by
    rw [configuredId_announce]
    exact silent
  have after := has.runSteps silent
  cases ran : runSteps dissectReceived (sensor.announce refresh) between with
  | error fault => rfl
  | ok reached =>
      have hasStill : reached.1.Has refresh := after.of_ok ran
      rw [Run.ok_bind, Run.ok_bind, once,
        ← (hasStill.answersAlike hasSets).printedOf rest]

theorem printedOf_refresh_betweenData :
    printedOf (sensorOf (.new 7)) (announcementOf 257 ::
        ([dataOf 257, announcementOf 258] ++ announcementOf 257 :: [dataOf 257, dataOf 258])) =
      printedOf (sensorOf (.new 7)) (announcementOf 257 ::
        ([dataOf 257, announcementOf 258] ++ [dataOf 257, dataOf 258])) := by
  apply printedOf_refresh
  · decide +kernel
  · intro received member
    simp only [List.mem_cons, List.not_mem_nil, or_false] at member
    rcases member with rfl | rfl
    · decide +kernel
    · decide +kernel

end F2k
