import F2k.Datagrams
import F2k.Encode
import F2k.TemplateStore
import Mathlib.Algebra.Order.BigOperators.Group.List

namespace F2k

open Lib

/-! The templates of all sensors over whole runs: what is found is what was accepted last. -/

/-! Which templates are to be accepted -/

section Acceptance

variable (handleIpfix : Bool) (sbuffer : SizedBuffer)

/-- The lengths of the fields that a template announces, when all of them are within the
buffer. -/
def announcedLengths : Nat → Nat → Option (List UInt16)
  | 0, _ => some []
  | count + 1, displ =>
      let taken := if handleIpfix && sbuffer.buffer displ &&& 0x80 != 0 then 8 else 4
      if displ + taken ≤ sbuffer.size then
        (announcedLengths count (displ + taken)).map
          (UInt16.ofNat (sbuffer.u16 (displ + 2)) :: ·)
      else none

/-- How long the fields with a fixed length are: 65535 is one in V9. -/
def fixedLengths (lengths : List UInt16) : Nat :=
  (lengths.map fun length => if handleIpfix ∧ length = 65535 then 0 else length.toNat).sum

/-- Whether a flow template is one to accept: the header and all fields fit, and there are not
too many nor too long ones. -/
def acceptable : Bool :=
  4 ≤ sbuffer.size && sbuffer.u16 2 ≤ 128 &&
    (announcedLengths handleIpfix sbuffer (sbuffer.u16 2) 4).any fun lengths =>
      fixedLengths handleIpfix lengths ≤ 1500

/-- What the parser takes for a template although it is none: a header that does not fit and
reads as one of no fields, and a field of V9 that is as long as only IPFIX fields may seem. -/
structure Tolerated : Prop where
  header : sbuffer.size < 4 → sbuffer.u16 2 ≠ 0
  lengths : handleIpfix = false → sbuffer.u16 2 ≤ 128 → ∀ lengths,
    announcedLengths handleIpfix sbuffer (sbuffer.u16 2) 4 = some lengths →
    fixedLengths true lengths ≤ 1500 → 65535 ∉ lengths

variable {handleIpfix sbuffer}

theorem announcedLengths_eq (count displ : Nat) :
    announcedLengths handleIpfix sbuffer count displ =
      (dissectTemplateFields handleIpfix sbuffer count displ).map fun parsed =>
        parsed.1.map TemplateField.fieldLen := by
  induction count generalizing displ with
  | zero => rfl
  | succ count ih =>
      simp only [announcedLengths, dissectTemplateFields]
      generalize (if (handleIpfix && sbuffer.buffer displ &&& 128 != 0) = true then 8 else 4) =
        taken
      by_cases fits : displ + taken ≤ sbuffer.size
      · rw [if_pos fits, if_neg (Nat.not_lt.mpr fits), ih, Option.map_map, Option.map_map]
        rfl
      · rw [if_neg fits, if_pos (Nat.lt_of_not_le fits)]
        rfl

theorem accumulatedLen_eq (fields : List TemplateField) :
    accumulatedLen fields = fixedLengths true (fields.map TemplateField.fieldLen) := by
  simp only [accumulatedLen, fixedLengths, List.map_map, true_and]
  rfl

/-- Only the length 65535 makes a difference between the protocols. -/
theorem fixedLengths_false_le_iff {lengths : List UInt16}
    (short : fixedLengths true lengths ≤ 1500) :
    fixedLengths false lengths ≤ 1500 ↔ 65535 ∉ lengths := by
  constructor
  · intro le member
    have part : (65535 : UInt16).toNat ≤ fixedLengths false lengths := by
      have one := List.single_le_sum (l := lengths.map fun length =>
        if false = true ∧ length = 65535 then 0 else length.toNat) (by simp) _
        (List.mem_map_of_mem member)
      exact one
    have large : (65535 : UInt16).toNat = 65535 := rfl
    omega
  · intro absent
    have same : fixedLengths false lengths = fixedLengths true lengths := by
      rw [fixedLengths, fixedLengths]
      congr 1
      apply List.map_congr_left
      intro length member
      have other : length ≠ 65535 := fun same => absent (same ▸ member)
      simp [other]
    omega

theorem acceptable_iff :
    acceptable handleIpfix sbuffer = true ↔
      4 ≤ sbuffer.size ∧ sbuffer.u16 2 ≤ 128 ∧ ∃ lengths,
        announcedLengths handleIpfix sbuffer (sbuffer.u16 2) 4 = some lengths ∧
          fixedLengths handleIpfix lengths ≤ 1500 := by
  simp [acceptable, Option.any_eq_true, and_assoc]

theorem dissectFlowTemplate_isSome_iff :
    (dissectFlowTemplate handleIpfix sbuffer).1.isSome ↔
      sbuffer.u16 2 ≤ 128 ∧ ∃ lengths,
        announcedLengths handleIpfix sbuffer (sbuffer.u16 2) 4 = some lengths ∧
          fixedLengths true lengths ≤ 1500 := by
  simp only [dissectFlowTemplate, announcedLengths_eq]
  by_cases many : sbuffer.u16 2 > 128
  · simp only [if_pos many, Option.isSome_none, Bool.false_eq_true, false_iff, not_and]
    omega
  · rw [if_neg many]
    cases dissectTemplateFields handleIpfix sbuffer (sbuffer.u16 2) 4 with
    | none => simp
    | some parsed =>
        simp only [accumulatedLen_eq]
        by_cases long : fixedLengths true (parsed.1.map TemplateField.fieldLen) > 1500
        · simp only [if_pos long, Option.isSome_none, Bool.false_eq_true, false_iff, not_and,
            Option.map_some, Option.some.injEq, exists_eq_left']
          omega
        · simp only [if_neg long, Option.isSome_some, true_iff, Option.map_some,
            Option.some.injEq, exists_eq_left']
          omega

/-- The parser takes nothing but what is to be accepted exactly when the template is
tolerated. -/
theorem tolerated_iff :
    Tolerated handleIpfix sbuffer ↔
      ((dissectFlowTemplate handleIpfix sbuffer).1.isSome →
        acceptable handleIpfix sbuffer = true) := by
  rw [dissectFlowTemplate_isSome_iff, acceptable_iff]
  constructor
  · rintro ⟨header, noVariable⟩ ⟨few, lengths, announced, short⟩
    refine ⟨?_, few, lengths, announced, ?_⟩
    · by_contra notHeader
      obtain ⟨count, more⟩ := Nat.exists_eq_succ_of_ne_zero (header (by omega))
      rw [more, Nat.succ_eq_add_one] at announced
      simp only [announcedLengths] at announced
      rw [if_neg (by split <;> omega)] at announced
      cases announced
    · cases handleIpfix with
      | true => exact short
      | false =>
          exact (fixedLengths_false_le_iff short).mpr (noVariable rfl few lengths announced short)
  · intro accepts
    constructor
    · intro notHeader none
      have announced : announcedLengths handleIpfix sbuffer (sbuffer.u16 2) 4 = some [] := by
        rw [none]
        rfl
      have taken := accepts ⟨by omega, [], announced, Nat.zero_le _⟩
      omega
    · rintro rfl few lengths announced short
      obtain ⟨_, _, others, same, all⟩ := accepts ⟨few, lengths, announced, short⟩
      obtain rfl := Option.some.inj (announced.symm.trans same)
      exact (fixedLengths_false_le_iff short).mp all

end Acceptance

/-! Sets and packets -/

/-- Where the loop over the templates of a set looks for one. -/
def templateBuffers (handleIpfix : Bool) (set : SizedBuffer) : Nat → Nat → List SizedBuffer
  | 0, _ => []
  | turns + 1, displ =>
      if displ < set.size then
        set.after displ ::
          templateBuffers handleIpfix set turns
            (displ + (dissectFlowTemplate handleIpfix (set.after displ)).2)
      else []

def hasOptionTemplate (handleIpfix : Bool) (set : SizedBuffer) : Bool :=
  set.buffer 1 != 0 && !(handleIpfix && set.buffer 1 == 2)

/-- The templates of a set that are to be accepted. -/
def acceptedTemplates (handleIpfix : Bool) (set : SizedBuffer) : List FlowSetV9Ipfix :=
  if hasOptionTemplate handleIpfix set then
    (dissectOptionTemplate handleIpfix (set.after 4)).toList
  else
    (templateBuffers handleIpfix set (set.size + 1) 4).flatMap fun sbuffer =>
      if acceptable handleIpfix sbuffer then (dissectFlowTemplate handleIpfix sbuffer).1.toList
      else []

def SetTolerated (handleIpfix : Bool) (set : SizedBuffer) : Prop :=
  isTemplateSet handleIpfix set = true → hasOptionTemplate handleIpfix set = false →
    ∀ sbuffer ∈ templateBuffers handleIpfix set (set.size + 1) 4, Tolerated handleIpfix sbuffer

theorem flowTemplates_eq {handleIpfix : Bool} {set : SizedBuffer} {turns displ : Nat}
    {templates : List FlowSetV9Ipfix}
    (parsed : flowTemplates handleIpfix set turns displ = some templates) :
    templates = (templateBuffers handleIpfix set turns displ).flatMap fun sbuffer =>
      (dissectFlowTemplate handleIpfix sbuffer).1.toList := by
  induction turns generalizing displ templates with
  | zero => contradiction
  | succ turns ih =>
      rw [flowTemplates] at parsed
      rw [templateBuffers]
      by_cases inside : displ < set.size
      · simp only [if_pos inside, Option.map_eq_some_iff] at parsed
        obtain ⟨rest, parsedRest, rfl⟩ := parsed
        rw [if_pos inside, List.flatMap_cons, ← ih parsedRest]
      · rw [if_neg inside, Option.some.injEq] at parsed
        rw [if_neg inside, ← parsed]
        rfl

theorem acceptedTemplates_eq {handleIpfix : Bool} {set : SizedBuffer} (small : set.size < 2 ^ 64)
    (isTemplate : isTemplateSet handleIpfix set = true)
    (tolerated : SetTolerated handleIpfix set) :
    acceptedTemplates handleIpfix set = announcedTemplates handleIpfix set := by
  rw [acceptedTemplates, announcedTemplates]
  cases isOption : hasOptionTemplate handleIpfix set with
  | true =>
      rw [hasOptionTemplate] at isOption
      rw [isOption]
      rfl
  | false =>
      obtain ⟨templates, parsed⟩ := flowTemplates_ends handleIpfix small
        (Nat.succ_pos set.size) (Nat.lt_add_right 4 (by omega))
      have all := tolerated isTemplate isOption
      rw [hasOptionTemplate] at isOption
      rw [isOption, parsed, flowTemplates_eq parsed]
      apply List.flatMap_congr
      intro sbuffer member
      have takes := tolerated_iff.mp (all sbuffer member)
      cases taken : (dissectFlowTemplate handleIpfix sbuffer).1 with
      | none => simp
      | some template => simp [takes (by rw [taken]; rfl)]

def acceptedOf (handleIpfix : Bool) (sets : List SizedBuffer) : List FlowSetV9Ipfix :=
  sets.flatMap fun set =>
    if isTemplateSet handleIpfix set then acceptedTemplates handleIpfix set else []

theorem acceptedOf_cons (handleIpfix : Bool) (set : SizedBuffer) (rest : List SizedBuffer) :
    acceptedOf handleIpfix (set :: rest) =
      (if isTemplateSet handleIpfix set then acceptedTemplates handleIpfix set else []) ++
        acceptedOf handleIpfix rest := rfl

theorem size_of_mem_packetSets {packet set : SizedBuffer} {bufferLen entries displ : Nat}
    (member : set ∈ packetSets packet bufferLen entries displ) : set.size < 2 ^ 64 := by
  induction entries generalizing displ with
  | zero => contradiction
  | succ entries ih =>
      rw [packetSets] at member
      split at member
      · cases found : setAt packet displ with
        | none =>
            rw [found] at member
            contradiction
        | some first =>
            rw [found] at member
            rcases List.mem_cons.mp member with rfl | inRest
            · have length := (setAt_eq_some found).2.1
              have bound := u16_lt set 2
              omega
            · exact ih inRest
      · contradiction

theorem dissectNetFlowV9V10Flow_templates (context : PacketContext) (set : SizedBuffer)
    (observationId : ObservationID) (flowSequenceNumber : UInt16) :
    Outcome (fun _ => True) (fun result => result.1.templates = observationId.templates)
      (dissectNetFlowV9V10Flow context set observationId flowSequenceNumber) := by
  rw [dissectNetFlowV9V10Flow]
  cases usableTemplate observationId (set.u16 0) with
  | none => exact rfl
  | some template =>
      cases isOption : template.isOptionTemplate with
      | true =>
          simp only [isOption, if_true]
          refine (dissectOptionFlows_templates template _ _ 0 observationId).bind ?_
          intro learned _ kept
          exact kept
      | false =>
          simp only [isOption, Bool.false_eq_true, if_false]
          cases dissectNetFlowV9V10FlowSetWithTemplate context template (set.u16 2) set.buffer
              observationId flowSequenceNumber with
          | error fault => exact trivial
          | ok records => exact rfl

theorem runSteps_getTemplate (context : PacketContext) (flowSequenceNumber : UInt16)
    {sets : List SizedBuffer} (observationId : ObservationID)
    (small : ∀ set ∈ sets, set.size < 2 ^ 64)
    (tolerated : ∀ set ∈ sets, SetTolerated context.handleIpfix set) :
    Outcome (fun _ => True)
      (fun result => ∀ id, result.1.getTemplate id =
        ((lastTemplate (acceptedOf context.handleIpfix sets) id).map storedTemplate).or
          (observationId.getTemplate id))
      (runSteps (dissectSet context flowSequenceNumber) observationId sets) := by
  induction sets generalizing observationId with
  | nil => exact fun id => rfl
  | cons set rest ih =>
      obtain ⟨setSmall, restSmall⟩ := List.forall_mem_cons.mp small
      obtain ⟨setTolerated, restTolerated⟩ := List.forall_mem_cons.mp tolerated
      rw [runSteps, acceptedOf_cons]
      cases isTemplate : isTemplateSet context.handleIpfix set with
      | true =>
          have accepted := acceptedTemplates_eq setSmall isTemplate setTolerated
          simp only [dissectSet, isTemplate, if_true, Run.ok_bind, accepted]
          refine (ih _ restSmall restTolerated).bind ?_
          intro result _ found id
          rw [found, getTemplate_foldl_saveTemplate, lastTemplate_append, Option.map_or,
            Option.or_assoc]
      | false =>
          simp only [dissectSet, isTemplate, Bool.false_eq_true, if_false, List.nil_append]
          refine (dissectNetFlowV9V10Flow_templates context set observationId _).bind ?_
          intro first _ kept
          refine (ih first.1 restSmall restTolerated).bind ?_
          intro result _ found id
          rw [found, ObservationID.getTemplate, kept]
          rfl

/-! Sensors -/

namespace Sensor

/-- Which observation id answers for an id: itself when it is configured, or the default. -/
def configuredId (sensor : Sensor) (id : UInt32) : Option UInt32 :=
  if (sensor.observationId.lookup id).isSome then some id else none

def configured (sensor : Sensor) : Option UInt32 → Option ObservationID
  | some id => sensor.observationId.lookup id
  | none => sensor.defaultObservationId

def template (sensor : Sensor) (configured : Option UInt32) (id : UInt16) :
    Option FlowSetV9Ipfix :=
  (sensor.configured configured).bind fun observationId => observationId.getTemplate id

theorem getObservationId_eq (sensor : Sensor) (id : UInt32) :
    sensor.getObservationId id = sensor.configured (sensor.configuredId id) := by
  rw [getObservationId, configuredId]
  cases found : sensor.observationId.lookup id with
  | none => rfl
  | some observationId => simp [configured, found]

section Update

variable {sensor : Sensor} {id : UInt32} {found : ObservationID} (changed : ObservationID)
  (known : sensor.getObservationId id = some found)

theorem lookup_updateObservationId (other : UInt32) :
    ((sensor.updateObservationId id changed).observationId.lookup other).isSome =
      (sensor.observationId.lookup other).isSome := by
  rw [updateObservationId]
  cases here : sensor.observationId.lookup id with
  | none => rfl
  | some observationId =>
      simp only [Table.lookup_replace]
      split
      · next same => rw [same, Option.isSome_map]
      · rfl

theorem configuredId_updateObservationId (other : UInt32) :
    (sensor.updateObservationId id changed).configuredId other = sensor.configuredId other := by
  rw [configuredId, configuredId, lookup_updateObservationId]

omit known in
theorem configured_updateObservationId (configured : Option UInt32) :
    (sensor.updateObservationId id changed).configured configured =
      if configured = sensor.configuredId id then some changed
      else sensor.configured configured := by
  rw [updateObservationId, configuredId]
  cases here : sensor.observationId.lookup id with
  | none =>
      cases configured with
      | none => rfl
      | some other => rfl
  | some observationId =>
      cases configured with
      | none => rfl
      | some other =>
          simp only [Sensor.configured, Table.lookup_replace, here, Option.isSome_some, if_true,
            Option.some.injEq, Option.map_some]

include known in
theorem configured_isSome_updateObservationId (configured : Option UInt32) :
    ((sensor.updateObservationId id changed).configured configured).isSome =
      (sensor.configured configured).isSome := by
  rw [configured_updateObservationId changed]
  split
  · next same => rw [same, ← getObservationId_eq, known]; rfl
  · rfl

theorem getObservationId_updateObservationId (other : UInt32) :
    (sensor.updateObservationId id changed).getObservationId other =
      if sensor.configuredId other = sensor.configuredId id then some changed
      else sensor.getObservationId other := by
  rw [getObservationId_eq, getObservationId_eq, configuredId_updateObservationId,
    configured_updateObservationId]

end Update

/-- Which ids an observation id of the sensor answers for. -/
def configures (sensor : Sensor) (id : UInt32) (configured : Option UInt32) : Bool :=
  (sensor.configured configured).isSome && sensor.configuredId id == configured

end Sensor

namespace Received

def handleIpfix (received : Received) : Bool :=
  packetHandleIpfix received.buffer

def sets (received : Received) : List SizedBuffer :=
  setsOf received.buffer received.bufferLen

/-- Nothing but templates is taken for one in the sets of the datagram. -/
def Tolerated (received : Received) : Prop :=
  ∀ set ∈ received.sets, SetTolerated received.handleIpfix set

/-- The templates that a datagram has to be accepted for one observation id of the sensor. -/
def accepted (received : Received) (sensor : Sensor) (configured : Option UInt32) :
    List FlowSetV9Ipfix :=
  if received.hasSets && sensor.configures (packetObservationId received.buffer) configured then
    acceptedOf received.handleIpfix received.sets
  else []

end Received

/-- What a datagram leaves of the templates and of the configuration of its sensor. -/
structure Sensor.Follows (sensor : Sensor) (received : Received) (next : Sensor) : Prop where
  configures : next.configures = sensor.configures
  template : ∀ configured id, next.template configured id =
    ((lastTemplate (received.accepted sensor configured) id).map storedTemplate).or
      (sensor.template configured id)

theorem Sensor.Follows.unchanged {sensor : Sensor} {received : Received}
    (none : ∀ configured, received.accepted sensor configured = []) :
    sensor.Follows received sensor := by
  constructor
  · rfl
  · intro configured id
    rw [none]
    rfl

theorem dissectNetFlowV5_unchanged (globals : ReadOnlyGlobals) (the5Record : Mem)
    (observationId : Option ObservationID) :
    Outcome (fun _ => True) (fun _ => True)
      (dissectNetFlowV5 globals the5Record observationId) := by
  cases dissectNetFlowV5 globals the5Record observationId with
  | error fault => exact trivial
  | ok records => exact trivial

theorem dissectReceived_follows {sensor : Sensor} {received : Received}
    (tolerated : received.Tolerated) :
    Outcome (fun _ => True) (fun result => sensor.Follows received result.1)
      (dissectReceived sensor received) := by
  refine dissectReceived_outcome (fun next _ => sensor.Follows received next) ?_ ?_ ?_
  · intro unknown
    apply Sensor.Follows.unchanged
    intro configured
    rw [Received.accepted, if_neg]
    simp only [Bool.and_eq_true, Sensor.configures, beq_iff_eq, not_and]
    intro hasSets known answers
    rw [← answers, ← Sensor.getObservationId_eq] at known
    rw [unknown hasSets] at known
    contradiction
  · intro hasSets observationId known
    have small : ∀ set ∈ received.sets, set.size < 2 ^ 64 := fun set member =>
      size_of_mem_packetSets member
    have ran := runSteps_getTemplate received.context (packetSequence received.buffer).toUInt16
      observationId small tolerated
    refine ran.mono ?_
    intro result found
    constructor
    · funext id configured
      rw [Sensor.configures, Sensor.configures,
        Sensor.configured_isSome_updateObservationId _ known,
        Sensor.configuredId_updateObservationId]
    · intro configured id
      rw [Sensor.template, Sensor.template, Sensor.configured_updateObservationId]
      rw [Sensor.getObservationId_eq] at known
      by_cases answers : configured = sensor.configuredId (packetObservationId received.buffer)
      · have accepts : received.accepted sensor configured =
            acceptedOf received.handleIpfix received.sets := by
          rw [Received.accepted, if_pos]
          rw [hasSets, Sensor.configures, answers]
          simpa using Option.isSome_of_mem known
        rw [if_pos answers, accepts, answers, known]
        exact found id
      · have none : received.accepted sensor configured = [] := by
          rw [Received.accepted, if_neg]
          simp only [Bool.and_eq_true, Sensor.configures, beq_iff_eq, not_and]
          exact fun _ _ same => answers same.symm
        rw [if_neg answers, none]
        rfl
  · intro noSets
    refine (dissectNetFlowV5_unchanged _ _ _).mono ?_
    intro records _
    apply Sensor.Follows.unchanged
    intro configured
    rw [Received.accepted, noSets]
    rfl

/-! All sensors -/

/-- A packet with the sensor that the listener has found for it, by the address the sensor is
stored under. -/
structure Packet where
  sensor : IpAddr
  received : Received

def dissectPacket (database : SensorsDB) (packet : Packet) :
    Run (SensorsDB × List FlowRecord) :=
  match database.database.lookup packet.sensor with
  | none => .ok (database, [])
  | some sensor =>
      (dissectReceived sensor packet.received).map fun result =>
        ({ database := database.database.replace packet.sensor result.1 }, result.2)

namespace SensorsDB

def template (database : SensorsDB) (sensor : IpAddr) (configured : Option UInt32)
    (id : UInt16) : Option FlowSetV9Ipfix :=
  (database.database.lookup sensor).bind fun sensor => sensor.template configured id

def configures (database : SensorsDB) (sensor : IpAddr) (id : UInt32)
    (configured : Option UInt32) : Bool :=
  (database.database.lookup sensor).any fun sensor => sensor.configures id configured

end SensorsDB

/-- The templates of a packet that are to be accepted for one observation id of one sensor. -/
def Packet.accepted (database : SensorsDB) (sensor : IpAddr) (configured : Option UInt32)
    (packet : Packet) : List FlowSetV9Ipfix :=
  if packet.sensor = sensor ∧ packet.received.hasSets = true ∧
      database.configures sensor (packetObservationId packet.received.buffer) configured = true then
    acceptedOf packet.received.handleIpfix packet.received.sets
  else []

/-- What a packet leaves of all templates and of the configuration. -/
structure SensorsDB.Follows (database : SensorsDB) (packet : Packet) (next : SensorsDB) :
    Prop where
  configures : next.configures = database.configures
  template : ∀ sensor configured id, next.template sensor configured id =
    ((lastTemplate (packet.accepted database sensor configured) id).map storedTemplate).or
      (database.template sensor configured id)

theorem dissectPacket_follows {database : SensorsDB} {packet : Packet}
    (tolerated : packet.received.Tolerated) :
    Outcome (fun _ => True) (fun result => database.Follows packet result.1)
      (dissectPacket database packet) := by
  rw [dissectPacket]
  cases found : database.database.lookup packet.sensor with
  | none =>
      constructor
      · rfl
      · intro sensor configured id
        have none : packet.accepted database sensor configured = [] := by
          rw [Packet.accepted, if_neg]
          rintro ⟨rfl, _, answers⟩
          rw [SensorsDB.configures, found] at answers
          contradiction
        rw [none]
        rfl
  | some sensor =>
      rw [Outcome.map_iff]
      refine (dissectReceived_follows tolerated).mono ?_
      intro result follows
      constructor
      · funext key id configured
        rw [SensorsDB.configures, SensorsDB.configures, Table.lookup_replace]
        split
        · next same =>
            rw [same, found, Option.map_some, Option.any_some, Option.any_some,
              follows.configures]
        · rfl
      · intro key configured id
        rw [SensorsDB.template, SensorsDB.template, Table.lookup_replace, Packet.accepted]
        by_cases same : packet.sensor = key
        · subst same
          rw [if_pos rfl, found, Option.map_some, Option.bind_some, Option.bind_some,
            follows.template, Received.accepted]
          simp only [SensorsDB.configures, found, Option.any_some, true_and, Bool.and_eq_true]
        · rw [if_neg (Ne.symm same), if_neg (fun both => same both.1)]
          rfl

/-- After a run the last template that was to be accepted is stored, or what was there. -/
theorem runSteps_dissectPacket_follows {packets : List Packet} {database : SensorsDB}
    (tolerated : ∀ packet ∈ packets, packet.received.Tolerated) :
    Outcome (fun _ => True)
      (fun result => result.1.configures = database.configures ∧
        ∀ sensor configured id, result.1.template sensor configured id =
          ((lastTemplate (packets.flatMap (Packet.accepted database sensor configured)) id).map
            storedTemplate).or (database.template sensor configured id))
      (runSteps dissectPacket database packets) := by
  induction packets generalizing database with
  | nil => exact ⟨rfl, fun _ _ _ => rfl⟩
  | cons packet rest ih =>
      obtain ⟨first, others⟩ := List.forall_mem_cons.mp tolerated
      rw [runSteps]
      refine (dissectPacket_follows first).bind ?_
      intro next _ follows
      refine (ih others).bind ?_
      intro final _ both
      obtain ⟨configures, template⟩ := both
      refine ⟨configures.trans follows.configures, ?_⟩
      intro sensor configured id
      have accepts : Packet.accepted next.1 sensor configured =
          Packet.accepted database sensor configured := by
        funext packet
        rw [Packet.accepted, Packet.accepted, follows.configures]
      rw [template, follows.template, accepts, List.flatMap_cons, lastTemplate_append,
        Option.map_or, Option.or_assoc]

/-- In every run, a data set is for the last template with its id that was to be accepted for
the same observation id of the same sensor, in an earlier packet or in an earlier set. -/
def DecodesWithLast (database : SensorsDB) (packets : List Packet) : Prop :=
  ∀ earlier packet later current records, packets = earlier ++ packet :: later →
    runSteps dissectPacket database earlier = .ok (current, records) →
  ∀ sensor observationId, current.database.lookup packet.sensor = some sensor →
    packet.received.hasSets = true →
    sensor.getObservationId (packetObservationId packet.received.buffer) = some observationId →
  ∀ before set after reached outputs, packet.received.sets = before ++ set :: after →
    runSteps packet.received.dissectSet observationId before = .ok (reached, outputs) →
    isTemplateSet packet.received.handleIpfix set = false →
    let configured := sensor.configuredId (packetObservationId packet.received.buffer)
    let accepted := earlier.flatMap (Packet.accepted database packet.sensor configured) ++
      acceptedOf packet.received.handleIpfix before
    let id := UInt16.ofNat (set.u16 0)
    usableTemplate reached (set.u16 0) =
      (((lastTemplate accepted id).map storedTemplate).or
        (database.template packet.sensor configured id)).filter
        fun template => template.fieldCount ≠ 0

/-- No packet changes a template of another sensor or of another observation id. -/
def KeepsOthers (database : SensorsDB) (packets : List Packet) : Prop :=
  ∀ earlier packet later current next records output,
    packets = earlier ++ packet :: later →
    runSteps dissectPacket database earlier = .ok (current, records) →
    dissectPacket current packet = .ok (next, output) →
  ∀ sensor configured, (packet.sensor ≠ sensor ∨
      database.configures sensor (packetObservationId packet.received.buffer) configured = false) →
    ∀ id, next.template sensor configured id = current.template sensor configured id

theorem decodesWithLast_of_tolerated {database : SensorsDB} {packets : List Packet}
    (tolerated : ∀ packet ∈ packets, packet.received.Tolerated) :
    DecodesWithLast database packets := by
  rintro earlier packet later current records rfl ran sensor observationId found hasSets known
    before set after reached outputs sets reaches _
  have earlierTolerated : ∀ packet ∈ earlier, packet.received.Tolerated :=
    fun packet member => tolerated packet (List.mem_append_left _ member)
  have own : packet.received.Tolerated := tolerated packet (by simp)
  have stored := ((runSteps_dissectPacket_follows earlierTolerated).of_ok ran).2 packet.sensor
    (sensor.configuredId (packetObservationId packet.received.buffer))
    (UInt16.ofNat (set.u16 0))
  have inSets : ∀ set ∈ before, set ∈ packet.received.sets := by
    intro set member
    rw [sets]
    exact List.mem_append_left _ member
  have reachedTemplate := (runSteps_getTemplate packet.received.context
    (packetSequence packet.received.buffer).toUInt16 observationId
    (fun set member => size_of_mem_packetSets (inSets set member))
    (fun set member => own set (inSets set member))).of_ok reaches (UInt16.ofNat (set.u16 0))
  have current : current.template packet.sensor
      (sensor.configuredId (packetObservationId packet.received.buffer))
      (UInt16.ofNat (set.u16 0)) = observationId.getTemplate (UInt16.ofNat (set.u16 0)) := by
    rw [Sensor.getObservationId_eq] at known
    rw [SensorsDB.template, found, Option.bind_some, Sensor.template, known, Option.bind_some]
  rw [current] at stored
  simp only [usableTemplate, reachedTemplate, stored, lastTemplate_append, Option.map_or,
    Option.or_assoc]
  rfl

theorem keepsOthers_of_tolerated {database : SensorsDB} {packets : List Packet}
    (tolerated : ∀ packet ∈ packets, packet.received.Tolerated) :
    KeepsOthers database packets := by
  rintro earlier packet later current next records output rfl ran stepped sensor configured
    other id
  have earlierTolerated : ∀ packet ∈ earlier, packet.received.Tolerated :=
    fun packet member => tolerated packet (List.mem_append_left _ member)
  have configures := ((runSteps_dissectPacket_follows earlierTolerated).of_ok ran).1
  have follows := (dissectPacket_follows (tolerated packet (by simp))).of_ok stepped
  have none : packet.accepted current sensor configured = [] := by
    rw [Packet.accepted, if_neg]
    rintro ⟨same, _, answers⟩
    rw [configures] at answers
    rcases other with apart | silent
    · exact apart same
    · rw [silent] at answers
      contradiction
  rw [follows.template, none]
  rfl

theorem dissectPacket_decodesWithLast (database : SensorsDB) (packets : List Packet)
    (tolerated : ∀ packet ∈ packets, packet.received.Tolerated) :
    DecodesWithLast database packets ∧ KeepsOthers database packets :=
  ⟨decodesWithLast_of_tolerated tolerated, keepsOthers_of_tolerated tolerated⟩

theorem tolerated_of_all {received : Received}
    (all : (received.sets.all fun set =>
      (templateBuffers received.handleIpfix set (set.size + 1) 4).all fun sbuffer =>
        !(dissectFlowTemplate received.handleIpfix sbuffer).1.isSome ||
          acceptable received.handleIpfix sbuffer) = true) :
    received.Tolerated := by
  intro set inSets _ _ sbuffer inSet
  have one := List.all_eq_true.mp (List.all_eq_true.mp all set inSets) sbuffer inSet
  apply tolerated_iff.mpr
  intro taken
  simpa [taken] using one

/-- A sensor that knows the observation id of `v9PacketBytes`. -/
def oneSensor : SensorsDB where
  database := (∅ : Table IpAddr Sensor).insert (.v4 0) (sensorOf (.new 7))

def packetOf (sets : List Bytes) : Packet where
  sensor := .v4 0
  received :=
    { globals := splittingGlobals
      buffer := .ofBytes (v9PacketBytes 1 sets)
      bufferLen := (v9PacketBytes 1 sets).length }

theorem decodesWithLast_twoTemplates :
    let packets :=
      [packetOf [setBytes 0 (templateBytes 257 [(500, 4)]), setBytes 257 [1, 2, 3, 4]],
        packetOf [setBytes 0 (templateBytes 257 [(500, 2)]), setBytes 257 [1, 2, 3, 4]]]
    DecodesWithLast oneSensor packets ∧ KeepsOthers oneSensor packets := by
  apply dissectPacket_decodesWithLast
  intro packet member
  simp only [List.mem_cons, List.not_mem_nil, or_false] at member
  rcases member with rfl | rfl
  · exact tolerated_of_all (by decide +kernel)
  · exact tolerated_of_all (by decide +kernel)

/-- Two bytes in a template set and the start of the next set are taken for a template without
fields. -/
def strayHeader : List Packet :=
  [packetOf
      [setBytes 0 (templateBytes 257 [(500, 4)]), setBytes 0 [1, 1],
        setBytes 0 (templateBytes 300 [(500, 4)])],
    packetOf [setBytes 257 [1, 2, 3, 4]]]

theorem not_decodesWithLast_strayHeader : ¬DecodesWithLast oneSensor strayHeader := by
  let first := packetOf
    [setBytes 0 (templateBytes 257 [(500, 4)]), setBytes 0 [1, 1],
      setBytes 0 (templateBytes 300 [(500, 4)])]
  let second := packetOf [setBytes 257 [1, 2, 3, 4]]
  have lost : (runSteps dissectPacket oneSensor [first]).map (fun result =>
      (result.1.database.lookup (.v4 0)).bind fun sensor =>
        (sensor.getObservationId (packetObservationId second.received.buffer)).map
          fun observationId =>
            (sensor.configuredId (packetObservationId second.received.buffer),
              (usableTemplate observationId 257).isSome)) =
      .ok (some (some 7, false)) := by
    decide +kernel
  have set : second.received.sets.map (fun set =>
      (set.u16 0, isTemplateSet second.received.handleIpfix set)) = [(257, false)] := by
    decide +kernel
  have accepted : ((((lastTemplate ([first].flatMap
      (Packet.accepted oneSensor (.v4 0) (some 7)) ++ []) 257).map storedTemplate).or
        (oneSensor.template (.v4 0) (some 7) 257)).filter
        fun template => template.fieldCount ≠ 0).isSome = true := by
    decide +kernel
  obtain ⟨⟨current, records⟩, ran, known⟩ := exists_of_map_eq_ok lost
  obtain ⟨sensor, found, observed⟩ := Option.bind_eq_some_iff.mp known
  obtain ⟨observationId, knows, misses⟩ := Option.map_eq_some_iff.mp observed
  obtain ⟨data, sets, kind⟩ := List.map_eq_singleton_iff.mp set
  obtain ⟨id, isData⟩ := Prod.mk.inj kind
  obtain ⟨configured, unusable⟩ := Prod.mk.inj misses
  intro decodes
  have usable := decodes [first] second [] current records rfl ran sensor observationId found
    (by decide +kernel) knows [] data [] observationId [] sets rfl isData
  simp only [configured, id] at usable
  rw [usable] at unusable
  exact absurd (accepted.symm.trans unusable) (by decide)

end F2k
