import F2k.DnsFlow
import F2k.Lib.Systems

namespace F2k

open Lib UdnsOpaque

/-! Runs of the workers and the DNS threads, with any number of flows that share the cache. -/

namespace DnsResolution

variable {globals : ReadOnlyGlobals} {resolver : Bytes → Option Bytes}
  {state after : DnsResolution} {action : DnsAction} {flow : Nat} {udns : UdnsOpaque}

inductive Steps (globals : ReadOnlyGlobals) (resolver : Bytes → Option Bytes)
    (state : DnsResolution) : DnsAction → DnsResolution → Prop
  | start {flowCache : FlowCache} {currPrintbuf : Bytes} :
      Steps globals resolver state (.start flowCache currPrintbuf)
        { state with flows := state.flows ++ [.new flowCache currPrintbuf] }
  | work {flow : Nat} {udns : UdnsOpaque} {now : Int}
      {outcome : Except DnsFault (Option DnsCache × UdnsOpaque)}
      (found : state.flows[flow]? = some udns)
      (ran : udns.work state.cache now = some outcome) :
      Steps globals resolver state (.work flow now) (state.put flow outcome)
  | submitA4ptr {flow : Nat} {udns : UdnsOpaque} {party : DnsParty}
      (found : state.flows[flow]? = some udns) (queued : (udns.names party).query = .queued) :
      Steps globals resolver state (.submitA4ptr flow party)
        (state.put flow ((udns.submitA4ptr party).map fun udns => (state.cache, udns)))
  | queryCompleted {flow : Nat} {udns : UdnsOpaque} {party : DnsParty} {result : Option Bytes}
      {now : Int} {calloc : Option Pointer} (found : state.flows[flow]? = some udns)
      (answers : Answers resolver result (udns.names party).query)
      (free : Free state.cache calloc) :
      Steps globals resolver state (.queryCompleted flow party result now calloc)
        (state.put flow (udns.dnsQueryCompleted0 state.cache party result now calloc))
  | split {flow : Nat} {udns : UdnsOpaque} (found : state.flows[flow]? = some udns)
      (waits : udns.splitsQueued ≠ 0) :
      Steps globals resolver state (.split flow)
        (state.putSent flow (udns.split globals state.cache))

theorem steps_of_step (stepped : state.step globals resolver action = some after) :
    state.fault = none ∧ Steps globals resolver state action after := by
  cases unfaulted : state.fault with
  | some fault => simp [step, unfaulted] at stepped
  | none =>
      refine ⟨rfl, ?_⟩
      cases action with
      | start flowCache currPrintbuf =>
          simp only [step, unfaulted, DnsResolution.start] at stepped
          split at stepped
          · cases stepped
            have started := @Steps.start globals resolver state flowCache currPrintbuf
            rwa [unfaulted] at started
          · cases stepped
      | work flow now =>
          simp only [step, unfaulted, DnsAction.flow, Option.bind_eq_bind, Option.bind_some,
            Option.bind_eq_some_iff] at stepped
          obtain ⟨udns, found, stepped⟩ := stepped
          obtain ⟨outcome, ran, rfl⟩ := Option.map_eq_some_iff.mp stepped
          exact .work found ran
      | submitA4ptr flow party =>
          simp only [step, unfaulted, DnsAction.flow, Option.bind_eq_bind, Option.bind_some,
            Option.bind_eq_some_iff] at stepped
          obtain ⟨udns, found, stepped⟩ := stepped
          simp only [stepFlow] at stepped
          split at stepped
          · next queued =>
              cases stepped
              exact .submitA4ptr found queued
          · cases stepped
      | queryCompleted flow party result now calloc =>
          simp only [step, unfaulted, DnsAction.flow, Option.bind_eq_bind, Option.bind_some,
            Option.bind_eq_some_iff] at stepped
          obtain ⟨udns, found, stepped⟩ := stepped
          simp only [stepFlow] at stepped
          split at stepped
          · next possible =>
              cases stepped
              exact .queryCompleted found possible.1 possible.2
          · cases stepped
      | split flow =>
          simp only [step, unfaulted, DnsAction.flow, Option.bind_eq_bind, Option.bind_some,
            Option.bind_eq_some_iff] at stepped
          obtain ⟨udns, found, stepped⟩ := stepped
          simp only [stepFlow] at stepped
          split at stepped
          · cases stepped
          · next waits =>
              cases stepped
              exact .split found waits

/-- Every flow is counted, and the cache counts the handles of all of them. -/
structure Sound (cache : Option DnsCache) (flows : List UdnsOpaque) : Prop where
  valid : ∀ udns ∈ flows, udns.Valid
  backs : Backs cache (flows.flatMap held)

theorem exists_around {flows : List UdnsOpaque} (found : flows[flow]? = some udns) :
    ∃ front back, flows = front ++ udns :: back ∧
      ∀ udns', flows.set flow udns' = front ++ udns' :: back := by
  obtain ⟨inside, here⟩ := List.getElem?_eq_some_iff.mp found
  refine ⟨flows.take flow, flows.drop (flow + 1), ?_, ?_⟩
  · rw [← here, List.getElem_cons_drop, List.take_append_drop]
  · intro udns'
    exact List.set_eq_take_append_cons_drop .. |>.trans (if_pos inside)

theorem Sound.one {cache : Option DnsCache} {flows : List UdnsOpaque} (sound : Sound cache flows)
    (found : flows[flow]? = some udns) :
    udns.Valid ∧ ∃ others, Backs cache (udns.held ++ others) ∧
      ∀ cache' udns', udns'.Valid → Backs cache' (udns'.held ++ others) →
        Sound cache' (flows.set flow udns') := by
  obtain ⟨front, back, whole, put⟩ := exists_around found
  have perm : ∀ udns', ((front ++ udns' :: back).flatMap held).Perm
      (udns'.held ++ (front ++ back).flatMap held) := by
    intro udns'
    rw [← List.flatMap_cons]
    exact List.perm_middle.flatMap_right _
  subst whole
  refine ⟨sound.valid udns (List.mem_append_right _ List.mem_cons_self), _,
    sound.backs.perm (perm udns), ?_⟩
  intro cache' udns' valid backs
  rw [put]
  refine ⟨?_, backs.perm (perm udns').symm⟩
  intro other member
  rcases List.mem_append.mp member with early | late
  · exact sound.valid other (List.mem_append_left _ early)
  · rcases List.mem_cons.mp late with rfl | late
    · exact valid
    · exact sound.valid other (List.mem_append_right _ (List.mem_cons_of_mem _ late))

/-- An entry that the worker finds in the cache can count one more reference. -/
def CountsOne (state : DnsResolution) : DnsAction → Prop
  | .work flow _ => ∀ udns ∈ state.flows[flow]?, ∀ party, udns.stage = .getElm party →
      UdnsOpaque.CountsOne state.cache (udns.flowCache.partyAddress party)
  | _ => True

theorem new_valid (flowCache : FlowCache) (currPrintbuf : Bytes) :
    Valid (.new flowCache currPrintbuf) := by
  have unqueued : ∀ party, ((UdnsOpaque.new flowCache currPrintbuf).names party).query =
      .unqueued := fun _ => rfl
  refine ⟨⟨?_, ?_, ?_, fun _ _ => rfl, ?_, fun _ _ => rfl, .nil, rfl⟩, ?_⟩
  · simp [UdnsOpaque.new, owing, owes, DnsNames.owed, SavedElm.isNull]
  · have untested : ¬DnsStage.tested (.getElm .client) := by decide
    exact (if_neg fun all => untested all.1).symm
  · simp [UdnsOpaque.new]
  · exact fun party queued => absurd (unqueued party) queued
  · intro party passed
    exact (@asked_early (.new flowCache currPrintbuf) (Nat.zero_le 3) party passed).elim

theorem pending_of_answers {result : Option Bytes} {query : DnsQuery}
    (answers : Answers resolver result query) : query.Pending := by
  cases query with
  | unqueued => exact answers.elim
  | queued => exact answers.elim
  | submitted ipv4 => trivial
  | completed => exact answers.elim

theorem step_sound (sound : Sound state.cache state.flows) (counts : state.CountsOne action)
    (stepped : state.step globals resolver action = some after) :
    Sound after.cache after.flows := by
  obtain ⟨-, steps⟩ := steps_of_step stepped
  cases steps with
  | @start flowCache currPrintbuf =>
      refine ⟨?_, ?_⟩
      · intro udns member
        rcases List.mem_append.mp member with before | new
        · exact sound.valid udns before
        · rw [List.mem_singleton.mp new]
          exact new_valid flowCache currPrintbuf
      · simpa [held, elements, UdnsOpaque.new, SavedElm.pointers] using sound.backs
  | @work flow udns now outcome found ran =>
      obtain ⟨valid, others, backs, goesOn⟩ := sound.one found
      have works := work_works backs (counts udns found) ran
      cases outcome with
      | error fault => exact sound
      | ok result =>
          obtain ⟨valid', backs'⟩ := work_valid valid works backs
          exact goesOn _ _ valid' backs'
  | @submitA4ptr flow udns party found queued =>
      obtain ⟨valid, others, backs, goesOn⟩ := sound.one found
      cases ran : udns.submitA4ptr party with
      | error fault => exact sound
      | ok udns' =>
          obtain ⟨valid', held⟩ := submitA4ptr_valid valid queued ran
          exact goesOn _ _ valid' (held ▸ backs)
  | @queryCompleted flow udns party result now calloc found answers free =>
      obtain ⟨valid, others, backs, goesOn⟩ := sound.one found
      have pending := pending_of_answers answers
      obtain ⟨-, -, -, notFreed⟩ := valid.counted.unsplit (valid.counted.owes_of_pending pending)
      rcases dnsQueryCompleted0_completes backs notFreed (valid.counted.awaited party pending)
        result now free with ⟨-, -, failed⟩ | ⟨_, ran, completes⟩
      · rw [failed]
        exact sound
      · rw [ran]
        obtain ⟨valid', backs'⟩ := completes_valid valid pending completes
        exact goesOn _ _ valid' backs'
  | @split flow udns found waits =>
      obtain ⟨valid, others, backs, goesOn⟩ := sound.one found
      have splits := split_splits valid.counted backs waits globals
      cases ran : udns.split globals state.cache with
      | error fault => exact sound
      | ok result =>
          rw [ran] at splits
          cases splits with
          | done client target backs' =>
              refine goesOn _ _ (splitDone_valid valid waits) ?_
              exact backs'

/-- No query is answered with a name for which there is no cache or no memory, and no worker
goes on to submit queries when only the target's name is known. -/
def Meets (state : DnsResolution) : DnsAction → Prop
  | .work flow now =>
      state.CountsOne (.work flow now) ∧
        ∀ udns ∈ state.flows[flow]?, udns.stage = .testRefcnt → ¬udns.KnowsOnlyTarget
  | .queryCompleted _ _ result _ calloc => result ≠ none → state.cache ≠ none ∧ calloc ≠ none
  | _ => True

structure Careful (state : DnsResolution) : Prop where
  sound : Sound state.cache state.flows
  careful : ∀ udns ∈ state.flows, udns.Careful
  unfaulted : state.fault = none

theorem mem_of_found {flows : List UdnsOpaque} (found : flows[flow]? = some udns) :
    udns ∈ flows :=
  List.mem_of_getElem? found

theorem careful_set {flows : List UdnsOpaque} (careful : ∀ udns ∈ flows, udns.Careful)
    {udns' : UdnsOpaque} (one : udns'.Careful) : ∀ udns ∈ flows.set flow udns', udns.Careful := by
  intro udns member
  rcases List.mem_or_eq_of_mem_set member with before | rfl
  · exact careful udns before
  · exact one

theorem step_careful (careful : Careful state) (meets : state.Meets action)
    (stepped : state.step globals resolver action = some after) : Careful after := by
  obtain ⟨sound, careful, unfaulted⟩ := careful
  have counts : state.CountsOne action := by
    cases action with
    | work flow now => exact meets.1
    | _ => trivial
  have sound' := step_sound sound counts stepped
  obtain ⟨-, steps⟩ := steps_of_step stepped
  cases steps with
  | @start flowCache currPrintbuf =>
      refine ⟨sound', ?_, unfaulted⟩
      intro udns member
      rcases List.mem_append.mp member with before | new
      · exact careful udns before
      · rw [List.mem_singleton.mp new]
        exact ⟨fun there => (nomatch there), fun _ there => (nomatch there),
          fun _ garbage => (nomatch garbage)⟩
  | @work flow udns now outcome found ran =>
      obtain ⟨valid, others, backs, -⟩ := sound.one found
      obtain ⟨cache', udns', rfl, one⟩ :=
        work_careful valid (careful udns (mem_of_found found))
          (work_works backs (counts udns found) ran) (meets.2 udns found)
      exact ⟨sound', careful_set careful one, unfaulted⟩
  | @submitA4ptr flow udns party found queued =>
      obtain ⟨valid, -⟩ := sound.one found
      obtain ⟨udns', ran, one⟩ :=
        submitA4ptr_careful valid (careful udns (mem_of_found found)) queued
      rw [ran] at sound' ⊢
      exact ⟨sound', careful_set careful one, unfaulted⟩
  | @queryCompleted flow udns party result now calloc found answers free =>
      obtain ⟨valid, others, backs, -⟩ := sound.one found
      have pending := pending_of_answers answers
      obtain ⟨-, -, -, notFreed⟩ := valid.counted.unsplit (valid.counted.owes_of_pending pending)
      rcases dnsQueryCompleted0_completes backs notFreed (valid.counted.awaited party pending)
        result now free with ⟨noCache, answered, -⟩ | ⟨⟨cache', udns'⟩, ran, completes⟩
      · exact absurd noCache (meets answered).1
      · have one := completes_careful valid (careful udns (mem_of_found found)) pending
          (fun answered => (meets answered).2) completes
        rw [ran] at sound' ⊢
        exact ⟨sound', careful_set careful one, unfaulted⟩
  | @split flow udns found waits =>
      obtain ⟨valid, others, backs, -⟩ := sound.one found
      have one := careful udns (mem_of_found found)
      have splits := split_splits valid.counted backs waits globals
      cases ran : udns.split globals state.cache with
      | error fault =>
          rw [ran] at splits
          cases splits with
          | elmOfNull garbage => exact absurd garbage (one.elm _)
      | ok result =>
          rw [ran] at splits sound'
          cases splits with
          | done client target backs' =>
              exact ⟨sound', careful_set careful ⟨one.waits, one.target, one.elm⟩, unfaulted⟩

theorem sound_new (settings : Option DnsCacheSettings) :
    Sound (new settings).cache (new settings).flows := by
  refine ⟨fun _ member => (nomatch member), ?_⟩
  cases settings with
  | none => rfl
  | some settings => exact ⟨[], DnsCache.sound_new _ _ _⟩

end DnsResolution

def DnsResolution.readsFreed (state : DnsResolution) : Bool :=
  match state.fault with
  | some .freedOpaque => true
  | _ => false

theorem dnsResolution_once {globals : ReadOnlyGlobals} {resolver : Bytes → Option Bytes}
    {settings : Option DnsCacheSettings} {actions : List DnsAction} {state : DnsResolution}
    (ran : Takes (DnsResolution.step globals resolver) (.new settings) actions state)
    (every : EveryStep (DnsResolution.step globals resolver) DnsResolution.Meets
      (.new settings) actions) :
    state.fault = none ∧ ∀ udns ∈ state.flows, udns.Once := by
  have careful := ran.last
    (every.everyState (fun _ _ _ => DnsResolution.step_careful)
      ⟨DnsResolution.sound_new settings, fun _ member => (nomatch member), rfl⟩)
  exact ⟨careful.unfaulted, fun udns member => (careful.sound.valid udns member).once⟩

/-- A flow between two addresses whose names are wanted or not. -/
def dnsFlowCache (wantClientDns wantTargetDns : Bool) (src dst : Bytes) : FlowCache where
  address := { src, dst }
  observationId := { ObservationID.new 0 with wantClientDns, wantTargetDns }

/-- The name of one address is asked for and saved. -/
def clientNamed (src : Bytes) : List DnsAction :=
  [.start (dnsFlowCache true false src zeroAddress) (ascii "\x7b"), .work 0 0, .work 0 0,
    .work 0 0, .work 0 0, .work 0 0, .submitA4ptr 0 .client,
    .queryCompleted 0 .client (some (ascii "name")) 0 (some 7), .split 0]

def dnsSettings : DnsCacheSettings where
  entrySize := 64
  maxmemM := 1
  timeoutS := 60

theorem dnsResolution_once_named :
    ∃ state,
      Takes (DnsResolution.step splittingGlobals fun _ => some (ascii "name"))
        (.new (some dnsSettings)) (clientNamed (ipv4bufTo6 [10, 0, 0, 1])) state ∧
      state.fault = none ∧ ∀ udns ∈ state.flows, udns.Once := by
  obtain ⟨state, ran⟩ : ∃ state,
      Takes (DnsResolution.step splittingGlobals fun _ => some (ascii "name"))
        (.new (some dnsSettings)) (clientNamed (ipv4bufTo6 [10, 0, 0, 1])) state :=
    ⟨_, .next rfl (.next rfl (.next rfl (.next rfl (.next rfl (.next rfl (.next rfl (.next rfl
      (.next rfl (.refl _)))))))))⟩
  refine ⟨state, ran, dnsResolution_once ran ⟨trivial, ?_⟩⟩
  rintro _ ⟨⟩
  refine ⟨⟨?_, ?_⟩, ?_⟩
  · rintro _ ⟨⟩ _ _ _ ⟨⟩ _ _ found
    cases found
  · rintro _ ⟨⟩ ⟨⟩
  rintro _ ⟨⟩
  refine ⟨⟨?_, ?_⟩, ?_⟩
  · rintro _ ⟨⟩ _ _ _ ⟨⟩ _ _ found
    cases found
  · rintro _ ⟨⟩ ⟨⟩
  rintro _ ⟨⟩
  refine ⟨⟨?_, ?_⟩, ?_⟩
  · rintro _ ⟨⟩ _ ⟨⟩
  · rintro _ ⟨⟩ _ ⟨_, _, wanted, _⟩
    cases wanted
  rintro _ ⟨⟩
  refine ⟨⟨?_, ?_⟩, ?_⟩
  · rintro _ ⟨⟩ _ ⟨⟩
  · rintro _ ⟨⟩ ⟨⟩
  rintro _ ⟨⟩
  refine ⟨⟨?_, ?_⟩, ?_⟩
  · rintro _ ⟨⟩ _ ⟨⟩
  · rintro _ ⟨⟩ ⟨⟩
  rintro _ ⟨⟩
  refine ⟨trivial, ?_⟩
  rintro _ ⟨⟩
  refine ⟨fun _ => ⟨fun missing => (nomatch missing), fun failed => (nomatch failed)⟩, ?_⟩
  rintro _ ⟨⟩
  exact ⟨trivial, fun _ _ => trivial⟩

/-- The client's name is saved first. The next flow has that address as its target, and is freed
when the query for its client is answered, before its worker looks at the target. -/
theorem dnsResolution_readsFreed :
    ∃ state,
      Takes (DnsResolution.step splittingGlobals fun _ => some (ascii "name"))
        (.new (some dnsSettings))
        (clientNamed (ipv4bufTo6 [10, 0, 0, 1]) ++
          [.start
              (dnsFlowCache true true (ipv4bufTo6 [10, 0, 0, 2]) (ipv4bufTo6 [10, 0, 0, 1]))
              (ascii "\x7b"),
            .work 1 0, .work 1 0, .work 1 0, .work 1 0, .submitA4ptr 1 .client,
            .queryCompleted 1 .client none 0 none, .split 1, .work 1 0])
        state ∧
      state.readsFreed = true :=
  Takes.exists_of_any (by decide +kernel)

end F2k
