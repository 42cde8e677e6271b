import F2k.DnsResolutionRuns

namespace F2k

open Lib UdnsOpaque

/-! Flows that wait for names are sent as they would be without, but for the names: none is lost,
none is sent twice, and nothing else of their messages changes. -/

namespace DnsAction

/-- The flow that a worker hands over, with the line that was printed of it. -/
def handed : DnsAction → Option (FlowCache × Bytes)
  | .start flowCache currPrintbuf => some (flowCache, currPrintbuf)
  | _ => none

/-- The flow that is sent. -/
def sends : DnsAction → Option Nat
  | .split flow => some flow
  | _ => none

end DnsAction

/-- The messages are those of the flow that was handed over, with names appended to its line. -/
def SentFlow.Shows (handed : FlowCache × Bytes) (sent : SentFlow) : Prop :=
  ∃ clientName targetName : Option Bytes, ∀ globals : ReadOnlyGlobals,
    timeSplitFlow globals sent.printed.line sent.printed.cache =
      timeSplitFlow globals
        (appendName (appendName handed.2 "lan_ip_name" clientName) "wan_ip_name" targetName)
        handed.1

namespace UdnsOpaque

variable {cache : Option DnsCache} {udns : UdnsOpaque} {party : DnsParty}
  {result : Option DnsCache × UdnsOpaque}

/-- The flow as it was handed over. -/
def handed (udns : UdnsOpaque) : FlowCache × Bytes :=
  (udns.flowCache, udns.currPrintbuf)

/-- The same flow, sent as often. -/
structure SameFlow (before after : UdnsOpaque) : Prop where
  handed : after.handed = before.handed
  splits : after.splits = before.splits

theorem getElm_sameFlow {now : Int} (ran : getElm cache udns party now = .ok result) :
    SameFlow udns result.2 := by
  unfold getElm at ran
  split at ran
  · split at ran
    · cases ran
    · cases ran
      exact ⟨rfl, rfl⟩
    · cases ran
      exact ⟨rfl, rfl⟩
  · cases ran
    exact ⟨rfl, rfl⟩

theorem queueQuery_sameFlow (udns : UdnsOpaque) (party : DnsParty) :
    SameFlow udns (udns.queueQuery party) := by
  unfold queueQuery
  split
  · exact ⟨rfl, rfl⟩
  · exact ⟨rfl, rfl⟩

theorem work_sameFlow {now : Int} (ran : udns.work cache now = some (.ok result)) :
    SameFlow udns result.2 := by
  unfold work at ran
  split at ran
  · cases ran
  · split at ran
    · have same := getElm_sameFlow (Option.some.inj ran)
      exact ⟨same.handed, same.splits⟩
    · have same := getElm_sameFlow (Option.some.inj ran)
      exact ⟨same.handed, same.splits⟩
    · split at ran <;> cases ran <;> exact ⟨rfl, rfl⟩
    · cases ran
      have same := queueQuery_sameFlow { udns with stage := .submit .target } .client
      exact ⟨same.handed, same.splits⟩
    · cases ran
      have same := queueQuery_sameFlow { udns with stage := .left } .target
      exact ⟨same.handed, same.splits⟩
    · cases ran

theorem submitA4ptr_sameFlow {after : UdnsOpaque} (ran : udns.submitA4ptr party = .ok after) :
    SameFlow udns after := by
  unfold submitA4ptr at ran
  split at ran
  · cases ran
  · cases ran
    exact ⟨rfl, rfl⟩

theorem complete_sameFlow (udns : UdnsOpaque) (party : DnsParty) :
    SameFlow udns (udns.complete party) := by
  unfold complete
  dsimp only
  split
  · exact ⟨rfl, rfl⟩
  · exact ⟨rfl, rfl⟩

theorem saveName_sameFlow {name : Bytes} {now : Int} {calloc : Option Pointer}
    (ran : saveName cache udns party name now calloc = .ok result) : SameFlow udns result.2 := by
  unfold saveName at ran
  split at ran
  · cases ran
  · dsimp only at ran
    split at ran <;> cases ran <;> exact ⟨rfl, rfl⟩

theorem dnsQueryCompleted0_sameFlow {answer : Option Bytes} {now : Int} {calloc : Option Pointer}
    (ran : udns.dnsQueryCompleted0 cache party answer now calloc = .ok result) :
    SameFlow udns result.2 := by
  unfold dnsQueryCompleted0 at ran
  split at ran
  · cases ran
  · split at ran
    · cases ran
      exact complete_sameFlow udns party
    · cases saved : saveName cache udns party _ now calloc with
      | error fault =>
          rw [saved] at ran
          cases ran
      | ok between =>
          rw [saved] at ran
          cases ran
          have first := saveName_sameFlow saved
          have second := complete_sameFlow between.2 party
          exact ⟨second.handed.trans first.handed, second.splits.trans first.splits⟩

/-- A flow is sent with its own messages, one time more. -/
theorem split_shows {globals : ReadOnlyGlobals} {after : UdnsOpaque} {printed : LineState}
    {left : Option DnsCache} (ran : udns.split globals cache = .ok (left, after, printed)) :
    after.handed = udns.handed ∧ after.splits = udns.splits + 1 ∧
      SentFlow.Shows udns.handed { currPrintbuf := after.currPrintbuf, printed } := by
  unfold split at ran
  split at ran
  · cases ran
  · obtain ⟨clientName, _, ran⟩ := exists_of_bind_eq_ok ran
    obtain ⟨targetName, _, ran⟩ := exists_of_bind_eq_ok ran
    rw [printAllFromCache_names] at ran
    obtain ⟨shown, same, ran⟩ := exists_of_bind_eq_ok ran
    obtain ⟨_, _, ran⟩ := exists_of_bind_eq_ok ran
    obtain ⟨_, _, ran⟩ := exists_of_bind_eq_ok ran
    cases same
    cases ran
    exact ⟨rfl, rfl, clientName, targetName, fun _ => rfl⟩

end UdnsOpaque

/-! Runs -/

namespace DnsResolution

variable {globals : ReadOnlyGlobals} {resolver : Bytes → Option Bytes}
  {state after : DnsResolution} {done : List DnsAction}

/-- What was sent after these actions are the flows they sent, in this order. -/
structure Tracks (done : List DnsAction) (state : DnsResolution) : Prop where
  handed : state.flows.map UdnsOpaque.handed = done.filterMap DnsAction.handed
  splits : ∀ flow udns, state.flows[flow]? = some udns →
    udns.splits = (done.filterMap DnsAction.sends).count flow
  known : ∀ flow ∈ done.filterMap DnsAction.sends, flow < state.flows.length
  sent : List.Forall₂
    (fun flow sent =>
      ∃ handed ∈ (done.filterMap DnsAction.handed)[flow]?, SentFlow.Shows handed sent)
    (done.filterMap DnsAction.sends) state.sent.reverse

theorem map_set_handed {flows : List UdnsOpaque} {flow : Nat} {udns udns' : UdnsOpaque}
    (found : flows[flow]? = some udns) (same : udns'.handed = udns.handed) :
    (flows.set flow udns').map UdnsOpaque.handed = flows.map UdnsOpaque.handed := by
  obtain ⟨front, back, rfl, whole⟩ := exists_around found
  rw [whole, List.map_append, List.map_append, List.map_cons, List.map_cons, same]

/-- A flow takes a step that does not send it. -/
theorem Tracks.put (tracks : Tracks done state) {action : DnsAction}
    (notHanded : action.handed = none) (notSent : action.sends = none) {flow : Nat}
    {udns udns' : UdnsOpaque} (found : state.flows[flow]? = some udns) (same : SameFlow udns udns')
    (cache : Option DnsCache) :
    Tracks (done ++ [action]) { state with cache, flows := state.flows.set flow udns' } := by
  have handed : (done ++ [action]).filterMap DnsAction.handed =
      done.filterMap DnsAction.handed := by
    simp [notHanded]
  have sends : (done ++ [action]).filterMap DnsAction.sends = done.filterMap DnsAction.sends := by
    simp [notSent]
  constructor
  · rw [handed, ← tracks.handed]
    exact map_set_handed found same.handed
  · intro other one there
    rw [sends]
    dsimp only at there
    rw [List.getElem?_set] at there
    split at there
    · next here =>
        subst here
        split at there
        · cases there
          rw [same.splits]
          exact tracks.splits flow udns found
        · cases there
    · exact tracks.splits other one there
  · intro other sent
    rw [sends] at sent
    rw [List.length_set]
    exact tracks.known other sent
  · rw [handed, sends]
    exact tracks.sent

/-- A flow is handed over. -/
theorem Tracks.start (tracks : Tracks done state) (flowCache : FlowCache) (currPrintbuf : Bytes) :
    Tracks (done ++ [.start flowCache currPrintbuf])
      { state with flows := state.flows ++ [.new flowCache currPrintbuf] } := by
  have handed : (done ++ [DnsAction.start flowCache currPrintbuf]).filterMap DnsAction.handed =
      done.filterMap DnsAction.handed ++ [(flowCache, currPrintbuf)] := by
    simp [DnsAction.handed]
  have sends : (done ++ [DnsAction.start flowCache currPrintbuf]).filterMap DnsAction.sends =
      done.filterMap DnsAction.sends := by
    simp [DnsAction.sends]
  constructor
  · rw [handed, ← tracks.handed, List.map_append]
    rfl
  · intro flow udns there
    rw [sends]
    rw [List.getElem?_append] at there
    split at there
    · exact tracks.splits flow udns there
    · next beyond =>
        obtain rfl := List.mem_singleton.mp (List.mem_of_getElem? there)
        exact (List.count_eq_zero.mpr fun sent => beyond (tracks.known flow sent)).symm
  · intro flow sent
    rw [sends] at sent
    rw [List.length_append]
    exact Nat.lt_of_lt_of_le (tracks.known flow sent) (Nat.le_add_right _ _)
  · rw [handed, sends]
    refine tracks.sent.imp ?_
    intro flow sent shows
    obtain ⟨one, there, shown⟩ := shows
    refine ⟨one, ?_, shown⟩
    rw [List.getElem?_append_left (List.getElem?_eq_some_iff.mp there).1]
    exact there

/-- A flow is sent. -/
theorem Tracks.split (tracks : Tracks done state) {flow : Nat} {udns udns' : UdnsOpaque}
    (found : state.flows[flow]? = some udns) (same : udns'.handed = udns.handed)
    (once : udns'.splits = udns.splits + 1) {sent : SentFlow}
    (shows : SentFlow.Shows udns.handed sent) (cache : Option DnsCache) :
    Tracks (done ++ [.split flow])
      { state with cache, flows := state.flows.set flow udns', sent := sent :: state.sent } := by
  have handed : (done ++ [DnsAction.split flow]).filterMap DnsAction.handed =
      done.filterMap DnsAction.handed := by
    simp [DnsAction.handed]
  have sends : (done ++ [DnsAction.split flow]).filterMap DnsAction.sends =
      done.filterMap DnsAction.sends ++ [flow] := by
    simp [DnsAction.sends]
  have inside : flow < state.flows.length := (List.getElem?_eq_some_iff.mp found).1
  constructor
  · rw [handed, ← tracks.handed]
    exact map_set_handed found same
  · intro other one there
    dsimp only at there
    rw [List.getElem?_set] at there
    rw [sends, List.count_append]
    split at there
    · next here =>
        subst here
        cases there
        rw [once, tracks.splits flow udns found, List.count_singleton_self]
    · next elsewhere =>
        rw [tracks.splits other one there,
          List.count_eq_zero.mpr fun member => elsewhere (List.mem_singleton.mp member).symm]
        rfl
  · intro other member
    rw [sends] at member
    rw [List.length_set]
    rcases List.mem_append.mp member with before | now
    · exact tracks.known other before
    · rw [List.mem_singleton.mp now]
      exact inside
  · rw [handed, sends, List.reverse_cons]
    refine List.rel_append tracks.sent (.cons ⟨udns.handed, ?_, shows⟩ .nil)
    rw [← tracks.handed, List.getElem?_map, found]
    rfl

theorem step_tracks {action : DnsAction}
    (tracks : state.fault = none → Tracks done state)
    (stepped : state.step globals resolver action = some after) (unfaulted : after.fault = none) :
    Tracks (done ++ [action]) after := by
  obtain ⟨before, steps⟩ := steps_of_step stepped
  have tracks := tracks before
  cases steps with
  | @start flowCache currPrintbuf => exact tracks.start flowCache currPrintbuf
  | @work flow udns now outcome found ran =>
      cases outcome with
      | error fault => cases unfaulted
      | ok result => exact tracks.put rfl rfl found (work_sameFlow ran) result.1
  | @submitA4ptr flow udns party found queued =>
      cases ran : udns.submitA4ptr party with
      | error fault =>
          rw [ran] at unfaulted
          cases unfaulted
      | ok udns' => exact tracks.put rfl rfl found (submitA4ptr_sameFlow ran) state.cache
  | @queryCompleted flow udns party result now calloc found answers free =>
      cases ran : udns.dnsQueryCompleted0 state.cache party result now calloc with
      | error fault =>
          rw [ran] at unfaulted
          cases unfaulted
      | ok left => exact tracks.put rfl rfl found (dnsQueryCompleted0_sameFlow ran) left.1
  | @split flow udns found waits =>
      cases ran : udns.split globals state.cache with
      | error fault =>
          rw [ran] at unfaulted
          cases unfaulted
      | ok left =>
          obtain ⟨same, once, shows⟩ := split_shows ran
          exact tracks.split found same once shows left.1

theorem tracks_new (settings : Option DnsCacheSettings) : Tracks [] (new settings) :=
  ⟨rfl, fun _ _ missing => (nomatch missing), fun _ member => (nomatch member), .nil⟩

theorem Tracks.atMostOnce (tracks : Tracks done state) (sound : Sound state.cache state.flows) :
    (done.filterMap DnsAction.sends).Nodup := by
  rw [List.nodup_iff_count_le_one]
  intro flow
  cases there : state.flows[flow]? with
  | none =>
      have unsent : flow ∉ done.filterMap DnsAction.sends := by
        intro sent
        have beyond := List.getElem?_eq_none_iff.mp there
        exact Nat.not_lt_of_le beyond (tracks.known flow sent)
      rw [List.count_eq_zero.mpr unsent]
      exact Nat.zero_le 1
  | some udns =>
      have once := (sound.valid udns (mem_of_found there)).once.atMostOnce
      rw [← tracks.splits flow udns there]
      omega

theorem Tracks.all (tracks : Tracks done state) (sound : Sound state.cache state.flows)
    (settled : ∀ udns ∈ state.flows, udns.Settled) :
    (done.filterMap DnsAction.sends).Perm
      (List.range (done.filterMap DnsAction.handed).length) := by
  rw [← tracks.handed, List.length_map]
  refine (List.perm_ext_iff_of_nodup (tracks.atMostOnce sound) List.nodup_range).mpr ?_
  intro flow
  rw [List.mem_range]
  refine ⟨tracks.known flow, fun inside => ?_⟩
  have there : state.flows[flow]? = some state.flows[flow] := List.getElem?_eq_getElem inside
  have member := mem_of_found there
  have once := (sound.valid _ member).once.split (settled _ member)
  rw [tracks.splits flow _ there] at once
  exact List.count_pos_iff.mp (by omega)

end DnsResolution

/-- In every run of workers and DNS threads, each flow that was handed over is sent once at most,
with its own messages but for the names, and all of them once their queries are done. -/
theorem dnsResolution_onlyNames {globals : ReadOnlyGlobals} {resolver : Bytes → Option Bytes}
    {settings : Option DnsCacheSettings} {actions : List DnsAction} {state : DnsResolution}
    (ran : Takes (DnsResolution.step globals resolver) (.new settings) actions state)
    (counts : EveryStep (DnsResolution.step globals resolver) DnsResolution.CountsOne
      (.new settings) actions)
    (unfaulted : state.fault = none) :
    (actions.filterMap DnsAction.sends).Nodup ∧
      List.Forall₂
        (fun flow sent =>
          ∃ handed ∈ (actions.filterMap DnsAction.handed)[flow]?, SentFlow.Shows handed sent)
        (actions.filterMap DnsAction.sends) state.sent.reverse ∧
      ((∀ udns ∈ state.flows, udns.Settled) →
        (actions.filterMap DnsAction.sends).Perm
          (List.range (actions.filterMap DnsAction.handed).length)) := by
  obtain ⟨sound, tracks⟩ := @Takes.history _ _ _ _
    (fun done state =>
      DnsResolution.Sound state.cache state.flows ∧
        (state.fault = none → DnsResolution.Tracks done state))
    _ _ [] _ ran counts
    (fun done state action after held counts stepped =>
      ⟨DnsResolution.step_sound held.1 counts stepped,
        DnsResolution.step_tracks held.2 stepped⟩)
    ⟨DnsResolution.sound_new settings, fun _ => DnsResolution.tracks_new settings⟩
  have tracks := tracks unfaulted
  exact ⟨tracks.atMostOnce sound, tracks.sent, tracks.all sound⟩

theorem dnsResolution_onlyNames_named :
    ∃ state,
      Takes (DnsResolution.step splittingGlobals fun _ => some (ascii "name"))
        (.new (some dnsSettings)) (clientNamed (ipv4bufTo6 [10, 0, 0, 1])) state ∧
      List.Forall₂
        (fun flow sent =>
          ∃ handed ∈ [(dnsFlowCache true false (ipv4bufTo6 [10, 0, 0, 1]) zeroAddress,
            ascii "\x7b")][flow]?, SentFlow.Shows handed sent)
        [0] state.sent.reverse := by
  obtain ⟨state, ran, quiet⟩ := @Takes.exists_of_any _ _
    (DnsResolution.step splittingGlobals fun _ => some (ascii "name")) (.new (some dnsSettings))
    (clientNamed (ipv4bufTo6 [10, 0, 0, 1])) (fun state => state.fault.isNone)
    (by decide +kernel)
  have counts : EveryStep (DnsResolution.step splittingGlobals fun _ => some (ascii "name"))
      DnsResolution.CountsOne (.new (some dnsSettings))
      (clientNamed (ipv4bufTo6 [10, 0, 0, 1])) := by
    refine ⟨trivial, ?_⟩
    rintro _ ⟨⟩
    refine ⟨?_, ?_⟩
    · rintro _ ⟨⟩ _ _ _ ⟨⟩ _ _ found
      cases found
    rintro _ ⟨⟩
    refine ⟨?_, ?_⟩
    · rintro _ ⟨⟩ _ _ _ ⟨⟩ _ _ found
      cases found
    rintro _ ⟨⟩
    refine ⟨?_, ?_⟩
    · rintro _ ⟨⟩ _ ⟨⟩
    rintro _ ⟨⟩
    refine ⟨?_, ?_⟩
    · rintro _ ⟨⟩ _ ⟨⟩
    rintro _ ⟨⟩
    refine ⟨?_, ?_⟩
    · rintro _ ⟨⟩ _ ⟨⟩
    rintro _ ⟨⟩
    exact ⟨trivial, fun _ _ => ⟨trivial, fun _ _ => ⟨trivial, fun _ _ => trivial⟩⟩⟩
  have unfaulted : state.fault = none := Option.isNone_iff_eq_none.mp quiet
  exact ⟨state, ran, (dnsResolution_onlyNames ran counts unfaulted).2.1⟩

end F2k
