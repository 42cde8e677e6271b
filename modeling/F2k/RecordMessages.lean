import F2k.ContainedFailures
import F2k.RecordPrograms

namespace F2k

open Lib

/-! The messages of a record when no allocation fails. -/

namespace Dissection

section

variable {globals : ReadOnlyGlobals} {turns : Nat} {counts : IntervalCounts}
variable {schedule : Nat → Bool} {before after : Allocations AllocationCall} {p p' : Buffer}
variable {state split : SplitState} {firstTimestamp dInterval currentTimestampS : UInt64}

theorem writeLine_text {program : Printing Unit} {text : Bytes}
    (ends : (writeLine program turns p).Ends schedule before p' after)
    (room : after.Serves (· = .room)) (runs : program.Runs p.text () text) : p'.text = text := by
  have wrote := (writeLine_ends ends).text room
  rw [runs turns] at wrote
  cases wrote
  rfl

theorem writeCounts_text {bytes pkts : UInt64}
    (ends : (writeCounts globals turns bytes pkts p).Ends schedule before p' after)
    (room : after.Serves (· = .room)) : p'.text = countedText p.text bytes pkts :=
  writeLine_text ends room (Printing.runs_printCounts globals p.text bytes pkts noFlowCache)

theorem writeTimestamp_text {timestamp : UInt64}
    (ends : (writeTimestamp globals turns timestamp p).Ends schedule before p' after)
    (room : after.Serves (· = .room)) : p'.text = stampedText p.text timestamp :=
  writeLine_text ends room (Printing.runs_printTimestamp globals p.text timestamp)

/-- The texts of the buffers are those of the state that has nothing but texts. -/
structure SplitState.Shows (state : SplitState) (texts : F2k.SplitState) : Prop where
  line : state.line.text = texts.line
  lastSentmsg : state.lastSentmsg.map SentMessage.useful = texts.lastSentmsg
  nodes : state.nodes.map (Option.map Buffer.text) = texts.nodes

theorem SplitState.Shows.messages {texts : F2k.SplitState} (shows : state.Shows texts) :
    state.list.map Node.message =
      texts.nodes.map fun string => { string := string.getD texts.line, clientMac := 0 } := by
  rw [← shows.nodes, ← shows.line, SplitState.list, List.map_map, List.map_map]
  apply List.map_congr_left
  intro string _
  cases string with
  | none => rfl
  | some => rfl

theorem lastMessage_shows {texts : F2k.SplitState}
    (ends : (lastMessage globals turns counts currentTimestampS state).Ends schedule before split
      after) (room : after.Serves (· = .room)) (shows : state.Shows texts) :
    split.Shows
      { texts with
        line := stampedText
          (countedText texts.line counts.firstIntervalBytes counts.firstIntervalPkts)
          currentTimestampS
        nodes := none :: texts.nodes } := by
  obtain ⟨line, _, counted, rest⟩ := ends.bind
  obtain ⟨stamped, _, stamps, rest⟩ := rest.bind
  obtain ⟨rfl, rfl⟩ := Allocating.ends_pure rest
  constructor
  case line =>
    rw [writeTimestamp_text stamps room, writeCounts_text counted (stamps.serves room), shows.line]
  case lastSentmsg => exact shows.lastSentmsg
  case nodes => exact congrArg (none :: ·) shows.nodes

theorem cloneMessage_shows {texts texts' : F2k.SplitState} {string : Buffer}
    (ends : (cloneMessage globals turns counts currentTimestampS string state).Ends schedule
      before split after)
    (room : after.Serves (· = .room)) (shows : state.Shows texts) (new : string.text = [])
    (more : ¬currentTimestampS + dInterval > firstTimestamp + counts.dSwitched)
    (ran : F2k.splitInterval globals counts firstTimestamp dInterval currentTimestampS texts =
      .ok texts') :
    split.Shows texts' := by
  rw [F2k.splitInterval, if_neg more, ← shows.lastSentmsg] at ran
  unfold cloneMessage at ends
  cases sent : state.lastSentmsg with
  | none =>
      rw [sent] at ends ran
      obtain ⟨copied, _, first, rest⟩ := ends.bind
      obtain ⟨useful, _, counted, rest⟩ := rest.bind
      obtain ⟨stamped, _, stamps, rest⟩ := rest.bind
      obtain ⟨rfl, rfl⟩ := Allocating.ends_pure rest
      have copies := (printbufMemappend_ends first).text (counted.serves (stamps.serves room))
      have counts := writeCounts_text counted (stamps.serves room)
      rw [new, List.nil_append, shows.line] at copies
      rw [copies] at counts
      have stampedText := writeTimestamp_text stamps room
      simp only [Option.map_none, printCounts_eq, printTimestamp_eq, Run.ok_bind, Run.pure_eq_ok]
        at ran
      obtain rfl := Except.ok.inj ran
      constructor
      case line => exact shows.line
      case lastSentmsg => exact congrArg some counts
      case nodes =>
        rw [List.map_cons, shows.nodes, Option.map_some, stampedText, counts]
  | some sent' =>
      rw [sent] at ends ran
      dsimp only at ends
      split at ends
      · obtain ⟨copied, _, first, rest⟩ := ends.bind
        obtain ⟨stamped, _, stamps, rest⟩ := rest.bind
        obtain ⟨rfl, rfl⟩ := Allocating.ends_pure rest
        have copies := (printbufMemappend_ends first).text (stamps.serves room)
        rw [new, List.nil_append] at copies
        have stampedText := writeTimestamp_text stamps room
        simp only [Option.map_some, printTimestamp_eq, Run.ok_bind, Run.pure_eq_ok] at ran
        obtain rfl := Except.ok.inj ran
        constructor
        case line => exact shows.line
        case lastSentmsg => rfl
        case nodes =>
          rw [List.map_cons, shows.nodes, Option.map_some, stampedText, copies]
      · cases ends

theorem splitInterval_shows {texts texts' : F2k.SplitState}
    (ends : (splitInterval globals turns counts firstTimestamp dInterval currentTimestampS
      state).Ends schedule before (some split) after)
    (room : after.Serves (· = .room)) (shows : state.Shows texts)
    (ran : F2k.splitInterval globals counts firstTimestamp dInterval currentTimestampS texts =
      .ok texts') :
    split.Shows texts' := by
  obtain ⟨node, middle, asked, rest⟩ := ends.bind
  cases node with
  | false => cases (Allocating.ends_pure rest).1
  | true =>
      rw [if_pos rfl] at rest
      split at rest
      · next last =>
          obtain ⟨state', _, printed, rest⟩ := rest.bind
          obtain ⟨same, rfl⟩ := Allocating.ends_pure rest
          cases same
          rw [F2k.splitInterval, if_pos last, printCounts_eq, Run.ok_bind, printTimestamp_eq,
            Run.ok_bind, Run.pure_eq_ok] at ran
          obtain rfl := Except.ok.inj ran
          exact lastMessage_shows printed room shows
      · next more =>
          obtain ⟨string, _, made, rest⟩ := rest.bind
          rcases printbufNew_ends made with ⟨string, rfl, new⟩ | ⟨rfl, _⟩
          · obtain ⟨state', _, printed, rest⟩ := rest.bind
            obtain ⟨same, rfl⟩ := Allocating.ends_pure rest
            cases same
            exact cloneMessage_shows printed room shows new.text more ran
          · cases (Allocating.ends_pure rest).1

theorem splitIntervals_shows {texts texts' : F2k.SplitState} {more fuel : Nat}
    (ends : (splitIntervals globals turns counts firstTimestamp dInterval more currentTimestampS
      state).Ends schedule before split after)
    (served : after.Serves fun _ => True) (shows : state.Shows texts)
    (ran : F2k.splitIntervals globals counts firstTimestamp dInterval fuel currentTimestampS texts =
      .ok texts') :
    split.Shows texts' := by
  induction more generalizing currentTimestampS state before texts fuel with
  | zero => cases ends
  | succ more ih =>
      cases fuel with
      | zero => cases ran
      | succ fuel =>
          rw [splitIntervals] at ends
          rw [F2k.splitIntervals] at ran
          split at ends
          · next inside =>
              rw [if_pos inside] at ran
              obtain ⟨next, ranFirst, ran⟩ := Run.bind_eq_ok.mp ran
              obtain ⟨result, middle, first, rest⟩ := ends.bind
              have supplied := rest.serves served
              rcases splitInterval_ends first with ⟨_, broken⟩ | ⟨state', rfl, _⟩
              · exact absurd (supplied.mono fun _ _ => trivial) broken.refused
              · have room : middle.Serves (· = .room) := supplied.mono fun _ _ => trivial
                exact ih rest (splitInterval_shows first room shows ranFirst) ran
          · next outside =>
              rw [if_neg outside] at ran
              cases ran
              obtain ⟨rfl, rfl⟩ := Allocating.ends_pure ends
              exact shows

theorem timeSplitFlow_messages {flowCache : FlowCache} {nodes : List Node}
    {messages : List Message}
    (ends : (timeSplitFlow globals turns p flowCache).Ends schedule before nodes after)
    (served : after.Serves fun _ => True)
    (ran : F2k.timeSplitFlow globals p.text flowCache = .ok messages) :
    nodes.map Node.message = messages := by
  unfold timeSplitFlow at ends
  unfold F2k.timeSplitFlow at ran
  dsimp only at ends ran
  split at ends
  · next separate =>
      rw [if_pos separate] at ran
      obtain ⟨texts, ranLoop, ran⟩ := Run.bind_eq_ok.mp ran
      obtain rfl := Except.ok.inj ran
      obtain ⟨split, _, loop, rest⟩ := ends.bind
      obtain ⟨rfl, rfl⟩ := Allocating.ends_pure rest
      exact (splitIntervals_shows loop served ⟨rfl, rfl, rfl⟩ ranLoop).messages
  · next whole =>
      rw [if_neg whole, printWholeFlow_eq] at ran
      obtain rfl := Except.ok.inj ran
      obtain ⟨wrote, _, printed, rest⟩ := ends.bind
      obtain ⟨node, _, asked, rest⟩ := rest.bind
      have served := rest.serves served
      obtain ⟨_, rfl⟩ := Allocating.ends_ask asked
      cases node with
      | true =>
          obtain ⟨rfl, rfl⟩ := Allocating.ends_pure rest
          have text := writeLine_text printed ((Allocations.serves_served.mp served).mono
            fun _ _ => trivial) (Printing.runs_printWholeFlow globals p.text _ _ _ _ flowCache)
          rw [List.map_singleton, Node.message, text]
      | false => exact absurd trivial (Allocations.serves_refused.mp served).2

end

namespace ReceivedRecord

/-- The messages of the record, with memory for everything. -/
def messages : ReceivedRecord → Run (List Message)
  | .v5 globals the5Record flowIdx observationId => do
      let record ← F2k.dissectNetFlowV5Record globals the5Record flowIdx observationId
      pure record.messages
  | .v9V10 context template buffer endFlow observationId flowSequenceNumber displ => do
      let (record, _) ←
        F2k.dissectRecord context template buffer endFlow observationId flowSequenceNumber displ
      pure record.messages

section

variable {schedule : Nat → Bool} {before middle after : Allocations AllocationCall}
variable {turns : Nat} {nodes : List Node} {p line : Buffer} {texts : List Message}

theorem printed_messages {globals : ReadOnlyGlobals} {program : Printing FlowCache}
    {flowCache expected : FlowCache} {text : Bytes}
    (printing : (write (program turns) p).Ends schedule before (flowCache, line) middle)
    (splitting : (timeSplitFlow globals turns line flowCache).Ends schedule middle nodes after)
    (served : after.Serves fun _ => True) (new : p.text = [])
    (prints : (program turns).run [] = some (.ok (expected, text)))
    (split : F2k.timeSplitFlow globals text expected = .ok texts) :
    nodes.map Node.message = texts := by
  have written := (write_ends printing).text ((splitting.serves served).mono fun _ _ => trivial)
  rw [new, prints] at written
  cases written
  exact timeSplitFlow_messages splitting served split

/-- What is printed with enough turns is split into the messages of the record, unless memory is
refused. -/
theorem dissect_messages (globals : NamelessGlobals) {record : ReceivedRecord}
    (same : record.globals = globals.toReadOnlyGlobals) (ran : record.messages = .ok texts) :
    ∃ enough, ∀ more schedule nodes after,
      (record.dissect (enough + more)).Ends schedule {} nodes after →
        (after.Serves fun _ => True) → nodes.map Node.message = texts := by
  cases record with
  | v5 globals the5Record flowIdx observationId =>
      cases same
      obtain ⟨record, dissected, ran⟩ := Run.bind_eq_ok.mp ran
      cases ran
      obtain ⟨flowCache, text, ⟨enough, prints⟩, split⟩ :=
        Printing.dissectNetFlowV5Record_ends dissected
      refine ⟨enough, ?_⟩
      intro more schedule nodes after ends served
      obtain ⟨line, _, made, rest⟩ := ends.bind
      rcases printbufNew_ends made with ⟨p, rfl, new⟩ | ⟨rfl, none⟩
      · obtain ⟨wrote, _, printing, splitting⟩ := rest.bind
        exact printed_messages printing splitting served new.text (prints more) split
      · obtain ⟨rfl, rfl⟩ := Allocating.ends_pure rest
        exact absurd trivial (none.serves _ served)
  | v9V10 context template buffer endFlow observationId flowSequenceNumber displ =>
      obtain ⟨_, flowVersion, flowHeader⟩ := context
      cases same
      obtain ⟨⟨record, behind⟩, dissected, ran⟩ := Run.bind_eq_ok.mp ran
      cases ran
      obtain ⟨flowCache, text, ⟨enough, prints⟩, split⟩ := Printing.dissectRecord_ends dissected
      refine ⟨enough, ?_⟩
      intro more schedule nodes after ends served
      obtain ⟨line, _, made, rest⟩ := ends.bind
      rcases printbufNew_ends made with ⟨p, rfl, new⟩ | ⟨rfl, none⟩
      · obtain ⟨block, _, allocated, rest⟩ := rest.bind
        have opened := rest.serves served
        rcases Allocating.ends_allocate allocated with ⟨_, rfl, rfl⟩ | ⟨_, rfl, rfl⟩
        · obtain ⟨wrote, _, printing, rest⟩ := rest.bind
          obtain ⟨list, final, splitting, rest⟩ := rest.bind
          have kept := rest.serves served
          obtain ⟨done, _, freed, rest⟩ := rest.bind
          obtain ⟨rfl, rfl⟩ := Allocating.ends_pure rest
          exact printed_messages printing splitting kept new.text (prints more) split
        · exact absurd trivial (Allocations.serves_refused.mp opened).2
      · obtain ⟨rfl, rfl⟩ := Allocating.ends_pure rest
        exact absurd trivial (none.serves _ served)

/-- The messages of a record that is contained are messages of the record. -/
theorem Contained.messages (globals : NamelessGlobals) {record : ReceivedRecord}
    (same : record.globals = globals.toReadOnlyGlobals) (ran : record.messages = .ok texts) :
    ∃ enough, ∀ more schedule, record.Contained (enough + more) schedule →
      ∃ nodes after, (record.dissect (enough + more)).Ends schedule {} nodes after ∧
        ∀ node ∈ nodes, node.message ∈ texts := by
  obtain ⟨enough, prints⟩ := dissect_messages globals same ran
  refine ⟨enough, ?_⟩
  intro more schedule ⟨nodes, after, ends, _, among⟩
  refine ⟨nodes, after, ends, ?_⟩
  intro node inList
  obtain ⟨undisturbed, last, ends, message⟩ := among node inList
  rwa [prints more _ _ _ ends (ends.all_served nofun)] at message

end

end ReceivedRecord

end Dissection

end F2k
