import F2k.FailingAllocations
import F2k.LongFlow

namespace F2k

open Lib

/-! What becomes of the buffers of a record when allocations fail. -/

namespace Dissection

/-- Nothing but room has been asked for. -/
structure Grown (before after : Allocations AllocationCall) : Prop where
  allocated : after.allocated = before.allocated
  freed : after.freed = before.freed
  serves : ∀ kind : AllocationCall → Prop, ¬kind .room → (after.Serves kind ↔ before.Serves kind)

section

variable {before middle after : Allocations AllocationCall}

theorem Grown.refl (memory : Allocations AllocationCall) : Grown memory memory :=
  ⟨rfl, rfl, fun _ _ => Iff.rfl⟩

theorem Grown.trans (first : Grown before middle) (second : Grown middle after) :
    Grown before after where
  allocated := second.allocated.trans first.allocated
  freed := second.freed.trans first.freed
  serves := fun kind other => (second.serves kind other).trans (first.serves kind other)

theorem Grown.tally {owned : List Nat} (grown : Grown before after) (tally : before.Tally owned) :
    after.Tally owned := by
  intro block
  rw [grown.allocated, grown.freed]
  exact tally block

theorem Grown.answered (memory : Allocations AllocationCall) (served : Bool) :
    Grown memory (memory.answered .room served) where
  allocated := rfl
  freed := rfl
  serves := by
    intro kind other
    rw [Allocations.serves_answered]
    exact and_iff_left fun asked => absurd asked other

end

/-! Buffers -/

/-- What a program leaves that writes to a buffer: the text is the one it writes to a list, unless
room is refused. -/
structure Written (before after : Allocations AllocationCall) (p p' : Buffer)
    (wrote : Prop) : Prop where
  block : p'.block = p.block
  grown : Grown before after
  text : after.Serves (· = .room) → wrote

section

variable {schedule : Nat → Bool} {before after : Allocations AllocationCall} {p p' : Buffer}

theorem printbufRoom_ends {size : Nat} {extended : Option Buffer}
    (ends : (printbufRoom p size).Ends schedule before extended after) :
    Grown before after ∧ (after.Serves (· = .room) → extended ≠ none) ∧
      ∀ p' ∈ extended, p'.block = p.block ∧ p'.text = p.text := by
  unfold printbufRoom at ends
  split at ends
  · unfold printbufExtend at ends
    split at ends
    · obtain ⟨rfl, rfl⟩ := Allocating.ends_pure ends
      exact ⟨.refl _, fun _ => nofun, fun _ same => by cases same; exact ⟨rfl, rfl⟩⟩
    · obtain ⟨served, middle, asked, rest⟩ := ends.bind
      obtain ⟨_, rfl⟩ := Allocating.ends_ask asked
      obtain ⟨rfl, rfl⟩ := Allocating.ends_pure rest
      refine ⟨.answered before served, ?_, ?_⟩
      · intro serves
        rw [(Allocations.serves_answered.mp serves).2 rfl]
        exact nofun
      · intro p' extended
        split at extended
        · cases extended
          exact ⟨rfl, rfl⟩
        · cases extended
  · obtain ⟨rfl, rfl⟩ := Allocating.ends_pure ends
    exact ⟨.refl _, fun _ => nofun, fun _ same => by cases same; exact ⟨rfl, rfl⟩⟩

theorem printbufMemappend_ends {bytes : Bytes}
    (ends : (printbufMemappend p bytes).Ends schedule before p' after) :
    Written before after p p' (p'.text = p.text ++ bytes) := by
  obtain ⟨extended, middle, asked, rest⟩ := ends.bind
  obtain ⟨grown, room, same⟩ := printbufRoom_ends asked
  cases extended with
  | none =>
      obtain ⟨rfl, rfl⟩ := Allocating.ends_pure rest
      exact ⟨rfl, grown, fun serves => absurd rfl (room serves)⟩
  | some extended =>
      obtain ⟨rfl, rfl⟩ := Allocating.ends_pure rest
      obtain ⟨block, text⟩ := same extended rfl
      exact ⟨block, grown, fun _ => congrArg (· ++ bytes) text⟩

theorem printbufMemappendFast_ends {bytes : Bytes}
    (ends : (printbufMemappendFast p bytes).Ends schedule before p' after) :
    Written before after p p' (p'.text = p.text ++ bytes) := by
  unfold printbufMemappendFast at ends
  split at ends
  · obtain ⟨rfl, rfl⟩ := Allocating.ends_pure ends
    exact ⟨rfl, .refl _, fun _ => rfl⟩
  · exact printbufMemappend_ends ends

theorem write_ends {α : Type} {program : Writing PrintFault UInt8 α} {value : α}
    (ends : (write program p).Ends schedule before (value, p') after) :
    Written before after p p' (program.run p.text = some (.ok (value, p'.text))) := by
  induction program generalizing p before with
  | result =>
      obtain ⟨same, rfl⟩ := Allocating.ends_pure ends
      cases same
      exact ⟨rfl, .refl _, fun _ => rfl⟩
  | fails => cases ends
  | endless => cases ends
  | append text next ih =>
      obtain ⟨appended, middle, first, rest⟩ := ends.bind
      obtain ⟨block, grown, text⟩ := printbufMemappendFast_ends first
      obtain ⟨block', grown', written⟩ := ih rest
      refine ⟨block'.trans block, grown.trans grown', ?_⟩
      intro serves
      rw [Writing.run, ← text (rest.serves serves)]
      exact written serves
  | length next ih => exact ih _ ends
  | written next ih => exact ih _ ends
  | cut kept next ih =>
      have rest : (write next { p with text := p.text.take kept }).Ends schedule before (value, p')
          after := ends
      obtain ⟨block, grown, written⟩ := ih rest
      exact ⟨block, grown, written⟩

theorem writeLine_ends {program : Printing Unit} {turns : Nat}
    (ends : (writeLine program turns p).Ends schedule before p' after) :
    Written before after p p' ((program turns).run p.text = some (.ok ((), p'.text))) := by
  obtain ⟨wrote, middle, first, rest⟩ := ends.bind
  obtain ⟨rfl, rfl⟩ := Allocating.ends_pure rest
  exact write_ends first

/-- What `printbuf_new` leaves when both of its calls are served. -/
structure NewBuffer (schedule : Nat → Bool) (before after : Allocations AllocationCall)
    (p : Buffer) : Prop where
  text : p.text = []
  tally : ∀ owned, before.Tally owned → after.Tally (p.block :: owned)
  serves : ∀ kind : AllocationCall → Prop, after.Serves kind ↔ before.Serves kind
  calls : after.calls.length = before.calls.length + 2
  served : ∀ n, before.calls.length ≤ n → n < before.calls.length + 2 → schedule n = true

/-- What it leaves when one of them is refused. -/
structure NoBuffer (schedule : Nat → Bool) (call : AllocationCall)
    (before after : Allocations AllocationCall) : Prop where
  tally : ∀ owned, before.Tally owned → after.Tally owned
  serves : ∀ kind : AllocationCall → Prop, after.Serves kind → ¬kind call
  refused : ∃ n < before.calls.length + 2, schedule n = false

theorem printbufNew_ends {call : AllocationCall} {string : Option Buffer}
    (ends : (printbufNew call).Ends schedule before string after) :
    (∃ p, string = some p ∧ NewBuffer schedule before after p) ∨
      string = none ∧ NoBuffer schedule call before after := by
  obtain ⟨block, middle, allocated, rest⟩ := ends.bind
  rcases Allocating.ends_allocate allocated with ⟨first, rfl, rfl⟩ | ⟨first, rfl, rfl⟩
  · have asked : (before.answered call true).withBlock.calls.length = before.calls.length + 1 :=
      List.length_append
    obtain ⟨contents, middle, asks, rest⟩ := rest.bind
    obtain ⟨second, rfl⟩ := Allocating.ends_ask asks
    rw [asked] at second
    cases contents with
    | true =>
        obtain ⟨rfl, rfl⟩ := Allocating.ends_pure rest
        refine .inl ⟨_, rfl, ?_⟩
        constructor
        case text => rfl
        case tally => exact fun _ tally => tally.withBlock call
        case serves =>
          exact fun _ => Allocations.serves_served.trans Allocations.serves_served
        case calls =>
          rw [Allocations.answered, List.length_append, asked]
          rfl
        case served =>
          intro n start below
          rcases Nat.eq_or_lt_of_le start with rfl | later
          · exact first
          · rw [Nat.le_antisymm (Nat.le_of_lt_succ below) later]
            exact second
    | false =>
        obtain ⟨done, middle, freed, rest⟩ := rest.bind
        obtain rfl := Allocating.ends_free freed
        obtain ⟨rfl, rfl⟩ := Allocating.ends_pure rest
        refine .inr ⟨rfl, ?_⟩
        constructor
        case tally => exact fun _ tally => (tally.withBlock call).without
        case serves => exact fun _ served => (Allocations.serves_refused.mp served).2
        case refused => exact ⟨_, Nat.lt_add_one _, second⟩
  · obtain ⟨rfl, rfl⟩ := Allocating.ends_pure rest
    refine .inr ⟨rfl, ?_⟩
    constructor
    case tally => exact fun _ tally => tally
    case serves => exact fun _ served => (Allocations.serves_refused.mp served).2
    case refused => exact ⟨_, Nat.lt_add_of_pos_right (by decide), first⟩

end

/-! Splitting -/

/-- No memory has been refused but room in a buffer. -/
abbrev Supplied (memory : Allocations AllocationCall) : Prop :=
  memory.Serves (· ≠ .room)

def blocks (nodes : List Node) : List Nat :=
  nodes.map fun node => node.string.block

def SplitState.owned (state : SplitState) : List Nat :=
  blocks state.list

section

variable {globals : ReadOnlyGlobals} {turns : Nat} {counts : IntervalCounts}
variable {schedule : Nat → Bool} {before after : Allocations AllocationCall} {p p' : Buffer}
variable {timestamp : UInt64} {state split : SplitState}

theorem cloneMessage_ends {string : Buffer}
    (ends : (cloneMessage globals turns counts timestamp string state).Ends schedule before split
      after) :
    split.line = state.line ∧ split.owned = string.block :: state.owned ∧ Grown before after := by
  unfold cloneMessage at ends
  split at ends
  · obtain ⟨copied, _, first, rest⟩ := ends.bind
    obtain ⟨useful, _, counted, rest⟩ := rest.bind
    obtain ⟨stamped, _, stamps, rest⟩ := rest.bind
    obtain ⟨rfl, rfl⟩ := Allocating.ends_pure rest
    have copies := printbufMemappend_ends first
    have counts := writeLine_ends counted
    have stamps := writeLine_ends stamps
    have block := (stamps.block.trans counts.block).trans copies.block
    refine ⟨rfl, ?_, copies.grown.trans (counts.grown.trans stamps.grown)⟩
    rw [← block]
    rfl
  · next sent _ =>
      split at ends
      · obtain ⟨copied, _, first, rest⟩ := ends.bind
        obtain ⟨stamped, _, stamps, rest⟩ := rest.bind
        obtain ⟨rfl, rfl⟩ := Allocating.ends_pure rest
        have copies := printbufMemappend_ends first
        have stamps := writeLine_ends stamps
        have block := stamps.block.trans copies.block
        refine ⟨rfl, ?_, copies.grown.trans stamps.grown⟩
        rw [← block]
        rfl
      · cases ends

theorem lastMessage_ends
    (ends : (lastMessage globals turns counts timestamp state).Ends schedule before split after) :
    split.owned = state.line.block :: state.owned ∧ Grown before after := by
  obtain ⟨line, _, counted, rest⟩ := ends.bind
  obtain ⟨stamped, _, stamps, rest⟩ := rest.bind
  obtain ⟨rfl, rfl⟩ := Allocating.ends_pure rest
  have counts := writeLine_ends counted
  have stamps := writeLine_ends stamps
  have block := stamps.block.trans counts.block
  refine ⟨?_, counts.grown.trans stamps.grown⟩
  simp only [SplitState.owned, SplitState.list, blocks, List.map_cons, List.map_map,
    Option.getD_none, block, List.cons.injEq, true_and]
  apply List.map_congr_left
  intro string _
  cases string with
  | none => exact block
  | some => rfl

variable {firstTimestamp dInterval currentTimestampS : UInt64} {others : List Nat}

/-- A turn of the loop in which memory was refused: the list is as it was. -/
structure BrokenOff (state : SplitState) (before after : Allocations AllocationCall) : Prop where
  refused : ¬Supplied after
  tally : ∀ others, before.Tally (state.line.block :: (state.owned ++ others)) →
    after.Tally (state.line.block :: (state.owned ++ others))

/-- A turn that made a message: the last one takes the buffer that was passed. -/
structure Turned (last : Prop) (state split : SplitState)
    (before after : Allocations AllocationCall) : Prop where
  supplied : Supplied before → Supplied after
  line : ¬last → split.line = state.line
  tally : ∀ others, before.Tally (state.line.block :: (state.owned ++ others)) →
    (last → after.Tally (split.owned ++ others)) ∧
      (¬last → after.Tally (state.line.block :: (split.owned ++ others)))

theorem splitInterval_ends {result : Option SplitState}
    (ends : (splitInterval globals turns counts firstTimestamp dInterval currentTimestampS
      state).Ends schedule before result after) :
    (result = none ∧ BrokenOff state before after) ∨
      ∃ split, result = some split ∧
        Turned (currentTimestampS + dInterval > firstTimestamp + counts.dSwitched) state split
          before after := by
  obtain ⟨node, middle, asked, rest⟩ := ends.bind
  obtain ⟨_, rfl⟩ := Allocating.ends_ask asked
  cases node with
  | false =>
      obtain ⟨rfl, rfl⟩ := Allocating.ends_pure rest
      refine .inl ⟨rfl, ?_⟩
      constructor
      case refused => exact fun supplied => (Allocations.serves_refused.mp supplied).2 nofun
      case tally => exact fun _ tally => tally
  | true =>
      have served : Supplied (before.answered .node true) ↔ Supplied before :=
        Allocations.serves_served
      rw [if_pos rfl] at rest
      split at rest
      · next last =>
          obtain ⟨split, _, printed, rest⟩ := rest.bind
          obtain ⟨rfl, rfl⟩ := Allocating.ends_pure rest
          obtain ⟨owned, grown⟩ := lastMessage_ends printed
          refine .inr ⟨split, rfl, ?_⟩
          constructor
          case supplied => exact fun supplied =>
            (grown.serves _ (· rfl)).mpr (served.mpr supplied)
          case line => exact fun more => absurd last more
          case tally =>
            intro others tally
            rw [owned]
            exact ⟨fun _ => grown.tally tally, fun more => absurd last more⟩
      · next more =>
          obtain ⟨string, middle, made, rest⟩ := rest.bind
          rcases printbufNew_ends made with ⟨p, rfl, new⟩ | ⟨rfl, none⟩
          · obtain ⟨split, _, printed, rest⟩ := rest.bind
            obtain ⟨rfl, rfl⟩ := Allocating.ends_pure rest
            obtain ⟨line, owned, grown⟩ := cloneMessage_ends printed
            refine .inr ⟨split, rfl, ?_⟩
            constructor
            case supplied => exact fun supplied =>
              (grown.serves _ (· rfl)).mpr ((new.serves _).mpr (served.mpr supplied))
            case line => exact fun _ => line
            case tally =>
              intro others tally
              have both := new.tally _ (show (before.answered .node true).Tally _ from tally)
              rw [owned]
              exact ⟨fun last => absurd last more,
                fun _ => grown.tally (both.perm (List.Perm.swap ..))⟩
          · obtain ⟨rfl, rfl⟩ := Allocating.ends_pure rest
            refine .inl ⟨rfl, ?_⟩
            constructor
            case refused => exact fun supplied => none.serves _ supplied nofun
            case tally => exact fun _ tally => none.tally _ tally

theorem splitIntervals_past {more : Nat}
    (past : currentTimestampS > firstTimestamp + counts.dSwitched)
    (ends : (splitIntervals globals turns counts firstTimestamp dInterval more currentTimestampS
      state).Ends schedule before split after) :
    split = state ∧ after = before := by
  cases more with
  | zero => cases ends
  | succ more =>
      rw [splitIntervals, if_neg (UInt64.not_le.mpr past)] at ends
      exact Allocating.ends_pure ends

/-- The buffer that was passed gets a node when the loop comes to its last interval, and all its
calls are served. -/
theorem splitIntervals_ends {more : Nat}
    (ends : (splitIntervals globals turns counts firstTimestamp dInterval more currentTimestampS
      state).Ends schedule before split after)
    (supplied : Supplied before)
    (tally : before.Tally (state.line.block :: (state.owned ++ others))) :
    (Supplied after ∧ currentTimestampS ≤ firstTimestamp + counts.dSwitched) ∧
        after.Tally (split.owned ++ others) ∨
      ¬(Supplied after ∧ currentTimestampS ≤ firstTimestamp + counts.dSwitched) ∧
        after.Tally (state.line.block :: (split.owned ++ others)) := by
  induction more generalizing currentTimestampS state before with
  | zero => cases ends
  | succ more ih =>
      rw [splitIntervals] at ends
      split at ends
      · next inside =>
          obtain ⟨result, middle, first, rest⟩ := ends.bind
          rcases splitInterval_ends first with ⟨rfl, broken⟩ | ⟨next, rfl, turned⟩
          · obtain ⟨rfl, rfl⟩ := Allocating.ends_pure rest
            exact .inr ⟨fun all => broken.refused all.1, broken.tally others tally⟩
          · by_cases last : currentTimestampS + dInterval > firstTimestamp + counts.dSwitched
            · obtain ⟨rfl, rfl⟩ := splitIntervals_past last rest
              exact .inl ⟨⟨turned.supplied supplied, inside⟩, (turned.tally others tally).1 last⟩
            · have inside' : currentTimestampS + dInterval ≤ firstTimestamp + counts.dSwitched :=
                UInt64.not_lt.mp last
              have owned := (turned.tally others tally).2 last
              rw [← turned.line last] at owned ⊢
              rcases ih rest (turned.supplied supplied) owned with ⟨all, owned⟩ | ⟨some, owned⟩
              · exact .inl ⟨⟨all.1, inside⟩, owned⟩
              · exact .inr ⟨fun all => some ⟨all.1, inside'⟩, owned⟩
      · next outside =>
          obtain ⟨rfl, rfl⟩ := Allocating.ends_pure ends
          exact .inr ⟨fun all => outside all.2, tally⟩

/-- The loop that splits the flow makes a turn. -/
def EntersLoop (globals : ReadOnlyGlobals) (flowCache : FlowCache) : Prop :=
  let time := flowCache.time.withExport globals.now
  let first := firstTimestampS globals flowCache.observationId.getFallbackFirstSwitch time
  first ≤ first + trimmedDuration (lastTimestampS globals time - first)

theorem printWholeFlow_ends {dSwitched : UInt64} {flowCache : FlowCache} {nodes : List Node}
    (ends : (printWholeFlow globals turns p firstTimestamp dSwitched flowCache).Ends schedule
      before nodes after)
    (supplied : Supplied before) (tally : before.Tally (p.block :: others)) :
    after.Tally (blocks nodes ++ others) ∧ (nodes = [] ∨ Supplied after) := by
  obtain ⟨line, _, printed, rest⟩ := ends.bind
  obtain ⟨node, _, asked, rest⟩ := rest.bind
  obtain ⟨_, rfl⟩ := Allocating.ends_ask asked
  have written := writeLine_ends printed
  have owned := written.grown.tally tally
  rw [← written.block] at owned
  cases node with
  | true =>
      obtain ⟨rfl, rfl⟩ := Allocating.ends_pure rest
      refine ⟨owned, .inr (Allocations.serves_served.mpr ?_)⟩
      exact (written.grown.serves _ (· rfl)).mpr supplied
  | false =>
      obtain ⟨done, _, freed, rest⟩ := rest.bind
      obtain rfl := Allocating.ends_free freed
      obtain ⟨rfl, rfl⟩ := Allocating.ends_pure rest
      exact ⟨Allocations.Tally.without owned, .inl rfl⟩

/-- The list has all of the flow, or there is no list. -/
theorem timeSplitFlow_ends {flowCache : FlowCache} {nodes : List Node}
    (ends : (timeSplitFlow globals turns p flowCache).Ends schedule before nodes after)
    (supplied : Supplied before) (tally : before.Tally (p.block :: others)) :
    (globals.separateLongFlows = true → Supplied after ∧ EntersLoop globals flowCache) ∧
        after.Tally (blocks nodes ++ others) ∧ (nodes = [] ∨ Supplied after) ∨
      ¬(globals.separateLongFlows = true → Supplied after ∧ EntersLoop globals flowCache) ∧
        after.Tally (p.block :: (blocks nodes ++ others)) := by
  unfold timeSplitFlow at ends
  dsimp only at ends
  split at ends
  · next separate =>
      obtain ⟨split, _, loop, rest⟩ := ends.bind
      obtain ⟨rfl, rfl⟩ := Allocating.ends_pure rest
      rcases splitIntervals_ends loop supplied tally with
        ⟨all, owned⟩ | ⟨some, owned⟩
      · exact .inl ⟨fun _ => all, owned, .inr all.1⟩
      · exact .inr ⟨fun all => some (all separate), owned⟩
  · next whole =>
      obtain ⟨owned, list⟩ := printWholeFlow_ends ends supplied tally
      exact .inl ⟨fun separate => absurd separate whole, owned, list⟩

end

/-! Records -/

/-- A record as it is in a datagram. -/
inductive ReceivedRecord
  | v5 (globals : ReadOnlyGlobals) (the5Record : Mem) (flowIdx : Nat)
      (observationId : ObservationID)
  | v9V10 (context : PacketContext) (template : FlowSetV9Ipfix) (buffer : Mem) (endFlow : Nat)
      (observationId : ObservationID) (flowSequenceNumber : UInt16) (displ : Nat)

namespace ReceivedRecord

def globals : ReceivedRecord → ReadOnlyGlobals
  | .v5 globals .. => globals
  | .v9V10 context .. => context.globals

def printed : ReceivedRecord → Printing FlowCache
  | .v5 globals the5Record flowIdx observationId =>
      Printing.dissectNetFlowV5Record globals the5Record flowIdx observationId
  | .v9V10 context template buffer endFlow observationId flowSequenceNumber displ =>
      Printing.dissectRecord context template buffer endFlow observationId flowSequenceNumber displ

def dissect : ReceivedRecord → Nat → Dissection (List Node)
  | .v5 globals the5Record flowIdx observationId, turns =>
      dissectNetFlowV5Record globals turns the5Record flowIdx observationId
  | .v9V10 context template buffer endFlow observationId flowSequenceNumber displ, turns =>
      dissectRecord context turns template buffer endFlow observationId flowSequenceNumber displ

/-- The calls that are made before anything is printed. -/
def openingCalls : ReceivedRecord → Nat
  | .v5 .. => 2
  | .v9V10 .. => 3

/-- Every block of the record is in the list once or was freed once, and the messages of the list
are among those of the record when no call fails. -/
def Contained (record : ReceivedRecord) (turns : Nat) (schedule : Nat → Bool) : Prop :=
  ∃ nodes after, (record.dissect turns).Ends schedule {} nodes after ∧
    after.Tally (blocks nodes) ∧
    ∀ node ∈ nodes, ∃ undisturbed last,
      (record.dissect turns).Ends (fun _ => true) {} undisturbed last ∧
        node.message ∈ undisturbed.map Node.message

/-- The record does not come to its first byte, or its flow is not split, or the loop that splits
it is entered and no call is refused. -/
def HandsOver (record : ReceivedRecord) (turns : Nat) (schedule : Nat → Bool) : Prop :=
  ∃ nodes after, (record.dissect turns).Ends schedule {} nodes after ∧
    ((∃ n < record.openingCalls, schedule n = false) ∨
      (record.globals.separateLongFlows = true → (after.Serves fun _ => True) ∧
        ∃ flowCache line, (record.printed turns).run [] = some (.ok (flowCache, line)) ∧
          EntersLoop record.globals flowCache))

/-- The buffers of the record get all the room that they need. -/
def KeepsRoom (record : ReceivedRecord) (turns : Nat) (schedule : Nat → Bool) : Prop :=
  ∀ nodes after, (record.dissect turns).Ends schedule {} nodes after → after.Serves (· = .room)

instance (record : ReceivedRecord) (turns : Nat) (schedule : Nat → Bool) :
    Decidable (record.KeepsRoom turns schedule) :=
  match ran : (record.dissect turns).run schedule {} with
  | .error _ => .isTrue fun _ _ ends => nomatch ran.symm.trans ends
  | .ok (_, after) =>
      decidable_of_iff (∀ call ∈ after.calls, call.1 = .room → call.2 = true)
        ⟨fun serves _ _ ends => by
          cases ran.symm.trans ends
          exact serves, fun keeps => keeps _ _ ran⟩

section

variable {record : ReceivedRecord} {turns : Nat} {schedule : Nat → Bool} {nodes : List Node}
variable {after : Allocations AllocationCall}

/-- The flow of the record is handed over whole. -/
def HandedOver (globals : ReadOnlyGlobals) (flowCache : FlowCache)
    (after : Allocations AllocationCall) : Prop :=
  globals.separateLongFlows = true → Supplied after ∧ EntersLoop globals flowCache

theorem printed_ends {program : Printing FlowCache} {globals : ReadOnlyGlobals}
    {flowCache : FlowCache} {p line : Buffer} {before middle : Allocations AllocationCall}
    {others : List Nat}
    (printing : (write (program turns) p).Ends schedule before (flowCache, line) middle)
    (splitting : (timeSplitFlow globals turns line flowCache).Ends schedule middle nodes after)
    (supplied : Supplied before) (text : p.text = []) (tally : before.Tally (p.block :: others)) :
    (after.Serves (· = .room) → (program turns).run [] = some (.ok (flowCache, line.text))) ∧
      (HandedOver globals flowCache after ∧ after.Tally (blocks nodes ++ others) ∧
          (nodes = [] ∨ Supplied after) ∨
        ¬HandedOver globals flowCache after ∧
          after.Tally (line.block :: (blocks nodes ++ others))) := by
  have written := write_ends printing
  have owned := written.grown.tally tally
  rw [← written.block] at owned
  refine ⟨?_, timeSplitFlow_ends splitting ((written.grown.serves _ (· rfl)).mpr supplied) owned⟩
  intro room
  rw [← text]
  exact written.text (splitting.serves room)

/-- What the end of a record tells: nothing has been printed, or its flow was split. -/
theorem dissect_ends (ends : (record.dissect turns).Ends schedule {} nodes after) :
    (nodes = [] ∧ after.Tally [] ∧ ∃ n < record.openingCalls, schedule n = false) ∨
      (∀ n < record.openingCalls, schedule n = true) ∧
        ∃ flowCache line,
          (after.Serves (· = .room) →
            (record.printed turns).run [] = some (.ok (flowCache, line))) ∧
          (HandedOver record.globals flowCache after ∧ after.Tally (blocks nodes) ∧
              (nodes = [] ∨ Supplied after) ∨
            ¬HandedOver record.globals flowCache after ∧
              ∃ lost, after.Tally (lost :: blocks nodes)) := by
  cases record with
  | v5 globals the5Record flowIdx observationId =>
      obtain ⟨line, _, made, rest⟩ := ends.bind
      rcases printbufNew_ends made with ⟨p, rfl, new⟩ | ⟨rfl, none⟩
      · obtain ⟨wrote, _, printing, splitting⟩ := rest.bind
        obtain ⟨printed, list⟩ :=
          printed_ends printing splitting ((new.serves _).mpr nofun) new.text
            (new.tally [] Allocations.tally_start)
        rw [List.append_nil] at list
        refine .inr ⟨fun n => new.served n (Nat.zero_le n), wrote.1, wrote.2.text, printed,
          list.imp_right ?_⟩
        exact fun lost => ⟨lost.1, _, lost.2⟩
      · obtain ⟨rfl, rfl⟩ := Allocating.ends_pure rest
        exact .inl ⟨rfl, none.tally [] Allocations.tally_start, none.refused⟩
  | v9V10 context template buffer endFlow observationId flowSequenceNumber displ =>
      obtain ⟨line, withLine, made, rest⟩ := ends.bind
      rcases printbufNew_ends made with ⟨p, rfl, new⟩ | ⟨rfl, none⟩
      · have owned := new.tally [] Allocations.tally_start
        obtain ⟨block, _, allocated, rest⟩ := rest.bind
        rcases Allocating.ends_allocate allocated with ⟨third, rfl, rfl⟩ | ⟨third, rfl, rfl⟩
        · obtain ⟨wrote, _, printing, rest⟩ := rest.bind
          obtain ⟨list, final, splitting, rest⟩ := rest.bind
          obtain ⟨done, _, freed, rest⟩ := rest.bind
          obtain rfl := Allocating.ends_free freed
          obtain ⟨rfl, rfl⟩ := Allocating.ends_pure rest
          have supplied : Supplied (withLine.answered .flowCache true) :=
            Allocations.serves_served.mpr ((new.serves _).mpr nofun)
          obtain ⟨printed, list⟩ :=
            printed_ends printing splitting supplied new.text
              ((owned.withBlock .flowCache).perm (List.Perm.swap ..))
          have opened : ∀ n < 3, schedule n = true := by
            intro n before
            rcases Nat.lt_or_eq_of_le (Nat.le_of_lt_succ before) with first | rfl
            · exact new.served n (Nat.zero_le n) first
            · rwa [new.calls] at third
          refine .inr ⟨opened, wrote.1, wrote.2.text, printed, ?_⟩
          rcases list with ⟨handed, kept, some⟩ | ⟨kept, lost⟩
          · exact .inl ⟨handed, (kept.perm List.perm_append_comm).without, some⟩
          · have lost := lost.perm (@List.perm_append_comm _ (_ :: blocks _) _)
            exact .inr ⟨kept, _, lost.without⟩
        · obtain ⟨done, _, freed, rest⟩ := rest.bind
          obtain rfl := Allocating.ends_free freed
          obtain ⟨rfl, rfl⟩ := Allocating.ends_pure rest
          rw [new.calls] at third
          exact .inl ⟨rfl, owned.without, 2, Nat.lt_add_one 2, third⟩
      · obtain ⟨rfl, rfl⟩ := Allocating.ends_pure rest
        obtain ⟨n, before, refused⟩ := none.refused
        exact .inl ⟨rfl, none.tally [] Allocations.tally_start, n, Nat.lt_succ_of_lt before,
          refused⟩

theorem serves_all (room : after.Serves (· = .room)) (supplied : Supplied after) :
    after.Serves fun _ => True := by
  intro call asked _
  by_cases grows : call.1 = .room
  · exact room call asked grows
  · exact supplied call asked grows

/-- The list gets all the blocks of a record unless a call is refused in the loop that splits its
flow, or that loop is not entered. -/
theorem dissect_contained_iff (record : ReceivedRecord) (turns : Nat) (schedule : Nat → Bool)
    (room : record.KeepsRoom turns schedule) :
    record.Contained turns schedule ↔ record.HandsOver turns schedule := by
  constructor
  · intro ⟨nodes, after, ends, owned, _⟩
    refine ⟨nodes, after, ends, ?_⟩
    rcases dissect_ends ends with ⟨_, _, refused⟩ | ⟨_, flowCache, line, printed, list⟩
    · exact .inl refused
    · rcases list with ⟨handed, _⟩ | ⟨_, lost, tally⟩
      · refine .inr fun separate => ⟨?_, flowCache, line, printed (room _ _ ends), ?_⟩
        · exact serves_all (room _ _ ends) (handed separate).1
        · exact (handed separate).2
      · exact absurd owned tally.lost
  · intro ⟨nodes, after, ends, hands⟩
    have served := room _ _ ends
    refine ⟨nodes, after, ends, ?_⟩
    rcases dissect_ends ends with ⟨rfl, tally, _⟩ | ⟨opened, flowCache, line, printed, list⟩
    · exact ⟨tally, nofun⟩
    · have handed : HandedOver record.globals flowCache after := by
        intro separate
        rcases hands with ⟨n, before, refused⟩ | hands
        · rw [opened n before] at refused
          cases refused
        · obtain ⟨all, flowCache', line', printed', enters⟩ := hands separate
          rw [printed served] at printed'
          cases printed'
          exact ⟨all.mono fun _ _ => trivial, enters⟩
      rcases list with ⟨_, tally, some⟩ | ⟨lost, _⟩
      · refine ⟨tally, fun node inList => ?_⟩
        rcases some with rfl | supplied
        · cases inList
        · exact ⟨nodes, after, ends.undisturbed (serves_all served supplied),
            List.mem_map_of_mem inList⟩
      · exact absurd handed lost

/-- A record of nothing but zeros in a packet of NetFlow V5. -/
def emptyRecord : ReceivedRecord :=
  .v5 splittingGlobals (.ofBytes [0, 5, 0, 1]) 0 (.new 0)

theorem dissect_contained_served :
    emptyRecord.Contained 4 (fun _ => true) ↔ emptyRecord.HandsOver 4 fun _ => true :=
  dissect_contained_iff emptyRecord 4 (fun _ => true) (by decide +kernel)

/-- The third call asks for the node: the buffer of the record is not freed, and there is no
node that has it. -/
theorem not_contained :
    ∃ after, (emptyRecord.dissect 4).Ends (fun call => call ≠ 2) {} [] after ∧
      after.allocated = 1 ∧ after.freed = [] ∧
      ¬emptyRecord.Contained 4 fun call => call ≠ 2 := by
  have left : ((emptyRecord.dissect 4).run (fun call => call ≠ 2) {}).toOption.map
      (fun left => (left.1.length, left.2.allocated, left.2.freed)) = some (0, 1, []) := by
    decide +kernel
  cases ends : (emptyRecord.dissect 4).run (fun call => call ≠ 2) {} with
  | error =>
      rw [ends] at left
      cases left
  | ok last =>
      obtain ⟨nodes, after⟩ := last
      rw [ends] at left
      obtain ⟨none, allocated, freed⟩ :
          nodes.length = 0 ∧ after.allocated = 1 ∧ after.freed = [] := by
        simpa [Except.toOption] using left
      obtain rfl := List.length_eq_zero_iff.mp none
      refine ⟨after, ends, allocated, freed, ?_⟩
      intro ⟨_, _, ends', tally, _⟩
      cases ends.symm.trans ends'
      have one := tally 0
      rw [allocated, freed] at one
      cases one

end

end ReceivedRecord

end Dissection

end F2k
