import F2k.Messages

namespace F2k

open Lib

/-! Printing the same onto two lines: as soon as both hold something, they grow by the same
text. -/

/-- A line that holds more than the brace every message starts with. -/
def Opened (line : Bytes) : Prop :=
  ascii "\x7b\"" <+: line

theorem Opened.append {line : Bytes} (opened : Opened line) (more : Bytes) :
    Opened (line ++ more) :=
  opened.trans (List.prefix_append line more)

/-- What is appended before the value of an element. -/
def memberText (name : Bytes) (quote : Bool) : Bytes :=
  ascii "," ++ ascii "\"" ++ name ++ ascii "\":" ++ (if quote then ascii "\"" else [])

theorem elementPrefix_of_opened {line : Bytes} (opened : Opened line) (name : Bytes)
    (quote : Bool) : elementPrefix line name quote = line ++ memberText name quote := by
  obtain ⟨rest, rfl⟩ := opened
  have more : cString (ascii "\x7b\"" ++ rest) ≠ ascii "\x7b" := by
    intro same
    have lengths := congrArg List.length same
    simp [cString, ascii] at lengths
  simp only [elementPrefix, if_pos more, memberText, List.append_assoc]

/-- Both lines have grown by the same text. -/
def Grown (one two line other : Bytes) : Prop :=
  ∃ text, line = one ++ text ∧ other = two ++ text

structure Abreast (one two : Bytes) (left right : LineState) : Prop where
  lines : Grown one two left.line right.line
  cache : left.cache = right.cache
  valueRet : left.valueRet = right.valueRet

theorem Grown.refl (one two : Bytes) : Grown one two one two :=
  ⟨[], (List.append_nil one).symm, (List.append_nil two).symm⟩

theorem Grown.append {one two line other : Bytes} (grown : Grown one two line other)
    (more : Bytes) : Grown one two (line ++ more) (other ++ more) := by
  obtain ⟨text, rfl, rfl⟩ := grown
  exact ⟨text ++ more, List.append_assoc _ _ _, List.append_assoc _ _ _⟩

section Lines

variable {one two : Bytes} (openedOne : Opened one) (openedTwo : Opened two)
  {globals : ReadOnlyGlobals}

include openedOne openedTwo

theorem Grown.elementPrefix {line other : Bytes} (grown : Grown one two line other)
    (name : Bytes) (quote : Bool) :
    Grown one two (elementPrefix line name quote) (elementPrefix other name quote) := by
  obtain ⟨text, rfl, rfl⟩ := grown
  rw [elementPrefix_of_opened (openedOne.append text),
    elementPrefix_of_opened (openedTwo.append text)]
  exact Grown.append ⟨text, rfl, rfl⟩ _

theorem printElement_abreast {line other : Bytes} (grown : Grown one two line other)
    (element : Element) (buffer : Mem) (realFieldLen : Nat) (cache : FlowCache) :
    Together (Abreast one two) (printElement globals line element buffer realFieldLen cache)
      (printElement globals other element buffer realFieldLen cache) := by
  cases named : element.jsonElementName with
  | none =>
      rw [printElement, printElement, named]
      exact .error _
  | some name =>
      rw [printElement_eq _ line _ _ _ named, printElement_eq _ other _ _ _ named]
      cases element.exported globals buffer realFieldLen cache with
      | error fault => exact .error fault
      | ok printed =>
          have before := grown.elementPrefix openedOne openedTwo (cString name) element.quote
          refine .ok ⟨?_, rfl, rfl⟩
          unfold appended appendPrinted
          split
          · exact (before.append _).append _
          · exact grown

omit openedOne openedTwo

mutual

theorem printNetflowRecordWithTemplate_abreast (openedOne : Opened one)
    (openedTwo : Opened two) :
    ∀ (element : Element) (buffer : Mem) (realFieldLen : Nat) (cache : FlowCache)
      {line other : Bytes}, Grown one two line other →
      Together (Abreast one two)
        (printNetflowRecordWithTemplate globals line element buffer realFieldLen cache)
        (printNetflowRecordWithTemplate globals other element buffer realFieldLen cache)
  | .mk templateElementId quote jsonElementName exportFn postTemplate, buffer, realFieldLen,
      cache, line, other, grown => by
      rw [printNetflowRecordWithTemplate, printNetflowRecordWithTemplate]
      refine (printElement_abreast openedOne openedTwo grown _ _ _ _).bind ?_
      intro own companion abreast
      rw [← abreast.cache]
      refine (printPostTemplate_abreast openedOne openedTwo postTemplate _ _ _
        abreast.lines).bind ?_
      intro after companionAfter abreastAfter
      exact .ok ⟨abreastAfter.lines, abreastAfter.cache, abreast.valueRet⟩

theorem printPostTemplate_abreast (openedOne : Opened one) (openedTwo : Opened two) :
    ∀ (elements : List Element) (buffer : Mem) (realFieldLen : Nat) (cache : FlowCache)
      {line other : Bytes}, Grown one two line other →
      Together (Abreast one two)
        (printPostTemplate globals line elements buffer realFieldLen cache)
        (printPostTemplate globals other elements buffer realFieldLen cache)
  | [], buffer, realFieldLen, cache, line, other, grown => by
      rw [printPostTemplate, printPostTemplate]
      exact .ok ⟨grown, rfl, rfl⟩
  | element :: rest, buffer, realFieldLen, cache, line, other, grown => by
      rw [printPostTemplate, printPostTemplate]
      refine (printNetflowRecordWithTemplate_abreast openedOne openedTwo element _ _ _
        grown).bind ?_
      intro printed companion abreast
      rw [← abreast.cache]
      exact printPostTemplate_abreast openedOne openedTwo rest _ _ _ abreast.lines

end

include openedOne openedTwo

theorem printPlaces_abreast (buffer : Mem) (places : List FieldPlace) (cache : FlowCache)
    {line other : Bytes} (grown : Grown one two line other) :
    Together (Abreast one two) (printPlaces globals buffer places line cache)
      (printPlaces globals buffer places other cache) := by
  induction places generalizing line other cache with
  | nil => exact .ok ⟨grown, rfl, rfl⟩
  | cons place rest ih =>
      rw [printPlaces, printPlaces]
      have first : Together (Abreast one two) (place.print globals buffer line cache)
          (place.print globals buffer other cache) := by
        rw [FieldPlace.print, FieldPlace.print]
        split
        · exact printNetflowRecordWithTemplate_abreast openedOne openedTwo _ _ _ _ grown
        · exact .ok ⟨grown, rfl, rfl⟩
      refine first.bind ?_
      intro printed companion abreast
      rw [← abreast.cache]
      exact ih printed.cache abreast.lines

/-! The end of a record -/

theorem normalizeDirection_abreast {line other : Bytes} (grown : Grown one two line other)
    (cache : FlowCache) :
    Together (Abreast one two) (normalizeDirection globals line cache)
      (normalizeDirection globals other cache) := by
  rw [normalizeDirection, normalizeDirection]
  split
  · refine (Together.refl (guessDirection cache)).bind ?_
    rintro guessed _ rfl
    exact printPostTemplate_abreast openedOne openedTwo _ _ _ _ grown
  · exact .ok ⟨grown, rfl, rfl⟩

omit openedOne openedTwo in
theorem Grown.printSensorEnrichment {line other : Bytes} (grown : Grown one two line other)
    (cache : FlowCache) :
    Grown one two (printSensorEnrichment line cache) (printSensorEnrichment other cache) := by
  unfold F2k.printSensorEnrichment
  split
  · exact (grown.append _).append _
  · exact grown

theorem Grown.appendNumber {line other : Bytes} (grown : Grown one two line other)
    (name : String) (value : UInt64) :
    Grown one two (appendNumber line name value) (appendNumber other name value) :=
  (grown.elementPrefix openedOne openedTwo _ _).append _

theorem Grown.countedText {line other : Bytes} (grown : Grown one two line other)
    (bytes packets : UInt64) :
    Grown one two (countedText line bytes packets) (countedText other bytes packets) :=
  (grown.appendNumber openedOne openedTwo _ _).appendNumber openedOne openedTwo _ _

theorem Grown.stampedText {line other : Bytes} (grown : Grown one two line other)
    (timestamp : UInt64) :
    Grown one two (stampedText line timestamp) (stampedText other timestamp) :=
  (grown.appendNumber openedOne openedTwo _ _).append _

/-! Messages -/

structure SameEnd (one two : Bytes) (message other : Message) : Prop where
  strings : Grown one two message.string other.string
  clientMac : message.clientMac = other.clientMac

structure SplitState.Abreast (one two : Bytes) (left right : SplitState) : Prop where
  lines : Grown one two left.line right.line
  lastSentmsg : Option.Rel (Grown one two) left.lastSentmsg right.lastSentmsg
  nodes : List.Forall₂ (Option.Rel (Grown one two)) left.nodes right.nodes

theorem splitInterval_abreast {counts : IntervalCounts} {firstTimestamp dInterval : UInt64}
    (current : UInt64) {state other : SplitState} (abreast : state.Abreast one two other) :
    Together (SplitState.Abreast one two)
      (splitInterval globals counts firstTimestamp dInterval current state)
      (splitInterval globals counts firstTimestamp dInterval current other) := by
  obtain ⟨line, lastSentmsg, nodes⟩ := state
  obtain ⟨otherLine, otherSentmsg, otherNodes⟩ := other
  obtain ⟨lines, sent, sameNodes⟩ := abreast
  rw [splitInterval, splitInterval]
  simp only [printCounts_eq, printTimestamp_eq, Run.ok_bind]
  split
  · refine .ok ⟨?_, sent, .cons .none sameNodes⟩
    exact (lines.countedText openedOne openedTwo _ _).stampedText openedOne openedTwo _
  · cases sent with
    | none =>
        have useful := lines.countedText openedOne openedTwo counts.bytesPerInterval
          counts.packetsPerInterval
        refine .ok ⟨lines, .some useful, .cons (.some ?_) sameNodes⟩
        exact useful.stampedText openedOne openedTwo current
    | some useful =>
        refine .ok ⟨lines, .some useful, .cons (.some ?_) sameNodes⟩
        exact useful.stampedText openedOne openedTwo current

theorem splitIntervals_abreast {counts : IntervalCounts} {firstTimestamp dInterval : UInt64}
    (turns : Nat) (current : UInt64) {state other : SplitState}
    (abreast : state.Abreast one two other) :
    Together (SplitState.Abreast one two)
      (splitIntervals globals counts firstTimestamp dInterval turns current state)
      (splitIntervals globals counts firstTimestamp dInterval turns current other) := by
  induction turns generalizing current state other with
  | zero => exact .error _
  | succ turns ih =>
      rw [splitIntervals, splitIntervals]
      split
      · refine (splitInterval_abreast openedOne openedTwo current abreast).bind ?_
        intro next companion abreastNext
        exact ih (current + dInterval) abreastNext
      · exact .ok abreast

theorem timeSplitFlow_abreast {line other : Bytes} (grown : Grown one two line other)
    (cache : FlowCache) :
    Together (List.Forall₂ (SameEnd one two)) (timeSplitFlow globals line cache)
      (timeSplitFlow globals other cache) := by
  rw [timeSplitFlow, timeSplitFlow]
  split
  · rw [rbSeparateLongTimeFlow, rbSeparateLongTimeFlow]
    refine (splitIntervals_abreast openedOne openedTwo _ _
      ⟨grown, .none, List.Forall₂.nil⟩).bind ?_
    intro final companion abreast
    refine .ok ?_
    rw [List.forall₂_map_left_iff, List.forall₂_map_right_iff]
    refine abreast.nodes.imp ?_
    intro node companionNode strings
    refine ⟨?_, rfl⟩
    cases strings with
    | none => exact abreast.lines
    | some string => exact string
  · rw [printWholeFlow_eq, printWholeFlow_eq]
    refine .ok (.cons ⟨?_, rfl⟩ .nil)
    refine Grown.append ?_ _
    apply Grown.countedText openedOne openedTwo
    exact (grown.appendNumber openedOne openedTwo _ _).appendNumber openedOne openedTwo _ _

theorem finishRecord_abreast {line other : Bytes} (grown : Grown one two line other)
    (cache : FlowCache) :
    Together (List.Forall₂ (SameEnd one two)) (finishRecord globals line cache)
      (finishRecord globals other cache) := by
  rw [finishRecord, finishRecord]
  refine (printNetflowRecordWithTemplate_abreast openedOne openedTwo host _ _ cache grown).bind ?_
  intro printed companion afterHost
  rw [← afterHost.cache]
  refine (printNetflowRecordWithTemplate_abreast openedOne openedTwo referer _ _ _
    afterHost.lines).bind ?_
  intro printed companion afterReferer
  rw [← afterReferer.cache]
  refine (normalizeDirection_abreast openedOne openedTwo afterReferer.lines _).bind ?_
  intro printed companion afterAll
  rw [← afterAll.cache]
  exact timeSplitFlow_abreast openedOne openedTwo
    (afterAll.lines.printSensorEnrichment printed.cache) printed.cache

end Lines

end F2k
