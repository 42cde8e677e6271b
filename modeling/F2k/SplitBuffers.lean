import F2k.Lib.Heap
import F2k.Messages

namespace F2k

open Lib

/-! The storage of the message buffers while a long flow is split: the counts of the cloned
messages are printed once and copied afterwards from where they were printed. -/

/-- `struct printbuf`: where its bytes are, how many they are, and how many there is room for. -/
structure Printbuf where
  buf : Nat
  bpos : Nat
  size : Nat

abbrev Storage := Heap Bytes

/-- What can stop the splitting: storage that is not live, or a loop without end. -/
inductive SplitFault
  | storage (fault : NotLive)
  | endlessLoop
deriving DecidableEq

def printbufNew (storage : Storage) : Printbuf × Storage :=
  ({ buf := storage.next, bpos := 0, size := 2048 }, storage.alloc [])

/-- The contents are moved to a new storage when they have to grow. -/
def printbufExtend (storage : Storage) (p : Printbuf) (minSize : Nat) :
    Except NotLive (Printbuf × Storage) :=
  if p.size ≥ minSize then .ok (p, storage)
  else do
    let newSize := max (p.size * 2) (minSize + 8)
    let contents ← storage.read p.buf
    let freed ← storage.free p.buf
    .ok ({ p with buf := freed.next, size := newSize }, freed.alloc contents)

def printbufCopy (storage : Storage) (p : Printbuf) (bytes : Bytes) :
    Except NotLive (Printbuf × Storage) := do
  let contents ← storage.read p.buf
  let written ← storage.write p.buf (contents.take p.bpos ++ bytes)
  .ok ({ p with bpos := p.bpos + bytes.length }, written)

def printbufMemappend (storage : Storage) (p : Printbuf) (bytes : Bytes) :
    Except NotLive (Printbuf × Storage) := do
  let (p, storage) ←
    if p.size ≤ p.bpos + bytes.length + 1 then
      printbufExtend storage p (p.bpos + bytes.length + 1)
    else .ok (p, storage)
  printbufCopy storage p bytes

def printbufMemappendFast (storage : Storage) (p : Printbuf) (bytes : Bytes) :
    Except NotLive (Printbuf × Storage) :=
  if p.size - p.bpos > bytes.length then printbufCopy storage p bytes
  else printbufMemappend storage p bytes

def appendPieces (storage : Storage) (p : Printbuf) : List Bytes →
    Except NotLive (Printbuf × Storage)
  | [] => .ok (p, storage)
  | bytes :: rest => do
      let (p, storage) ← printbufMemappendFast storage p bytes
      appendPieces storage p rest

/-- What is appended, piece by piece, for an element that `print_number` prints. -/
def numberPieces (line : Bytes) (name : String) (value : UInt64) : List Bytes :=
  (if cString line ≠ ascii "\x7b" then [ascii ","] else []) ++
    [ascii "\"", ascii name, ascii "\":", n10 value]

/-- `printNetflowRecordWithTemplate` for such an element: a number is never taken back. -/
def printNumberInto (storage : Storage) (p : Printbuf) (name : String) (value : UInt64) :
    Except NotLive (Printbuf × Storage) := do
  let contents ← storage.read p.buf
  appendPieces storage p (numberPieces (contents.take p.bpos) name value)

def printCountsInto (storage : Storage) (p : Printbuf) (bytes pkts : UInt64) :
    Except NotLive (Printbuf × Storage) := do
  let (p, storage) ← printNumberInto storage p "bytes" bytes
  printNumberInto storage p "pkts" pkts

def printTimestampInto (storage : Storage) (p : Printbuf) (timestamp : UInt64) :
    Except NotLive (Printbuf × Storage) := do
  let (p, storage) ← printNumberInto storage p "timestamp" timestamp
  printbufMemappendFast storage p (ascii "\x7d")

/-- The buffer that was passed, where the counts of the first cloned message were printed with
their length, and the nodes, latest first: the last interval's one has the buffer that was
passed. -/
structure BufferState where
  storage : Storage
  line : Printbuf
  lastSentmsg : Option (Nat × Nat)
  nodes : List (Option Printbuf)

/-- The buffer of an interval that is not the last: cloned from the one that was passed, or from
the message that was cloned first. -/
def cloneBuffer (counts : IntervalCounts) (state : BufferState) :
    Except NotLive (Printbuf × BufferState) := do
  let (string, storage) := printbufNew state.storage
  match state.lastSentmsg with
  | none => do
      let contents ← storage.read state.line.buf
      let (string, storage) ←
        printbufMemappend storage string (contents.take state.line.bpos)
      let (string, storage) ←
        printCountsInto storage string counts.bytesPerInterval counts.packetsPerInterval
      .ok (string, { state with storage, lastSentmsg := some (string.buf, string.bpos) })
  | some (lastSentmsg, usefulBpos) => do
      let contents ← storage.read lastSentmsg
      let (string, storage) ← printbufMemappend storage string (contents.take usefulBpos)
      .ok (string, { state with storage })

def splitInto (counts : IntervalCounts)
    (firstTimestamp dInterval currentTimestampS : UInt64) (state : BufferState) :
    Except NotLive BufferState :=
  if currentTimestampS + dInterval > firstTimestamp + counts.dSwitched then do
    let (line, storage) ←
      printCountsInto state.storage state.line counts.firstIntervalBytes
        counts.firstIntervalPkts
    let (line, storage) ← printTimestampInto storage line currentTimestampS
    .ok { state with storage, line, nodes := none :: state.nodes }
  else do
    let (string, state) ← cloneBuffer counts state
    let (string, storage) ← printTimestampInto state.storage string currentTimestampS
    .ok { state with storage, nodes := some string :: state.nodes }

def splitIntoAll (counts : IntervalCounts) (firstTimestamp dInterval : UInt64) :
    Nat → UInt64 → BufferState → Except SplitFault BufferState
  | 0, _, _ => .error .endlessLoop
  | turns + 1, currentTimestampS, state =>
      if currentTimestampS ≤ firstTimestamp + counts.dSwitched then
        match splitInto counts firstTimestamp dInterval currentTimestampS state with
        | .error fault => .error (.storage fault)
        | .ok state =>
            splitIntoAll counts firstTimestamp dInterval turns (currentTimestampS + dInterval)
              state
      else .ok state

/-- What is handed on: every node's buffer is read. -/
def BufferState.messages (state : BufferState) : Except NotLive (List Message) :=
  state.nodes.mapM fun node => do
    let string := node.getD state.line
    let contents ← state.storage.read string.buf
    .ok { string := contents.take string.bpos, clientMac := 0 }

def rbSeparateIntoBuffers (share : FirstShare) (storage : Storage) (kafkaLineBuffer : Printbuf)
    (firstTimestamp dSwitched dInterval maxIntervals bytes pkts : UInt64) :
    Except SplitFault (List Message) := do
  let counts := intervalCounts share dSwitched dInterval maxIntervals bytes pkts
  let state ←
    splitIntoAll counts firstTimestamp dInterval (2 ^ 64) firstTimestamp
      { storage, line := kafkaLineBuffer, lastSentmsg := none, nodes := [] }
  state.messages.mapError .storage

/-! Appending -/

/-- The buffer has this text in a live storage, with room for the zero behind it. -/
structure Printbuf.Holds (p : Printbuf) (storage : Storage) (text : Bytes) : Prop where
  contents : storage.cells p.buf = some text
  bpos : p.bpos = text.length
  room : text.length < p.size

/-- A buffer has got a longer text. It has moved if there was no room for that, and then its old
storage is gone. A text that is only a little longer doubles the room. -/
structure Appended (storage : Storage) (p : Printbuf) (text : Bytes) (after : Storage)
    (p' : Printbuf) (text' : Bytes) : Prop where
  holds : p'.Holds after text'
  longer : text.length ≤ text'.length
  next : storage.next ≤ after.next
  frame : ∀ address < storage.next, address ≠ p.buf →
    after.cells address = storage.cells address
  stays : text'.length < p.size → p'.buf = p.buf ∧ p'.size = p.size
  moves : p.size ≤ text'.length → after.cells p.buf = none ∧ storage.next ≤ p'.buf
  doubles : text'.length ≤ text.length + 1000 → 2048 ≤ p.size → p.size ≤ text'.length →
    p'.size = 2 * p.size

section Appending

variable {storage after last : Storage} {p p' p'' : Printbuf} {text text' text'' : Bytes}

theorem Appended.refl (holds : p.Holds storage text) : Appended storage p text storage p text where
  holds
  longer := Nat.le_refl _
  next := Nat.le_refl _
  frame := fun _ _ _ => rfl
  stays := fun _ => ⟨rfl, rfl⟩
  moves := fun full => absurd holds.room (Nat.not_lt.mpr full)
  doubles := fun _ _ full => absurd holds.room (Nat.not_lt.mpr full)

theorem Appended.trans (holds : p.Holds storage text)
    (one : Appended storage p text after p' text')
    (two : Appended after p' text' last p'' text'') :
    Appended storage p text last p'' text'' := by
  have inside : p.buf < storage.next := Heap.lt_next holds.contents
  have long := one.longer
  have longer := two.longer
  have later : storage.next ≤ p'.buf → storage.next ≤ p''.buf := by
    intro fresh
    have grown := one.next
    rcases Nat.lt_or_ge text''.length p'.size with fits | full
    · rw [(two.stays fits).1]
      exact fresh
    · exact Nat.le_trans grown (two.moves full).2
  constructor
  case holds => exact two.holds
  case longer => exact Nat.le_trans long longer
  case next => exact Nat.le_trans one.next two.next
  case frame =>
    intro address old apart
    have apart' : address ≠ p'.buf := by
      rcases Nat.lt_or_ge text'.length p.size with fits | full
      · rw [(one.stays fits).1]
        exact apart
      · exact Nat.ne_of_lt (Nat.lt_of_lt_of_le old (one.moves full).2)
    rw [two.frame address (Nat.lt_of_lt_of_le old one.next) apart', one.frame address old apart]
  case stays =>
    intro fits
    obtain ⟨same, size⟩ := one.stays (Nat.lt_of_le_of_lt longer fits)
    obtain ⟨same', size'⟩ := two.stays (by rw [size]; exact fits)
    exact ⟨same'.trans same, size'.trans size⟩
  case moves =>
    intro full
    rcases Nat.lt_or_ge text'.length p.size with fits | alreadyFull
    · obtain ⟨same, size⟩ := one.stays fits
      obtain ⟨gone, fresh⟩ := two.moves (by rw [size]; exact full)
      rw [same] at gone
      exact ⟨gone, Nat.le_trans one.next fresh⟩
    · obtain ⟨gone, fresh⟩ := one.moves alreadyFull
      have apart : p.buf ≠ p'.buf := Nat.ne_of_lt (Nat.lt_of_lt_of_le inside fresh)
      rw [two.frame p.buf (Nat.lt_of_lt_of_le inside one.next) apart]
      exact ⟨gone, later fresh⟩
  case doubles =>
    intro little wide full
    rcases Nat.lt_or_ge text'.length p.size with fits | alreadyFull
    · obtain ⟨_, size⟩ := one.stays fits
      rw [two.doubles (by omega) (by rw [size]; exact wide) (by rw [size]; exact full), size]
    · have doubled := one.doubles (by omega) wide alreadyFull
      have room := holds.room
      rw [(two.stays (by omega)).2, doubled]

/-- How much room there is for a text of this length. -/
def grownSize (size length : Nat) : Nat :=
  if length < size then size else max (size * 2) (length + 9)

theorem printbufCopy_appended (holds : p.Holds storage text) (bytes : Bytes)
    (room : (text ++ bytes).length < p.size) :
    ∃ p' after, printbufCopy storage p bytes = .ok (p', after) ∧
      Appended storage p text after p' (text ++ bytes) ∧ p'.size = p.size ∧ p'.buf = p.buf := by
  obtain ⟨contents, bpos, _⟩ := holds
  obtain ⟨after, written, next, cells⟩ :=
    @Heap.write_live _ storage p.buf (text.take p.bpos ++ bytes) _ contents
  have whole : text.take p.bpos = text := List.take_of_length_le (Nat.le_of_eq bpos.symm)
  rw [whole] at written cells
  refine ⟨{ p with bpos := p.bpos + bytes.length }, after, ?_, ?_, rfl, rfl⟩
  · unfold printbufCopy
    rw [Heap.read_live contents]
    change (storage.write p.buf (text.take p.bpos ++ bytes) >>= _) = _
    rw [whole, written]
    rfl
  · constructor
    case holds =>
      refine ⟨?_, ?_, room⟩
      · rw [cells, Function.update_self]
      · rw [List.length_append, bpos]
    case longer => simp
    case next => exact Nat.le_of_eq next.symm
    case frame =>
      intro address _ apart
      rw [cells, Function.update_of_ne apart]
    case stays => exact fun _ => ⟨rfl, rfl⟩
    case moves => exact fun full => absurd room (Nat.not_lt.mpr full)
    case doubles => exact fun _ _ full => absurd room (Nat.not_lt.mpr full)

theorem printbufExtend_appended (holds : p.Holds storage text) {length : Nat}
    (full : p.size ≤ length) (longer : text.length ≤ length) :
    ∃ p' after, printbufExtend storage p (length + 1) = .ok (p', after) ∧
      p'.Holds after text ∧ p'.size = max (p.size * 2) (length + 9) ∧
      storage.next ≤ p'.buf ∧ after.next = storage.next + 1 ∧
      after.cells p.buf = none ∧
      ∀ address < storage.next, address ≠ p.buf →
        after.cells address = storage.cells address := by
  obtain ⟨contents, bpos, _⟩ := holds
  have inside : p.buf < storage.next := Heap.lt_next contents
  obtain ⟨freed, frees, next, cells⟩ := Heap.free_live contents
  refine ⟨{ p with buf := freed.next, size := max (p.size * 2) (length + 9) },
    freed.alloc text, ?_, ⟨Heap.alloc_self, bpos, ?_⟩, rfl, Nat.le_of_eq next.symm, ?_, ?_, ?_⟩
  · unfold printbufExtend
    rw [if_neg (by omega), Heap.read_live contents]
    change (storage.free p.buf >>= _) = _
    rw [frees]
    rfl
  · change text.length < max (p.size * 2) (length + 9)
    omega
  · rw [Heap.alloc_next, next]
  · rw [Heap.alloc_other (by omega), cells, Function.update_self]
  · intro address old apart
    rw [Heap.alloc_other (by omega), cells, Function.update_of_ne apart]

theorem printbufMemappend_appended (holds : p.Holds storage text) (bytes : Bytes) :
    ∃ p' after, printbufMemappend storage p bytes = .ok (p', after) ∧
      Appended storage p text after p' (text ++ bytes) ∧
      p'.size = grownSize p.size (text ++ bytes).length := by
  have bpos := holds.bpos
  have total : (text ++ bytes).length = text.length + bytes.length := List.length_append
  rcases Nat.lt_or_ge (text ++ bytes).length p.size with fits | full
  · obtain ⟨p', after, ran, appended, size, _⟩ := printbufCopy_appended holds bytes fits
    refine ⟨p', after, ?_, appended, by rw [grownSize, if_pos fits, size]⟩
    unfold printbufMemappend
    split
    · have enough : p.size ≥ p.bpos + bytes.length + 1 := by omega
      unfold printbufExtend
      rw [if_pos enough]
      exact ran
    · exact ran
  · obtain ⟨p1, after1, extended, holds1, size1, fresh, next1, gone, frame1⟩ :=
      printbufExtend_appended holds full (by omega)
    obtain ⟨p', after, ran, appended, size, buf⟩ :=
      printbufCopy_appended holds1 bytes (by omega)
    have inside : p.buf < storage.next := Heap.lt_next holds.contents
    have old : ∀ address < storage.next, after.cells address = after1.cells address := by
      intro address before
      exact appended.frame address (by omega) (Nat.ne_of_lt (Nat.lt_of_lt_of_le before fresh))
    refine ⟨p', after, ?_, ?_, by rw [grownSize, if_neg (Nat.not_lt.mpr full), size, size1]⟩
    · unfold printbufMemappend
      rw [if_pos (by omega), bpos, ← total, extended]
      exact ran
    · constructor
      case holds => exact appended.holds
      case longer => exact appended.longer
      case next =>
        have grown := appended.next
        omega
      case frame =>
        intro address before apart
        rw [old address before, frame1 address before apart]
      case stays => exact fun fits => absurd full (Nat.not_le.mpr fits)
      case moves =>
        intro _
        rw [old p.buf inside, buf]
        exact ⟨gone, fresh⟩
      case doubles =>
        intro little wide _
        have room := holds.room
        omega

theorem printbufMemappendFast_appended (holds : p.Holds storage text) (bytes : Bytes) :
    ∃ p' after, printbufMemappendFast storage p bytes = .ok (p', after) ∧
      Appended storage p text after p' (text ++ bytes) := by
  have bpos := holds.bpos
  have total : (text ++ bytes).length = text.length + bytes.length := List.length_append
  unfold printbufMemappendFast
  split
  · obtain ⟨p', after, ran, appended, _⟩ := printbufCopy_appended holds bytes (by omega)
    exact ⟨p', after, ran, appended⟩
  · obtain ⟨p', after, ran, appended, _⟩ := printbufMemappend_appended holds bytes
    exact ⟨p', after, ran, appended⟩

theorem appendPieces_appended (holds : p.Holds storage text) (pieces : List Bytes) :
    ∃ p' after, appendPieces storage p pieces = .ok (p', after) ∧
      Appended storage p text after p' (text ++ pieces.flatten) := by
  induction pieces generalizing storage p text with
  | nil =>
      rw [List.flatten_nil, List.append_nil]
      exact ⟨p, storage, rfl, .refl holds⟩
  | cons bytes rest ih =>
      obtain ⟨p1, after1, ran, appended⟩ := printbufMemappendFast_appended holds bytes
      obtain ⟨p', after, ranRest, appendedRest⟩ := ih appended.holds
      rw [List.append_assoc, ← List.flatten_cons] at appendedRest
      refine ⟨p', after, ?_, appended.trans holds appendedRest⟩
      unfold appendPieces
      rw [ran]
      exact ranRest

theorem printNumberInto_appended (holds : p.Holds storage text) (name : String)
    (value : UInt64) :
    ∃ p' after, printNumberInto storage p name value = .ok (p', after) ∧
      Appended storage p text after p' (appendNumber text name value) := by
  have pieces : text ++ (numberPieces text name value).flatten = appendNumber text name value := by
    unfold numberPieces appendNumber elementPrefix
    split <;> simp [List.append_assoc]
  obtain ⟨p', after, ran, appended⟩ :=
    appendPieces_appended holds (numberPieces text name value)
  rw [pieces] at appended
  refine ⟨p', after, ?_, appended⟩
  unfold printNumberInto
  rw [Heap.read_live holds.contents]
  change appendPieces storage p (numberPieces (text.take p.bpos) name value) = _
  rw [List.take_of_length_le (Nat.le_of_eq holds.bpos.symm), ran]

theorem printCountsInto_appended (holds : p.Holds storage text) (bytes pkts : UInt64) :
    ∃ p' after, printCountsInto storage p bytes pkts = .ok (p', after) ∧
      Appended storage p text after p' (countedText text bytes pkts) := by
  obtain ⟨p1, after1, ran, appended⟩ := printNumberInto_appended holds "bytes" bytes
  obtain ⟨p', after, ranRest, appendedRest⟩ :=
    printNumberInto_appended appended.holds "pkts" pkts
  refine ⟨p', after, ?_, appended.trans holds appendedRest⟩
  unfold printCountsInto
  rw [ran]
  exact ranRest

theorem printTimestampInto_appended (holds : p.Holds storage text) (timestamp : UInt64) :
    ∃ p' after, printTimestampInto storage p timestamp = .ok (p', after) ∧
      Appended storage p text after p' (stampedText text timestamp) := by
  obtain ⟨p1, after1, ran, appended⟩ := printNumberInto_appended holds "timestamp" timestamp
  obtain ⟨p', after, ranRest, appendedRest⟩ :=
    printbufMemappendFast_appended appended.holds (ascii "\x7d")
  refine ⟨p', after, ?_, appended.trans holds appendedRest⟩
  unfold printTimestampInto
  rw [ran]
  exact ranRest

end Appending

/-! How long the texts are -/

theorem itoa10From_length_le (digits : Nat) (value : Int) (text : Bytes) :
    (itoa10From digits value text).length ≤ text.length + digits + 1 := by
  induction digits generalizing value text with
  | zero =>
      unfold itoa10From
      omega
  | succ digits ih =>
      have shorter := ih (value.tdiv 10) (itoaDigit (value - value.tdiv 10 * 10) :: text)
      rw [List.length_cons] at shorter
      simp only [itoa10From]
      split
      · omega
      · split
        · simp only [List.length_cons]
          omega
        · rw [List.length_cons]
          omega

theorem n10_length_le (value : UInt64) : (n10 value).length ≤ 64 :=
  itoa10From_length_le 63 _ []

theorem appendNumber_length (line : Bytes) (name : String) (value : UInt64) :
    line.length + (ascii name).length + 4 ≤ (appendNumber line name value).length ∧
      (appendNumber line name value).length ≤ line.length + (ascii name).length + 68 := by
  have some := n10_length_pos value
  have few := n10_length_le value
  unfold appendNumber elementPrefix
  split <;> simp [ascii] <;> omega

theorem countedText_length (line : Bytes) (bytes pkts : UInt64) :
    line.length + 9 ≤ (countedText line bytes pkts).length ∧
      (countedText line bytes pkts).length ≤ line.length + 145 := by
  have first := appendNumber_length line "bytes" bytes
  have second := appendNumber_length (appendNumber line "bytes" bytes) "pkts" pkts
  have five : (ascii "bytes").length = 5 := rfl
  have four : (ascii "pkts").length = 4 := rfl
  unfold countedText
  omega

theorem stampedText_length (line : Bytes) (timestamp : UInt64) :
    line.length < (stampedText line timestamp).length ∧
      (stampedText line timestamp).length ≤ line.length + 78 := by
  have stamp := appendNumber_length line "timestamp" timestamp
  have nine : (ascii "timestamp").length = 9 := rfl
  have one : (ascii "\x7d").length = 1 := rfl
  unfold stampedText
  rw [List.length_append]
  omega

/-- A message that outgrows its buffer after its counts were printed: with them it has room in the
2048 bytes a buffer starts with, or in twice as many, and as a whole it has not. -/
def Outgrows (useful whole : Nat) : Prop :=
  (useful < 2048 ∧ 2048 ≤ whole) ∨ (useful < 4096 ∧ 4096 ≤ whole)

instance (useful whole : Nat) : Decidable (Outgrows useful whole) :=
  inferInstanceAs (Decidable (_ ∨ _))

/-- The room there is once the counts are printed behind the text of the buffer that was
passed. -/
def usefulSize (line useful : Nat) : Nat :=
  let size := grownSize 2048 line
  if useful < size then size else 2 * size

theorem fits_iff {line useful whole : Nat} (counted : line + 9 ≤ useful ∧ useful ≤ line + 145)
    (stamped : useful < whole ∧ whole ≤ useful + 78) :
    whole < usefulSize line useful ↔ ¬Outgrows useful whole := by
  simp only [usefulSize, grownSize, Outgrows]
  split <;> split <;> omega

/-! The loop -/

/-- The messages that are done, each in a live storage of its own, and the buffer that was
passed. -/
structure BufferState.Done (state : BufferState) (line : Bytes) (done : List Interval) :
    Prop where
  passed : state.line.Holds state.storage line
  nodes : List.Forall₂
    (fun node interval => ∃ p, node = some p ∧ p.buf ≠ state.line.buf ∧
      p.Holds state.storage (Interval.text line interval)) state.nodes done

/-- What was remembered of the first cloned message is in a live storage. -/
def BufferState.Cached (state : BufferState) (useful : Bytes) : Prop :=
  ∃ address more, state.lastSentmsg = some (address, useful.length) ∧
    state.storage.cells address = some (useful ++ more)

def BufferState.Stale (state : BufferState) (useful : Bytes) : Prop :=
  ∃ address < state.storage.next, state.lastSentmsg = some (address, useful.length) ∧
    state.storage.cells address = none

theorem Printbuf.Holds.of_same {p : Printbuf} {storage after : Storage} {text : Bytes}
    (holds : p.Holds storage text) (same : after.cells p.buf = storage.cells p.buf) :
    p.Holds after text :=
  { holds with contents := same.trans holds.contents }

/-- A message that is added in a new storage leaves the others where they are. -/
theorem BufferState.Done.add {state : BufferState} {line : Bytes} {done : List Interval}
    (ready : state.Done line done) {storage : Storage} {p : Printbuf} {interval : Interval}
    {lastSentmsg : Option (Nat × Nat)}
    (frame : ∀ address < state.storage.next,
      storage.cells address = state.storage.cells address)
    (fresh : state.storage.next ≤ p.buf) (holds : p.Holds storage (interval.text line)) :
    BufferState.Done { state with storage, lastSentmsg, nodes := some p :: state.nodes } line
      (interval :: done) := by
  have inside := Heap.lt_next ready.passed.contents
  constructor
  case passed => exact ready.passed.of_same (frame _ inside)
  case nodes =>
    refine .cons ⟨p, rfl, Nat.ne_of_gt (Nat.lt_of_lt_of_le inside fresh), holds⟩ ?_
    refine ready.nodes.imp ?_
    rintro node interval ⟨q, rfl, apart, holds⟩
    exact ⟨q, rfl, apart, holds.of_same (frame _ (Heap.lt_next holds.contents))⟩

section Loop

variable {counts : IntervalCounts} {firstTimestamp current : UInt64} {line : Bytes}
  {done : List Interval} {state : BufferState}

theorem printbufNew_holds (storage : Storage) :
    (printbufNew storage).1.Holds (printbufNew storage).2 [] where
  contents := Heap.alloc_self
  bpos := rfl
  room := by
    change 0 < 2048
    decide

theorem Appended.frame_new {storage after : Storage} {p' : Printbuf} {text : Bytes}
    (appended : Appended (printbufNew storage).2 (printbufNew storage).1 [] after p' text) :
    (∀ address < storage.next, after.cells address = storage.cells address) ∧
      storage.next ≤ p'.buf := by
  constructor
  · intro address old
    rw [appended.frame address (Nat.lt_succ_of_lt old) (Nat.ne_of_lt old)]
    exact Heap.alloc_other (Nat.ne_of_lt old)
  · rcases Nat.lt_or_ge text.length (printbufNew storage).1.size with fits | full
    · exact Nat.le_of_eq (appended.stays fits).1.symm
    · exact Nat.le_of_lt (appended.moves full).2

/-- What a cloned message starts with: what was passed, and the counts of every interval but
one. -/
def IntervalCounts.useful (counts : IntervalCounts) (line : Bytes) : Bytes :=
  countedText line counts.bytesPerInterval counts.packetsPerInterval

def IntervalCounts.earlier (counts : IntervalCounts) (timestamp : UInt64) : Interval where
  timestamp
  bytes := counts.bytesPerInterval
  packets := counts.packetsPerInterval

def IntervalCounts.last (counts : IntervalCounts) (timestamp : UInt64) : Interval where
  timestamp
  bytes := counts.firstIntervalBytes
  packets := counts.firstIntervalPkts

theorem exists_stampedText (line : Bytes) (timestamp : UInt64) :
    ∃ more, stampedText line timestamp = line ++ more := by
  unfold stampedText appendNumber elementPrefix
  simp only [List.append_assoc]
  exact ⟨_, rfl⟩

theorem splitInto_first
    (earlier : ¬current + 60 > firstTimestamp + counts.dSwitched)
    (ready : state.Done line done) (none : state.lastSentmsg = none) :
    let useful := counts.useful line
    let whole := stampedText useful current
    ∃ next, splitInto counts firstTimestamp 60 current state = .ok next ∧
      next.Done line (counts.earlier current :: done) ∧
      (¬Outgrows useful.length whole.length → next.Cached useful) ∧
      (Outgrows useful.length whole.length → next.Stale useful) := by
  intro useful whole
  have inside := Heap.lt_next ready.passed.contents
  obtain ⟨p1, s1, ran1, cloned, size1⟩ :=
    printbufMemappend_appended (printbufNew_holds state.storage) line
  rw [List.nil_append] at cloned size1
  change p1.size = grownSize 2048 line.length at size1
  obtain ⟨p2, s2, ran2, counted⟩ := printCountsInto_appended cloned.holds
    counts.bytesPerInterval counts.packetsPerInterval
  change Appended _ _ _ _ _ useful at counted
  obtain ⟨p3, s3, ran3, stamped⟩ := printTimestampInto_appended counted.holds current
  change Appended _ _ _ _ _ whole at stamped
  obtain ⟨frame, fresh⟩ := ((cloned.trans (printbufNew_holds _) counted).trans
    (printbufNew_holds _) stamped).frame_new
  have short : line.length + 9 ≤ useful.length ∧ useful.length ≤ line.length + 145 :=
    countedText_length line counts.bytesPerInterval counts.packetsPerInterval
  have size2 : p2.size = usefulSize line.length useful.length := by
    simp only [usefulSize, ← size1]
    split
    · next fits => exact (counted.stays fits).2
    · next full =>
        have wide : 2048 ≤ p1.size := by
          rw [size1, grownSize]
          split <;> omega
        exact counted.doubles (by omega) wide (Nat.not_lt.mp full)
  have fits : whole.length < p2.size ↔ ¬Outgrows useful.length whole.length := by
    rw [size2]
    exact fits_iff short (stampedText_length useful current)
  refine ⟨{ state with
    storage := s3
    lastSentmsg := some (p2.buf, p2.bpos)
    nodes := some p3 :: state.nodes }, ?_, ready.add frame fresh stamped.holds, ?_, ?_⟩
  · have read : (printbufNew state.storage).2.read state.line.buf = .ok line := by
      apply Heap.read_live
      exact (Heap.alloc_other (Nat.ne_of_lt inside)).trans ready.passed.contents
    have whole : line.take state.line.bpos = line :=
      List.take_of_length_le (Nat.le_of_eq ready.passed.bpos.symm)
    unfold splitInto cloneBuffer
    rw [if_neg earlier, none]
    simp only [read, whole, ran1, ran2, ran3, ok_bind]
  · intro stays
    obtain ⟨same, _⟩ := stamped.stays (fits.mpr stays)
    obtain ⟨more, text⟩ := exists_stampedText useful current
    refine ⟨p2.buf, more, by rw [counted.holds.bpos], ?_⟩
    rw [← text, ← same]
    exact stamped.holds.contents
  · intro outgrows
    obtain ⟨gone, _⟩ := stamped.moves (Nat.not_lt.mp (mt fits.mp (not_not.mpr outgrows)))
    have old := Heap.lt_next counted.holds.contents
    exact ⟨p2.buf, Nat.lt_of_lt_of_le old stamped.next, by rw [counted.holds.bpos], gone⟩

theorem splitInto_cached
    (earlier : ¬current + 60 > firstTimestamp + counts.dSwitched)
    (ready : state.Done line done) (cached : state.Cached (counts.useful line)) :
    ∃ next, splitInto counts firstTimestamp 60 current state = .ok next ∧
      next.Done line (counts.earlier current :: done) ∧ next.Cached (counts.useful line) := by
  obtain ⟨address, more, remembered, live⟩ := cached
  have inside := Heap.lt_next live
  obtain ⟨p1, s1, ran1, cloned, _⟩ :=
    printbufMemappend_appended (printbufNew_holds state.storage) (counts.useful line)
  rw [List.nil_append] at cloned
  obtain ⟨p2, s2, ran2, stamped⟩ := printTimestampInto_appended cloned.holds current
  obtain ⟨frame, fresh⟩ := (cloned.trans (printbufNew_holds _) stamped).frame_new
  refine ⟨{ state with storage := s2, nodes := some p2 :: state.nodes }, ?_,
    ready.add frame fresh stamped.holds, address, more, remembered,
    (frame address inside).trans live⟩
  have read : (printbufNew state.storage).2.read address = .ok (counts.useful line ++ more) := by
    apply Heap.read_live
    exact (Heap.alloc_other (Nat.ne_of_lt inside)).trans live
  unfold splitInto cloneBuffer
  rw [if_neg earlier, remembered]
  simp only [read, List.take_left, ran1, ran2, ok_bind]

theorem splitInto_stale
    (earlier : ¬current + 60 > firstTimestamp + counts.dSwitched)
    (stale : state.Stale (counts.useful line)) :
    ∃ fault, splitInto counts firstTimestamp 60 current state = .error fault := by
  obtain ⟨address, inside, remembered, gone⟩ := stale
  have read : (printbufNew state.storage).2.read address = .error { address } := by
    apply Heap.read_dead
    exact (Heap.alloc_other (Nat.ne_of_lt inside)).trans gone
  refine ⟨{ address }, ?_⟩
  unfold splitInto cloneBuffer
  rw [if_neg earlier, remembered]
  simp only [read, error_bind]

/-! What is handed on -/

theorem messages_of_holds {nodes : List (Option Printbuf)} {intervals : List Interval}
    (holds : List.Forall₂ (fun node interval =>
      (node.getD state.line).Holds state.storage (Interval.text line interval)) nodes intervals) :
    BufferState.messages { state with nodes } =
      .ok (intervals.map (Interval.message line)) := by
  unfold BufferState.messages
  induction holds with
  | nil => rfl
  | @cons node interval nodes intervals own _ ih =>
      rw [List.mapM_cons]
      simp only at ih
      have read := Heap.read_live own.contents
      have whole : (interval.text line).take (node.getD state.line).bpos = interval.text line :=
        List.take_of_length_le (Nat.le_of_eq own.bpos.symm)
      simp only [read, whole, ok_bind, ih]
      rfl

theorem BufferState.Done.messages (ready : state.Done line done) :
    state.messages = .ok (done.map (Interval.message line)) := by
  refine @messages_of_holds line state state.nodes done (ready.nodes.imp ?_)
  rintro node interval ⟨p, rfl, _, holds⟩
  exact holds

theorem splitInto_last
    (last : current + 60 > firstTimestamp + counts.dSwitched) (ready : state.Done line done) :
    ∃ final, splitInto counts firstTimestamp 60 current state = .ok final ∧
      final.messages =
        .ok ((counts.last current :: done).map (Interval.message line)) := by
  obtain ⟨p1, s1, ran1, counted⟩ := printCountsInto_appended ready.passed
    counts.firstIntervalBytes counts.firstIntervalPkts
  obtain ⟨p2, s2, ran2, stamped⟩ := printTimestampInto_appended counted.holds current
  have whole := counted.trans ready.passed stamped
  refine ⟨{ state with storage := s2, line := p2, nodes := none :: state.nodes }, ?_, ?_⟩
  · unfold splitInto
    rw [if_pos last]
    simp only [ran1, ran2, ok_bind]
  · refine @messages_of_holds line { state with storage := s2, line := p2 } _ _
      (.cons stamped.holds (ready.nodes.imp ?_))
    rintro node interval ⟨p, rfl, apart, holds⟩
    exact holds.of_same (whole.frame _ (Heap.lt_next holds.contents) apart)

end Loop

end F2k
