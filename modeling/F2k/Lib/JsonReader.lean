import F2k.Lib.JsonBytes
import Mathlib.Data.List.DropRight

namespace F2k.Lib

/-! A reader of JSON objects: the names and the texts of the values of its members, in order. It
looks for commas and colons that are outside of strings and brackets. -/

namespace JsonReader

/-- Where a reader is: in so many brackets, and in a string or behind a backslash of it. -/
inductive Spot
  | outside (depth : Nat)
  | inside (depth : Nat)
  | backslash (depth : Nat)
deriving DecidableEq

def Spot.next (spot : Spot) (byte : UInt8) : Spot :=
  match spot with
  | .backslash depth => .inside depth
  | .inside depth =>
      if byte = 34 then .outside depth else if byte = 92 then .backslash depth else .inside depth
  | .outside depth =>
      if byte = 34 then .inside depth
      else if byte = 91 ∨ byte = 123 then .outside (depth + 1)
      else if byte = 93 ∨ byte = 125 then .outside (depth - 1)
      else .outside depth

/-- A separator counts outside of strings and of all brackets. -/
def Separates (separator : UInt8) (spot : Spot) (byte : UInt8) : Prop :=
  byte = separator ∧ spot = .outside 0

instance (separator : UInt8) (spot : Spot) (byte : UInt8) :
    Decidable (Separates separator spot byte) :=
  inferInstanceAs (Decidable (_ ∧ _))

/-- What a text has between its separators. -/
def pieces (separator : UInt8) (spot : Spot) : Bytes → List Bytes
  | [] => [[]]
  | byte :: rest =>
      if Separates separator spot byte then [] :: pieces separator spot rest
      else (pieces separator (spot.next byte) rest).modifyHead (byte :: ·)

def isSpace (byte : UInt8) : Bool :=
  byte ∈ ([32, 9, 10, 13] : Bytes)

def trimmed (text : Bytes) : Bytes :=
  (text.dropWhile isSpace).rdropWhile isSpace

def unquoted : Bytes → Option Bytes
  | 34 :: rest => if rest.getLast? = some 34 then some rest.dropLast else none
  | _ => none

/-- A name and a value with one colon between them. -/
def readMember (text : Bytes) : Option (Bytes × Bytes) :=
  match pieces 58 (.outside 0) text with
  | [name, value] => (unquoted (trimmed name)).map fun name => (name, trimmed value)
  | _ => none

def readMembers (text : Bytes) : Option (List (Bytes × Bytes)) :=
  (pieces 44 (.outside 0) text).mapM readMember

def readObject : Bytes → Option (List (Bytes × Bytes))
  | 123 :: rest =>
      if rest.getLast? ≠ some 125 then none
      else if rest.dropLast.all isSpace then some []
      else readMembers rest.dropLast
  | _ => none

/-! Texts without a separator of their own -/

/-- From one spot to another the text has no separator. -/
def Crosses (separator : UInt8) (spot : Spot) (text : Bytes) (after : Spot) : Prop :=
  ∀ rest, pieces separator spot (text ++ rest) =
    (pieces separator after rest).modifyHead (text ++ ·)

section Crossing

variable {separator : UInt8} {spot between after : Spot} {depth : Nat}

theorem Crosses.nil : Crosses separator spot [] spot := by
  intro rest
  change _ = (pieces separator spot rest).modifyHead id
  rw [List.modifyHead_id]
  rfl

theorem Crosses.append {first second : Bytes} (one : Crosses separator spot first between)
    (two : Crosses separator between second after) :
    Crosses separator spot (first ++ second) after := by
  intro rest
  rw [List.append_assoc, one, two, List.modifyHead_modifyHead]
  congr 1
  funext text
  exact (List.append_assoc first second text).symm

theorem crosses_byte {byte : UInt8} (quiet : ¬Separates separator spot byte) :
    Crosses separator spot [byte] (spot.next byte) := by
  intro rest
  exact if_neg quiet

theorem Crosses.cons {byte : UInt8} {text : Bytes} (quiet : ¬Separates separator spot byte)
    (more : Crosses separator (spot.next byte) text after) :
    Crosses separator spot (byte :: text) after :=
  (crosses_byte quiet).append more

theorem crosses_each {text : Bytes}
    (each : ∀ byte ∈ text, ¬Separates separator spot byte ∧ spot.next byte = spot) :
    Crosses separator spot text spot := by
  induction text with
  | nil => exact .nil
  | cons byte rest ih =>
      obtain ⟨⟨quiet, same⟩, others⟩ := List.forall_mem_cons.mp each
      apply Crosses.cons quiet
      rw [same]
      exact ih others

theorem not_separates_inside (byte : UInt8) : ¬Separates separator (.inside depth) byte :=
  fun separates => nomatch separates.2

theorem not_separates_deep (byte : UInt8) : ¬Separates separator (.outside (depth + 1)) byte :=
  fun separates => nomatch separates.2

theorem Crosses.pieces_eq {text : Bytes} (crosses : Crosses separator spot text after) :
    pieces separator spot text = [text] := by
  have whole := crosses []
  rw [List.append_nil] at whole
  rw [whole, pieces, List.modifyHead_cons, List.append_nil]

theorem Crosses.pieces_append {text : Bytes} (crosses : Crosses separator spot text (.outside 0))
    (rest : Bytes) :
    pieces separator spot (text ++ [separator] ++ rest) =
      text :: pieces separator (.outside 0) rest := by
  rw [List.append_assoc, crosses]
  change (pieces separator (.outside 0) (separator :: rest)).modifyHead _ = _
  rw [pieces, if_pos ⟨rfl, rfl⟩, List.modifyHead_cons, List.append_nil]

theorem crosses_inside {text : Bytes} (noQuote : ∀ byte ∈ text, byte ≠ 34)
    (noBackslash : ∀ byte ∈ text, byte ≠ 92) :
    Crosses separator (.inside depth) text (.inside depth) := by
  apply crosses_each
  intro byte member
  refine ⟨not_separates_inside byte, ?_⟩
  rw [Spot.next, if_neg (noQuote byte member), if_neg (noBackslash byte member)]

theorem crosses_text {text : Bytes} (contents : JsonText text) :
    Crosses separator (.inside depth) text (.inside depth) := by
  have backslash (byte : UInt8) : ¬Separates separator (.backslash depth) byte :=
    fun separates => nomatch separates.2
  induction contents with
  | nil => exact .nil
  | @character rest character printable bare more ih =>
      refine (crosses_inside ?_ ?_).append ih
      · intro byte member same
        exact Before.character_ne (by decide) bare.1 byte member (by rw [same]; rfl)
      · intro byte member same
        exact Before.character_ne (by decide) bare.2 byte member (by rw [same]; rfl)
  | escape known more ih =>
      exact .cons (not_separates_inside _) (.cons (backslash _) ih)
  | @unicode digits rest four hexadecimal more ih =>
      refine .cons (not_separates_inside _) (.cons (backslash _) ((crosses_inside ?_ ?_).append ih))
      · rintro byte member rfl
        exact absurd (hexadecimal 34 member) (by unfold IsHexDigit IsDigit; decide)
      · rintro byte member rfl
        exact absurd (hexadecimal 92 member) (by unfold IsHexDigit IsDigit; decide)

/-- Members stand between commas, and a name and its value around a colon. -/
def IsSeparator (separator : UInt8) : Prop :=
  separator = 44 ∨ separator = 58

/-- A byte that neither separates nor opens or closes anything. -/
def Bare (byte : UInt8) : Prop :=
  byte ∉ ([44, 58, 34, 91, 123, 93, 125] : Bytes)

instance : DecidablePred Bare :=
  fun _ => inferInstanceAs (Decidable (_ ∉ _))

theorem crosses_bare (known : IsSeparator separator) {text : Bytes}
    (bare : ∀ byte ∈ text, Bare byte) :
    Crosses separator (.outside depth) text (.outside depth) := by
  apply crosses_each
  intro byte member
  have apart := bare byte member
  simp only [Bare, List.mem_cons, List.not_mem_nil, or_false, not_or] at apart
  obtain ⟨comma, colon, quote, bracket, brace, bracketEnd, braceEnd⟩ := apart
  constructor
  · rintro ⟨same, _⟩
    rcases known with rfl | rfl
    · exact comma same
    · exact colon same
  · simp only [Spot.next, quote, bracket, brace, bracketEnd, braceEnd, or_self, if_false]

theorem bare_space {space : Bytes} (spaces : IsSpace space) : ∀ byte ∈ space, Bare byte := by
  intro byte member
  have listed := spaces byte member
  simp only [List.mem_cons, List.not_mem_nil, or_false] at listed
  rcases listed with rfl | rfl | rfl | rfl <;> decide

theorem bare_digits {digits : Bytes} (whole : IsDigits digits) : ∀ byte ∈ digits, Bare byte := by
  intro byte member listed
  have digit := whole.2 byte member
  simp only [List.mem_cons, List.not_mem_nil, or_false] at listed
  rcases listed with rfl | rfl | rfl | rfl | rfl | rfl | rfl <;>
    exact absurd digit (by unfold IsDigit; decide)

theorem bare_number {text : Bytes} (number : JsonNumber text) : ∀ byte ∈ text, Bare byte := by
  obtain ⟨signed, digits, fractional, scaled⟩ := number
  simp only [List.forall_mem_append]
  refine ⟨⟨⟨?_, bare_digits digits.1⟩, ?_⟩, ?_⟩
  · rcases signed with rfl | rfl <;> simp [Bare]
  · rcases fractional with rfl | ⟨digits, known, rfl⟩
    · simp
    · exact List.forall_mem_cons.mpr ⟨by decide, bare_digits known⟩
  · rcases scaled with rfl | ⟨letter, letters, sign, signs, digits, known, rfl⟩
    · simp
    · simp only [List.forall_mem_append]
      refine ⟨⟨?_, ?_⟩, bare_digits known⟩
      · simp only [List.mem_cons, List.not_mem_nil, or_false] at letters
        rcases letters with rfl | rfl <;> decide +kernel
      · simp only [List.mem_cons, List.not_mem_nil, or_false] at signs
        rcases signs with rfl | rfl | rfl <;> decide +kernel

theorem bare_literal : ∀ text ∈ [ascii "true", ascii "false", ascii "null"],
    ∀ byte ∈ text, Bare byte := by
  decide +kernel

theorem not_separates_known (known : IsSeparator separator) {byte : UInt8}
    (apart : byte ≠ 44 ∧ byte ≠ 58) :
    ¬Separates separator spot byte := by
  rintro ⟨rfl, _⟩
  exact known.elim apart.1 apart.2

theorem crosses_quoted (known : IsSeparator separator) {text : Bytes} (contents : JsonText text) :
    Crosses separator (.outside depth) ([34] ++ text ++ [34]) (.outside depth) :=
  ((crosses_byte (not_separates_known known (by decide))).append (crosses_text contents)).append
    (crosses_byte (not_separates_inside 34))

theorem crosses_brackets (known : IsSeparator separator) {opening closing : UInt8}
    (opens : opening = 91 ∨ opening = 123) (closes : closing = 93 ∨ closing = 125)
    {contents : Bytes}
    (within : Crosses separator (.outside (depth + 1)) contents (.outside (depth + 1))) :
    Crosses separator (.outside depth) ([opening] ++ contents ++ [closing]) (.outside depth) := by
  have entered : Crosses separator (.outside depth) [opening] (.outside (depth + 1)) := by
    rcases opens with rfl | rfl <;> exact crosses_byte (not_separates_known known (by decide))
  have left : Crosses separator (.outside (depth + 1)) [closing] (.outside depth) := by
    rcases closes with rfl | rfl <;> exact crosses_byte (not_separates_deep _)
  exact (entered.append within).append left

/-- A member of an object, as far as its colon does not separate. -/
theorem crosses_member (known : IsSeparator separator)
    {before name gap space value behind : Bytes} (quiet : ¬Separates separator (.outside depth) 58)
    (spaceBefore : IsSpace before) (named : JsonText name) (spaceGap : IsSpace gap)
    (spaceValue : IsSpace space)
    (member : Crosses separator (.outside depth) value (.outside depth))
    (spaceAfter : IsSpace behind) :
    Crosses separator (.outside depth)
      (before ++ [34] ++ name ++ [34] ++ gap ++ [58] ++ space ++ value ++ behind)
      (.outside depth) := by
  have spaces {space : Bytes} (blank : IsSpace space) :
      Crosses separator (.outside depth) space (.outside depth) :=
    crosses_bare known (bare_space blank)
  have quoted : Crosses separator (.outside depth) (before ++ ([34] ++ name ++ [34]))
      (.outside depth) :=
    (spaces spaceBefore).append (crosses_quoted known named)
  have whole := ((((quoted.append (spaces spaceGap)).append (crosses_byte quiet)).append
    (spaces spaceValue)).append member).append (spaces spaceAfter)
  simpa only [List.append_assoc] using whole

mutual

theorem crosses_value (known : IsSeparator separator) :
    ∀ {value : Bytes} {depth : Nat}, JsonValue value →
      Crosses separator (.outside depth) value (.outside depth)
  | _, _, .literal listed => crosses_bare known (bare_literal _ listed)
  | _, _, .number number => crosses_bare known (bare_number number)
  | _, _, .string contents => crosses_quoted known contents
  | _, _, .emptyArray spaces =>
      crosses_brackets known (.inl rfl) (.inl rfl) (crosses_bare known (bare_space spaces))
  | _, _, .array contents =>
      crosses_brackets known (.inl rfl) (.inl rfl) (crosses_elements known contents)
  | _, _, .emptyObject spaces =>
      crosses_brackets known (.inr rfl) (.inr rfl) (crosses_bare known (bare_space spaces))
  | _, _, .object contents =>
      crosses_brackets known (.inr rfl) (.inr rfl) (crosses_members known contents)

theorem crosses_elements (known : IsSeparator separator) :
    ∀ {elements : Bytes} {depth : Nat}, JsonElements elements →
      Crosses separator (.outside (depth + 1)) elements (.outside (depth + 1))
  | _, _, .one spaceBefore element spaceAfter =>
      ((crosses_bare known (bare_space spaceBefore)).append (crosses_value known element)).append
        (crosses_bare known (bare_space spaceAfter))
  | _, _, .more elements others =>
      ((crosses_elements known elements).append (crosses_byte (not_separates_deep 44))).append
        (crosses_elements known others)

theorem crosses_members (known : IsSeparator separator) :
    ∀ {members : Bytes} {depth : Nat}, JsonMembers members →
      Crosses separator (.outside (depth + 1)) members (.outside (depth + 1))
  | _, _, .one spaceBefore named spaceGap spaceValue member spaceAfter =>
      crosses_member known (not_separates_deep 58) spaceBefore named spaceGap spaceValue
        (crosses_value known member) spaceAfter
  | _, _, .more members others =>
      ((crosses_members known members).append (crosses_byte (not_separates_deep 44))).append
        (crosses_members known others)

end

end Crossing

/-! Members -/

theorem isSpace_of {space : Bytes} (spaces : IsSpace space) : ∀ byte ∈ space, isSpace byte := by
  intro byte member
  exact decide_eq_true (spaces byte member)

/-- A text with something else than spaces at both ends. -/
structure Ended (text : Bytes) : Prop where
  first : ∃ byte rest, text = byte :: rest ∧ isSpace byte = false
  last : ∃ rest byte, text = rest ++ [byte] ∧ isSpace byte = false

theorem Ended.trimmed_eq {before text behind : Bytes} (ended : Ended text)
    (spaceBefore : IsSpace before) (spaceAfter : IsSpace behind) :
    trimmed (before ++ text ++ behind) = text := by
  obtain ⟨⟨byte, rest, starts, noSpace⟩, ⟨front, final, ends, noSpaceLast⟩⟩ := ended
  have dropped : (before ++ text ++ behind).dropWhile isSpace = text ++ behind := by
    rw [List.append_assoc, List.dropWhile_append_of_pos (isSpace_of spaceBefore), starts]
    exact List.dropWhile_cons_of_neg (by simp [noSpace])
  have blank : ∀ byte ∈ behind.reverse, isSpace byte :=
    fun byte member => isSpace_of spaceAfter byte (List.mem_reverse.mp member)
  have kept : (text ++ behind).rdropWhile isSpace = text := by
    rw [List.rdropWhile, List.reverse_append, List.dropWhile_append_of_pos blank, ends,
      List.reverse_concat, List.dropWhile_cons_of_neg (by simp [noSpaceLast]), List.reverse_cons,
      List.reverse_reverse]
  rw [trimmed, dropped, kept]

theorem ended_of_brackets {opening closing : UInt8} (opens : isSpace opening = false)
    (closes : isSpace closing = false) (contents : Bytes) :
    Ended ([opening] ++ contents ++ [closing]) :=
  ⟨⟨opening, _, rfl, opens⟩, ⟨_, closing, rfl, closes⟩⟩

theorem ended_of_noSpace {text : Bytes} (some : text ≠ [])
    (noSpace : ∀ byte ∈ text, isSpace byte = false) : Ended text := by
  constructor
  · obtain ⟨byte, rest, rfl⟩ := List.exists_cons_of_ne_nil some
    exact ⟨byte, rest, rfl, noSpace byte List.mem_cons_self⟩
  · obtain ⟨rest, byte, rfl⟩ := (List.eq_nil_or_concat' text).resolve_left some
    exact ⟨rest, byte, rfl, noSpace byte (by simp)⟩

theorem noSpace_literal : ∀ text ∈ [ascii "true", ascii "false", ascii "null"],
    text ≠ [] ∧ ∀ byte ∈ text, isSpace byte = false := by
  decide +kernel

theorem ended_value {value : Bytes} (known : JsonValue value) : Ended value := by
  cases known with
  | literal listed =>
      obtain ⟨some, noSpace⟩ := noSpace_literal value listed
      exact ended_of_noSpace some noSpace
  | number number =>
      obtain ⟨some, ordinary⟩ := Before.ordinary_number number
      apply ended_of_noSpace some
      intro byte member
      have apart := ordinary byte member
      simp only [Before.Ordinary, List.mem_cons, List.not_mem_nil, or_false, not_or] at apart
      simp [isSpace, apart]
  | string => exact ended_of_brackets (by decide) (by decide) _
  | emptyArray => exact ended_of_brackets (by decide) (by decide) _
  | array => exact ended_of_brackets (by decide) (by decide) _
  | emptyObject => exact ended_of_brackets (by decide) (by decide) _
  | object => exact ended_of_brackets (by decide) (by decide) _

theorem unquoted_quoted (name : Bytes) : unquoted ([34] ++ name ++ [34]) = some name := by
  change (if (name ++ [34]).getLast? = some 34 then some (name ++ [34]).dropLast else none) = _
  rw [List.getLast?_concat, if_pos rfl, List.dropLast_concat]

section Members

variable {before name gap space value behind : Bytes}

theorem readMember_eq (spaceBefore : IsSpace before) (named : JsonText name)
    (spaceGap : IsSpace gap) (spaceValue : IsSpace space) (member : JsonValue value)
    (spaceAfter : IsSpace behind) :
    readMember (before ++ [34] ++ name ++ [34] ++ gap ++ [58] ++ space ++ value ++ behind) =
      some (name, value) := by
  have colon : IsSeparator 58 := .inr rfl
  have spaces {space : Bytes} (blank : IsSpace space) :
      Crosses 58 (.outside 0) space (.outside 0) :=
    crosses_bare colon (bare_space blank)
  have called : Crosses 58 (.outside 0) (before ++ ([34] ++ name ++ [34]) ++ gap) (.outside 0) :=
    ((spaces spaceBefore).append (crosses_quoted colon named)).append (spaces spaceGap)
  have valued : Crosses 58 (.outside 0) (space ++ value ++ behind) (.outside 0) :=
    ((spaces spaceValue).append (crosses_value colon member)).append (spaces spaceAfter)
  have whole := called.pieces_append (space ++ value ++ behind)
  rw [valued.pieces_eq] at whole
  have parts : pieces 58 (.outside 0)
      (before ++ [34] ++ name ++ [34] ++ gap ++ [58] ++ space ++ value ++ behind) =
      [before ++ ([34] ++ name ++ [34]) ++ gap, space ++ value ++ behind] := by
    simpa only [List.append_assoc] using whole
  unfold readMember
  rw [parts]
  dsimp only
  rw [(ended_of_brackets (by decide) (by decide) name).trimmed_eq spaceBefore spaceGap,
    unquoted_quoted, (ended_value member).trimmed_eq spaceValue spaceAfter]
  rfl

/-- One member is one piece of what has commas between. -/
theorem crosses_oneMember (spaceBefore : IsSpace before) (named : JsonText name)
    (spaceGap : IsSpace gap) (spaceValue : IsSpace space) (member : JsonValue value)
    (spaceAfter : IsSpace behind) :
    Crosses 44 (.outside 0)
      (before ++ [34] ++ name ++ [34] ++ gap ++ [58] ++ space ++ value ++ behind) (.outside 0) :=
  crosses_member (.inl rfl) (by decide) spaceBefore named spaceGap spaceValue
    (crosses_value (.inl rfl) member) spaceAfter

end Members

/-- What holds of one member, and of two lists of them with a comma between, holds of all. -/
theorem forall_members {holds : ∀ members, JsonMembers members → Prop}
    (one : ∀ {before name gap space value behind : Bytes} (spaceBefore : IsSpace before)
      (named : JsonText name) (spaceGap : IsSpace gap) (spaceValue : IsSpace space)
      (member : JsonValue value) (spaceAfter : IsSpace behind),
      holds _ (.one spaceBefore named spaceGap spaceValue member spaceAfter))
    (more : ∀ {first second : Bytes} (members : JsonMembers first) (others : JsonMembers second),
      holds first members → holds second others → holds _ (.more members others))
    {members : Bytes} (contents : JsonMembers members) : holds members contents := by
  refine @JsonMembers.rec (fun _ _ => True) (fun _ _ => True) holds
    (fun _ => trivial) (fun _ => trivial) (fun _ => trivial) (fun _ => trivial)
    (fun _ _ => trivial) (fun _ => trivial) (fun _ _ => trivial) (fun _ _ _ _ => trivial)
    (fun _ _ _ _ => trivial) ?_ ?_ members contents
  · intro before name gap space value behind spaceBefore named spaceGap spaceValue member
      spaceAfter _
    exact one spaceBefore named spaceGap spaceValue member spaceAfter
  · intro first second members others
    exact more members others

/-- The members of the first part and those of the second are pieces of the whole. -/
theorem pieces_members {members : Bytes} (contents : JsonMembers members) (rest : Bytes) :
    pieces 44 (.outside 0) (members ++ [44] ++ rest) =
      pieces 44 (.outside 0) members ++ pieces 44 (.outside 0) rest := by
  induction contents using forall_members generalizing rest with
  | one spaceBefore named spaceGap spaceValue member spaceAfter =>
      have crosses := crosses_oneMember spaceBefore named spaceGap spaceValue member spaceAfter
      rw [crosses.pieces_append, crosses.pieces_eq]
      rfl
  | @more first second members others ihFirst ihSecond =>
      have whole : first ++ [44] ++ second ++ [44] ++ rest =
          first ++ [44] ++ (second ++ [44] ++ rest) := by
        simp only [List.append_assoc]
      rw [whole, ihFirst, ihSecond, ihFirst, List.append_assoc]

theorem readMembers_append {first second : Bytes} {one two : List (Bytes × Bytes)}
    (members : JsonMembers first) (readFirst : readMembers first = some one)
    (readSecond : readMembers second = some two) :
    readMembers (first ++ [44] ++ second) = some (one ++ two) := by
  unfold readMembers at readFirst readSecond ⊢
  rw [pieces_members members, List.mapM_append, readFirst, readSecond]
  rfl

theorem readMembers_one {before name gap space value behind : Bytes}
    (spaceBefore : IsSpace before) (named : JsonText name) (spaceGap : IsSpace gap)
    (spaceValue : IsSpace space) (member : JsonValue value) (spaceAfter : IsSpace behind) :
    readMembers (before ++ [34] ++ name ++ [34] ++ gap ++ [58] ++ space ++ value ++ behind) =
      some [(name, value)] := by
  have crosses := crosses_oneMember spaceBefore named spaceGap spaceValue member spaceAfter
  unfold readMembers
  rw [crosses.pieces_eq, List.mapM_cons, readMember_eq spaceBefore named spaceGap spaceValue member
    spaceAfter]
  rfl

/-- What the grammar derives is read, whatever it is. -/
theorem exists_readMembers {members : Bytes} (contents : JsonMembers members) :
    ∃ pairs, readMembers members = some pairs ∧
      ∀ pair ∈ pairs, JsonText pair.1 ∧ JsonValue pair.2 := by
  induction contents using forall_members with
  | one spaceBefore named spaceGap spaceValue member spaceAfter =>
      refine ⟨_, readMembers_one spaceBefore named spaceGap spaceValue member spaceAfter, ?_⟩
      exact List.forall_mem_singleton.mpr ⟨named, member⟩
  | more members others ihFirst ihSecond =>
      obtain ⟨one, readFirst, sound⟩ := ihFirst
      obtain ⟨two, readSecond, soundOthers⟩ := ihSecond
      exact ⟨one ++ two, readMembers_append members readFirst readSecond,
        List.forall_mem_append.mpr ⟨sound, soundOthers⟩⟩

theorem members_quote {members : Bytes} (contents : JsonMembers members) : 34 ∈ members := by
  induction contents using forall_members with
  | one => simp
  | more members others ihFirst _ => simp [ihFirst]

theorem readObject_eq {members : Bytes} (contents : JsonMembers members) :
    readObject ([123] ++ members ++ [125]) = readMembers members := by
  have notBlank : ¬members.all isSpace = true := by
    intro blank
    exact absurd (List.all_eq_true.mp blank 34 (members_quote contents)) (by decide)
  change (if (members ++ [125]).getLast? ≠ some 125 then none
    else if (members ++ [125]).dropLast.all isSpace then some []
    else readMembers (members ++ [125]).dropLast) = _
  rw [List.getLast?_concat, List.dropLast_concat, if_neg (not_not.mpr rfl), if_neg notBlank]

example :
    readObject (ascii "\x7b\"a\":\"x\\\",\", \"b\":[1,\x7b\"c\":2\x7d]\x7d") =
      some [(ascii "a", ascii "\"x\\\",\""), (ascii "b", ascii "[1,\x7b\"c\":2\x7d]")] := by
  decide +kernel

end JsonReader

end F2k.Lib
