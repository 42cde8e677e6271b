import F2k.Lib.ListFilling
import F2k.NetAddress

namespace F2k

open Lib

/-! The files that names are loaded from: their lines, and what a line says. -/

/-- What one call of `fgets` after the other reads: up to a newline, and so many bytes at most. -/
def fgetsAll (room : Nat) : Bytes → Bytes → List Bytes
  | [], [] => []
  | read, [] => [read]
  | read, byte :: rest =>
      if byte = 10 ∨ read.length + 1 = room then (read ++ [byte]) :: fgetsAll room [] rest
      else fgetsAll room (read ++ [byte]) rest

def readLines (content : Bytes) : List Bytes :=
  fgetsAll 1023 [] content

/-- `strtok_r`: the token, and the text that the next call goes on with. -/
def strtok (delimiters text : Bytes) : Option (Bytes × Bytes) :=
  let text := text.dropWhile fun byte => delimiters.contains byte
  match text.takeWhile fun byte => !delimiters.contains byte with
  | [] => none
  | token => some (token, (text.dropWhile fun byte => !delimiters.contains byte).drop 1)

/-- `strtol` in base 10: the number, and the text behind it. -/
def strtol (text : Bytes) : Int × Bytes :=
  let (negative, unsigned) :=
    match text.dropWhile isBlank with
    | 45 :: rest => (true, rest)
    | 43 :: rest => (false, rest)
    | rest => (false, rest)
  match unsigned.takeWhile isDigit with
  | [] => (0, text)
  | digits =>
      let value : Nat :=
        digits.foldl (fun number digit => number * 10 + (digit.toNat - 48)) 0
      let number : Int := if negative then -(value : Int) else value
      (max (-2 ^ 63) (min (2 ^ 63 - 1) number), unsigned.dropWhile isDigit)

def atoi (text : Bytes) : UInt32 :=
  (Int32.ofInt (strtol text).1).toUInt32

/-- Where the digits stand in the text of a hardware address. -/
def macpos : List Nat := [0, 1, 3, 4, 6, 7, 9, 10, 12, 13, 15, 16]

/-- What is no digit is taken for a small letter. A `char` is signed. -/
def macDigit (byte : UInt8) : UInt64 :=
  if 48 ≤ byte ∧ byte ≤ 57 then (byte - 48).toUInt64
  else if 65 ≤ byte ∧ byte ≤ 70 then (byte - 65 + 10).toUInt64
  else (Int64.ofInt (byte.toInt8.toInt - 97 + 10)).toUInt64

def macNumber (numberA : Bytes) : UInt64 :=
  macpos.zipIdx.foldl
    (fun number position =>
      number ||| macDigit (numberA.getD position.1 0) <<< UInt64.ofNat (4 * (11 - position.2))) 0

/-- Every position is read, also those behind the zero byte of a short text. -/
def macAtoi (numberA : Bytes) : Except Misuse UInt64 :=
  if numberA.length < 16 then .error .pastEnd else .ok (macNumber numberA)

/-- The two tokens of a line that has an entry. -/
def hostsListTokens (line : Bytes) : Option (Bytes × Bytes) :=
  if line.head? = some 35 ∨ line.head? = some 10 then none
  else
    (strtok [32, 9, 10] (cString line)).bind fun first =>
      (strtok [32, 9, 10] first.2).map fun second => (first.1, second.1)

/-- What a line of a key and value file is: nothing, no token at all, or a pair. -/
inductive CharCharLine
  | skipped
  | blank
  | pair (key val : Bytes)
deriving DecidableEq

/-- A newline at the end of the value is left out. -/
def chomp (val : Bytes) : Bytes :=
  if val.getLast? = some 10 then val.dropLast else val

def charCharLine (line : Bytes) : CharCharLine :=
  if line.head? = some 35 ∨ line.head? = some 10 then .skipped
  else
    match strtok [32, 9] (cString line) with
    | none => .blank
    | some (tok1, rest) =>
        match strtok [32, 9] rest with
        | none => .skipped
        | some (tok2, _) => .pair tok1 (chomp tok2)

/-! The lists, and the nodes that lines become -/

inductive NameList
  | hosts
  | networks
  | engines
  | domains
  | domainAlias
  | os
  | macs
deriving DecidableEq

/-- `number_i` of a node of the lists that share `IPNameAssoc`. -/
inductive NumberI
  | netAddress (address : NetAddress)
  | number (number : UInt32)
deriving DecidableEq

inductive NameNode
  | assoc (name number : Bytes) (numberI : NumberI)
  | keyVal (key val : Bytes)
  | macAddr (name numberA : Bytes) (numberI : UInt64)
deriving DecidableEq

/-- `PARSEHOSTSLIST_ORDER`, of the files that become a list. -/
inductive ParseHostsListOrder
  | host
  | network
  | engine
  | domains
  | ifaddr
deriving DecidableEq

def ParseHostsListOrder.list : ParseHostsListOrder → NameList
  | .host => .hosts
  | .network => .networks
  | .engine => .engines
  | .domains => .domains
  | .ifaddr => .macs

abbrev NameLists := LinkedLists NameList NameNode

abbrev NameLoading := Loading NameList NameNode

def noAddress : NetAddress := { network := 0, networkMask := 0 }

def addAddress (inetPton : InetPton) (tok1 tok2 : Bytes) (loading : NameLoading) :
    Except Misuse NameLoading :=
  match safeParseAddress inetPton tok2 noAddress with
  | none => loading.append (.assoc tok1 tok2 (.netAddress noAddress)) >>= Loading.drop
  | some address => loading.append (.assoc tok1 tok2 (.netAddress address)) >>= Loading.advance

def addEntry (inetPton : InetPton) (order : ParseHostsListOrder) (tok1 tok2 : Bytes)
    (loading : NameLoading) : Except Misuse NameLoading :=
  match order with
  | .host => addAddress inetPton tok1 tok2 loading
  | .network => addAddress inetPton tok1 tok2 loading
  | .engine => loading.append (.assoc tok1 tok2 (.number (atoi tok2))) >>= Loading.advance
  | .domains =>
      loading.append (.assoc tok1 tok2 (.number (.ofNat tok1.length))) >>= Loading.advance
  | .ifaddr =>
      macAtoi tok2 >>= fun numberI =>
        loading.append (.macAddr tok1 tok2 numberI) >>= Loading.advance

def parseHostsListLine (inetPton : InetPton) (order : ParseHostsListOrder) (loading : NameLoading)
    (line : Bytes) : Except Misuse NameLoading :=
  match hostsListTokens line with
  | none => .ok loading
  | some (tok1, tok2) => addEntry inetPton order tok1 tok2 loading

/-- The pointer goes on also behind a line without a token. -/
def parseCharCharLine (loading : NameLoading) (line : Bytes) : Except Misuse NameLoading :=
  match charCharLine line with
  | .skipped => .ok loading
  | .blank => loading.advance
  | .pair key val => loading.append (.keyVal key val) >>= Loading.advance

/-! What is in a list once the lines are read -/

/-- The node that the tokens of a line leave in the list. -/
def entryNode (inetPton : InetPton) (order : ParseHostsListOrder) (tok1 tok2 : Bytes) :
    Option NameNode :=
  match order with
  | .host | .network =>
      (safeParseAddress inetPton tok2 noAddress).map fun address =>
        .assoc tok1 tok2 (.netAddress address)
  | .engine => some (.assoc tok1 tok2 (.number (atoi tok2)))
  | .domains => some (.assoc tok1 tok2 (.number (.ofNat tok1.length)))
  | .ifaddr => some (.macAddr tok1 tok2 (macNumber tok2))

def lineNode (inetPton : InetPton) (order : ParseHostsListOrder) (line : Bytes) :
    Option NameNode :=
  (hostsListTokens line).bind fun tokens => entryNode inetPton order tokens.1 tokens.2

def hostsNodes (inetPton : InetPton) (order : ParseHostsListOrder) (lines : List Bytes) :
    List NameNode :=
  lines.filterMap (lineNode inetPton order)

/-- A hardware address is read to its end. -/
def Readable (order : ParseHostsListOrder) (line : Bytes) : Prop :=
  order = .ifaddr → ∀ tokens, hostsListTokens line = some tokens → 16 ≤ tokens.2.length

def CharCharLine.node : CharCharLine → Option NameNode
  | .pair key val => some (.keyVal key val)
  | _ => none

def charCharNodes (lines : List Bytes) : List NameNode :=
  lines.filterMap fun line => (charCharLine line).node

/-- Nothing but skipped lines comes after a line without a token. -/
def BlankEnds : List Bytes → Prop
  | [] => True
  | line :: rest =>
      if charCharLine line = .blank then ∀ later ∈ rest, charCharLine later = .skipped
      else BlankEnds rest

section Filling

variable {loading : NameLoading} {view : View NameList NameNode} {list : NameList}
  {inetPton : InetPton} {order : ParseHostsListOrder} {line : Bytes} {lines : List Bytes}
  {nodes : List NameNode}

/-- The list was filled with these nodes. -/
def Filled (view : View NameList NameNode) (list : NameList) (nodes : List NameNode)
    (after : NameLoading) : Prop :=
  ∃ added, after.Fills (view.extend list added) list ∧ added.map Prod.snd = nodes

/-- The list has these nodes behind what was found, wherever the pointer is. -/
def Extended (view : View NameList NameNode) (list : NameList) (nodes : List NameNode)
    (lists : NameLists) : Prop :=
  ∃ added, lists.Shows (view.extend list added) ∧ added.map Prod.snd = nodes

theorem filled_nil (fills : loading.Fills view list) : Filled view list [] loading := by
  refine ⟨[], ?_, rfl⟩
  rw [View.extend_nil]
  exact fills

theorem Filled.extended (filled : Filled view list nodes loading) :
    Extended view list nodes loading.lists := by
  obtain ⟨added, fills, same⟩ := filled
  exact ⟨added, fills.shows, same⟩

theorem filled_trans {added : List (Nat × NameNode)} {more : List NameNode}
    (filled : Filled (view.extend list added) list more loading) :
    Filled view list (added.map Prod.snd ++ more) loading := by
  obtain ⟨rest, fills, rfl⟩ := filled
  rw [View.extend_extend] at fills
  exact ⟨added ++ rest, fills, List.map_append⟩

theorem extended_trans {lists : NameLists} {added : List (Nat × NameNode)} {more : List NameNode}
    (extended : Extended (view.extend list added) list more lists) :
    Extended view list (added.map Prod.snd ++ more) lists := by
  obtain ⟨rest, shows, rfl⟩ := extended
  rw [View.extend_extend] at shows
  exact ⟨added ++ rest, shows, List.map_append⟩

theorem append_ends (fills : loading.Fills view list) (node : NameNode) :
    EndsWhen (loading.append node >>= Loading.advance) True (Filled view list [node]) := by
  obtain ⟨after, address, ran, filled⟩ := fills.append node
  rw [ran]
  exact .ok trivial ⟨[(address, node)], filled, rfl⟩

theorem addAddress_ends (fills : loading.Fills view list) (sound : view.found list ≠ .dangling)
    (tok1 tok2 : Bytes) :
    EndsWhen (addAddress inetPton tok1 tok2 loading)
      True
      (Filled view list ((safeParseAddress inetPton tok2 noAddress).map fun address =>
        NameNode.assoc tok1 tok2 (.netAddress address)).toList) := by
  unfold addAddress
  cases safeParseAddress inetPton tok2 noAddress with
  | some address => exact append_ends fills _
  | none =>
      obtain ⟨after, ran, filled⟩ :=
        fills.append_drop sound (.assoc tok1 tok2 (.netAddress noAddress))
      dsimp only
      rw [ran]
      exact .ok trivial (filled_nil filled)

/-- Only the lists of addresses take a node back. -/
def Sound (order : ParseHostsListOrder) (found : Found NameNode) : Prop :=
  order = .host ∨ order = .network → found ≠ .dangling

theorem Sound.extend (sound : Sound order (view.found list)) (added : List (Nat × NameNode)) :
    Sound order ((view.extend list added).found list) := by
  rw [View.extend_found_self]
  intro isAddress
  exact Found.extend_ne_dangling (sound isAddress) added

theorem macAtoi_ends (numberA : Bytes) :
    EndsWhen (macAtoi numberA) (16 ≤ numberA.length)
      (fun number => number = macNumber numberA) where
  ends := fun long => ⟨_, if_neg (Nat.not_lt_of_le long), rfl⟩
  fails := fun short => ⟨_, if_pos (Nat.lt_of_not_le short)⟩

theorem addEntry_ends (fills : loading.Fills view list) (sound : Sound order (view.found list))
    (tok1 tok2 : Bytes) :
    EndsWhen (addEntry inetPton order tok1 tok2 loading)
      (order = .ifaddr → 16 ≤ tok2.length)
      (Filled view list (entryNode inetPton order tok1 tok2).toList) := by
  cases order with
  | host => exact (addAddress_ends fills (sound (.inl rfl)) tok1 tok2).congr (by simp)
  | network => exact (addAddress_ends fills (sound (.inr rfl)) tok1 tok2).congr (by simp)
  | engine => exact (append_ends fills _).congr (by simp)
  | domains => exact (append_ends fills _).congr (by simp)
  | ifaddr =>
      refine ((macAtoi_ends tok2).bind_always ?_).congr (by simp)
      rintro _ rfl
      exact append_ends fills _

theorem parseHostsListLine_ends (fills : loading.Fills view list)
    (sound : Sound order (view.found list)) (line : Bytes) :
    EndsWhen (parseHostsListLine inetPton order loading line) (Readable order line)
      (Filled view list (lineNode inetPton order line).toList) := by
  unfold parseHostsListLine lineNode Readable
  cases hostsListTokens line with
  | none => exact .ok (by simp) (filled_nil fills)
  | some tokens => exact (addEntry_ends fills sound tokens.1 tokens.2).congr (by simp)

theorem hostsNodes_cons (line : Bytes) (lines : List Bytes) :
    hostsNodes inetPton order (line :: lines) =
      (lineNode inetPton order line).toList ++ hostsNodes inetPton order lines := by
  unfold hostsNodes
  cases known : lineNode inetPton order line with
  | none => rw [List.filterMap_cons_none known]; rfl
  | some node => rw [List.filterMap_cons_some known]; rfl

/-- A text that is too short is read behind its end, wherever it stands in the file. -/
theorem parseHostsListLines_end (fills : loading.Fills view list)
    (sound : Sound order (view.found list)) (lines : List Bytes) :
    EndsWhen (lines.foldlM (parseHostsListLine inetPton order) loading)
      (∀ line ∈ lines, Readable order line)
      (Filled view list (hostsNodes inetPton order lines)) := by
  induction lines generalizing loading view with
  | nil => exact .ok (by simp) (filled_nil fills)
  | cons line lines ih =>
      rw [List.foldlM_cons, hostsNodes_cons]
      refine ((parseHostsListLine_ends fills sound line).bind ?_).congr List.forall_mem_cons
      rintro next ⟨added, filled, nodes⟩
      refine (ih filled (sound.extend added)).mono ?_
      intro after rest
      rw [← nodes]
      exact filled_trans rest

/-! Lines of keys and values -/

theorem parseCharCharLine_skipped (skipped : charCharLine line = .skipped) :
    parseCharCharLine loading line = .ok loading := by
  unfold parseCharCharLine
  rw [skipped]

theorem parseCharCharLine_blank (fills : loading.Fills view list)
    (sound : view.found list ≠ .dangling) (blank : charCharLine line = .blank) :
    parseCharCharLine loading line = .ok { loading with iter := .next none } := by
  unfold parseCharCharLine
  rw [blank]
  cases known : view.found list with
  | dangling => contradiction
  | cells nodes =>
      exact Loading.advance_eq (Loading.follow_end fills.shows known fills.atEnd)

/-- The pointer behind a line without a token belongs to no node. -/
theorem parseCharCharLine_wild (wild : loading.iter = .next none)
    (used : charCharLine line ≠ .skipped) :
    parseCharCharLine loading line = .error .nullPointer := by
  unfold parseCharCharLine
  cases known : charCharLine line with
  | skipped => contradiction
  | blank =>
      dsimp only
      unfold Loading.advance
      rw [wild]
      rfl
  | pair key val =>
      dsimp only
      unfold Loading.append
      rw [wild]
      rfl

theorem parseCharCharLines_wild (wild : loading.iter = .next none) (lines : List Bytes) :
    EndsWhen (lines.foldlM parseCharCharLine loading) (∀ line ∈ lines, charCharLine line = .skipped)
      (fun after => after = loading) := by
  induction lines with
  | nil => exact .ok (by simp) rfl
  | cons line lines ih =>
      have first : EndsWhen (parseCharCharLine loading line) (charCharLine line = .skipped)
          (fun after => after = loading) :=
        ⟨fun skipped => ⟨_, parseCharCharLine_skipped skipped, rfl⟩,
          fun used => ⟨_, parseCharCharLine_wild wild used⟩⟩
      rw [List.foldlM_cons]
      refine (first.bind ?_).congr List.forall_mem_cons
      rintro _ rfl
      exact ih

theorem charCharNodes_skipped (skipped : ∀ line ∈ lines, charCharLine line = .skipped) :
    charCharNodes lines = [] := by
  apply List.filterMap_eq_nil_iff.mpr
  intro line member
  rw [skipped line member]
  rfl

theorem charCharNodes_cons (line : Bytes) (lines : List Bytes) :
    charCharNodes (line :: lines) = (charCharLine line).node.toList ++ charCharNodes lines := by
  unfold charCharNodes
  cases kind : charCharLine line with
  | skipped | blank =>
      rw [List.filterMap_cons_none]
      · rfl
      · rw [kind]
        rfl
  | pair key val =>
      rw [List.filterMap_cons_some]
      · rfl
      · rw [kind]
        rfl

theorem parseCharCharLines_end (fills : loading.Fills view list)
    (sound : view.found list ≠ .dangling) (lines : List Bytes) :
    EndsWhen (lines.foldlM parseCharCharLine loading) (BlankEnds lines)
      (fun after => Extended view list (charCharNodes lines) after.lists) := by
  induction lines generalizing loading view with
  | nil => exact .ok trivial (filled_nil fills).extended
  | cons line lines ih =>
      rw [List.foldlM_cons, charCharNodes_cons]
      cases kind : charCharLine line with
      | skipped =>
          rw [parseCharCharLine_skipped kind, ok_bind]
          exact (ih fills sound).congr (by simp [BlankEnds, kind])
      | blank =>
          rw [parseCharCharLine_blank fills sound kind, ok_bind]
          have wild := parseCharCharLines_wild
            (show ({ loading with iter := .next none } : NameLoading).iter = _ from rfl) lines
          refine ⟨fun ends => ?_, fun goesOn => wild.fails ?_⟩
          · rw [BlankEnds, if_pos kind] at ends
            obtain ⟨_, ran, rfl⟩ := wild.ends ends
            rw [charCharNodes_skipped ends]
            exact ⟨_, ran, (filled_nil fills).extended⟩
          · rwa [BlankEnds, if_pos kind] at goesOn
      | pair key val =>
          have step : parseCharCharLine loading line =
              loading.append (.keyVal key val) >>= Loading.advance := by
            unfold parseCharCharLine
            rw [kind]
          have same : BlankEnds (line :: lines) ↔ BlankEnds lines := by simp [BlankEnds, kind]
          rw [step, same]
          refine (append_ends fills (.keyVal key val)).always_bind ?_
          rintro next ⟨added, filled, nodes⟩
          have soundNext : (view.extend list added).found list ≠ .dangling := by
            rw [View.extend_found_self]
            exact Found.extend_ne_dangling sound added
          refine (ih filled soundNext).mono ?_
          intro after rest
          have same : (CharCharLine.pair key val).node.toList = added.map Prod.snd := nodes.symm
          rw [same]
          exact extended_trans rest

end Filling

end F2k
