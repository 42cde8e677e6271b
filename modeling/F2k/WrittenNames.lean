import F2k.CidrTexts
import F2k.NamesRead
import F2k.NameReload
import F2k.Texts

namespace F2k

open Lib

/-! Files of names as they are written, and what is read from them. -/

/-- A text that is taken for one token. -/
structure IsToken (text : Bytes) : Prop where
  some : text ≠ []
  clean : ∀ byte ∈ text, byte ≠ 0 ∧ byte ≠ 9 ∧ byte ≠ 10 ∧ byte ≠ 32

def Blanks (text : Bytes) : Prop :=
  ∀ byte ∈ text, byte = 32 ∨ byte = 9

/-- The name that a line gives to a number, and what the number means. -/
structure NamesEntry (Meaning : Type) where
  name : Bytes
  number : Bytes
  meaning : Meaning

section Files

variable {Meaning : Type}

/-- A line with nothing to say, or with an entry and whatever stands behind it. -/
inductive NamesLine (Means : Bytes → Meaning → Prop) : Bytes → Option (NamesEntry Meaning) → Prop
  | comment (text : Bytes) : NamesLine Means (35 :: text) none
  | blank {text : Bytes} (blanks : Blanks text) : NamesLine Means text none
  | entry {before name between number behind : Bytes} {meaning : Meaning}
      (inFront : Blanks before) (isName : IsToken name)
      (said : before = [] → name.head? ≠ some 35)
      (apart : Blanks between) (someApart : between ≠ [])
      (isNumber : IsToken number) (means : Means number meaning)
      (ended : ∀ byte ∈ behind.head?, byte = 32 ∨ byte = 9) :
      NamesLine Means (before ++ name ++ between ++ number ++ behind)
        (some { name, number, meaning })

/-- Lines that fit into the buffer, with newlines between them. -/
inductive NamesFile (Means : Bytes → Meaning → Prop) : Bytes → List (NamesEntry Meaning) → Prop
  | last {text : Bytes} {entry : Option (NamesEntry Meaning)} (line : NamesLine Means text entry)
      (single : 10 ∉ text) (fits : text.length < 1023) : NamesFile Means text entry.toList
  | line {text content : Bytes} {entry : Option (NamesEntry Meaning)}
      {entries : List (NamesEntry Meaning)} (line : NamesLine Means text entry)
      (single : 10 ∉ text) (fits : text.length < 1023) (rest : NamesFile Means content entries) :
      NamesFile Means (text ++ 10 :: content) (entry.toList ++ entries)

end Files

/-! Lines -/

theorem fgetsAll_line {room : Nat} {read text : Bytes} (single : 10 ∉ text)
    (fits : read.length + text.length < room) (rest : Bytes) :
    fgetsAll room read (text ++ 10 :: rest) = (read ++ text ++ [10]) :: fgetsAll room [] rest := by
  induction text generalizing read with
  | nil =>
      rw [List.nil_append, fgetsAll, if_pos (.inl rfl), List.append_nil]
  | cons byte text ih =>
      obtain ⟨other, single⟩ := not_or.mp (List.mem_cons.not.mp single)
      rw [List.length_cons] at fits
      have goesOn : ¬(byte = 10 ∨ read.length + 1 = room) := by
        rintro (newline | full)
        · exact other newline.symm
        · omega
      rw [List.cons_append, fgetsAll, if_neg goesOn, ih single]
      · rw [List.append_assoc read, List.singleton_append]
      · rw [List.length_append, List.length_singleton]
        omega

theorem fgetsAll_last {room : Nat} {read text : Bytes} (single : 10 ∉ text)
    (fits : read.length + text.length < room) :
    fgetsAll room read text = if read ++ text = [] then [] else [read ++ text] := by
  induction text generalizing read with
  | nil =>
      rw [List.append_nil]
      cases read <;> rfl
  | cons byte text ih =>
      obtain ⟨other, single⟩ := not_or.mp (List.mem_cons.not.mp single)
      rw [List.length_cons] at fits
      have goesOn : ¬(byte = 10 ∨ read.length + 1 = room) := by
        rintro (newline | full)
        · exact other newline.symm
        · omega
      rw [fgetsAll, if_neg goesOn, ih single]
      · rw [List.append_assoc read, List.singleton_append]
      · rw [List.length_append, List.length_singleton]
        omega

/-! Tokens -/

theorem strtok_blank {delimiters text : Bytes} (blank : ∀ byte ∈ text, byte ∈ delimiters) :
    strtok delimiters text = none := by
  unfold strtok
  rw [List.dropWhile_eq_nil_iff.mpr]
  · rfl
  · intro byte member
    exact List.contains_iff_mem.mpr (blank byte member)

theorem strtok_token {delimiters before token behind : Bytes} (some : token ≠ [])
    (inFront : ∀ byte ∈ before, byte ∈ delimiters) (clean : ∀ byte ∈ token, byte ∉ delimiters)
    (ended : ∀ byte ∈ behind.head?, byte ∈ delimiters) :
    strtok delimiters (before ++ token ++ behind) = .some (token, behind.drop 1) := by
  have starts : ∀ byte ∈ (token ++ behind).head?, delimiters.contains byte = false := by
    intro byte first
    obtain ⟨head, tail, rfl⟩ := List.exists_cons_of_ne_nil some
    rw [List.cons_append, List.head?_cons, Option.mem_some_iff] at first
    subst first
    have other := clean head List.mem_cons_self
    simpa using other
  obtain ⟨_, skipped⟩ := @takeWhile_until (fun byte => delimiters.contains byte) before
    (token ++ behind) (fun byte member => List.contains_iff_mem.mpr (inFront byte member)) starts
  obtain ⟨taken, left⟩ := @takeWhile_until (fun byte => !delimiters.contains byte) token behind
    (by simpa using clean) (by simpa using ended)
  unfold strtok
  rw [List.append_assoc, skipped]
  simp only [taken, left]

section Tokens

variable {Meaning : Type} {Means : Bytes → Meaning → Prop} {text : Bytes}
  {entry : Option (NamesEntry Meaning)}

theorem Blanks.mem (blanks : Blanks text) : ∀ byte ∈ text, byte ∈ ([32, 9, 10] : Bytes) := by
  intro byte member
  rcases blanks byte member with rfl | rfl <;> decide

theorem IsToken.not_mem (token : IsToken text) :
    ∀ byte ∈ text, byte ∉ ([32, 9, 10] : Bytes) := by
  intro byte member delimiter
  obtain ⟨_, tab, newline, space⟩ := token.clean byte member
  simp [space, tab, newline] at delimiter

theorem IsToken.cString_eq (token : IsToken text) : cString text = text := by
  unfold cString
  apply List.takeWhile_eq_self_iff.mpr
  intro byte member
  exact bne_iff_ne.mpr (token.clean byte member).1

theorem Blanks.clean (blanks : Blanks text) : ∀ byte ∈ text, byte ≠ 0 := by
  rintro byte member rfl
  rcases blanks 0 member with zero | zero <;> cases zero

/-- The newline belongs to every line but the last. -/
theorem hostsListTokens_eq (line : NamesLine Means text entry) {newline : Bytes}
    (isNewline : newline = [] ∨ newline = [10]) :
    hostsListTokens (text ++ newline) = entry.map fun entry => (entry.name, entry.number) := by
  unfold hostsListTokens
  cases line with
  | comment text => exact if_pos (.inl rfl)
  | blank blanks =>
      have delimiters : ∀ byte ∈ cString (text ++ newline), byte ∈ ([32, 9, 10] : Bytes) := by
        intro byte member
        rcases List.mem_append.mp (mem_of_mem_cString member) with inside | isEnd
        · exact blanks.mem byte inside
        · rcases isNewline with rfl | rfl
          · cases isEnd
          · rw [List.mem_singleton.mp isEnd]
            decide
      rw [strtok_blank delimiters]
      exact ite_self _
  | @entry before name between number behind meaning inFront isName said apart someApart isNumber
      means ended =>
      have spoken : ¬((before ++ name ++ between ++ number ++ behind ++ newline).head? = some 35 ∨
          (before ++ name ++ between ++ number ++ behind ++ newline).head? = some 10) := by
        cases before with
        | nil =>
            obtain ⟨head, tail, rfl⟩ := List.exists_cons_of_ne_nil isName.some
            have first := said rfl
            obtain ⟨_, _, other, _⟩ := isName.clean head List.mem_cons_self
            simpa [other] using first
        | cons blank before =>
            rcases inFront blank List.mem_cons_self with rfl | rfl <;> simp
      have ends : ∀ byte ∈ (cString (behind ++ newline)).head?, byte ∈ ([32, 9, 10] : Bytes) := by
        intro byte first
        have first := cString_head first
        cases behind with
        | nil =>
            rcases isNewline with rfl | rfl
            · cases first
            · cases first
              decide
        | cons blank behind =>
            rcases ended byte first with rfl | rfl <;> decide
      have whole : cString (before ++ name ++ between ++ number ++ behind ++ newline) =
          before ++ name ++ (between ++ number ++ cString (behind ++ newline)) := by
        have clean : ∀ byte ∈ before ++ name ++ between ++ number, byte ≠ 0 := by
          intro byte member
          simp only [List.mem_append] at member
          rcases member with ((member | member) | member) | member
          · exact inFront.clean byte member
          · exact (isName.clean byte member).1
          · exact apart.clean byte member
          · exact (isNumber.clean byte member).1
        rw [List.append_assoc (before ++ name ++ between ++ number), cString_append clean]
        simp only [List.append_assoc]
      obtain ⟨blank, rest, rfl⟩ := List.exists_cons_of_ne_nil someApart
      have second := strtok_token isNumber.some (fun byte member =>
        apart.mem byte (List.mem_cons_of_mem blank member)) isNumber.not_mem ends
      rw [if_neg spoken, whole, strtok_token isName.some inFront.mem isName.not_mem]
      · rw [Option.bind_some]
        simp only [List.cons_append, List.drop_one, List.tail_cons]
        rw [second]
        rfl
      · intro byte first
        rw [List.append_assoc, List.cons_append, List.head?_cons, Option.mem_some_iff] at first
        subst first
        exact apart.mem blank List.mem_cons_self

end Tokens

/-! Entries -/

section Entries

variable {Meaning : Type} {Means : Bytes → Meaning → Prop} {inetPton : InetPton}
  {order : ParseHostsListOrder} {node : NamesEntry Meaning → NameNode} {content : Bytes}
  {entries : List (NamesEntry Meaning)}

theorem filterMap_cons_toList {Line Entry : Type} (read : Line → Option Entry) (line : Line)
    (lines : List Line) :
    (line :: lines).filterMap read = (read line).toList ++ lines.filterMap read := by
  rw [List.filterMap_cons]
  cases read line <;> rfl

/-- A file of names is read as the entries it was written with. -/
theorem NamesFile.tokens (file : NamesFile Means content entries) :
    (readLines content).filterMap hostsListTokens =
      entries.map fun entry => (entry.name, entry.number) := by
  induction file with
  | @last text entry line single fits =>
      have known := hostsListTokens_eq line (.inl rfl)
      rw [List.append_nil] at known
      have lines := @fgetsAll_last 1023 [] text single (by simpa using fits)
      rw [readLines, lines, List.nil_append]
      split
      · next empty =>
          subst empty
          cases entry with
          | none => rfl
          | some entry => cases known
      · rw [filterMap_cons_toList, known]
        cases entry <;> rfl
  | @line text content entry entries line single fits rest ih =>
      rw [readLines] at ih ⊢
      rw [fgetsAll_line single (by simpa using fits), List.nil_append, filterMap_cons_toList,
        hostsListTokens_eq line (.inr rfl), ih, List.map_append]
      cases entry <;> rfl

theorem NamesLine.means {text : Bytes} {entry : NamesEntry Meaning}
    (line : NamesLine Means text (some entry)) :
    IsToken entry.name ∧ IsToken entry.number ∧ Means entry.number entry.meaning := by
  cases line with
  | entry _ isName _ _ _ isNumber means _ => exact ⟨isName, isNumber, means⟩

theorem NamesFile.means (file : NamesFile Means content entries) :
    ∀ entry ∈ entries,
      IsToken entry.name ∧ IsToken entry.number ∧ Means entry.number entry.meaning := by
  induction file with
  | last line =>
      intro entry member
      obtain rfl := Option.mem_toList.mp member
      exact line.means
  | line line _ _ _ ih =>
      intro entry member
      rcases List.mem_append.mp member with first | later
      · obtain rfl := Option.mem_toList.mp first
        exact line.means
      · exact ih entry later

/-- Every entry becomes this node. -/
def Becomes (inetPton : InetPton) (order : ParseHostsListOrder) (Means : Bytes → Meaning → Prop)
    (node : NamesEntry Meaning → NameNode) : Prop :=
  ∀ entry : NamesEntry Meaning, IsToken entry.number → Means entry.number entry.meaning →
    entryNode inetPton order entry.name entry.number = some (node entry)

theorem NamesFile.nodes (file : NamesFile Means content entries)
    (becomes : Becomes inetPton order Means node) :
    hostsNodes inetPton order (readLines content) = entries.map node := by
  have through : hostsNodes inetPton order (readLines content) =
      ((readLines content).filterMap hostsListTokens).filterMap fun tokens =>
        entryNode inetPton order tokens.1 tokens.2 :=
    List.filterMap_filterMap.symm
  rw [through, file.tokens, List.filterMap_map, ← List.filterMap_eq_map]
  apply List.filterMap_congr
  intro entry member
  obtain ⟨_, token, means⟩ := file.means entry member
  exact becomes entry token means

end Entries

/-! Numbers -/

def lowerCase (byte : UInt8) : UInt8 :=
  if 65 ≤ byte ∧ byte ≤ 90 then byte + 32 else byte

/-- A hardware address in capital or small letters. -/
structure MacNumber (number mac : Bytes) : Prop where
  length : mac.length = 6
  text : number.map lowerCase = macText mac

structure EngineNumber (number : Bytes) (id : UInt32) : Prop where
  digits : IsDigits number
  value : decimalValue number = id.toNat

structure AppNumber (number : Bytes) (id : UInt64) : Prop where
  digits : IsDigits number
  value : decimalValue number = id.toNat
  small : id.toNat < 2 ^ 31

/-- A network without host bits. -/
structure NetworkNumber (inetPton : InetPton) (number : Bytes) (address : NetAddress) : Prop where
  cidr : CidrText inetPton number address
  fits : number.length < 50
  base : address.network &&& address.networkMask = address.network

/-! Hardware addresses -/

theorem macDigit_hexDigit (value : Fin 16) : ∀ byte : UInt8,
    lowerCase byte = hexDigit (.ofNat value) → (macDigit byte).toNat = value := by
  revert value
  have every : ∀ byte : UInt8, ∀ value : Fin 16,
      lowerCase byte = hexDigit (.ofNat value) → (macDigit byte).toNat = value :=
    forall_byte (by decide +kernel)
  exact fun value byte => every byte value

theorem n16_eq : ∀ value : UInt8,
    n16 value = [hexDigit (.ofNat (value.toNat / 16)), hexDigit (.ofNat (value.toNat % 16))] :=
  forall_byte (by decide +kernel)

theorem shiftLeft_digit {digit : UInt64} {places : Nat} (small : digit.toNat < 16)
    (few : places < 12) :
    (digit <<< UInt64.ofNat (4 * places)).toNat = digit.toNat * 16 ^ places := by
  have power : (2 : Nat) ^ (4 * places) = 16 ^ places := Nat.pow_mul 2 4 places
  have room : 16 ^ places ≤ 16 ^ 11 := Nat.pow_le_pow_right (by decide) (by omega)
  have bound := Nat.mul_le_mul (Nat.le_of_lt_succ small) room
  rw [UInt64.toNat_shiftLeft, UInt64.toNat_ofNat',
    Nat.mod_eq_of_lt (by omega : 4 * places < 2 ^ 64),
    Nat.mod_eq_of_lt (by omega : 4 * places < 64), Nat.shiftLeft_eq, power]
  exact Nat.mod_eq_of_lt (by omega)

/-- The digits stand behind those that were read before, and none of them is lost. -/
theorem macDigits_foldl {text : Bytes} {positions : List Nat} {start front : Nat}
    {number : UInt64}
    (digits : ∀ position ∈ positions, (macDigit (text.getD position 0)).toNat < 16)
    (last : start + positions.length = 12)
    (read : number.toNat = front * 16 ^ positions.length) :
    ((positions.zipIdx start).foldl
        (fun number position =>
          number ||| macDigit (text.getD position.1 0) <<< UInt64.ofNat (4 * (11 - position.2)))
        number).toNat =
      positions.foldl
        (fun number position => number * 16 + (macDigit (text.getD position 0)).toNat) front := by
  induction positions generalizing start front number with
  | nil => simpa using read
  | cons position positions ih =>
      obtain ⟨digit, digits⟩ := List.forall_mem_cons.mp digits
      rw [List.length_cons] at last read
      rw [List.zipIdx_cons, List.foldl_cons, List.foldl_cons]
      apply ih digits (by omega)
      have places : 11 - start = positions.length := by omega
      have below : (macDigit (text.getD position 0)).toNat * 16 ^ positions.length <
          2 ^ (4 * (positions.length + 1)) := by
        rw [Nat.pow_mul, Nat.pow_succ, Nat.mul_comm (_ ^ _)]
        exact Nat.mul_lt_mul_of_pos_right digit (Nat.pow_pos (by decide))
      have joined := Nat.shiftLeft_add_eq_or_of_lt below front
      rw [Nat.shiftLeft_eq, Nat.pow_mul] at joined
      rw [places, UInt64.toNat_or, shiftLeft_digit digit (by omega), read, ← joined, Nat.pow_succ]
      ring

theorem length_macText {mac : Bytes} (length : mac.length = 6) : (macText mac).length = 17 := by
  match mac, length with
  | [_, _, _, _, _, _], _ => rfl

theorem MacNumber.digit {number mac : Bytes} (isMac : MacNumber number mac) {position : Nat}
    {value : Fin 16} (stands : (macText mac)[position]? = some (hexDigit (.ofNat value))) :
    (macDigit (number.getD position 0)).toNat = value := by
  rw [← isMac.text, List.getElem?_map, Option.map_eq_some_iff] at stands
  obtain ⟨byte, found, isDigit⟩ := stands
  rw [List.getD_eq_getElem?_getD, found]
  exact macDigit_hexDigit value byte isDigit

def highDigit (octet : UInt8) : Fin 16 :=
  ⟨octet.toNat / 16, Nat.div_lt_of_lt_mul octet.toNat_lt⟩

def lowDigit (octet : UInt8) : Fin 16 :=
  ⟨octet.toNat % 16, Nat.mod_lt _ (by decide)⟩

/-- An address is read as the number that its octets are. -/
theorem MacNumber.macNumber_eq {number mac : Bytes} (isMac : MacNumber number mac) :
    macNumber number = net2number mac := by
  have length := isMac.length
  apply UInt64.toNat_inj.mp
  rw [net2number_toNat ⟨6, by decide, by rw [length]⟩]
  obtain ⟨a, b, c, d, e, f, rfl⟩ : ∃ a b c d e f, mac = [a, b, c, d, e, f] := by
    match mac, length with
    | [a, b, c, d, e, f], _ => exact ⟨a, b, c, d, e, f, rfl⟩
  have octets : macText [a, b, c, d, e, f] =
      n16 a ++ 58 :: (n16 b ++ 58 :: (n16 c ++ 58 :: (n16 d ++ 58 :: (n16 e ++ 58 :: n16 f)))) :=
    rfl
  simp only [n16_eq] at octets
  have digits : macpos.map (fun position => (macDigit (number.getD position 0)).toNat) =
      [a, b, c, d, e, f].flatMap fun octet => [octet.toNat / 16, octet.toNat % 16] := by
    have stands : ∀ {position : Nat} (value : Fin 16),
        (macText [a, b, c, d, e, f])[position]? = some (hexDigit (.ofNat value)) →
          (macDigit (number.getD position 0)).toNat = value :=
      fun _ found => isMac.digit found
    rw [octets] at stands
    unfold macpos
    simp only [List.map_cons, List.map_nil]
    rw [stands (highDigit a) rfl, stands (lowDigit a) rfl, stands (highDigit b) rfl,
      stands (lowDigit b) rfl, stands (highDigit c) rfl, stands (lowDigit c) rfl,
      stands (highDigit d) rfl, stands (lowDigit d) rfl, stands (highDigit e) rfl,
      stands (lowDigit e) rfl, stands (highDigit f) rfl, stands (lowDigit f) rfl]
    rfl
  have small : ∀ position ∈ macpos, (macDigit (number.getD position 0)).toNat < 16 := by
    intro position member
    have listed : (macDigit (number.getD position 0)).toNat ∈ macpos.map fun position =>
        (macDigit (number.getD position 0)).toNat := List.mem_map_of_mem member
    rw [digits] at listed
    obtain ⟨octet, _, isDigit⟩ := List.mem_flatMap.mp listed
    have octet_lt := octet.toNat_lt
    simp only [List.mem_cons, List.not_mem_nil, or_false] at isDigit
    omega
  have read := @macDigits_foldl number macpos 0 0 0 small rfl rfl
  unfold macNumber
  rw [read, ← @List.foldl_map _ _ _ (fun position => (macDigit (number.getD position 0)).toNat)
    (fun number digit => number * 16 + digit), digits]
  simp only [beNat, List.flatMap_cons, List.flatMap_nil, List.cons_append, List.nil_append,
    List.foldl_cons, List.foldl_nil]
  omega

/-! Decimal numbers -/

theorem strtol_digits {digits : Bytes} (plain : IsDigits digits) :
    strtol digits = (max (-2 ^ 63) (min (2 ^ 63 - 1) (decimalValue digits : Int)), []) := by
  have whole := IsDigits.takeWhile plain
  have nothing : digits.dropWhile isDigit = [] := by
    apply List.dropWhile_eq_nil_iff.mpr
    intro byte member
    exact (isDigit_iff byte).mpr (plain.2 byte member)
  cases digits with
  | nil => exact absurd rfl plain.1
  | cons first rest =>
      obtain ⟨notBlank, notMinus, notPlus⟩ := IsDigit.bare (plain.2 first List.mem_cons_self)
      unfold strtol
      rw [List.dropWhile_cons_of_neg (by simp [notBlank])]
      simp [notMinus, notPlus, whole, nothing, decimalValue]

theorem strtol_small {digits : Bytes} (plain : IsDigits digits)
    (small : decimalValue digits < 2 ^ 63) : strtol digits = ((decimalValue digits : Int), []) := by
  rw [strtol_digits plain]
  congr 1
  omega

theorem EngineNumber.atoi_eq {number : Bytes} {id : UInt32} (isEngine : EngineNumber number id) :
    atoi number = id := by
  have small := id.toNat_lt
  unfold atoi
  rw [strtol_small isEngine.digits (by rw [isEngine.value]; omega), isEngine.value]
  exact UInt32.ofNat_toNat

theorem AppNumber.parseAppId_eq {number : Bytes} {id : UInt64} (isApp : AppNumber number id) :
    parseAppId number = some id := by
  have small := isApp.small
  unfold parseAppId
  rw [strtol_small isApp.digits (by rw [isApp.value]; omega), isApp.value]
  dsimp only
  rw [if_neg (by simp)]
  exact congrArg some UInt64.ofNat_toNat

/-! Networks -/

theorem CidrText.accepted {inetPton : InetPton} {text : Bytes} {address : NetAddress}
    (cidr : CidrText inetPton text address) (before : NetAddress) :
    parseAddress inetPton text before = some address := by
  cases cidr with
  | address whole given => exact parseAddress_alone whole given
  | network whole given decimal inside =>
      have width := given.width_eq
      obtain ⟨number, scanned, same⟩ := sscanfInt_small decimal (by omega)
      refine (parseAddress_slash whole given).mpr ⟨number, scanned, by omega, by omega, ?_⟩
      congr 2
      omega

theorem NetworkNumber.safeParseAddress_eq {inetPton : InetPton} {number : Bytes}
    {address : NetAddress} (isNetwork : NetworkNumber inetPton number address)
    (token : IsToken number) (before : NetAddress) :
    safeParseAddress inetPton number before = some address := by
  have fits := isNetwork.fits
  unfold safeParseAddress
  rw [token.cString_eq, List.take_of_length_le (by omega)]
  exact isNetwork.cidr.accepted before

/-! What entries become -/

def engineNode (entry : NamesEntry UInt32) : NameNode :=
  .assoc entry.name entry.number (.number entry.meaning)

def macNode (entry : NamesEntry Bytes) : NameNode :=
  .macAddr entry.name entry.number (net2number entry.meaning)

def networkNode (entry : NamesEntry NetAddress) : NameNode :=
  .assoc entry.name entry.number (.netAddress entry.meaning)

theorem becomes_engine (inetPton : InetPton) :
    Becomes inetPton .engine EngineNumber engineNode := by
  intro entry _ means
  rw [entryNode, EngineNumber.atoi_eq means]
  rfl

theorem becomes_mac (inetPton : InetPton) : Becomes inetPton .ifaddr MacNumber macNode := by
  intro entry _ means
  rw [entryNode, MacNumber.macNumber_eq means]
  rfl

/-- Hardware addresses are read to their ends. -/
theorem NamesFile.readable {content : Bytes} {entries : List (NamesEntry Bytes)}
    (file : NamesFile MacNumber content entries) :
    ∀ line ∈ readLines content, Readable .ifaddr line := by
  intro line member _ tokens isEntry
  have listed : tokens ∈ (readLines content).filterMap hostsListTokens :=
    List.mem_filterMap.mpr ⟨line, member, isEntry⟩
  rw [file.tokens] at listed
  obtain ⟨entry, inFile, rfl⟩ := List.mem_map.mp listed
  obtain ⟨_, _, means⟩ := file.means entry inFile
  have same := congrArg List.length means.text
  rw [List.length_map, length_macText means.length] at same
  dsimp only
  omega

theorem becomes_network (inetPton : InetPton) :
    Becomes inetPton .network (NetworkNumber inetPton) networkNode := by
  intro entry token means
  rw [entryNode, NetworkNumber.safeParseAddress_eq means token]
  rfl

end F2k
