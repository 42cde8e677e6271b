import F2k.Escaping
import Mathlib.Data.List.Induction

namespace F2k

open Lib

/-! `print_http_l2_domain` over the bytes of a host: every byte it looks at is looked for within
the size it is given. -/

def memchrAt (string : Bytes) (byte : UInt8) (index : Nat) : Nat → Except BeyondEnd (Option Nat)
  | 0 => .ok none
  | count + 1 => do
      let found ← readByte string index
      if found = byte then .ok (some index) else memchrAt string byte (index + 1) count

def memrchrAt (string : Bytes) (byte : UInt8) (index : Nat) :
    Nat → Except BeyondEnd (Option Nat)
  | 0 => .ok none
  | count + 1 => do
      let found ← readByte string (index + count)
      if found = byte then .ok (some (index + count)) else memrchrAt string byte index count

def memcchrnulAt (string : Bytes) (needle : UInt8) (index : Nat) : Nat → Except BeyondEnd Nat
  | 0 => .ok index
  | count + 1 => do
      let found ← readByte string index
      if found = needle then memcchrnulAt string needle (index + 1) count else .ok index

/-- `strncmp` with the whole of a header, which has no zero byte. -/
def startsAt (string : Bytes) (index : Nat) : Bytes → Except BeyondEnd Bool
  | [] => .ok true
  | byte :: header => do
      let found ← readByte string index
      if found = byte then startsAt string (index + 1) header else .ok false

def bufferIsIpAt (globals : ReadOnlyGlobals) (string : Bytes) (index size : Nat) :
    Except BeyondEnd Bool :=
  if size > (ascii "0000:0000:0000:0000:0000:0000:0000:0000").length then .ok false
  else do
    let tmpBuf ← readBytes string index size
    .ok (globals.inetPton (cString tmpBuf))

def skipHeaders : List Bytes := [ascii "http://", ascii "https://"]

def startsWithHeader (string : Bytes) (index size : Nat) (header : Bytes) :
    Except BeyondEnd Bool :=
  if size ≥ header.length then startsAt string index header else .ok false

/-- The length of the first header that the string starts with. -/
def skippedHeader (string : Bytes) (index size : Nat) :
    List Bytes → Except BeyondEnd (Option Nat)
  | [] => .ok none
  | header :: rest => do
      let starts ← startsWithHeader string index size header
      if starts then .ok (some header.length) else skippedHeader string index size rest

/-- The part of the string that is appended in the end. -/
structure PrintedPart where
  start : Nat
  length : Nat

def l2DotAt (string : Bytes) (index : Nat) : Option Nat → Except BeyondEnd (Option Nat)
  | none => .ok none
  | some l1Dot => memrchrAt string 46 index (l1Dot - index)

def l2HostAt (string : Bytes) (index size : Nat) : Except BeyondEnd PrintedPart := do
  let l1Dot ← memrchrAt string 46 index size
  let l2Dot ← l2DotAt string index l1Dot
  let l2Host := l2Dot.getD index
  let l2Host ← memcchrnulAt string 46 l2Host (size - (l2Host - index))
  .ok { start := l2Host, length := size - (l2Host - index) }

/-- What is left when the function does not call itself with a smaller part. -/
def plainHostAt (globals : ReadOnlyGlobals) (string : Bytes) (index size : Nat) :
    Except BeyondEnd PrintedPart := do
  let isIp ← bufferIsIpAt globals string index size
  if isIp then .ok { start := index, length := size } else l2HostAt string index size

/-- The next call: the start and the size it is given, if there is one. -/
def nextCall (string : Bytes) (index size : Nat) : Except BeyondEnd (Option (Nat × Nat)) := do
  let header ← skippedHeader string index size skipHeaders
  match header with
  | some headerLen => .ok (some (index + headerLen, size - headerLen))
  | none => do
      let slash ← memchrAt string 47 index size
      .ok (slash.map fun slash => (index, slash - index))

/-- So many nested calls; there is no part when they have not come to an end by then. -/
def httpL2DomainAt (globals : ReadOnlyGlobals) (string : Bytes) :
    Nat → Nat → Nat → Except BeyondEnd (Option PrintedPart)
  | 0, _, _ => .ok none
  | calls + 1, index, size => do
      let next ← nextCall string index size
      match next with
      | some (index, size) => httpL2DomainAt globals string calls index size
      | none => do
          let part ← plainHostAt globals string index size
          .ok (some part)

/-! Texts within the string -/

/-- The string has this text at this place. -/
def HasAt (string : Bytes) (index : Nat) (text : Bytes) : Prop :=
  ∃ back, string.drop index = text ++ back

section

variable {string text before : Bytes} {index : Nat} {byte : UInt8}

theorem HasAt.whole (string : Bytes) : HasAt string 0 string :=
  ⟨[], (List.append_nil string).symm⟩

theorem HasAt.front (has : HasAt string index (before ++ text)) : HasAt string index before := by
  obtain ⟨back, same⟩ := has
  exact ⟨text ++ back, by rw [same, List.append_assoc]⟩

theorem HasAt.back (has : HasAt string index (before ++ text)) :
    HasAt string (index + before.length) text := by
  obtain ⟨back, same⟩ := has
  refine ⟨back, ?_⟩
  rw [← List.drop_drop, same, List.append_assoc, List.drop_left]

theorem HasAt.first (has : HasAt string index (byte :: text)) :
    readByte string index = .ok byte := by
  obtain ⟨back, same⟩ := has
  exact readByte_drop same

theorem HasAt.rest (has : HasAt string index (byte :: text)) : HasAt string (index + 1) text :=
  @HasAt.back string text [byte] index has

theorem HasAt.bytes (has : HasAt string index text) :
    readBytes string index text.length = .ok text := by
  obtain ⟨back, same⟩ := has
  rw [readBytes_drop same (by simp), List.take_left]

theorem HasAt.part (has : HasAt string index text) :
    (string.drop index).take text.length = text := by
  obtain ⟨back, same⟩ := has
  rw [same, List.take_left]

theorem memchrAt_none (has : HasAt string index text) (none' : byte ∉ text) :
    memchrAt string byte index text.length = .ok none := by
  induction text generalizing index with
  | nil => rfl
  | cons first rest ih =>
      obtain ⟨other, later⟩ := List.ne_and_not_mem_of_not_mem_cons none'
      rw [List.length_cons, memchrAt, has.first, ok_bind, if_neg (Ne.symm other)]
      exact ih has.rest later

theorem memchrAt_some (has : HasAt string index (before ++ byte :: text)) (first : byte ∉ before) :
    memchrAt string byte index (before ++ byte :: text).length = .ok (some (index + before.length)) := by
  induction before generalizing index with
  | nil =>
      rw [List.nil_append, List.length_cons, memchrAt, HasAt.first has, ok_bind, if_pos rfl]
      rfl
  | cons head before ih =>
      obtain ⟨other, later⟩ := List.ne_and_not_mem_of_not_mem_cons first
      rw [List.cons_append] at has ⊢
      rw [List.length_cons, memchrAt, has.first, ok_bind, if_neg (Ne.symm other),
        ih has.rest later, List.length_cons, Nat.add_right_comm, Nat.add_assoc]

theorem memrchrAt_none (has : HasAt string index text) (none' : byte ∉ text) :
    memrchrAt string byte index text.length = .ok none := by
  induction text using List.reverseRecOn with
  | nil => rfl
  | append_singleton init last ih =>
      have other : last ≠ byte := by
        rintro rfl
        exact none' (List.mem_append_right _ List.mem_cons_self)
      rw [List.length_append, List.length_singleton, memrchrAt, HasAt.first has.back, ok_bind,
        if_neg other]
      exact ih has.front fun member => none' (List.mem_append_left _ member)

theorem memrchrAt_some (has : HasAt string index (before ++ byte :: text)) (last : byte ∉ text) :
    memrchrAt string byte index (before ++ byte :: text).length =
      .ok (some (index + before.length)) := by
  induction text using List.reverseRecOn with
  | nil =>
      rw [List.length_append, List.length_singleton, memrchrAt, HasAt.first has.back, ok_bind,
        if_pos rfl]
  | append_singleton init final ih =>
      have other : final ≠ byte := by
        rintro rfl
        exact last (List.mem_append_right _ List.mem_cons_self)
      have shape : before ++ byte :: (init ++ [final]) = (before ++ byte :: init) ++ [final] := by
        simp
      rw [shape] at has ⊢
      rw [List.length_append, List.length_singleton, memrchrAt, HasAt.first has.back, ok_bind,
        if_neg other]
      exact ih has.front fun member => last (List.mem_append_left _ member)

theorem memcchrnulAt_eq (has : HasAt string index text) (needle : UInt8) :
    memcchrnulAt string needle index text.length =
      .ok (index + (text.takeWhile fun byte => byte = needle).length) := by
  induction text generalizing index with
  | nil => rfl
  | cons first rest ih =>
      rw [List.length_cons, memcchrnulAt, has.first, ok_bind]
      split
      · next same =>
          rw [ih has.rest, List.takeWhile_cons, if_pos (decide_eq_true same), List.length_cons,
            Nat.add_right_comm, Nat.add_assoc]
      · next other =>
          rw [List.takeWhile_cons, if_neg (by simp [other])]
          rfl

theorem exists_last_of_mem (member : byte ∈ text) :
    ∃ front last, text = front ++ byte :: last ∧ byte ∉ last := by
  obtain ⟨after, front, same, notAfter⟩ :=
    List.eq_append_cons_of_mem (List.mem_reverse.mpr member)
  refine ⟨front.reverse, after.reverse, ?_, by rwa [List.mem_reverse]⟩
  rw [← List.reverse_reverse text, same]
  simp

end

/-! The last dots of a host -/

theorem l2Host_noDot {host : Bytes} (none' : 46 ∉ host) :
    l2Host host = host.dropWhile fun byte => byte = 46 := by
  unfold l2Host
  simp [none']

theorem beforeLast_eq {front last : Bytes} (plain : 46 ∉ last) :
    ((front ++ 46 :: last).reverse.dropWhile fun byte => byte ≠ 46).tail.reverse = front := by
  have notDot : ∀ byte ∈ last.reverse, decide (byte ≠ 46) = true := by
    intro byte member
    rw [decide_eq_true_iff]
    rintro rfl
    exact plain (List.mem_reverse.mp member)
  have shape : (front ++ 46 :: last).reverse = last.reverse ++ 46 :: front.reverse := by simp
  rw [shape, List.dropWhile_append_of_pos notDot]
  simp

theorem l2Host_oneDot {second last : Bytes} (plainSecond : 46 ∉ second) (plain : 46 ∉ last) :
    l2Host (second ++ 46 :: last) = (second ++ 46 :: last).dropWhile fun byte => byte = 46 := by
  unfold l2Host
  simp only [beforeLast_eq plain, plainSecond, and_false, if_false]

theorem l2Host_dots {front second last : Bytes} (plainSecond : 46 ∉ second)
    (plain : 46 ∉ last) :
    l2Host (front ++ 46 :: (second ++ 46 :: last)) =
      (46 :: (second ++ 46 :: last)).dropWhile fun byte => byte = 46 := by
  have shape : front ++ 46 :: (second ++ 46 :: last) = (front ++ 46 :: second) ++ 46 :: last := by
    simp
  unfold l2Host
  rw [shape]
  simp only [beforeLast_eq plain, beforeLast_eq plainSecond]
  rw [if_pos (by simp), ← shape, List.drop_left]

section

variable {string before tail host : Bytes} {index : Nat}

theorem l2HostAt_of (has : HasAt string index (before ++ tail)) {l1Dot l2Dot : Option Nat}
    (first : memrchrAt string 46 index (before ++ tail).length = .ok l1Dot)
    (second : l2DotAt string index l1Dot = .ok l2Dot)
    (place : l2Dot.getD index = index + before.length) :
    ∃ part, l2HostAt string index (before ++ tail).length = .ok part ∧
      HasAt string part.start (tail.dropWhile fun byte => byte = 46) ∧
      part.length = (tail.dropWhile fun byte => byte = 46).length := by
  have left : (before ++ tail).length - (index + before.length - index) = tail.length := by
    rw [List.length_append]
    omega
  have parts := List.takeWhile_append_dropWhile (p := fun byte : UInt8 => byte = 46) (l := tail)
  have inTail := has.back
  have skipped := memcchrnulAt_eq inTail 46
  refine ⟨{ start := index + before.length + (tail.takeWhile fun byte => byte = 46).length
            length := (tail.dropWhile fun byte => byte = 46).length }, ?_, ?_, rfl⟩
  · unfold l2HostAt
    rw [first, ok_bind, second, ok_bind]
    simp only [place, left, skipped, ok_bind]
    have rest : (before ++ tail).length - (index + before.length +
        (tail.takeWhile fun byte => byte = 46).length - index) =
          (tail.dropWhile fun byte => byte = 46).length := by
      have lengths := congrArg List.length parts
      rw [List.length_append] at lengths ⊢
      omega
    rw [rest]
  · rw [← parts] at inTail
    exact inTail.back

theorem l2HostAt_eq (has : HasAt string index host) :
    ∃ part, l2HostAt string index host.length = .ok part ∧
      HasAt string part.start (l2Host host) ∧ part.length = (l2Host host).length := by
  rcases Classical.em (46 ∈ host) with dot | none'
  · obtain ⟨front, last, rfl, plain⟩ := exists_last_of_mem dot
    have first := memrchrAt_some has plain
    rcases Classical.em (46 ∈ front) with another | none'
    · obtain ⟨front, second, rfl, plainSecond⟩ := exists_last_of_mem another
      have shape : (front ++ 46 :: second) ++ 46 :: last = front ++ 46 :: (second ++ 46 :: last) := by
        simp
      have second' : l2DotAt string index (some (index + (front ++ 46 :: second).length)) =
          .ok (some (index + front.length)) := by
        rw [l2DotAt, Nat.add_sub_cancel_left]
        exact memrchrAt_some has.front plainSecond
      rw [shape] at has first ⊢
      rw [l2Host_dots plainSecond plain]
      exact l2HostAt_of has first second' rfl
    · have second' : l2DotAt string index (some (index + front.length)) = .ok none := by
        rw [l2DotAt, Nat.add_sub_cancel_left]
        exact memrchrAt_none has.front none'
      rw [l2Host_oneDot none' plain]
      exact @l2HostAt_of string [] _ index has _ _ first second' rfl
  · rw [l2Host_noDot none']
    exact @l2HostAt_of string [] _ index has _ _ (memrchrAt_none has none') rfl rfl

/-! Nested calls -/

theorem startsAt_eq {header : Bytes} (has : HasAt string index host)
    (fits : header.length ≤ host.length) :
    startsAt string index header = .ok (decide (header <+: host)) := by
  induction header generalizing index host with
  | nil => rw [decide_eq_true List.nil_prefix, startsAt]
  | cons byte header ih =>
      cases host with
      | nil => contradiction
      | cons first rest =>
          rw [startsAt, has.first, ok_bind]
          split
          · next same =>
              rw [ih has.rest (Nat.le_of_succ_le_succ fits), same]
              simp only [List.cons_prefix_cons, true_and]
          · next other =>
              rw [decide_eq_false]
              intro starts
              exact other (List.cons_prefix_cons.mp starts).1.symm

theorem skippedHeader_eq (has : HasAt string index host) (headers : List Bytes) :
    skippedHeader string index host.length headers =
      .ok ((headers.find? fun header => decide (header <+: host)).map List.length) := by
  induction headers with
  | nil => rfl
  | cons header rest ih =>
      have starts : startsWithHeader string index host.length header =
          .ok (decide (header <+: host)) := by
        unfold startsWithHeader
        split
        · next fits => exact startsAt_eq has fits
        · next short =>
            rw [decide_eq_false]
            exact fun starts => short starts.length_le
      rw [skippedHeader, starts, ok_bind, List.find?_cons]
      cases decide (header <+: host) with
      | true => rfl
      | false => exact ih

theorem bufferIsIpAt_eq (globals : ReadOnlyGlobals) (has : HasAt string index host) :
    bufferIsIpAt globals string index host.length = .ok (bufferIsIp globals host) := by
  unfold bufferIsIpAt bufferIsIp
  split
  · next long =>
      rw [decide_eq_false (Nat.not_le.mpr long), Bool.false_and]
  · next short =>
      rw [has.bytes, ok_bind, decide_eq_true (Nat.not_lt.mp short), Bool.true_and]

/-- The host that the function calls itself with. -/
def nextHost (host : Bytes) : Option Bytes :=
  if ascii "http://" <+: host then some (host.drop (ascii "http://").length)
  else if ascii "https://" <+: host then some (host.drop (ascii "https://").length)
  else if 47 ∈ host then some (host.takeWhile fun byte => byte ≠ 47)
  else none

theorem httpL2DomainFrom_succ (globals : ReadOnlyGlobals) (turns : Nat) (host : Bytes) :
    httpL2DomainFrom globals (turns + 1) host =
      match nextHost host with
      | some next => httpL2DomainFrom globals turns next
      | none => if bufferIsIp globals host then host else l2Host host := by
  rw [httpL2DomainFrom]
  unfold nextHost
  split
  · rfl
  · split
    · rfl
    · split
      · rfl
      · rfl

theorem takeWhile_noSlash {front back : Bytes} (plain : 47 ∉ front) :
    (front ++ 47 :: back).takeWhile (fun byte => byte ≠ 47) = front := by
  have kept : ∀ byte ∈ front, decide (byte ≠ 47) = true := by
    intro byte member
    rw [decide_eq_true_iff]
    rintro rfl
    exact plain member
  rw [List.takeWhile_append_of_pos kept]
  exact List.append_nil front

theorem nextHost_shorter {next : Bytes} (known : nextHost host = some next) :
    next.length < host.length := by
  have dropped : ∀ {header : Bytes}, header <+: host → 0 < header.length →
      (host.drop header.length).length < host.length := by
    intro header starts some
    have le := starts.length_le
    rw [List.length_drop]
    omega
  unfold nextHost at known
  split at known
  · next starts =>
      rw [← Option.some.inj known]
      exact dropped starts (by decide)
  · split at known
    · next starts =>
        rw [← Option.some.inj known]
        exact dropped starts (by decide)
    · split at known
      · next slash =>
          obtain ⟨front, back, rfl, plain⟩ := List.eq_append_cons_of_mem slash
          rw [← Option.some.inj known, takeWhile_noSlash plain, List.length_append]
          exact Nat.lt_add_of_pos_right (Nat.succ_pos _)
      · cases known

theorem HasAt.drop {header : Bytes} (has : HasAt string index host) (starts : header <+: host) :
    HasAt string (index + header.length) (host.drop header.length) := by
  obtain ⟨rest, rfl⟩ := starts
  rw [List.drop_left]
  exact has.back

theorem nextCall_eq (has : HasAt string index host) :
    (nextHost host = none ∧ nextCall string index host.length = .ok none) ∨
      ∃ next start, nextHost host = some next ∧ HasAt string start next ∧
        nextCall string index host.length = .ok (some (start, next.length)) := by
  have header := skippedHeader_eq has skipHeaders
  unfold nextHost nextCall
  rw [header, ok_bind]
  unfold skipHeaders
  rw [List.find?_cons, List.find?_cons, List.find?_nil]
  split
  · next starts =>
      refine .inr ⟨_, _, rfl, has.drop starts, ?_⟩
      rw [decide_eq_true starts, List.length_drop]
      rfl
  · next notHttp =>
      rw [decide_eq_false notHttp]
      split
      · next starts =>
          refine .inr ⟨_, _, rfl, has.drop starts, ?_⟩
          rw [decide_eq_true starts, List.length_drop]
          rfl
      · next notHttps =>
          rw [decide_eq_false notHttps]
          simp only [Option.map_none]
          split
          · next slash =>
              obtain ⟨front, back, rfl, plain⟩ := List.eq_append_cons_of_mem slash
              refine .inr ⟨_, index, rfl, ?_, ?_⟩
              · rw [takeWhile_noSlash plain]
                exact has.front
              · rw [takeWhile_noSlash plain, memchrAt_some has plain, ok_bind, Option.map_some,
                  Nat.add_sub_cancel_left]
          · next noSlash =>
              refine .inl ⟨rfl, ?_⟩
              rw [memchrAt_none has noSlash]
              rfl

/-- More calls than bytes are enough, and all of them stay within the string. -/
theorem httpL2DomainAt_eq (globals : ReadOnlyGlobals) (has : HasAt string index host)
    {calls : Nat} (enough : host.length < calls) :
    ∃ part, httpL2DomainAt globals string calls index host.length = .ok (some part) ∧
      HasAt string part.start (httpL2DomainFrom globals calls host) ∧
        part.length = (httpL2DomainFrom globals calls host).length := by
  induction calls generalizing index host with
  | zero => contradiction
  | succ calls ih =>
      rw [httpL2DomainFrom_succ, httpL2DomainAt]
      rcases nextCall_eq has with ⟨none', called⟩ | ⟨next, start, known, inside, called⟩
      · rw [none', called, ok_bind]
        dsimp only
        unfold plainHostAt
        rw [bufferIsIpAt_eq globals has, ok_bind]
        split
        · exact ⟨_, rfl, has, rfl⟩
        · obtain ⟨part, ran, inside, length⟩ := l2HostAt_eq has
          rw [ran]
          exact ⟨part, rfl, inside, length⟩
      · have shorter := nextHost_shorter known
        rw [known, called, ok_bind]
        exact ih inside (by omega)

end

end F2k
