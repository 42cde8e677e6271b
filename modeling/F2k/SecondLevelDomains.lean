import F2k.HttpDomains
import F2k.LongFlow

namespace F2k

open Lib

/-! Which part of a host or referer is printed as its second-level domain. -/

def schemes : List Bytes := [ascii "http://", ascii "https://"]

/-- The host of a text: what is left without the schemes in front and the path behind it. -/
inductive HostOf : Bytes → Bytes → Prop
  | whole {host : Bytes} (plain : 47 ∉ host) : HostOf host host
  | scheme {scheme rest host : Bytes} (known : scheme ∈ schemes) (more : HostOf rest host) :
      HostOf (scheme ++ rest) host
  | path {host path : Bytes} (plain : 47 ∉ host)
      (noScheme : ∀ scheme ∈ schemes, ¬scheme <+: host ++ 47 :: path) :
      HostOf (host ++ 47 :: path) host

/-- Labels with single dots between them, and maybe one in front of all and one behind. -/
structure IsDomain (host : Bytes) (labels : List Bytes) : Prop where
  several : 2 ≤ labels.length
  plain : ∀ label ∈ labels, label ≠ [] ∧ 46 ∉ label
  text : ∃ lead ∈ [[], [46]], ∃ trail ∈ [[], [46]],
    host = lead ++ List.intercalate [46] labels ++ trail

def lastTwo (labels : List Bytes) : Bytes :=
  List.intercalate [46] (labels.drop (labels.length - 2))

/-- The call ends without a read beyond the end, and appends this part of the host. -/
def AppendsDomain (globals : ReadOnlyGlobals) (buffer hostname part after : Bytes)
    (returned : Nat) : Prop :=
  ∃ calls place, httpL2DomainAt globals hostname calls 0 hostname.length = .ok (some place) ∧
    part = (hostname.drop place.start).take place.length ∧
      AppendsEscaped buffer part after returned

/-- A part of the host is appended in its escaped form; of a domain, its last two labels. -/
def PrintsDomain (globals : ReadOnlyGlobals) (hostname : Bytes) : Prop :=
  ∃ host part, HostOf hostname host ∧ part <:+: host ∧
    (∀ buffer, ∃ after returned, AppendsDomain globals buffer hostname part after returned ∧
      after = buffer ++ appendEscaped part) ∧
    (bufferIsIp globals host = false → ∀ labels, IsDomain host labels →
      part = lastTwo labels ∧ part.count 46 = 1 ∧ part.head? ≠ some 46 ∧ part.getLast? ≠ some 46)

/-- An end of the host that has at most one dot, and none in front. -/
structure DomainEnd (host text : Bytes) : Prop where
  suffix : text <:+ host
  dots : text.count 46 ≤ 1
  front : text.head? ≠ some 46

/-- The host is an IP address, or no end of it with at most one dot has 2^32 bytes or more and it
is no domain with a dot behind it. -/
def PlainEnd (globals : ReadOnlyGlobals) (hostname : Bytes) : Prop :=
  ∀ host, HostOf hostname host → bufferIsIp globals host = false →
    (∀ text, DomainEnd host text → text.length < 2 ^ 32) ∧
      ∀ labels, IsDomain host labels → host.getLast? ≠ some 46

/-! The host -/

section

variable {globals : ReadOnlyGlobals} {hostname host other : Bytes}

theorem schemes_slash : ∀ scheme ∈ schemes, 47 ∈ scheme := by
  unfold schemes
  simp only [List.forall_mem_cons]
  decide

theorem schemes_plain (plain : 47 ∉ hostname) : ∀ scheme ∈ schemes, ¬scheme <+: hostname := by
  intro scheme known starts
  exact plain (starts.subset (schemes_slash scheme known))

theorem nextHost_plain (plain : 47 ∉ hostname) : nextHost hostname = none := by
  have none' := schemes_plain plain
  unfold nextHost
  rw [if_neg (none' _ (by simp [schemes])), if_neg (none' _ (by simp [schemes])), if_neg plain]

theorem nextHost_scheme {scheme rest : Bytes} (known : scheme ∈ schemes) :
    nextHost (scheme ++ rest) = some rest := by
  unfold schemes at known
  simp only [List.mem_cons, List.not_mem_nil, or_false] at known
  unfold nextHost
  rcases known with rfl | rfl
  · rw [if_pos (List.prefix_append _ _), List.drop_left]
  · have other : ¬ascii "http://" <+: ascii "https://" ++ rest := by
      intro starts
      have short : ascii "http://" <+: ascii "https://" :=
        List.prefix_of_prefix_length_le starts (List.prefix_append _ _) (by decide)
      exact absurd short (by decide)
    rw [if_neg other, if_pos (List.prefix_append _ _), List.drop_left]

theorem nextHost_path {path : Bytes} (plain : 47 ∉ host)
    (noScheme : ∀ scheme ∈ schemes, ¬scheme <+: host ++ 47 :: path) :
    nextHost (host ++ 47 :: path) = some host := by
  unfold nextHost
  rw [if_neg (noScheme _ (by simp [schemes])), if_neg (noScheme _ (by simp [schemes])),
    if_pos (List.mem_append_right _ List.mem_cons_self), takeWhile_noSlash plain]

/-- The function calls itself with what has the same host. -/
theorem hostOf_iff :
    HostOf hostname host ↔
      (nextHost hostname = none ∧ host = hostname) ∨
        ∃ next, nextHost hostname = some next ∧ HostOf next host := by
  constructor
  · intro hosts
    cases hosts with
    | whole plain => exact .inl ⟨nextHost_plain plain, rfl⟩
    | scheme known more => exact .inr ⟨_, nextHost_scheme known, more⟩
    | path plain noScheme => exact .inr ⟨_, nextHost_path plain noScheme, .whole plain⟩
  · intro calls
    rcases Classical.em (∃ scheme ∈ schemes, scheme <+: hostname) with starts | noScheme
    · obtain ⟨scheme, known, rest, rfl⟩ := starts
      rw [nextHost_scheme known] at calls
      rcases calls with ⟨none', _⟩ | ⟨next, same, more⟩
      · cases none'
      · rw [← Option.some.inj same] at more
        exact .scheme known more
    · have noScheme : ∀ scheme ∈ schemes, ¬scheme <+: hostname :=
        fun scheme known starts => noScheme ⟨scheme, known, starts⟩
      rcases Classical.em (47 ∈ hostname) with slash | plain
      · obtain ⟨front, path, rfl, plain⟩ := List.eq_append_cons_of_mem slash
        rw [nextHost_path plain noScheme] at calls
        rcases calls with ⟨none', _⟩ | ⟨next, same, more⟩
        · cases none'
        · obtain rfl := Option.some.inj same
          cases more with
          | whole => exact .path plain noScheme
          | scheme known =>
              exact absurd (List.mem_append_left _ (schemes_slash _ known)) plain
          | path => exact absurd (List.mem_append_right _ List.mem_cons_self) plain
      · rw [nextHost_plain plain] at calls
        rcases calls with ⟨_, rfl⟩ | ⟨next, same, _⟩
        · exact .whole plain
        · cases same

theorem exists_hostOf (globals : ReadOnlyGlobals) {turns : Nat} (enough : hostname.length < turns) :
    ∃ host, HostOf hostname host ∧ (∀ other, HostOf hostname other → other = host) ∧
      httpL2DomainFrom globals turns hostname =
        if bufferIsIp globals host then host else l2Host host := by
  induction turns generalizing hostname with
  | zero => contradiction
  | succ turns ih =>
      rw [httpL2DomainFrom_succ]
      cases known : nextHost hostname with
      | none =>
          refine ⟨hostname, hostOf_iff.mpr (.inl ⟨known, rfl⟩), ?_, rfl⟩
          intro other hosts
          rcases hostOf_iff.mp hosts with ⟨_, same⟩ | ⟨next, same, _⟩
          · exact same
          · cases known.symm.trans same
      | some next =>
          have shorter := nextHost_shorter known
          obtain ⟨host, hosts, unique, same⟩ := ih (show next.length < turns by omega)
          refine ⟨host, hostOf_iff.mpr (.inr ⟨next, known, hosts⟩), ?_, same⟩
          intro other hosts
          rcases hostOf_iff.mp hosts with ⟨none', _⟩ | ⟨next', same, more⟩
          · cases known.symm.trans none'
          · obtain rfl := Option.some.inj (known.symm.trans same)
            exact unique other more

end

/-! The end of a host -/

section

variable {host front second last text : Bytes}

/-- Nothing, or a text that ends with a dot. -/
def EndsWithDot (text : Bytes) : Prop :=
  text = [] ∨ ∃ before, text = before ++ [46]

theorem EndsWithDot.suffix (dotted : EndsWithDot front) (suffix : text <:+ front) :
    EndsWithDot text := by
  rcases List.eq_nil_or_concat text with rfl | ⟨before, byte, rfl⟩
  · exact .inl rfl
  · rcases dotted with rfl | ⟨whole, rfl⟩
    · exact absurd (List.suffix_nil.mp suffix) (by simp)
    · rcases List.suffix_concat_iff.mp suffix with none' | ⟨init, same, _⟩
      · exact absurd none' (by simp)
      · exact .inr ⟨init, same⟩

theorem dropDots_plain (plain : 46 ∉ text) :
    (text.dropWhile fun byte => byte = 46) = text := by
  cases text with
  | nil => rfl
  | cons first rest =>
      have other := List.ne_of_not_mem_cons plain
      rw [List.dropWhile_cons_of_neg]
      simpa using other.symm

theorem dropDots_labels (plainSecond : 46 ∉ second) (plain : 46 ∉ last) :
    ((second ++ 46 :: last).dropWhile fun byte => byte = 46) =
      if second = [] then last else second ++ 46 :: last := by
  cases second with
  | nil =>
      rw [List.nil_append, List.dropWhile_cons_of_pos (by simp), dropDots_plain plain]
      rfl
  | cons first rest =>
      have other := List.ne_of_not_mem_cons plainSecond
      rw [if_neg (List.cons_ne_nil _ _), List.cons_append, List.dropWhile_cons_of_neg]
      simpa using other.symm

theorem l2Host_labels (dotted : EndsWithDot front) (plainSecond : 46 ∉ second)
    (plain : 46 ∉ last) :
    l2Host (front ++ (second ++ 46 :: last)) =
      if second = [] then last else second ++ 46 :: last := by
  rw [← dropDots_labels plainSecond plain]
  rcases dotted with rfl | ⟨before, rfl⟩
  · exact l2Host_oneDot plainSecond plain
  · rw [List.append_assoc]
    have same := @l2Host_dots before second last plainSecond plain
    rw [List.dropWhile_cons_of_pos (by simp)] at same
    exact same

theorem exists_labels (dot : 46 ∈ host) :
    ∃ front second last, host = front ++ (second ++ 46 :: last) ∧ EndsWithDot front ∧
      46 ∉ second ∧ 46 ∉ last := by
  obtain ⟨front, last, rfl, plain⟩ := exists_last_of_mem dot
  rcases Classical.em (46 ∈ front) with another | none'
  · obtain ⟨front, second, rfl, plainSecond⟩ := exists_last_of_mem another
    exact ⟨front ++ [46], second, last, by simp, .inr ⟨front, rfl⟩, plainSecond, plain⟩
  · exact ⟨[], front, last, rfl, .inl rfl, none', plain⟩

theorem head_ne_dot (plain : 46 ∉ text) : text.head? ≠ some 46 := by
  intro first
  exact plain (List.mem_of_head? first)

theorem l2Host_end (host : Bytes) : DomainEnd host (l2Host host) := by
  rcases Classical.em (46 ∈ host) with dot | none'
  · obtain ⟨front, second, last, rfl, dotted, plainSecond, plain⟩ := exists_labels dot
    rw [l2Host_labels dotted plainSecond plain]
    split
    · next empty =>
        subst empty
        exact
          { suffix := (List.suffix_cons 46 last).trans (List.suffix_append _ _)
            dots := by simp [List.count_eq_zero.mpr plain]
            front := head_ne_dot plain }
    · next some =>
        refine { suffix := List.suffix_append _ _, dots := ?_, front := ?_ }
        · rw [List.count_append, List.count_cons_self, List.count_eq_zero.mpr plainSecond,
            List.count_eq_zero.mpr plain]
        · rw [List.head?_append_of_ne_nil second some]
          exact head_ne_dot plainSecond
  · rw [l2Host_noDot none', dropDots_plain none']
    exact
      { suffix := List.suffix_refl host
        dots := by simp [List.count_eq_zero.mpr none']
        front := head_ne_dot none' }

theorem suffix_cases {tail : Bytes} (suffix : text <:+ front ++ tail) :
    text <:+ tail ∨ ∃ extra, extra ≠ [] ∧ extra <:+ front ∧ text = extra ++ tail := by
  rcases List.suffix_or_suffix_of_suffix suffix (List.suffix_append front tail) with
    inTail | ⟨extra, rfl⟩
  · exact .inl inTail
  · rcases Classical.em (extra = []) with rfl | some
    · exact .inl (List.suffix_refl tail)
    · exact .inr ⟨extra, some, List.suffix_append_self_iff.mp suffix, rfl⟩

/-- A longer end has a dot more, or one in front. -/
theorem DomainEnd.length_le (ends : DomainEnd host text) :
    text.length ≤ (l2Host host).length := by
  obtain ⟨suffix, dots, first⟩ := ends
  rcases Classical.em (46 ∈ host) with dot | none'
  · obtain ⟨front, second, last, rfl, dotted, plainSecond, plain⟩ := exists_labels dot
    rw [l2Host_labels dotted plainSecond plain]
    rcases suffix_cases suffix with inTail | ⟨extra, some, inFront, rfl⟩
    · split
      · next empty =>
          subst empty
          rcases List.suffix_cons_iff.mp inTail with rfl | inLast
          · exact absurd rfl first
          · exact inLast.length_le
      · exact inTail.length_le
    · rcases dotted.suffix inFront with rfl | ⟨before, rfl⟩
      · exact absurd rfl some
      · simp only [List.count_append, List.count_cons_self, List.count_nil] at dots
        omega
  · rw [l2Host_noDot none', dropDots_plain none']
    exact suffix.length_le

/-! The labels of a domain -/

theorem exists_two {labels : List Bytes} (several : 2 ≤ labels.length) :
    ∃ before second last, labels = before ++ [second, last] := by
  rcases List.eq_nil_or_concat labels with rfl | ⟨init, last, rfl⟩
  · contradiction
  · rcases List.eq_nil_or_concat init with rfl | ⟨before, second, rfl⟩
    · contradiction
    · exact ⟨before, second, last, by simp⟩

theorem lastTwo_eq (before : List Bytes) (second last : Bytes) :
    lastTwo (before ++ [second, last]) = second ++ 46 :: last := by
  unfold lastTwo
  rw [List.length_append, List.length_cons, List.length_singleton, Nat.add_sub_cancel,
    List.drop_left, List.intercalate_cons_cons, List.intercalate_singleton, List.append_assoc]
  rfl

theorem intercalate_two (before : List Bytes) (second last : Bytes) :
    ∃ front, EndsWithDot front ∧
      List.intercalate [46] (before ++ [second, last]) = front ++ (second ++ 46 :: last) := by
  induction before with
  | nil => exact ⟨[], .inl rfl, by simp⟩
  | cons label before ih =>
      obtain ⟨front, dotted, same⟩ := ih
      refine ⟨label ++ [46] ++ front, ?_, ?_⟩
      · rcases dotted with rfl | ⟨rest, rfl⟩
        · exact .inr ⟨label, List.append_nil _⟩
        · exact .inr ⟨label ++ [46] ++ rest, (List.append_assoc _ _ _).symm⟩
      · rw [List.cons_append, List.intercalate_cons_of_ne_nil (by simp), same]
        simp

theorem IsDomain.l2Host {labels : List Bytes} (domain : IsDomain host labels)
    (noTrail : host.getLast? ≠ some 46) :
    l2Host host = lastTwo labels ∧ (lastTwo labels).count 46 = 1 ∧
      (lastTwo labels).head? ≠ some 46 ∧ (lastTwo labels).getLast? ≠ some 46 := by
  obtain ⟨several, labelsPlain, lead, lead', trail, trail', rfl⟩ := domain
  obtain ⟨before, second, last, rfl⟩ := exists_two several
  obtain ⟨someSecond, plainSecond⟩ := labelsPlain second (by simp)
  obtain ⟨someLast, plain⟩ := labelsPlain last (by simp)
  have noTrail : trail = [] := by
    simp only [List.mem_cons, List.not_mem_nil, or_false] at trail'
    rcases trail' with rfl | rfl
    · rfl
    · exact absurd List.getLast?_concat noTrail
  obtain ⟨front, dotted, same⟩ := intercalate_two before second last
  have dotted : EndsWithDot (lead ++ front) := by
    simp only [List.mem_cons, List.not_mem_nil, or_false] at lead'
    rcases lead' with rfl | rfl
    · exact dotted
    · rcases dotted with rfl | ⟨rest, rfl⟩
      · exact .inr ⟨[], rfl⟩
      · exact .inr ⟨46 :: rest, rfl⟩
  rw [noTrail, List.append_nil, same, ← List.append_assoc, l2Host_labels dotted plainSecond plain,
    if_neg someSecond, lastTwo_eq]
  refine ⟨rfl, ?_, ?_, ?_⟩
  · rw [List.count_append, List.count_cons_self, List.count_eq_zero.mpr plainSecond,
      List.count_eq_zero.mpr plain]
  · rw [List.head?_append_of_ne_nil second someSecond]
    exact head_ne_dot plainSecond
  · intro dot
    rw [List.getLast?_append_of_ne_nil _ (List.cons_ne_nil _ _), List.getLast?_cons_of_ne_nil someLast]
      at dot
    exact plain (List.mem_of_getLast? dot)

end

/-! Every call -/

section

variable {globals : ReadOnlyGlobals} {hostname buffer part after : Bytes} {returned : Nat}

theorem httpL2DomainAt_more {string : Bytes} {calls index size : Nat} {place : PrintedPart}
    (ran : httpL2DomainAt globals string calls index size = .ok (some place)) (more : Nat) :
    httpL2DomainAt globals string (calls + more) index size = .ok (some place) := by
  induction calls generalizing index size with
  | zero => cases ran
  | succ calls ih =>
      rw [Nat.succ_add]
      rw [httpL2DomainAt] at ran ⊢
      cases called : nextCall string index size with
      | error _ =>
          rw [called] at ran
          cases ran
      | ok next =>
          rw [called, ok_bind] at ran
          rw [ok_bind]
          cases next with
          | none => exact ran
          | some next => exact ih ran

/-- What is appended is the host when it is an IP address, and its last two labels otherwise. -/
theorem exists_printedPart (globals : ReadOnlyGlobals) (hostname : Bytes) :
    ∃ host, HostOf hostname host ∧ (∀ other, HostOf hostname other → other = host) ∧
      ∀ buffer part after returned,
        AppendsDomain globals buffer hostname part after returned ↔
          part = (if bufferIsIp globals host then host else l2Host host) ∧
            AppendsEscaped buffer part after returned := by
  obtain ⟨host, hosts, unique, same⟩ := exists_hostOf globals (Nat.lt_succ_self hostname.length)
  obtain ⟨place, ran, has, length⟩ :=
    httpL2DomainAt_eq globals (HasAt.whole hostname) (Nat.lt_succ_self hostname.length)
  rw [same] at has length
  refine ⟨host, hosts, unique, ?_⟩
  intro buffer part after returned
  constructor
  · intro appends
    obtain ⟨calls, other, ran', rfl, appended⟩ := appends
    have more := httpL2DomainAt_more ran calls
    rw [Nat.add_comm, httpL2DomainAt_more ran' _] at more
    obtain rfl := Option.some.inj (Except.ok.inj more)
    rw [length, has.part] at appended ⊢
    exact ⟨rfl, appended⟩
  · intro appends
    obtain ⟨rfl, appended⟩ := appends
    exact ⟨_, place, ran, by rw [length, has.part], appended⟩

theorem bufferIsIp.short {host : Bytes} (isIp : bufferIsIp globals host = true) :
    host.length < 2 ^ 32 := by
  unfold bufferIsIp at isIp
  rw [Bool.and_eq_true, decide_eq_true_iff] at isIp
  exact Nat.lt_of_le_of_lt isIp.1 (by decide)

theorem printsDomain_iff (globals : ReadOnlyGlobals) (hostname : Bytes) :
    PrintsDomain globals hostname ↔ PlainEnd globals hostname := by
  obtain ⟨host, hosts, unique, appends_iff⟩ := exists_printedPart globals hostname
  constructor
  · intro prints other hosts' notIp
    obtain rfl := unique other hosts'
    obtain ⟨host, part, hosts', inside, appends, domain⟩ := prints
    obtain rfl := unique host hosts'
    obtain ⟨after, returned, appended, _⟩ := appends []
    obtain ⟨rfl, appended⟩ := (appends_iff [] part after returned).mp appended
    rw [notIp, if_neg Bool.false_ne_true] at appended domain
    constructor
    · intro text ends
      exact Nat.lt_of_le_of_lt ends.length_le appended.isShort
    · intro labels isDomain dot
      obtain ⟨_, dots, _, notBehind⟩ := domain rfl labels isDomain
      obtain ⟨before, same⟩ := (l2Host_end host).suffix
      have some : l2Host host ≠ [] := by
        intro empty
        rw [empty] at dots
        contradiction
      rw [← same, List.getLast?_append_of_ne_nil before some] at dot
      exact notBehind dot
  · intro plain
    have short : (if bufferIsIp globals host then host else l2Host host).length < 2 ^ 32 := by
      split
      · next isIp => exact bufferIsIp.short isIp
      · next notIp =>
          exact (plain host hosts (by simpa using notIp)).1 _ (l2Host_end host)
    refine ⟨host, if bufferIsIp globals host then host else l2Host host, hosts, ?_, ?_, ?_⟩
    · split
      · exact List.infix_refl host
      · exact (l2Host_end host).suffix.isInfix
    · intro buffer
      exact ⟨_, _, (appends_iff buffer _ _ _).mpr ⟨rfl, appendsEscaped_short short buffer⟩, rfl⟩
    · intro notIp labels isDomain
      have ends := isDomain.l2Host ((plain host hosts notIp).2 labels isDomain)
      rw [notIp, if_neg Bool.false_ne_true, ends.1]
      exact ⟨rfl, ends.2⟩

end

/-- Of `example.com.` it is `com.` that is appended. -/
theorem not_printsDomain :
    ∃ hostname labels, HostOf hostname hostname ∧ IsDomain hostname labels ∧
      bufferIsIp splittingGlobals hostname = false ∧
        ¬PrintsDomain splittingGlobals hostname := by
  have isDomain : IsDomain (ascii "example.com.") [ascii "example", ascii "com"] :=
    { several := by decide, plain := by decide
      text := ⟨[], by simp, [46], by simp, by decide⟩ }
  refine ⟨_, _, .whole (by decide), isDomain, by decide, ?_⟩
  intro prints
  obtain ⟨host, part, hosts, _, appends, domain⟩ := prints
  obtain ⟨printed, hosts', unique, appends_iff⟩ :=
    exists_printedPart splittingGlobals (ascii "example.com.")
  obtain rfl := unique _ hosts
  obtain rfl := unique (ascii "example.com.") (.whole (by decide))
  obtain ⟨after, returned, appended, _⟩ := appends []
  obtain ⟨rfl, _⟩ := (appends_iff [] part after returned).mp appended
  have last := (domain (by decide) _ isDomain).2.2.2
  revert last
  decide

end F2k
