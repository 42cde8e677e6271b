namespace F2k.Lib

/-! Programs that write to a buffer, behind what is there or over it. They are trees of what they
do, so that they can be run on more than one kind of buffer. -/

inductive Writing (ε β α : Type)
  | result (value : α)
  | fails (failure : ε)
  | endless
  | append (text : List β) (next : Writing ε β α)
  | length (next : Nat → Writing ε β α)
  | written (next : List β → Writing ε β α)
  | cut (kept : Nat) (next : Writing ε β α)

namespace Writing

variable {ε β α γ : Type}

def andThen : Writing ε β α → (α → Writing ε β γ) → Writing ε β γ
  | .result value, then_ => then_ value
  | .fails failure, _ => .fails failure
  | .endless, _ => .endless
  | .append text next, then_ => .append text (next.andThen then_)
  | .length next, then_ => .length fun written => (next written).andThen then_
  | .written next, then_ => .written fun text => (next text).andThen then_
  | .cut kept next, then_ => .cut kept (next.andThen then_)

/-- On a list there is always room. -/
def run : Writing ε β α → List β → Option (Except ε (α × List β))
  | .result value, line => some (.ok (value, line))
  | .fails failure, _ => some (.error failure)
  | .endless, _ => none
  | .append text next, line => next.run (line ++ text)
  | .length next, line => (next line.length).run line
  | .written next, line => (next line).run line
  | .cut kept next, line => next.run (line.take kept)

theorem run_andThen (first : Writing ε β α) (then_ : α → Writing ε β γ) {line after : List β}
    {value : α} (ran : first.run line = some (.ok (value, after))) :
    (first.andThen then_).run line = (then_ value).run after := by
  induction first generalizing line with
  | result =>
      cases ran
      rfl
  | fails => cases ran
  | endless => cases ran
  | append text next ih => exact ih ran
  | length next ih => exact ih _ ran
  | written next ih => exact ih _ ran
  | cut kept next ih => exact ih ran

theorem run_appends (pieces : List (List β)) (next : Writing ε β α) (line : List β) :
    (pieces.foldr append next).run line = next.run (line ++ pieces.flatten) := by
  induction pieces generalizing line with
  | nil => rw [List.flatten_nil, List.append_nil, List.foldr_nil]
  | cons piece rest ih =>
      rw [List.foldr_cons, run, ih, List.flatten_cons, List.append_assoc]

end Writing

/-- A program with loops of any number of turns: what it does as long as no loop gets past a
number of turns, and then it is endless. -/
def Program (ε β α : Type) := Nat → Writing ε β α

namespace Program

instance : Monad (Program ε β) where
  pure value := fun _ => .result value
  bind program next := fun turns => (program turns).andThen fun value => next value turns

/-- With enough turns this is the value, and the line that is left. -/
def Ends (program : Program ε β α) (before : List β) (value : α) (after : List β) : Prop :=
  ∃ turns, ∀ more, (program (turns + more)).run before = some (.ok (value, after))

/-- The program has no loop, or none that takes a turn. -/
def Runs (program : Program ε β α) (before : List β) (value : α) (after : List β) : Prop :=
  ∀ turns, (program turns).run before = some (.ok (value, after))

section

variable {ε β α γ : Type} {program : Program ε β α} {next : α → Program ε β γ}
variable {before middle after : List β} {value : α} {last : γ}

theorem Runs.ends (runs : program.Runs before value after) : program.Ends before value after :=
  ⟨0, fun _ => runs _⟩

theorem runs_pure (value : α) (line : List β) :
    (pure value : Program ε β α).Runs line value line :=
  fun _ => rfl

theorem Runs.bind (first : program.Runs before value middle)
    (second : (next value).Runs middle last after) : (program >>= next).Runs before last after :=
  fun turns => (Writing.run_andThen _ _ (first turns)).trans (second turns)

theorem Ends.unique {otherValue : α} {otherAfter : List β}
    (ends : program.Ends before value after)
    (other : program.Ends before otherValue otherAfter) :
    value = otherValue ∧ after = otherAfter := by
  obtain ⟨turns, runs⟩ := ends
  obtain ⟨otherTurns, otherRuns⟩ := other
  have same := runs otherTurns
  rw [Nat.add_comm, otherRuns turns] at same
  have pairs := Except.ok.inj (Option.some.inj same)
  exact ⟨(congrArg Prod.fst pairs).symm, (congrArg Prod.snd pairs).symm⟩

theorem Ends.bind (first : program.Ends before value middle)
    (second : (next value).Ends middle last after) : (program >>= next).Ends before last after := by
  obtain ⟨turns, runs⟩ := first
  obtain ⟨otherTurns, otherRuns⟩ := second
  refine ⟨turns + otherTurns, ?_⟩
  intro more
  have ran := runs (otherTurns + more)
  have ranNext := otherRuns (turns + more)
  rw [← Nat.add_assoc] at ran
  rw [← Nat.add_assoc, Nat.add_comm otherTurns] at ranNext
  exact (Writing.run_andThen _ _ ran).trans ranNext

end

/-! Programs that write behind what has been written. -/

/-- Whatever has been written before, the program ends with this text behind it. -/
def Appends (program : Program ε β α) (text : List β) (value : α) : Prop :=
  ∀ line, program.Ends line value (line ++ text)

section

variable {ε α β γ ι : Type} {program : Program ε β α} {next : α → Program ε β γ}
variable {text more : List β} {value : α} {last : γ}

theorem appends_pure (value : α) : (pure value : Program ε β α).Appends [] value := by
  intro line
  rw [List.append_nil]
  exact (runs_pure value line).ends

theorem Appends.bind (first : program.Appends text value)
    (second : (next value).Appends more last) : (program >>= next).Appends (text ++ more) last := by
  intro line
  rw [← List.append_assoc]
  exact (first line).bind (second _)

theorem Appends.bind_eq {whole : List β} (first : program.Appends text value)
    (second : (next value).Appends more last) (same : text ++ more = whole) :
    (program >>= next).Appends whole last := by
  rw [← same]
  exact first.bind second

theorem Appends.bind_pure (first : program.Appends text value) (convert : α → γ) :
    (program >>= fun value => pure (convert value)).Appends text (convert value) :=
  first.bind_eq (appends_pure (convert value)) (List.append_nil text)

theorem Appends.forM {body : ι → Program ε β PUnit} {texts : ι → List β}
    (appends : ∀ index, (body index).Appends (texts index) ⟨⟩) (indices : List ι) :
    (indices.forM body).Appends (indices.flatMap texts) ⟨⟩ := by
  induction indices with
  | nil => exact appends_pure PUnit.unit
  | cons first rest ih => exact (appends first).bind ih

end

end Program

end F2k.Lib
