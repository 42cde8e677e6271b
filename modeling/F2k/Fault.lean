namespace F2k

/-! What can stop the program while it works on a packet: a Rust panic or assertion, a
null pointer, or a loop that never ends. -/

inductive Loop
  | templates
  | options
  | records
  | intervals
deriving DecidableEq, Repr

inductive Fault
  /-- `apply_netmask`: "Trying to apply a v6 netmask to an v4 address". -/
  | netmaskFamily
  /-- `interface_new` asserts that name and description are not null. -/
  | nullInterfaceText
  /-- `strlen` of a template element without a name. -/
  | nullElementName
  /-- An observation id function asserts that its pointer is not null. -/
  | nullObservationId
  /-- A loop that takes its turn without end. -/
  | endlessLoop (loop : Loop)
deriving DecidableEq, Repr

abbrev Run := Except Fault

@[simp] theorem Run.pure_eq_ok (value : α) : (pure value : Run α) = .ok value := rfl

@[simp] theorem Run.ok_bind (value : α) (next : α → Run β) :
    (Except.ok value : Run α) >>= next = next value := rfl

@[simp] theorem Run.error_bind (fault : Fault) (next : α → Run β) :
    (Except.error fault : Run α) >>= next = .error fault := rfl

theorem Run.bind_eq_ok {run : Run α} {next : α → Run β} {result : β} :
    run >>= next = .ok result ↔ ∃ value, run = .ok value ∧ next value = .ok result := by
  cases run with
  | error fault => simp
  | ok value => simp

end F2k
