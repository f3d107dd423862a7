namespace ScriptAudit

/-! How a computation ends: with a result of one kind or with a problem of another. -/

variable {ε ε' α β : Type}

def Ends (result : α → Prop) (problem : ε → Prop) : Except ε α → Prop
  | .ok value => result value
  | .error found => problem found

namespace Ends

variable {result : α → Prop} {problem : ε → Prop} {outcome : Except ε α}

theorem imp {result' : α → Prop} {problem' : ε → Prop} (ends : Ends result problem outcome)
    (results : ∀ value, result value → result' value)
    (problems : ∀ found, problem found → problem' found) : Ends result' problem' outcome := by
  cases outcome with
  | ok value => exact results value ends
  | error found => exact problems found ends

theorem bind {later : β → Prop} {next : α → Except ε β} (ends : Ends result problem outcome)
    (follows : ∀ value, result value → Ends later problem (next value)) :
    Ends later problem (outcome >>= next) := by
  cases outcome with
  | ok value => exact follows value ends
  | error found => exact ends

theorem map {later : β → Prop} {f : α → β}
    (ends : Ends (fun value => later (f value)) problem outcome) :
    Ends later problem (f <$> outcome) := by
  cases outcome <;> exact ends

theorem mapError {worse : ε' → Prop} {f : ε → ε'}
    (ends : Ends result (fun found => worse (f found)) outcome) :
    Ends result worse (outcome.mapError f) := by
  cases outcome <;> exact ends

/-- A fold ends with a value that has the invariant, or with a problem of one of its steps. -/
theorem foldlM {step : β → α → Except ε β} {items : List α} {start : β} (invariant : β → Prop)
    (holds : invariant start)
    (steps : ∀ value, invariant value → ∀ item ∈ items,
      Ends invariant problem (step value item)) :
    Ends invariant problem (items.foldlM step start) := by
  induction items generalizing start with
  | nil => exact holds
  | cons item items ih =>
      rw [List.foldlM_cons]
      refine (steps start holds item List.mem_cons_self).bind fun value made => ?_
      exact ih made fun value holds item member =>
        steps value holds item (List.mem_cons_of_mem _ member)

end Ends

/-- A chain has a result when each of its two parts has one. -/
theorem bind_eq_ok {outcome : Except ε α} {next : α → Except ε β} {result : β}
    (ended : outcome >>= next = .ok result) :
    ∃ value, outcome = .ok value ∧ next value = .ok result := by
  cases outcome with
  | ok value => exact ⟨value, rfl, ended⟩
  | error found => cases ended

theorem mapError_eq_error {f : ε → ε'} {outcome : Except ε α} {problem : ε'}
    (failed : outcome.mapError f = .error problem) :
    ∃ found, outcome = .error found ∧ problem = f found := by
  cases outcome with
  | ok value => cases failed
  | error found =>
      cases failed
      exact ⟨found, rfl, rfl⟩

/-- A chain fails where the first of its two parts fails, or the second one after the first. -/
theorem bind_eq_error {outcome : Except ε α} {next : α → Except ε β} {problem : ε}
    (ended : outcome >>= next = .error problem) :
    outcome = .error problem ∨ ∃ value, outcome = .ok value ∧ next value = .error problem := by
  cases outcome with
  | ok value => exact .inr ⟨value, rfl, ended⟩
  | error found =>
      cases ended
      exact .inl rfl

end ScriptAudit
