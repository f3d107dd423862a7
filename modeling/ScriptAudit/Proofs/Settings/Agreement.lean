import ScriptAudit.Fault.Problem
import ScriptAudit.Settings.Build

namespace ScriptAudit.Settings

/-! Settings that come from two places.

What a configuration says does not depend on where its settings come from.  Only its mode and its
path do, and the places that faults point at. -/

/-- Two outcomes that agree: results that match, or problems of one cause.  Where faults point is
left open. -/
inductive Agree {α : Type} (same : α → α → Prop) : Except Problem α → Except Problem α → Prop where
  | ok {first second : α} (matching : same first second) : Agree same (.ok first) (.ok second)
  | fault (cause : Fault.Cause) (extent extent' : Option Source.Extent) :
      Agree same (.error (.fault ⟨cause, extent⟩)) (.error (.fault ⟨cause, extent'⟩))
  | problem (found : Problem) : Agree same (.error found) (.error found)

namespace Agree

variable {α β : Type} {same : α → α → Prop} {later : β → β → Prop}

theorem bind {first second : Except Problem α} {next next' : α → Except Problem β}
    (agree : Agree same first second)
    (follows : ∀ value value', same value value' → Agree later (next value) (next' value')) :
    Agree later (first >>= next) (second >>= next') := by
  cases agree with
  | ok matching => exact follows _ _ matching
  | fault cause extent extent' => exact .fault cause extent extent'
  | problem found => exact .problem found

theorem ofFault (cause : Fault.Cause) (extent extent' : Option Source.Extent) :
    Agree same (.error (.ofFault ⟨cause, extent⟩)) (.error (.ofFault ⟨cause, extent'⟩)) := by
  unfold Problem.ofFault
  split
  · exact .fault cause extent extent'
  · exact .problem .integerNotShown

theorem foldlM {step step' : β → α → Except Problem β} (items : List α)
    (steps : ∀ item ∈ items, ∀ value value', later value value' →
      Agree later (step value item) (step' value' item))
    {start start' : β} (matching : later start start') :
    Agree later (items.foldlM step start) (items.foldlM step' start') := by
  induction items generalizing start start' with
  | nil => exact .ok matching
  | cons item items ih =>
      rw [List.foldlM_cons, List.foldlM_cons]
      obtain ⟨first, others⟩ := List.forall_mem_cons.mp steps
      exact (first start start' matching).bind fun _ _ => ih others

theorem mapM {step step' : α → Except Problem β} (items : List α)
    (steps : ∀ item ∈ items, Agree (· = ·) (step item) (step' item)) :
    Agree (· = ·) (items.mapM step) (items.mapM step') := by
  induction items with
  | nil => exact .ok rfl
  | cons item items ih =>
      rw [List.mapM_cons, List.mapM_cons]
      obtain ⟨first, others⟩ := List.forall_mem_cons.mp steps
      refine first.bind ?_
      rintro result _ rfl
      refine (ih others).bind ?_
      rintro results _ rfl
      exact .ok rfl

end Agree

section
variable (locations locations' : Locations) (key : String) (value : Value)

theorem textsOf_agree : Agree (· = ·) ((textsOf locations key value).mapError .ofFault)
    ((textsOf locations' key value).mapError .ofFault) := by
  unfold textsOf
  cases textItems? value with
  | some texts => exact .ok rfl
  | none => exact .ofFault _ _ _

theorem boolOf_agree : Agree (· = ·) ((boolOf locations key value).mapError .ofFault)
    ((boolOf locations' key value).mapError .ofFault) := by
  unfold boolOf
  split
  · exact .ok rfl
  · exact .ofFault _ _ _

theorem argumentsOf_agree (rule : Value) :
    Agree (· = ·) (argumentsOf locations rule value) (argumentsOf locations' rule value) := by
  unfold argumentsOf
  split
  · exact .ok rfl
  · next pairs =>
      cases Table.ofPairs pairs with
      | ok entries => exact .ok rfl
      | error fault => exact .problem _
  · exact .ofFault _ _ _

theorem rulesOf_agree :
    Agree (· = ·) (rulesOf locations key value) (rulesOf locations' key value) := by
  unfold rulesOf
  split
  · refine Agree.bind (Agree.mapM _ fun rule member => ?_) ?_
    · refine (argumentsOf_agree locations locations' rule.2 rule.1).bind ?_
      rintro arguments _ rfl
      exact .ok rfl
    · rintro rules _ rfl
      cases Table.ofPairs rules with
      | ok entries => exact .ok rfl
      | error fault => exact .problem _
  · exact .fault _ _ _

end

/-- The draft of a configuration that comes from elsewhere. -/
def Draft.moved (draft : Draft) (mode : Mode) (sourcePath : Option String) : Draft :=
  { draft with
    configuration := { draft.configuration with mode := mode, sourcePath := sourcePath } }

variable {mode mode' : Mode} {sourcePath sourcePath' : Option String}

theorem set_agree (draft : Draft) (locations locations' : Locations) (setting : Setting)
    (key : String) (value : Value) :
    Agree (fun first second => second = first.moved mode sourcePath)
      (draft.set locations setting key value)
      ((draft.moved mode sourcePath).set locations' setting key value) := by
  cases setting with
  | rules =>
      refine (rulesOf_agree locations locations' key value).bind ?_
      rintro rules _ rfl
      exact .ok rfl
  | includeDefaultRules | recurseCustomRulePath =>
      refine (boolOf_agree locations locations' key value).bind ?_
      rintro truth _ rfl
      exact .ok rfl
  | _ =>
      refine (textsOf_agree locations locations' key value).bind ?_
      rintro texts _ rfl
      exact .ok rfl

theorem take_agree (draft : Draft) (locations locations' : Locations) (key value : Value) :
    Agree (fun first second => second = first.moved mode sourcePath)
      (draft.take locations key value)
      ((draft.moved mode sourcePath).take locations' key value) := by
  unfold Draft.take
  split
  · split
    · exact set_agree draft locations locations' _ _ value
    · exact .fault _ _ _
  · exact .problem _
  · exact .problem _

theorem finish_moved (draft : Draft) :
    (draft.moved mode sourcePath).finish =
      { draft.finish with mode := mode, sourcePath := sourcePath } := by
  unfold Draft.finish Draft.moved
  dsimp only
  split <;> rfl

/-- The same pairs make the same configuration wherever they come from, or they are rejected for the
same cause. -/
theorem build_agree (locations locations' : Locations) (pairs : List (Value × Value)) :
    Agree (fun first second => second = { first with mode := mode', sourcePath := sourcePath' })
      (build mode sourcePath locations pairs) (build mode' sourcePath' locations' pairs) := by
  have folded : Agree (fun first second => second = first.moved mode' sourcePath')
      (pairs.foldlM (fun (draft : Draft) pair => draft.take locations pair.1 pair.2)
        { configuration := { mode := mode, sourcePath := sourcePath } })
      (pairs.foldlM (fun draft pair => draft.take locations' pair.1 pair.2)
        { configuration := { mode := mode', sourcePath := sourcePath' } }) := by
    refine Agree.foldlM pairs ?_ rfl
    rintro pair - draft _ rfl
    exact take_agree draft locations locations' pair.1 pair.2
  refine folded.bind fun draft _ same => ?_
  rw [same, finish_moved]
  exact .ok rfl

end ScriptAudit.Settings
