import Mathlib.Data.List.Forall2
import ScriptAudit.Proofs.Fault.Ends
import ScriptAudit.Proofs.Settings.Precedence
import ScriptAudit.Rule.Loader

namespace ScriptAudit.Rule

/-! What is loaded from files of rules.

Paths are loaded each for itself, and so are the modules of a path.  A module gives its rules up to
its first error, and the error leaves one failure, or stops the loading when it cannot be told. -/

open Files

namespace LoadResult

theorem append_assoc (first second third : LoadResult) :
    (first.append second).append third = first.append (second.append third) := by
  simp [append]

def concat (results : List LoadResult) : LoadResult :=
  ⟨results.flatMap entries, results.flatMap failures⟩

end LoadResult

section
variable {loadOne : String → Except LoadFault LoadResult} {names : List String}

end

/-- The entry of a rule that does not come with the program. -/
def Entry.asCustom (entry : Entry) : Entry :=
  if entry.descriptor.isBuiltin then
    ⟨{ entry.descriptor with sourceType := .module }, entry.factory⟩
  else entry

/-- What comes of a module step by step: a rule, or an error.  An error ends it. -/
def Module.steps : Module → List (Except Fault.Failure Entry)
  | broken failure => [.error failure]
  | withoutRules => [.error Rule.withoutRules]
  | rules factories ending =>
      factories.map (fun factory => (factory.describe none).map Entry.asCustom) ++
        ending.toList.map .error

/-- The steps give these rules before the first error. -/
def Breaks (steps : List (Except Fault.Failure Entry)) (entries : List Entry)
    (failure : Fault.Failure) : Prop :=
  ∃ later, steps = entries.map .ok ++ .error failure :: later

section Steps

variable {steps : List (Except Fault.Failure Entry)} {entries : List Entry}
  {failure : Fault.Failure}

theorem Breaks.cons (breaks : Breaks steps entries failure) (entry : Entry) :
    Breaks (.ok entry :: steps) (entry :: entries) failure := by
  obtain ⟨later, rfl⟩ := breaks
  exact ⟨later, rfl⟩

end Steps

section Files

variable {tree : FileTree} {parse : ByteArray → Module} {path : String} {result : LoadResult}

end Files

section Paths

variable {tree : FileTree} {parse : ByteArray → Module} {pattern raw path : String}
  {recurse : Bool}

/-- A single name that begins with the home of somebody else stands for nothing. -/
theorem expandModulePath_foreign (tree : FileTree) {name : String} (part : IsPart name)
    (owned : name.startsWith "~" = true) (foreign : name ≠ "~") :
    expandModulePath tree name = .error .noHome := by
  rw [expandModulePath, tidy_part part, (pathParts_part part).1]
  exact (if_pos ⟨(pathParts_part part).2, owned⟩).trans (if_neg foreign)

end Paths

end ScriptAudit.Rule
