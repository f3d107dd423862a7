import ScriptAudit.Correction.Apply

namespace ScriptAudit.Correction

/-! Correcting a text until it is stable.

Each pass analyzes the text and applies the corrections found.  The passes end when one of them
applies nothing, or when their greatest number is reached. -/

/-- The text after the passes, and how many corrections they applied together. -/
def fix {m : Type → Type} [Monad m] (base file : String)
    (analyze : String → m (List Diagnostic)) : (passes : Nat) → String → m (String × Nat)
  | 0, text => pure (text, 0)
  | passes + 1, text => do
      let outcome := apply base file text (← analyze text)
      if outcome.changed then
        let later ← fix base file analyze passes outcome.text
        return (later.1, outcome.applied + later.2)
      else return (text, 0)

end ScriptAudit.Correction
