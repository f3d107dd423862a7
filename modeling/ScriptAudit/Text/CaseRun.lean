namespace ScriptAudit.Text

/-! Runs of characters whose forms in the other case lie at one distance. -/

/-- Every `step`-th code point from `first` to `last`; `first` is mapped to `target` and the
others keep their distance from it. -/
structure CaseRun where
  first : Nat
  last : Nat
  step : Nat
  target : Nat

namespace CaseRun

def image? (run : CaseRun) (code : Nat) : Option Nat :=
  if run.first ≤ code ∧ code ≤ run.last ∧ (code - run.first) % run.step = 0 then
    some (run.target + (code - run.first))
  else none

end CaseRun

/-- The code point that the first fitting run gives, or the code point itself. -/
def caseImage (runs : Array CaseRun) (code : Nat) : Nat :=
  (runs.findSome? (·.image? code)).getD code

end ScriptAudit.Text
