namespace ScriptAudit.Text

/-! Sets of characters given by their boundaries.

A boundary is a code point at which membership changes, the first one being where the set begins.
A character belongs to the set exactly when an odd number of boundaries lies at or below it. -/

/-- Halves the window `[low, low + width)` of a sorted array until it holds no element, and
returns the index of the first element above `bound`. -/
def countUpTo (sorted : Array Nat) (bound low width : Nat) : Nat :=
  if width = 0 then low
  else
    let half := width / 2
    match sorted[low + half]? with
    | none => low
    | some middle =>
        if middle ≤ bound then countUpTo sorted bound (low + half + 1) (width - half - 1)
        else countUpTo sorted bound low half
termination_by width

structure CharSet where
  boundaries : Array Nat

namespace CharSet

def contains (set : CharSet) (c : Char) : Bool :=
  countUpTo set.boundaries c.toNat 0 set.boundaries.size % 2 == 1

end CharSet
end ScriptAudit.Text
