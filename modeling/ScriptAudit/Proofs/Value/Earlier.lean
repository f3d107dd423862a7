import Mathlib.Data.List.Infix

namespace ScriptAudit

/-! The items of a list, told apart by what stands in front of them. -/

variable {α : Type}

/-- Each item with the items in front of it. -/
def withEarlier (items : List α) : List (α × List α) :=
  items.zip items.inits

theorem withEarlier_cons (item : α) (rest : List α) :
    withEarlier (item :: rest) =
      (item, []) :: (withEarlier rest).map fun place => (place.1, item :: place.2) := by
  rw [withEarlier, List.inits_cons, List.zip_cons_cons, List.zip_map_right]
  rfl

/-- It is one whether the form of an item is among those seen before or the item among the earlier
ones. -/
theorem seen_or_earlier (form : α → String) (item : α) (seen : List String) (earlier : List α)
    (wanted : String) :
    ((form item :: seen).contains wanted || earlier.any (form · == wanted)) =
      (seen.contains wanted || (item :: earlier).any (form · == wanted)) := by
  rw [List.contains_cons, List.any_cons, BEq.comm, Bool.or_assoc, Bool.or_left_comm]

end ScriptAudit
