import ScriptAudit.Source.Extent

namespace ScriptAudit.Source

/-! The order of positions and the containment of extents, by lines and columns. -/

namespace Position

variable {first second : Position}

theorem lt_iff : first < second ↔
    first.line < second.line ∨ (first.line = second.line ∧ first.column < second.column) :=
  Iff.rfl

theorem le_iff : first ≤ second ↔
    first.line < second.line ∨ (first.line = second.line ∧ first.column ≤ second.column) := by
  change ¬ second < first ↔ _
  rw [lt_iff]
  omega

theorem eq_iff : first = second ↔ first.line = second.line ∧ first.column = second.column := by
  cases first
  cases second
  exact Iff.of_eq (Position.mk.injEq ..)

end Position

theorem Extent.Contains.trans {outer middle inner : Extent} (around : outer.Contains middle)
    (within : middle.Contains inner) : outer.Contains inner := by
  rw [Extent.Contains, Position.le_iff, Position.le_iff] at *
  omega

end ScriptAudit.Source
