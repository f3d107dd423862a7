import ScriptAudit.Number.Shortest

namespace ScriptAudit.Source

/-! Places in a text.

Lines and columns count from one.  A place that is not known has zeros. -/

structure Position where
  line : Int
  column : Int
deriving DecidableEq

namespace Position

/-- Line first, then column. -/
def lt (first second : Position) : Prop :=
  first.line < second.line ∨ (first.line = second.line ∧ first.column < second.column)

instance : LT Position := ⟨lt⟩

instance : DecidableRel (α := Position) (· < ·) := fun first second =>
  inferInstanceAs (Decidable (first.line < second.line ∨
    (first.line = second.line ∧ first.column < second.column)))

instance : LE Position := ⟨fun first second => ¬ second < first⟩

instance : DecidableRel (α := Position) (· ≤ ·) := fun first second =>
  inferInstanceAs (Decidable ¬ second < first)

end Position

/-- A region of a source text.  `stop` is the place just after the region. -/
structure Extent where
  start : Position := ⟨0, 0⟩
  stop : Position := ⟨0, 0⟩
  file : String := ""
  text : String := ""
deriving DecidableEq

namespace Extent

/-- An extent that names a file and no place in it. -/
def ofFile (file : String) : Extent := { file := file }

def Contains (outer inner : Extent) : Prop :=
  outer.start ≤ inner.start ∧ inner.stop ≤ outer.stop

instance : DecidableRel Contains := fun outer inner =>
  inferInstanceAs (Decidable (outer.start ≤ inner.start ∧ inner.stop ≤ outer.stop))

/-- The line and column that are known, in front of which a file may stand. -/
def placeParts (extent : Extent) : List String :=
  if 0 < extent.start.line then
    Number.decimal extent.start.line ::
      (if 0 < extent.start.column then [Number.decimal extent.start.column] else [])
  else []

def describe (extent : Extent) : String :=
  if extent.file = "" ∧ extent.start.line = 0 then "<unknown location>"
  else String.intercalate ":"
    ((if extent.file = "" then [] else [extent.file]) ++ extent.placeParts)

/-- The extent with a file, which changes nothing when it has one already. -/
def withFile (extent : Extent) (file : String) : Extent :=
  if extent.file = "" then { extent with file := file } else extent

end Extent
end ScriptAudit.Source
