import ScriptAudit.Proofs.Source.LineIndex
import ScriptAudit.Proofs.Syntax.GrammarLayout

namespace ScriptAudit.Syntax

/-! Where the nodes of a tree lie, told by offsets.

At the ends of what is read no line break is cut, so positions lead back to offsets there.  Hence
the extents that are put together from others are those of the text that was read. -/

open Source

/-- The position of the offset leads back to it. -/
def Origin.IsEdge (origin : Origin) (offset : Nat) : Prop :=
  origin.index.offset? (origin.index.position offset) = some offset

mutual

/-- The node lies in the text between two offsets. -/
inductive Node.Spans (origin : Origin) : (start stop : Nat) → Node → Prop
  | intro {start stop : Nat} {node : Node} (placed : node.extent = origin.place start stop)
      (starts : origin.IsEdge start) (stops : origin.IsEdge stop) (ordered : start ≤ stop)
      (inside : stop ≤ origin.length) (complete : node.Complete)
      (parts : SpansAll origin start stop node.children) : Node.Spans origin start stop node

/-- The nodes lie one after the other between two offsets, and none of them is empty. -/
inductive SpansAll (origin : Origin) : (start stop : Nat) → List Node → Prop
  | nil {start stop : Nat} (ordered : start ≤ stop) : SpansAll origin start stop []
  | cons {start first next stop : Nat} {node : Node} {rest : List Node} (gap : start ≤ first)
      (filled : first < next) (head : node.Spans origin first next)
      (tail : SpansAll origin next stop rest) : SpansAll origin start stop (node :: rest)

end

namespace Node.Spans

variable {origin : Origin} {start stop : Nat} {node : Node}

theorem placed (spans : node.Spans origin start stop) :
    node.extent = origin.place start stop := by
  cases spans
  assumption

theorem starts (spans : node.Spans origin start stop) : origin.IsEdge start := by
  cases spans
  assumption

theorem stops (spans : node.Spans origin start stop) : origin.IsEdge stop := by
  cases spans
  assumption

theorem ordered (spans : node.Spans origin start stop) : start ≤ stop := by
  cases spans
  assumption

theorem inside (spans : node.Spans origin start stop) : stop ≤ origin.length := by
  cases spans
  assumption

theorem complete (spans : node.Spans origin start stop) : node.Complete := by
  cases spans
  assumption

theorem parts (spans : node.Spans origin start stop) :
    SpansAll origin start stop node.children := by
  cases spans
  assumption

end Node.Spans

theorem SpansAll.ordered {origin : Origin} {start stop : Nat} {nodes : List Node}
    (spans : SpansAll origin start stop nodes) : start ≤ stop := by
  induction nodes generalizing start with
  | nil =>
      cases spans
      assumption
  | cons node rest ih =>
      cases spans with
      | cons gap filled head tail =>
          exact Nat.le_trans gap (Nat.le_trans (Nat.le_of_lt filled) (ih tail))

section
variable {text : List Char} (file : String)

/-- The origin of extents in this text. -/
abbrev originIn (text : List Char) (file : String) : Origin :=
  ⟨.ofText text, file⟩

theorem isEdge_of_uncut {front rest : List Char} (uncut : Uncut front rest) :
    (originIn (front ++ rest) file).IsEdge ((front ++ rest).length - rest.length) := by
  rw [List.length_append, Nat.add_sub_cancel]
  exact LineIndex.offset?_position uncut

theorem isEdge_zero (text : List Char) : (originIn text file).IsEdge 0 := by
  have uncut : Uncut [] text := nofun
  exact LineIndex.offset?_position uncut

theorem isEdge_length (text : List Char) : (originIn text file).IsEdge text.length := by
  have uncut : Uncut text [] := fun _ => nofun
  have found := LineIndex.offset?_position uncut
  rwa [List.append_nil] at found

theorem isEdge_of_begins {rest : List Char} (inside : rest <:+ text)
    (begins : rest.head? ≠ some '\n') :
    (originIn text file).IsEdge (text.length - rest.length) := by
  obtain ⟨front, rfl⟩ := inside
  exact isEdge_of_uncut file fun _ => begins

theorem isEdge_of_solid {before after : List Char} (inside : before <:+ text)
    (solid : Solid before after) :
    (originIn text file).IsEdge (text.length - after.length) := by
  obtain ⟨front, rfl⟩ := inside
  obtain ⟨read, c, rfl, plain⟩ := solid
  have whole : front ++ (read ++ c :: after) = (front ++ read ++ [c]) ++ after := by simp
  rw [whole]
  refine isEdge_of_uncut file fun returns => absurd ?_ plain
  simpa using returns

/-- The first extent begins and the last one ends at places that lead back to their offsets. -/
theorem merge_eq {origin : Origin} {start middle next stop : Nat} (starts : origin.IsEdge start)
    (stops : origin.IsEdge stop) :
    origin.merge (origin.place start middle) (origin.place next stop) =
      origin.place start stop := by
  unfold Origin.merge LineIndex.merge
  change origin.index.extent origin.file
    ((origin.index.offset? (origin.index.position start)).getD 0)
    ((origin.index.offset? (origin.index.position stop)).getD _) = _
  rw [starts, stops]
  rfl

theorem Node.Spans.merge {origin : Origin} {start middle next stop : Nat} {left right : Node}
    {operator : String} (first : left.Spans origin start middle)
    (last : right.Spans origin next stop) (begins : start < middle) (apart : middle ≤ next)
    (ends : next < stop) :
    (Node.binary (origin.merge left.extent right.extent) operator (some left)
      (some right)).Spans origin start stop := by
  refine .intro ?_ first.starts last.stops (by omega) last.inside ⟨rfl, rfl⟩
    (.cons (Nat.le_refl _) begins first (.cons apart ends last (.nil (Nat.le_refl _))))
  change origin.merge left.extent right.extent = _
  rw [first.placed, last.placed, merge_eq first.starts last.stops]

variable {file}

theorem offset_le {before after : List Char} (reaches : after <:+ before) :
    text.length - before.length ≤ text.length - after.length :=
  Nat.sub_le_sub_left reaches.length_le _

theorem offset_lt {before after : List Char} (inside : before <:+ text)
    (solid : Solid before after) :
    text.length - before.length < text.length - after.length := by
  have := inside.length_le
  have := solid.length_lt
  omega

mutual

/-- What was read from a text lies in it. -/
theorem Node.ReadFrom.spans {before after : List Char} {node : Node}
    (read : node.ReadFrom (originIn text file) before after) (inside : before <:+ text) :
    node.Spans (originIn text file) (text.length - before.length)
      (text.length - after.length) := by
  have trimmed := read.trimmed
  have starts := isEdge_of_begins file inside trimmed.begins
  have stops := isEdge_of_solid file inside trimmed.ends
  have ordered : text.length - before.length ≤ text.length - after.length :=
    offset_le trimmed.ends.suffix
  have within : text.length - after.length ≤ (originIn text file).length := Nat.sub_le _ _
  match read with
  | .placed placed _ complete parts =>
      exact .intro placed starts stops ordered within complete (parts.spans inside)
  | .merged first gap last =>
      have later := gap.trans (first.reaches.trans inside)
      exact (first.spans inside).merge (last.spans later) (offset_lt inside first.trimmed.ends)
        (offset_le gap) (offset_lt later last.trimmed.ends)

theorem AllReadFrom.spans {before after : List Char} {nodes : List Node}
    (read : AllReadFrom (originIn text file) before after nodes) (inside : before <:+ text) :
    SpansAll (originIn text file) (text.length - before.length)
      (text.length - after.length) nodes := by
  match read with
  | .nil reaches => exact .nil (offset_le reaches)
  | .cons gap head tail =>
      have within := gap.trans inside
      exact .cons (offset_le gap) (offset_lt within head.trimmed.ends) (head.spans within)
        (tail.spans (head.reaches.trans within))

end

end

end ScriptAudit.Syntax
