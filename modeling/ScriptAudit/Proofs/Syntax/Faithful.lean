import Mathlib.Data.List.Forall2
import ScriptAudit.Proofs.Syntax.Parsed
import ScriptAudit.Proofs.Syntax.Preorder

namespace ScriptAudit

/-! The extents of the nodes of a tree are those of the text that was parsed, and they are
nested. -/

open Source

/-- Both ends of the extent lead back to offsets of the text, and what lies between these offsets
is the text of the extent. -/
structure Source.LineIndex.Locates (index : LineIndex) (extent : Extent) (start stop : Nat) :
    Prop where
  begins : index.offset? extent.start = some start
  ends : index.offset? extent.stop = some stop
  ordered : start ≤ stop
  inside : stop ≤ index.text.length
  text : extent.text = index.slice start stop

namespace Syntax

variable {text : List Char} {file : String}

theorem Node.Spans.locates {start stop : Nat} {node : Node}
    (spans : node.Spans (originIn text file) start stop) :
    (LineIndex.ofText text).Locates node.extent start stop := by
  rw [spans.placed]
  exact ⟨spans.starts, spans.stops, spans.ordered, spans.inside, rfl⟩

/-- Of two places of one text, the one that lies in the other by its offsets does so by its
positions. -/
theorem Node.Spans.contains {start stop first next : Nat} {outer inner : Node}
    (around : outer.Spans (originIn text file) start stop)
    (spans : inner.Spans (originIn text file) first next) (lower : start ≤ first)
    (upper : next ≤ stop) : outer.extent.Contains inner.extent := by
  rw [around.placed, spans.placed]
  exact ⟨LineIndex.position_le _ lower, LineIndex.position_le _ upper⟩

/-- Nodes that lie one after the other have their own regions, none of which is empty. -/
theorem SpansAll.regions {start stop : Nat} {nodes : List Node}
    (spans : SpansAll (originIn text file) start stop nodes) :
    ∃ regions : List (Nat × Nat),
      List.Forall₂ (fun node region => (LineIndex.ofText text).Locates node.extent
        region.1 region.2) nodes regions ∧
      (∀ region ∈ regions, start ≤ region.1 ∧ region.1 < region.2 ∧ region.2 ≤ stop) ∧
      regions.Pairwise (·.2 ≤ ·.1) := by
  induction nodes generalizing start with
  | nil => exact ⟨[], .nil, by simp, .nil⟩
  | cons node rest ih =>
      cases spans with
      | @cons _ first next _ _ _ gap filled head tail =>
          obtain ⟨regions, located, bounded, apart⟩ := ih tail
          refine ⟨(first, next) :: regions, .cons head.locates located, ?_, ?_⟩
          · rintro region (_ | ⟨_, member⟩)
            · exact ⟨gap, filled, tail.ordered⟩
            · obtain ⟨lower, upper⟩ := bounded region member
              exact ⟨by omega, upper⟩
          · exact .cons (fun region member => (bounded region member).1) apart

/-- The tree of a text without syntax errors spans the text.  Each of its nodes has the extent of
a piece of the text; its children lie in it, in disjoint regions that follow one another. -/
theorem parseText_locates {text file : String} {result : ParseResult}
    (parsed : parseText text file = .ok result) (clean : result.issues = []) :
    let index := LineIndex.ofText text.toList
    index.Locates result.tree.extent 0 text.toList.length ∧
    ∀ node ∈ result.tree.walk true, ∃ start stop, index.Locates node.extent start stop ∧
      (∀ child ∈ node.children, node.extent.Contains child.extent) ∧
      ∃ regions : List (Nat × Nat),
        List.Forall₂ (fun child region => index.Locates child.extent region.1 region.2)
          node.children regions ∧
        (∀ region ∈ regions, start ≤ region.1 ∧ region.1 < region.2 ∧ region.2 ≤ stop) ∧
        regions.Pairwise (·.2 ≤ ·.1) := by
  have root := (parseText_parsed parsed clean).spans
  refine ⟨root.locates, fun node member => ?_⟩
  obtain ⟨start, stop, -, -, spans⟩ := root.of_mem_walk member
  refine ⟨start, stop, spans.locates, fun child below => ?_, spans.parts.regions⟩
  obtain ⟨first, next, lower, upper, inner⟩ := spans.parts.of_mem below
  exact spans.contains inner lower upper

/-- An operation across a line break, with a chain of suffixes as its operand. -/
theorem parseText_locates_operation : ∃ result,
    parseText "1 +\r\n$a.b[0]" "" = .ok result ∧ result.issues = [] ∧
    ∃ operation ∈ result.tree.walk true, operation.kind = .binary ∧
      ∃ start stop, (LineIndex.ofText "1 +\r\n$a.b[0]".toList).Locates operation.extent
        start stop ∧ ∀ child ∈ operation.children, operation.extent.Contains child.extent := by
  obtain ⟨result, parsed, clean, met⟩ : ∃ result, parseText "1 +\r\n$a.b[0]" "" = .ok result ∧
      result.issues = [] ∧ (result.tree.walk true).any (·.kind == .binary) :=
    exists_parsed (by decide +kernel)
  obtain ⟨operation, member, binary⟩ := List.any_eq_true.mp met
  obtain ⟨start, stop, located, nested, -⟩ := (parseText_locates parsed clean).2 operation member
  exact ⟨result, parsed, clean, operation, member, eq_of_beq binary, start, stop, located, nested⟩

end Syntax
end ScriptAudit
