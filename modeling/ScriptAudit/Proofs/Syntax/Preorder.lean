import ScriptAudit.Proofs.Syntax.Span
import ScriptAudit.Syntax.Walk

namespace ScriptAudit.Syntax

/-! The walk of a tree, taken apart at the parts of a node. -/

theorem visit_append (intoBlocks : Bool) (first second : List Node) :
    visit intoBlocks (first ++ second) = visit intoBlocks first ++ visit intoBlocks second := by
  fun_induction visit intoBlocks first with
  | case1 => rfl
  | case2 node rest ih =>
      rw [List.append_assoc] at ih
      rw [List.cons_append, visit, ih, List.cons_append]

theorem entered_of_outside (node : Node) :
    node.entered false = [] ∨ node.entered false = node.entered true := by
  unfold Node.entered
  split
  · exact .inl rfl
  · exact .inr rfl

/-- A walk that stays out of script blocks visits some of the nodes that one into them visits. -/
theorem visit_subset (nodes : List Node) : visit false nodes ⊆ visit true nodes := by
  fun_induction visit false nodes with
  | case1 => exact List.nil_subset _
  | case2 node rest ih =>
      rw [visit]
      refine List.cons_subset_cons node (List.Subset.trans ih ?_)
      rcases entered_of_outside node with outside | same
      · rw [outside, List.nil_append, visit_append]
        exact List.subset_append_right _ _
      · rw [same]
        exact List.Subset.refl _

namespace Node

theorem walk_eq_visit (node : Node) : node.walk true = visit true [node] := by
  rw [visit, walk, List.append_nil]
  rfl

theorem mem_visit {node : Node} {nodes : List Node} :
    node ∈ visit true nodes ↔ ∃ root ∈ nodes, node ∈ root.walk true := by
  induction nodes with
  | nil => simp [visit]
  | cons root rest ih =>
      rw [← List.singleton_append, visit_append, ← walk_eq_visit, List.mem_append, ih]
      simp

theorem mem_walk_of_firstHashtable {root table : Node} (first : root.firstHashtable = some table) :
    table ∈ root.walk true ∧ table.kind = .hashtable := by
  rw [firstHashtable, findFirst] at first
  refine ⟨?_, by simpa using List.find?_some first⟩
  have visited : table ∈ root.walk false := List.mem_of_find?_eq_some first
  rcases List.mem_cons.mp visited with rfl | below
  · exact List.mem_cons_self
  · exact List.mem_cons_of_mem _ (visit_subset _ below)

theorem mem_walk {node root : Node} :
    node ∈ root.walk true ↔ node = root ∨ ∃ child ∈ root.children, node ∈ child.walk true := by
  rw [walk, List.mem_cons, mem_visit]

end Node

theorem count_le_countAll {node : Node} {nodes : List Node} (member : node ∈ nodes) :
    node.count ≤ countAll nodes := by
  obtain ⟨before, after, rfl⟩ := List.append_of_mem member
  simp only [countAll_append, countAll]
  omega

theorem Node.count_lt_of_child {child root : Node} (below : child ∈ root.children) :
    child.count < root.count := by
  have := count_le_countAll below
  rw [root.count_eq]
  omega

/-- The nodes of a part of a tree are nodes of the tree. -/
theorem Node.mem_walk_trans {inner node root : Node} (inside : inner ∈ node.walk true)
    (member : node ∈ root.walk true) : inner ∈ root.walk true := by
  rcases mem_walk.mp member with rfl | ⟨child, below, member⟩
  · exact inside
  · have smaller := count_lt_of_child below
    exact mem_walk.mpr (.inr ⟨child, below, mem_walk_trans inside member⟩)
termination_by root.count

variable {origin : Origin}

theorem SpansAll.of_mem {start stop : Nat} {nodes : List Node} {node : Node}
    (spans : SpansAll origin start stop nodes) (member : node ∈ nodes) :
    ∃ first last, start ≤ first ∧ last ≤ stop ∧ node.Spans origin first last := by
  induction nodes generalizing start with
  | nil => cases member
  | cons head rest ih =>
      cases spans with
      | cons gap filled spans tail =>
          rcases List.mem_cons.mp member with rfl | member
          · exact ⟨_, _, gap, tail.ordered, spans⟩
          · obtain ⟨first, last, lower, upper, found⟩ := ih tail member
            exact ⟨first, last, Nat.le_trans gap (Nat.le_trans spans.ordered lower), upper, found⟩

/-- Every node of a tree lies where the whole tree lies. -/
theorem Node.Spans.of_mem_walk {start stop : Nat} {root node : Node}
    (spans : root.Spans origin start stop) (member : node ∈ root.walk true) :
    ∃ first last, start ≤ first ∧ last ≤ stop ∧ node.Spans origin first last := by
  rcases Node.mem_walk.mp member with rfl | ⟨child, below, member⟩
  · exact ⟨start, stop, Nat.le_refl _, Nat.le_refl _, spans⟩
  · obtain ⟨first, last, lower, upper, spans⟩ := spans.parts.of_mem below
    have smaller := Node.count_lt_of_child below
    obtain ⟨first', last', lower', upper', found⟩ := spans.of_mem_walk member
    exact ⟨first', last', Nat.le_trans lower lower', Nat.le_trans upper' upper, found⟩
termination_by root.count

end ScriptAudit.Syntax
