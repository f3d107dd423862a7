import Mathlib.Data.List.Infix
import ScriptAudit.Proofs.Syntax.Preorder

namespace ScriptAudit.Syntax

/-! The occurrences of nodes in a tree.

An occurrence is told by the way to it from the root: the places of the parts that are entered one
after the other.  The walk of a tree comes to each occurrence once, in the order of the ways, which
is the recursive one: a node before its parts, and its parts in turn. -/

namespace Node

/-- The node to which a way leads. -/
def at? (root : Node) : (way : List Nat) → Option Node
  | [] => some root
  | place :: rest => root.children[place]?.bind (·.at? rest)

/-- What is found in the part at this place of a node, as it is found in the node. -/
def enter (place : Nat) (found : List Nat × Node) : List Nat × Node :=
  (place :: found.1, found.2)

/-- The nodes of a tree with the ways to them: a node before its parts, and its parts in turn. -/
def preorder (root : Node) : List (List Nat × Node) :=
  ([], root) :: root.children.attach.zipIdx.flatMap fun part =>
    part.1.1.preorder.map (enter part.2)
termination_by root.count
decreasing_by exact count_lt_of_child part.1.2

/-- A script block other than the root stands above the place to which the way leads. -/
def hides (root : Node) (way : List Nat) : Bool :=
  way.inits.any fun above =>
    above ≠ [] && above ≠ way && (root.at? above).any (·.kind = .scriptBlock)

@[elab_as_elim]
theorem induction_parts {motive : Node → Prop}
    (step : ∀ root, (∀ part ∈ root.children, motive part) → motive root) (root : Node) :
    motive root :=
  step root fun part below =>
    have := count_lt_of_child below
    induction_parts step part
termination_by root.count

theorem preorder_eq (root : Node) : root.preorder = ([], root) ::
    root.children.zipIdx.flatMap fun part => part.1.preorder.map (enter part.2) := by
  rw [preorder]
  congr 1
  conv_rhs => rw [← List.attach_map_subtype_val root.children, List.zipIdx_map, List.flatMap_map]
  rfl

theorem mem_of_zipIdx {parts : List Node} {part : Node × Nat} (member : part ∈ parts.zipIdx) :
    part.1 ∈ parts :=
  List.mem_of_getElem? (List.mem_zipIdx_iff_getElem?.mp member)

theorem mem_preorder {root node : Node} {way : List Nat} :
    (way, node) ∈ root.preorder ↔ root.at? way = some node := by
  induction root using induction_parts generalizing way with
  | step root ih =>
      rw [preorder_eq, List.mem_cons, List.mem_flatMap]
      simp only [List.mem_map, enter]
      cases way with
      | nil => simp [at?, eq_comm]
      | cons place rest =>
          rw [at?, Option.bind_eq_some_iff]
          constructor
          · rintro (start | ⟨part, member, found, inside, same⟩)
            · cases start
            · cases same
              have here := List.mem_zipIdx_iff_getElem?.mp member
              exact ⟨part.1, here, (ih part.1 (mem_of_zipIdx member)).mp inside⟩
          · rintro ⟨part, here, leads⟩
            refine .inr ⟨(part, place), List.mem_zipIdx_iff_getElem?.mpr here, (rest, node), ?_,
              rfl⟩
            exact (ih part (List.mem_of_getElem? here)).mpr leads

theorem pairwise_zipIdx (parts : List Node) (first : Nat) :
    (parts.zipIdx first).Pairwise fun part later => part.2 < later.2 := by
  induction parts generalizing first with
  | nil => exact .nil
  | cons part rest ih =>
      rw [List.zipIdx_cons, List.pairwise_cons]
      exact ⟨fun later member => List.le_snd_of_mem_zipIdx member, ih (first + 1)⟩

/-- The ways ascend: one that leads on comes after the one that it prolongs, and before those that
turn to a later part. -/
theorem pairwise_preorder (root : Node) : (root.preorder.map Prod.fst).Pairwise (· < ·) := by
  induction root using induction_parts with
  | step root ih =>
      rw [preorder_eq, List.map_cons, List.pairwise_cons, List.map_flatMap, List.pairwise_flatMap]
      simp only [List.map_map]
      refine ⟨?_, fun part member => ?_, (pairwise_zipIdx root.children 0).imp ?_⟩
      · intro way member
        obtain ⟨part, -, inside⟩ := List.mem_flatMap.mp member
        obtain ⟨found, -, rfl⟩ := List.mem_map.mp inside
        exact List.nil_lt_cons _ _
      · have ascending := ih part.1 (mem_of_zipIdx member)
        rw [List.pairwise_map] at ascending ⊢
        exact ascending.imp fun less => List.cons_lt_cons_iff.mpr (.inr ⟨rfl, less⟩)
      · intro part later less way member way' member'
        obtain ⟨found, -, rfl⟩ := List.mem_map.mp member
        obtain ⟨found', -, rfl⟩ := List.mem_map.mp member'
        exact List.cons_lt_cons_iff.mpr (.inl less)

end Node

/-- The walk of waiting nodes takes them one by one, each with what it enters below it. -/
theorem visit_eq_flatMap (intoBlocks : Bool) (waiting : List Node) :
    visit intoBlocks waiting = waiting.flatMap fun node => visit intoBlocks [node] := by
  induction waiting with
  | nil => simp [visit]
  | cons node rest ih =>
      rw [← List.singleton_append, visit_append, ih, List.flatMap_append,
        List.flatMap_singleton]

namespace Node

theorem walk_eq_preorder (root : Node) : root.walk true = root.preorder.map Prod.snd := by
  induction root using induction_parts with
  | step root ih =>
      rw [walk, visit_eq_flatMap, preorder_eq, List.map_cons, List.map_flatMap]
      congr 1
      conv_lhs => rw [← List.zipIdx_map_fst 0 root.children, List.flatMap_map]
      refine List.flatMap_congr fun part member => ?_
      rw [← walk_eq_visit, ih part.1 (mem_of_zipIdx member), List.map_map]
      rfl

/-- As `hides`, where the node itself counts, too. -/
def covers (node : Node) (way : List Nat) : Bool :=
  way.inits.any fun above => above ≠ way && (node.at? above).any (·.kind = .scriptBlock)

theorem hides_cons (root : Node) (place : Nat) (rest : List Nat) :
    root.hides (place :: rest) = root.children[place]?.any (·.covers rest) := by
  rw [hides, List.inits_cons, List.any_cons, List.any_map]
  cases found : root.children[place]? <;> simp [at?, covers, found, Function.comp_def]

theorem covers_cons (node : Node) (place : Nat) (rest : List Nat) :
    node.covers (place :: rest) =
      (decide (node.kind = .scriptBlock) || node.hides (place :: rest)) := by
  rw [covers, hides, List.inits_cons, List.any_cons, List.any_cons, List.any_map, List.any_map]
  simp [at?, Function.comp_def]

/-- Below a node that is entered, the walk leaves out what its parts cover. -/
theorem visit_children {root : Node} (visits : ∀ part ∈ root.children, visit false [part] =
      (part.preorder.filter fun found => !part.covers found.1).map Prod.snd) :
    visit false root.children =
      ((root.children.zipIdx.flatMap fun part => part.1.preorder.map (enter part.2)).filter
        fun found => !root.hides found.1).map Prod.snd := by
  rw [visit_eq_flatMap, List.filter_flatMap, List.map_flatMap]
  conv_lhs => rw [← List.zipIdx_map_fst 0 root.children, List.flatMap_map]
  refine List.flatMap_congr fun part member => ?_
  have here := List.mem_zipIdx_iff_getElem?.mp member
  rw [visits part.1 (mem_of_zipIdx member), List.filter_map, List.map_map]
  simp only [Function.comp_def, enter, hides_cons, here, Option.any_some]

theorem visit_eq_preorder (node : Node) : visit false [node] =
    (node.preorder.filter fun found => !node.covers found.1).map Prod.snd := by
  induction node using induction_parts with
  | step node ih =>
      have visited := visit_children ih
      have start : node.covers [] = false := by simp [covers]
      have kept {found : List Nat × Node} (member : found ∈ node.children.zipIdx.flatMap
          fun part => part.1.preorder.map (enter part.2)) :
          node.covers found.1 = (decide (node.kind = .scriptBlock) || node.hides found.1) := by
        obtain ⟨part, -, inside⟩ := List.mem_flatMap.mp member
        obtain ⟨found, -, rfl⟩ := List.mem_map.mp inside
        exact covers_cons node part.2 found.1
      rw [visit, List.append_nil, preorder_eq, List.filter_cons_of_pos (by simp [start]),
        List.map_cons, List.filter_congr fun found member => congrArg not (kept member), entered]
      congr 1
      by_cases block : node.kind = .scriptBlock
      · simp [block, visit]
      · simpa [block] using visited

theorem walk_outside (root : Node) : root.walk false =
    (root.preorder.filter fun found => !root.hides found.1).map Prod.snd := by
  have start : root.hides [] = false := by simp [hides]
  rw [walk, visit_children fun part _ => visit_eq_preorder part, preorder_eq,
    List.filter_cons_of_pos (by simp [start]), List.map_cons]

/-- The occurrence is a hashtable outside nested script blocks. -/
def showsTable (root : Node) (found : List Nat × Node) : Bool :=
  !root.hides found.1 && found.2.kind = .hashtable

/-- The node is the first hashtable of the tree outside nested script blocks, or the root where
there is none. -/
inductive Selects (root : Node) : Node → Prop where
  | table {before after : List (List Nat × Node)} {found : List Nat × Node}
      (place : root.preorder = before ++ found :: after) (shown : root.showsTable found = true)
      (first : ∀ other ∈ before, root.showsTable other = false) : Selects root found.2
  | whole (none : ∀ found ∈ root.preorder, root.showsTable found = false) : Selects root root

theorem firstHashtable_eq (root : Node) :
    root.firstHashtable = (root.preorder.find? root.showsTable).map Prod.snd := by
  rw [firstHashtable, findFirst, walk_outside, List.find?_map, List.find?_filter]
  simp only [Function.comp_def, Bool.decide_and, Bool.decide_eq_true]
  rfl

theorem selects_iff {root node : Node} :
    root.Selects node ↔ root.firstHashtable.getD root = node := by
  rw [firstHashtable_eq]
  constructor
  · intro selects
    cases selects with
    | table place shown first =>
        have found := List.find?_eq_some_iff_append.mpr
          ⟨shown, _, _, place, fun other member => by rw [first other member]; rfl⟩
        rw [found]
        rfl
    | whole none =>
        have found : root.preorder.find? root.showsTable = Option.none :=
          List.find?_eq_none.mpr fun found member => by rw [none found member]; nofun
        rw [found]
        rfl
  · rintro rfl
    cases found : root.preorder.find? root.showsTable with
    | none =>
        exact .whole fun found' member => by simpa using List.find?_eq_none.mp found found' member
    | some hit =>
        obtain ⟨shown, before, after, place, first⟩ := List.find?_eq_some_iff_append.mp found
        exact .table place shown fun other member => by simpa using first other member

/-- A walk lists the occurrences of nodes below its start, each once and in the recursive order: a
node before its parts, and its parts in turn.  One that stays out of script blocks leaves out just
what is below a script block other than its start.  The first node that is wanted is the first of
all that are. -/
theorem walk_lists (root : Node) :
    (root.walk true = root.preorder.map Prod.snd ∧
      (root.preorder.map Prod.fst).Pairwise (· < ·) ∧
      ∀ way node, (way, node) ∈ root.preorder ↔ root.at? way = some node) ∧
    root.walk false =
      (root.preorder.filter fun found => !root.hides found.1).map Prod.snd ∧
    ∀ (intoBlocks : Bool) (wanted : Node → Bool),
      root.findFirst intoBlocks wanted = (root.findAll intoBlocks wanted).head? := by
  refine ⟨⟨walk_eq_preorder root, pairwise_preorder root, fun _ _ => mem_preorder⟩,
    walk_outside root, fun intoBlocks wanted => ?_⟩
  rw [findFirst, findAll, List.head?_filter]

end Node
end ScriptAudit.Syntax
