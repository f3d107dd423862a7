import ScriptAudit.Proofs.Syntax.Preorder
import ScriptAudit.Proofs.Value.Earlier
import ScriptAudit.Syntax.Parse

namespace ScriptAudit.Syntax

/-! Which keys of the tables of a tree are reported.

A key is repeated when a key in front of it in the same table has the same form.  Tables are looked
at from the inside out, so the walk meets the repeated keys in another order. -/

/-- The keys of a table with a key of the same form in front of them. -/
def Node.repeats : Node → List Node
  | .hashtable _ pairs => (withEarlier pairs).filterMap fun place =>
      if place.2.any (keyForm ·.1 == keyForm place.1.1) then some place.1.1 else none
  | _ => []

/-- No table of the tree has a key without a form. -/
def Node.ShowsKeys (tree : Node) : Prop :=
  ∀ node ∈ tree.walk true, node.hidesKey = false

theorem repeatedKeys_eq (seen : List String) (pairs : List (Node × Node)) :
    repeatedKeys seen pairs = (withEarlier pairs).filterMap fun place =>
      if seen.contains (keyForm place.1.1) || place.2.any (keyForm ·.1 == keyForm place.1.1)
      then some place.1.1 else none := by
  induction pairs generalizing seen with
  | nil => rfl
  | cons pair rest ih =>
      have moved := seen_or_earlier (fun pair : Node × Node => keyForm pair.1) pair seen
      simp only [repeatedKeys, ih, moved]
      rw [withEarlier_cons, List.filterMap_cons, List.filterMap_map, List.any_nil, Bool.or_false]
      split <;> rfl

theorem repeats_hashtable (extent : Source.Extent) (pairs : List (Node × Node)) :
    (Node.hashtable extent pairs).repeats = repeatedKeys [] pairs := by
  simp only [repeatedKeys_eq, List.contains_nil, Bool.false_or, Node.repeats]

theorem repeatedInAll_eq (nodes : List Node) :
    repeatedInAll nodes = nodes.flatMap Node.allRepeatedKeys := by
  induction nodes with
  | nil => rfl
  | cons node rest ih => rw [repeatedInAll, ih, List.flatMap_cons]

theorem repeatedInPairs_eq (pairs : List (Node × Node)) :
    repeatedInPairs pairs =
      (pairs.flatMap fun pair => [pair.1, pair.2]).flatMap Node.allRepeatedKeys := by
  induction pairs with
  | nil => rfl
  | cons pair rest ih => simp [repeatedInPairs, ih]

theorem repeatedInOptional_eq (part : Option Node) :
    repeatedInOptional part = part.toList.flatMap Node.allRepeatedKeys := by
  cases part <;> simp [repeatedInOptional]

namespace Node

/-- The repeated keys below a node come in front of its own. -/
theorem allRepeatedKeys_eq (node : Node) :
    node.allRepeatedKeys = node.children.flatMap allRepeatedKeys ++ node.repeats := by
  cases node with
  | hashtable extent pairs =>
      rw [repeats_hashtable, allRepeatedKeys, repeatedInPairs_eq, children]
  | _ =>
      simp [allRepeatedKeys, children, repeatedInAll_eq, repeatedInOptional_eq, repeats]

/-- The walk meets each repeated key once. -/
theorem allRepeatedKeys_perm (node : Node) :
    node.allRepeatedKeys.Perm ((node.walk true).flatMap repeats) := by
  have below : ∀ {nodes : List Node}, (∀ child ∈ nodes, child ∈ node.children) →
      (nodes.flatMap allRepeatedKeys).Perm ((visit true nodes).flatMap repeats) := by
    intro nodes inside
    induction nodes with
    | nil => simp [visit]
    | cons child rest ih =>
        obtain ⟨here, later⟩ := List.forall_mem_cons.mp inside
        have smaller := count_lt_of_child here
        rw [List.flatMap_cons, ← List.singleton_append, visit_append, ← walk_eq_visit,
          List.flatMap_append]
        exact child.allRepeatedKeys_perm.append (ih later)
  rw [allRepeatedKeys_eq, walk, List.flatMap_cons]
  exact (below fun _ => id).append_right _ |>.trans List.perm_append_comm
termination_by node.count

theorem unrepeated_of_mem_walk {tree node : Node} (unrepeated : tree.allRepeatedKeys = [])
    (member : node ∈ tree.walk true) : node.allRepeatedKeys = [] := by
  rcases mem_walk.mp member with rfl | ⟨child, inside, member⟩
  · exact unrepeated
  · have smaller := count_lt_of_child inside
    rw [allRepeatedKeys_eq, List.append_eq_nil_iff, List.flatMap_eq_nil_iff] at unrepeated
    exact unrepeated_of_mem_walk (unrepeated.1 child inside) member
termination_by tree.count

theorem ShowsKeys.intro {node : Node} (own : node.hidesKey = false)
    (below : ∀ child ∈ node.children, child.ShowsKeys) : node.ShowsKeys := by
  intro inner member
  rcases mem_walk.mp member with rfl | ⟨child, inside, member⟩
  · exact own
  · exact below child inside inner member

/-- The only statement of a text. -/
theorem ShowsKeys.alone {node : Node} (shown : node.ShowsKeys) (whole around : Source.Extent) :
    (Node.scriptBlock whole [.pipeline around [node]]).ShowsKeys := by
  have pipeline : (Node.pipeline around [node]).ShowsKeys := .intro rfl (by simpa [children])
  exact .intro rfl (by simpa [children])

theorem findFirst_hidesKey {tree : Node} :
    tree.findFirst true hidesKey = none ↔ tree.ShowsKeys := by
  simp [findFirst, ShowsKeys]

end Node
end ScriptAudit.Syntax
