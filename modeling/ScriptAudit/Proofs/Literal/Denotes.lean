import ScriptAudit.Literal.Evaluate
import ScriptAudit.Proofs.Syntax.RepeatedKeys
import ScriptAudit.Proofs.Value.Table

namespace ScriptAudit.Literal

/-! Nodes that denote a literal.

A node that denotes a literal has it as its value, whether or not scalars in parentheses are
wrapped, and no hashtable in it has a key twice or one without a form. -/

open Syntax

structure Denotes (value : Value) (node : Node) : Prop where
  evaluates : ∀ wrap, nodeValue wrap node = .ok value
  unrepeated : node.allRepeatedKeys = []
  shown : node.ShowsKeys

inductive DenotesAll : List Value → List Node → Prop where
  | nil : DenotesAll [] []
  | cons {value : Value} {node : Node} {values : List Value} {nodes : List Node}
      (first : Denotes value node) (later : DenotesAll values nodes) :
      DenotesAll (value :: values) (node :: nodes)

inductive DenotesEntries : List (String × Value) → List (Node × Node) → Prop where
  | nil : DenotesEntries [] []
  | cons {name : String} {value : Value} {extent : Source.Extent} {quote : Quote} {node : Node}
      {entries : List (String × Value)} {pairs : List (Node × Node)}
      (first : Denotes value node) (later : DenotesEntries entries pairs) :
      DenotesEntries ((name, value) :: entries) ((.stringConstant extent name quote, node) :: pairs)

theorem denotes_text (extent : Source.Extent) (said : String) (quote : Quote) :
    Denotes (.text said) (.stringConstant extent said quote) :=
  ⟨fun _ => rfl, rfl, .intro rfl (by simp [Node.children])⟩

theorem denotes_number (extent : Source.Extent) (number : Number) :
    Denotes (.number number) (.number extent number) :=
  ⟨fun _ => rfl, rfl, .intro rfl (by simp [Node.children])⟩

theorem denotes_bool (extent : Source.Extent) (value : Bool) :
    Denotes (.bool value) (.variableReference extent (if value then "true" else "false")) := by
  have constant : constantVariable? (if value then "true" else "false") = some value := by
    cases value <;> decide
  exact ⟨fun wrap => by rw [nodeValue, constant], rfl, .intro rfl (by simp [Node.children])⟩

variable {value item : Value} {node : Node} {values items : List Value} {nodes : List Node}
variable {entries : List (String × Value)} {pairs : List (Node × Node)}

theorem Denotes.repeatedInAll (denotes : Denotes value node) : repeatedInAll [node] = [] := by
  rw [Syntax.repeatedInAll, Syntax.repeatedInAll, denotes.unrepeated, List.append_nil]

theorem Denotes.pipeline (denotes : Denotes value node) (extent : Source.Extent) :
    Denotes value (.pipeline extent [node]) := by
  refine ⟨fun wrap => ?_, denotes.repeatedInAll, .intro rfl ?_⟩
  · rw [nodeValue, denotes.evaluates]
  · simpa [Node.children] using denotes.shown

theorem DenotesAll.evaluates (denotes : DenotesAll values nodes) (wrap : Bool) :
    nodeValues wrap nodes = .ok values := by
  induction denotes with
  | nil => rfl
  | cons first later ih =>
      rw [nodeValues, first.evaluates, ih]
      rfl

theorem DenotesAll.unrepeated (denotes : DenotesAll values nodes) : repeatedInAll nodes = [] := by
  induction denotes with
  | nil => rfl
  | cons first later ih =>
      rw [repeatedInAll, first.unrepeated, ih, List.append_nil]

theorem DenotesAll.shown (denotes : DenotesAll values nodes) : ∀ node ∈ nodes, node.ShowsKeys := by
  induction denotes with
  | nil => exact List.forall_mem_nil _
  | cons first later ih => exact List.forall_mem_cons.mpr ⟨first.shown, ih⟩

/-- The value of items that are parted by commas: one item is itself. -/
def joined (item : Value) : List Value → Value
  | [] => item
  | later => .array (item :: later)

theorem denotes_joined (first : Denotes item node) (later : DenotesAll items nodes)
    (extent : Source.Extent) :
    Denotes (joined item items)
      (if nodes.isEmpty then node else .arrayLiteral extent (node :: nodes)) := by
  cases later with
  | nil => exact first
  | cons second others =>
      have all : DenotesAll _ _ := .cons first (.cons second others)
      refine ⟨fun wrap => ?_, all.unrepeated, .intro rfl all.shown⟩
      change Value.array <$> nodeValues wrap _ = _
      rw [all.evaluates]
      rfl

theorem spread_joined (spreads : items = [] → ∀ inner, item ≠ .array inner) :
    spread (joined item items) = item :: items := by
  cases items with
  | nil =>
      have single := spreads rfl
      change spread item = [item]
      cases item with
      | array inner => exact absurd rfl (single inner)
      | _ => rfl
  | cons second others => rfl

theorem denotes_emptyArray (extent : Source.Extent) :
    Denotes (.array []) (.arrayExpression extent []) :=
  ⟨fun _ => rfl, rfl, .intro rfl (by simp [Node.children])⟩

theorem Denotes.array (denotes : Denotes (joined item items) node)
    (spreads : items = [] → ∀ inner, item ≠ .array inner) (extent : Source.Extent) :
    Denotes (.array (item :: items)) (.arrayExpression extent [node]) := by
  refine ⟨fun wrap => ?_, denotes.repeatedInAll, .intro rfl ?_⟩
  · rw [nodeValue, spreadValues, denotes.evaluates, spreadValues]
    change Except.ok (Value.array (spread (joined item items) ++ [])) = _
    rw [spread_joined spreads, List.append_nil]
  · simpa [Node.children] using denotes.shown

theorem DenotesEntries.unrepeated (denotes : DenotesEntries entries pairs) :
    repeatedInPairs pairs = [] := by
  induction denotes with
  | nil => rfl
  | cons first later ih =>
      rw [repeatedInPairs, first.unrepeated, ih]
      rfl

theorem DenotesEntries.shown (denotes : DenotesEntries entries pairs) (extent : Source.Extent) :
    (Node.hashtable extent pairs).ShowsKeys := by
  refine .intro ?_ ?_
  · induction denotes with
    | nil => rfl
    | cons first later ih => exact ih
  · induction denotes with
    | nil => exact List.forall_mem_nil _
    | cons first later ih =>
        exact List.forall_mem_cons.mpr
          ⟨(denotes_text ..).shown, List.forall_mem_cons.mpr ⟨first.shown, ih⟩⟩

theorem DenotesEntries.keys (denotes : DenotesEntries entries pairs) :
    (pairs.map fun pair => keyForm pair.1) = Table.folded entries := by
  induction denotes with
  | nil => rfl
  | cons first later ih =>
      rw [List.map_cons, ih]
      rfl

theorem DenotesEntries.evaluates (denotes : DenotesEntries entries pairs) (wrap : Bool)
    {made : List (String × Value)} (distinct : Table.Distinct (made ++ entries)) :
    pairEntries wrap made pairs = .ok (made ++ entries) := by
  induction denotes generalizing made with
  | nil => rw [pairEntries, List.append_nil]
  | cons first later ih =>
      -- The entry moves from those to come to those made, so the keys stay distinct as a whole.
      rw [List.append_cons] at distinct ⊢
      rw [pairEntries, first.evaluates, if_neg]
      · exact ih distinct
      · rw [← List.append_cons] at distinct
        rw [distinct.not_contains]
        exact Bool.false_ne_true

/-- No key comes again when all forms are different and none was seen before. -/
theorem repeatedKeys_of_nodup {seen : List String}
    (nodup : (pairs.map fun pair => keyForm pair.1).Nodup)
    (new : ∀ pair ∈ pairs, keyForm pair.1 ∉ seen) : repeatedKeys seen pairs = [] := by
  induction pairs generalizing seen with
  | nil => rfl
  | cons pair pairs ih =>
      obtain ⟨key, node⟩ := pair
      obtain ⟨newFirst, newLater⟩ := List.forall_mem_cons.mp new
      rw [List.map_cons, List.nodup_cons] at nodup
      obtain ⟨apart, nodup⟩ := nodup
      have fresh : ∀ pair ∈ pairs, keyForm pair.1 ∉ keyForm key :: seen := by
        intro pair member again
        rcases List.mem_cons.mp again with same | again
        · exact apart (same ▸ List.mem_map_of_mem member)
        · exact newLater pair member again
      rw [repeatedKeys, if_neg (by simpa using newFirst), ih nodup fresh]

theorem DenotesEntries.table (denotes : DenotesEntries entries pairs)
    (distinct : Table.Distinct entries) (extent : Source.Extent) :
    Denotes (.table entries) (.hashtable extent pairs) := by
  refine ⟨fun wrap => ?_, ?_, denotes.shown extent⟩
  · have made : pairEntries wrap [] pairs = .ok entries := denotes.evaluates wrap distinct
    rw [nodeValue, made]
    rfl
  · have nodup : (pairs.map fun pair => keyForm pair.1).Nodup := by
      rw [denotes.keys]
      exact distinct
    rw [Node.allRepeatedKeys, denotes.unrepeated,
      repeatedKeys_of_nodup nodup fun _ _ => List.not_mem_nil]
    rfl

end ScriptAudit.Literal
