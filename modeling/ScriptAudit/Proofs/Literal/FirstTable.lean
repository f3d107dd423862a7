import ScriptAudit.Proofs.Literal.Denotes
import ScriptAudit.Syntax.Walk

namespace ScriptAudit.Literal

/-! The first hashtable of a tree that denotes a table. -/

open Syntax

/-- The node is a hashtable of these pairs, in parentheses or not. -/
inductive IsTable (pairs : List (Node × Node)) : Node → Prop where
  | hashtable (extent : Source.Extent) : IsTable pairs (.hashtable extent pairs)
  | pipeline {element : Node} (extent : Source.Extent) (table : IsTable pairs element) :
      IsTable pairs (.pipeline extent [element])
  | parenthesized {inner : Node} (extent : Source.Extent) (table : IsTable pairs inner) :
      IsTable pairs (.parenthesized extent (some inner))

/-- The hashtable has these entries. -/
def HasEntries (wrap : Bool) (entries : List (String × Value)) (node : Node) : Prop :=
  ∃ extent pairs, node = .hashtable extent pairs ∧ pairEntries wrap [] pairs = .ok entries

variable {wrap : Bool} {entries : List (String × Value)}

theorem map_eq_ok {ε α β : Type} {f : α → β} {result : Except ε α} {value : β}
    (mapped : f <$> result = .ok value) : ∃ given, result = .ok given ∧ f given = value := by
  cases result with
  | ok given => exact ⟨given, rfl, Except.ok.inj mapped⟩
  | error problem => cases mapped

theorem eq_of_wrapped_table {value : Value} (table : wrapped wrap value = .table entries) :
    value = .table entries := by
  cases value with
  | table entries => exact table
  | array items => cases table
  | _ => cases wrap with
    | false => exact table
    | true => cases table

/-- Around a hashtable, only parentheses and pipelines of one element leave its value a table. -/
theorem exists_isTable {node : Node} (value : nodeValue wrap node = .ok (.table entries)) :
    ∃ pairs, IsTable pairs node ∧ pairEntries wrap [] pairs = .ok entries := by
  cases node with
  | pipeline extent elements =>
      cases elements with
      | nil => cases value
      | cons element others =>
          cases others with
          | nil =>
              have inner : nodeValue wrap element = .ok (.table entries) := value
              obtain ⟨pairs, table, evaluated⟩ := exists_isTable inner
              exact ⟨pairs, .pipeline extent table, evaluated⟩
          | cons second others => cases value
  | hashtable extent pairs =>
      obtain ⟨made, evaluated, same⟩ := map_eq_ok value
      cases same
      exact ⟨pairs, .hashtable extent, evaluated⟩
  | parenthesized extent pipeline =>
      cases pipeline with
      | none => cases value
      | some inner =>
          obtain ⟨given, evaluated, same⟩ := map_eq_ok value
          rw [eq_of_wrapped_table same] at evaluated
          obtain ⟨pairs, table, evaluated⟩ := exists_isTable evaluated
          exact ⟨pairs, .parenthesized extent table, evaluated⟩
  | arrayLiteral extent elements | arrayExpression extent statements =>
      obtain ⟨_, -, same⟩ := map_eq_ok value
      cases same
  | variableReference extent name =>
      rw [nodeValue] at value
      split at value <;> cases value
  | _ => cases value

theorem IsTable.value {pairs : List (Node × Node)} {node : Node} (table : IsTable pairs node)
    (wrap : Bool) : nodeValue wrap node = Value.table <$> pairEntries wrap [] pairs := by
  induction table with
  | hashtable extent => rw [nodeValue]
  | pipeline extent table ih => rw [nodeValue, ih]
  | parenthesized extent table ih =>
      rw [nodeValue, ih]
      cases pairEntries wrap [] pairs <;> rfl

/-- A walk that comes to a table meets the hashtable of the table before any other one. -/
theorem IsTable.find?_visit {pairs : List (Node × Node)} {node : Node}
    (table : IsTable pairs node) (rest : List Node) :
    ∃ extent, (visit false (node :: rest)).find? (·.kind = .hashtable) =
      some (.hashtable extent pairs) := by
  induction table with
  | hashtable extent =>
      refine ⟨extent, ?_⟩
      rw [visit, List.find?_cons_of_pos (by simp [Node.kind])]
  | pipeline extent table ih | parenthesized extent table ih =>
      obtain ⟨range, found⟩ := ih
      refine ⟨range, ?_⟩
      rw [visit, List.find?_cons_of_neg (by simp [Node.kind])]
      exact found

theorem Denotes.firstHashtable {statement : Node} (denotes : Denotes (.table entries) statement)
    (extent : Source.Extent) (wrap : Bool) :
    ∃ hashtable, (Node.scriptBlock extent [statement]).firstHashtable = some hashtable ∧
      HasEntries wrap entries hashtable := by
  obtain ⟨pairs, table, evaluated⟩ := exists_isTable (denotes.evaluates wrap)
  obtain ⟨range, found⟩ := table.find?_visit []
  refine ⟨.hashtable range pairs, ?_, range, pairs, rfl, evaluated⟩
  rw [Node.firstHashtable, Node.findFirst, Node.walk, List.find?_cons_of_neg (by simp [Node.kind])]
  exact found

end ScriptAudit.Literal
