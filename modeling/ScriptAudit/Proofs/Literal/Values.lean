import ScriptAudit.Literal.Evaluate
import ScriptAudit.Proofs.Fault.Ends
import ScriptAudit.Proofs.Value.Literal

namespace ScriptAudit.Literal

/-! What evaluation ends with: a literal, or the fault that some node is none. -/

open Syntax

def IsUnsupported (fault : Fault) : Prop :=
  fault.kind = .unsupportedLiteral

theorem wrapped_literal {value : Value} (wrap : Bool) (literal : value.IsLiteral) :
    (wrapped wrap value).IsLiteral := by
  have alone : Value.IsLiteral (if wrap then .array [value] else value) := by
    cases wrap with
    | false => exact literal
    | true => exact .array fun item member => List.mem_singleton.mp member ▸ literal
  cases literal with
  | array all => exact .array all
  | table distinct all => exact .table distinct all
  | _ => exact alone

theorem spread_literal {value : Value} (literal : value.IsLiteral) :
    ∀ item ∈ spread value, item.IsLiteral := by
  cases literal with
  | array all => exact all
  | bool value => exact List.forall_mem_singleton.mpr (.bool value)
  | number value => exact List.forall_mem_singleton.mpr (.number value)
  | text value => exact List.forall_mem_singleton.mpr (.text value)
  | table distinct all => exact List.forall_mem_singleton.mpr (.table distinct all)

/-- The items of statements are those of their values, one after another. -/
theorem spreadValues_eq (wrap : Bool) (nodes : List Node) :
    spreadValues wrap nodes = List.flatMap spread <$> nodeValues wrap nodes := by
  induction nodes with
  | nil => rfl
  | cons node rest ih =>
      rw [spreadValues, nodeValues, ih]
      cases nodeValue wrap node with
      | error fault => rfl
      | ok first =>
          cases nodeValues wrap rest with
          | error fault => rfl
          | ok later => rfl

mutual

theorem nodeValue_ends (wrap : Bool) (node : Node) :
    Ends Value.IsLiteral IsUnsupported (nodeValue wrap node) := by
  cases node with
  | pipeline extent elements =>
      match elements with
      | [] => rfl
      | [element] => exact nodeValue_ends wrap element
      | _ :: _ :: _ => rfl
  | hashtable extent pairs =>
      exact (pairEntries_ends wrap pairs Table.distinct_nil (List.forall_mem_nil _)).map
  | arrayLiteral extent elements =>
      exact ((nodeValues_ends wrap elements).imp (fun _ => .array) fun _ => id).map
  | arrayExpression extent statements =>
      rw [nodeValue, spreadValues_eq]
      refine ((nodeValues_ends wrap statements).imp (fun values all => ?_) fun _ => id).map.map
      exact .array (List.forall_mem_flatMap.mpr fun value member =>
        spread_literal (all value member))
  | parenthesized extent pipeline =>
      match pipeline with
      | none => rfl
      | some inner =>
          exact ((nodeValue_ends wrap inner).imp (fun _ => wrapped_literal wrap) fun _ => id).map
  | variableReference extent name =>
      rw [nodeValue]
      cases constantVariable? name with
      | some value => exact .bool value
      | none => rfl
  | stringConstant extent value quote => exact .text value
  | number extent value => exact .number value
  | _ => rfl

theorem nodeValues_ends (wrap : Bool) (nodes : List Node) :
    Ends (∀ item ∈ ·, Value.IsLiteral item) IsUnsupported (nodeValues wrap nodes) := by
  cases nodes with
  | nil => exact List.forall_mem_nil _
  | cons node rest =>
      rw [nodeValues]
      refine (nodeValue_ends wrap node).bind fun first literal => ?_
      refine (nodeValues_ends wrap rest).bind fun later all => ?_
      exact List.forall_mem_cons.mpr ⟨literal, all⟩

theorem pairEntries_ends (wrap : Bool) {made : List (String × Value)} (pairs : List (Node × Node))
    (distinct : Table.Distinct made) (all : ∀ entry ∈ made, entry.2.IsLiteral) :
    Ends (fun entries => Value.IsLiteral (.table entries)) IsUnsupported
      (pairEntries wrap made pairs) := by
  match pairs with
  | [] => exact .table distinct all
  | (key, node) :: rest =>
      cases key with
      | stringConstant extent name quote =>
          rw [pairEntries]
          split
          · exact rfl
          · next new =>
              refine (nodeValue_ends wrap node).bind fun value literal => ?_
              refine pairEntries_ends wrap rest (distinct.concat (Bool.eq_false_iff.mpr new)) ?_
              exact List.forall_mem_append.mpr ⟨all, List.forall_mem_singleton.mpr literal⟩
      | _ => exact rfl

end

end ScriptAudit.Literal
