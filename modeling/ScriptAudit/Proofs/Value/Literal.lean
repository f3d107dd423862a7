import ScriptAudit.Fault.Problem
import ScriptAudit.Proofs.Value.Table

namespace ScriptAudit

/-! Values that a data file can denote. -/

inductive Value.IsLiteral : Value → Prop where
  | bool (value : Bool) : IsLiteral (.bool value)
  | number (value : Number) : IsLiteral (.number value)
  | text (value : String) : IsLiteral (.text value)
  | array {items : List Value} (all : ∀ item ∈ items, IsLiteral item) : IsLiteral (.array items)
  | table {entries : List (String × Value)} (distinct : Table.Distinct entries)
      (all : ∀ entry ∈ entries, IsLiteral entry.2) : IsLiteral (.table entries)

/-- No text and no key in a literal has a carriage return. -/
inductive Value.IsClean : Value → Prop where
  | bool (value : Bool) : IsClean (.bool value)
  | number (value : Number) : IsClean (.number value)
  | text {value : String} (clean : '\r' ∉ value.toList) : IsClean (.text value)
  | array {items : List Value} (all : ∀ item ∈ items, IsClean item) : IsClean (.array items)
  | table {entries : List (String × Value)} (keys : ∀ entry ∈ entries, '\r' ∉ entry.1.toList)
      (all : ∀ entry ∈ entries, IsClean entry.2) : IsClean (.table entries)

namespace Value.IsLiteral

variable {entries : List (String × Value)}

theorem distinct (literal : (Value.table entries).IsLiteral) : Table.Distinct entries := by
  cases literal with
  | table distinct all => exact distinct

theorem entry (literal : (Value.table entries).IsLiteral) {entry : String × Value}
    (member : entry ∈ entries) : entry.2.IsLiteral := by
  cases literal with
  | table distinct all => exact all entry member

end Value.IsLiteral

namespace Fault

@[simp] theorem areShown_eq (items : List Value) : areShown items = items.all isShown := by
  induction items with
  | nil => rfl
  | cons item items ih => rw [areShown, ih, List.all_cons]

@[simp] theorem areShownEntries_eq (entries : List (String × Value)) :
    areShownEntries entries = entries.all (isShown ·.2) := by
  induction entries with
  | nil => rfl
  | cons entry entries ih => rw [areShownEntries, ih, List.all_cons]

end Fault
end ScriptAudit
