import ScriptAudit.Proofs.Value.Literal
import ScriptAudit.Proofs.Value.Paired
import ScriptAudit.Value.Equality

namespace ScriptAudit

/-! Values that differ in the letter case of their keys and in the order of their entries.

Lookups ignore both, at every level.  So does the equality of values, unless it meets a nan, which
equals no other one. -/

open List (Forall₂)

mutual

/-- The second value has the entries of the first in any order, at every level, under keys that
agree but for letter case.  A nan may have become another one. -/
inductive Value.Respelled : Value → Value → Prop where
  | bool (value : Bool) : Respelled (.bool value) (.bool value)
  | number (value : Number) : Respelled (.number value) (.number value)
  | nan (object object' : Nat) :
      Respelled (.number (.real (.nan object))) (.number (.real (.nan object')))
  | text (value : String) : Respelled (.text value) (.text value)
  | array {items items' : List Value} (all : Forall₂ Respelled items items') :
      Respelled (.array items) (.array items')
  | list {items items' : List Value} (all : Forall₂ Respelled items items') :
      Respelled (.list items) (.list items')
  | table {entries ordered entries' : List (String × Value)} (order : entries.Perm ordered)
      (all : Forall₂ EntryRespelled ordered entries') :
      Respelled (.table entries) (.table entries')
  | mapping {entries ordered entries' : List (String × Value)} (order : entries.Perm ordered)
      (all : Forall₂ EntryRespelled ordered entries') :
      Respelled (.mapping (entries.map fun entry => (.text entry.1, entry.2)))
        (.mapping (entries'.map fun entry => (.text entry.1, entry.2)))

inductive Value.EntryRespelled : String × Value → String × Value → Prop where
  | intro {key key' : String} {value value' : Value} (same : Text.lower key = Text.lower key')
      (respelled : Respelled value value') : EntryRespelled (key, value) (key', value')

end

/-- No number in the value is a nan. -/
inductive Value.NanFree : Value → Prop where
  | null : NanFree .null
  | bool (value : Bool) : NanFree (.bool value)
  | number {value : Number} (number : value.isNan = false) : NanFree (.number value)
  | text (value : String) : NanFree (.text value)
  | array {items : List Value} (all : ∀ item ∈ items, NanFree item) : NanFree (.array items)
  | table {entries : List (String × Value)} (all : ∀ entry ∈ entries, NanFree entry.2) :
      NanFree (.table entries)
  | list {items : List Value} (all : ∀ item ∈ items, NanFree item) : NanFree (.list items)
  | mapping {pairs : List (Value × Value)} (keys : ∀ pair ∈ pairs, NanFree pair.1)
      (all : ∀ pair ∈ pairs, NanFree pair.2) : NanFree (.mapping pairs)
  | path (value : String) : NanFree (.path value)
  | bytes (value : List UInt8) : NanFree (.bytes value)

theorem Number.same_self {value : Number} (number : value.isNan = false) :
    value.same value = true := by
  cases value with
  | integer value => exact beq_self_eq_true value
  | real value =>
      cases value with
      | finite negative mantissa exponent => simp [same, Binary64.same]
      | infinite negative => exact beq_self_eq_true negative
      | nan object => cases number

namespace Value

theorem EntryRespelled.key {entry entry' : String × Value} (found : EntryRespelled entry entry') :
    Text.lower entry.1 = Text.lower entry'.1 := by
  cases found with
  | intro same respelled => exact same

theorem EntryRespelled.value {entry entry' : String × Value} (found : EntryRespelled entry entry') :
    entry.2.Respelled entry'.2 := by
  cases found with
  | intro same respelled => exact respelled

variable {value value' : Value} {entries entries' : List (String × Value)}

theorem Respelled.folded (respelled : (Value.table entries).Respelled (.table entries')) :
    (Table.folded entries).Perm (Table.folded entries') := by
  cases respelled with
  | @table _ ordered _ order all =>
      have same : Table.folded ordered = Table.folded entries' := by
        clear order
        induction all with
        | nil => rfl
        | cons first later ih => exact congrArg₂ List.cons first.key ih
      exact same ▸ order.map _

theorem Respelled.distinct (respelled : (Value.table entries).Respelled (.table entries'))
    (distinct : Table.Distinct entries) : Table.Distinct entries' :=
  respelled.folded.nodup_iff.mp distinct

theorem Respelled.length_eq (respelled : (Value.table entries).Respelled (.table entries')) :
    entries.length = entries'.length := by
  simpa [Table.folded] using respelled.folded.length_eq

theorem Respelled.exists_respelled (respelled : (Value.table entries).Respelled (.table entries'))
    {entry : String × Value} (member : entry ∈ entries) :
    ∃ entry' ∈ entries', EntryRespelled entry entry' := by
  cases respelled with
  | table order all => exact forall₂_right_of_mem all (order.mem_iff.mp member)

theorem Respelled.exists_spelled (respelled : (Value.table entries).Respelled (.table entries'))
    {entry' : String × Value} (member : entry' ∈ entries') :
    ∃ entry ∈ entries, EntryRespelled entry entry' := by
  cases respelled with
  | table order all =>
      obtain ⟨entry, known, found⟩ := forall₂_left_of_mem all member
      exact ⟨entry, order.mem_iff.mpr known, found⟩

/-- A literal stays one. -/
theorem IsLiteral.respelled (literal : value.IsLiteral) (respelled : value.Respelled value') :
    value'.IsLiteral := by
  induction literal generalizing value' with
  | bool | number | text => cases respelled <;> constructor
  | array all ih =>
      cases respelled with
      | array respelled =>
          refine .array fun item' member => ?_
          obtain ⟨item, known, found⟩ := forall₂_left_of_mem respelled member
          exact ih item known found
  | table distinct all ih =>
      cases respelled with
      | table order respelled =>
          have whole := Respelled.table order respelled
          refine .table (whole.distinct distinct) fun entry' member => ?_
          obtain ⟨entry, known, found⟩ := whole.exists_spelled member
          exact ih entry known found.value

/-- A key is in neither of the tables, or it has a value in one and the re-spelled value in the
other. -/
theorem Respelled.get? (respelled : (Value.table entries).Respelled (.table entries'))
    (distinct : Table.Distinct entries) (key : String) :
    (Table.get? entries key = none ∧ Table.get? entries' key = none) ∨
      ∃ value value', Table.get? entries key = some value ∧
        Table.get? entries' key = some value' ∧ value.Respelled value' := by
  cases found : Table.get? entries' key with
  | none =>
      refine .inl ⟨Table.get?_eq_none.mpr fun entry member hit => ?_, rfl⟩
      obtain ⟨entry', member', same⟩ := respelled.exists_respelled member
      exact Table.get?_eq_none.mp found entry' member' (same.key.symm.trans hit)
  | some value' =>
      obtain ⟨entry', member', hit, rfl⟩ := Table.mem_of_get? found
      obtain ⟨entry, member, same⟩ := respelled.exists_spelled member'
      have found := distinct.get?_of_mem member (same.key.trans hit)
      exact .inr ⟨entry.2, entry'.2, found, rfl, same.value⟩

theorem entriesIn_eq_true {others : List (String × Value)} :
    entriesIn entries others = true ↔ ∀ entry ∈ entries, ∃ value,
      Table.get? others entry.1 = some value ∧ entry.2.agrees value = true := by
  induction entries with
  | nil => simp [entriesIn]
  | cons entry entries ih =>
      rw [entriesIn, Bool.and_eq_true, ih, Option.any_eq_true, List.forall_mem_cons]
      rfl

theorem sameItems_eq_true {items items' : List Value} :
    sameItems items items' = true ↔
      Forall₂ (fun item item' => item.agrees item' = true) items items' := by
  induction items generalizing items' with
  | nil => cases items' <;> simp [sameItems]
  | cons item items ih => cases items' <;> simp [sameItems, agrees, ih]

theorem agrees_of_same (same : value.same value' = true) : value.agrees value' = true := by
  rw [agrees, same, Bool.or_true]

/-- Only a nan can be one object with what it does not equal. -/
theorem agrees_iff : value.agrees value' = true ↔ value.same value' = true ∨
    ∃ object, value = .number (.real (.nan object)) ∧ value' = value := by
  rw [agrees, Bool.or_eq_true, or_comm]
  refine or_congr_right ?_
  constructor
  · fun_cases oneNan value value' with
    | case1 object object' =>
        intro one
        exact ⟨object, rfl, by rw [beq_iff_eq.mp one]⟩
    | case2 => exact nofun
  · rintro ⟨object, rfl, rfl⟩
    exact beq_self_eq_true object

theorem NanFree.agrees_iff (comparable : value.NanFree) :
    value.agrees value' = true ↔ value.same value' = true := by
  rw [Value.agrees_iff, or_iff_left]
  rintro ⟨object, rfl, -⟩
  cases comparable with
  | number number => cases number

/-- A literal without a nan equals what it is re-spelled to. -/
theorem Respelled.same (respelled : value.Respelled value') (literal : value.IsLiteral)
    (comparable : value.NanFree) : value.same value' = true := by
  induction literal generalizing value' with
  | bool truth =>
      cases respelled
      simp [Value.same, number?, Number.same]
  | number number =>
      cases comparable with
      | number comparable =>
          cases respelled with
          | number =>
              rw [Value.same, number?, Option.any_some]
              exact Number.same_self comparable
          | nan object => cases comparable
  | text text =>
      cases respelled
      simp [Value.same]
  | @array items all ih =>
      cases comparable with
      | array comparable =>
          cases respelled with
          | array respelled =>
              rw [Value.same, sameItems_eq_true]
              have again : ∀ item ∈ items, ∀ item', item.Respelled item' →
                  item.agrees item' = true := fun item member item' found =>
                agrees_of_same (ih item member found (comparable item member))
              exact ((List.forall₂_and_left _ _).mpr ⟨again, respelled⟩).imp
                fun item item' related => related.1 item' related.2
  | @table entries distinct all ih =>
      cases comparable with
      | table comparable =>
          cases respelled with
          | @table _ ordered entries' order respelled =>
              have whole := Respelled.table order respelled
              rw [Value.same, whole.length_eq, beq_self_eq_true, Bool.true_and]
              refine entriesIn_eq_true.mpr fun entry member => ?_
              obtain ⟨entry', member', found⟩ := whole.exists_respelled member
              exact ⟨entry'.2, (whole.distinct distinct).get?_of_mem member' found.key.symm,
                agrees_of_same (ih entry member found.value (comparable entry member))⟩

end Value
end ScriptAudit
