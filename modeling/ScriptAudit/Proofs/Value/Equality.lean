import ScriptAudit.Proofs.Number.Quantity
import ScriptAudit.Proofs.Value.Matched
import ScriptAudit.Proofs.Value.Respelled

namespace ScriptAudit.Value

/-! The equality of literals without a nan is an equivalence.

Tables are equal when their keys are the same but for letter case and have equal values. -/

open List (Forall₂)
open Table (Matched matched_iff)

/-- Literals whose numbers are canonical. -/
inductive Comparable : Value → Prop where
  | bool (value : Bool) : Comparable (.bool value)
  | number {value : Number} (canonical : value.Canonical) : Comparable (.number value)
  | text (value : String) : Comparable (.text value)
  | array {items : List Value} (all : ∀ item ∈ items, Comparable item) :
      Comparable (.array items)
  | table {entries : List (String × Value)} (distinct : Table.Distinct entries)
      (all : ∀ entry ∈ entries, Comparable entry.2) : Comparable (.table entries)

abbrev Same (value other : Value) : Prop :=
  value.same other = true

/-- The values are equal or one object. -/
abbrev Agrees (value other : Value) : Prop :=
  value.agrees other = true

variable {value other further : Value} {entries others : List (String × Value)}

namespace Comparable

theorem literal (comparable : value.Comparable) : value.IsLiteral := by
  induction comparable with
  | bool value => exact .bool value
  | number canonical => exact .number _
  | text value => exact .text value
  | array all ih => exact .array ih
  | table distinct all ih => exact .table distinct ih

theorem nanFree (comparable : value.Comparable) : value.NanFree := by
  induction comparable with
  | bool value => exact .bool value
  | number canonical => exact .number (Number.Canonical.isNan canonical)
  | text value => exact .text value
  | array all ih => exact .array ih
  | table distinct all ih => exact .table ih

theorem distinct (comparable : (Value.table entries).Comparable) : Table.Distinct entries :=
  comparable.literal.distinct

theorem entry (comparable : (Value.table entries).Comparable) {entry : String × Value}
    (member : entry ∈ entries) : entry.2.Comparable := by
  cases comparable with
  | table distinct all => exact all entry member

theorem number? (comparable : value.Comparable) {number : Number}
    (denotes : value.number? = some number) : number.Canonical := by
  cases comparable with
  | bool truth =>
      cases denotes
      trivial
  | number canonical =>
      cases denotes
      exact canonical
  | text | array | table => cases denotes

end Comparable

theorem same_of_number? {number : Number} (denotes : value.number? = some number) :
    value.Same other ↔
      ∃ number', other.number? = some number' ∧ number.same number' = true := by
  rw [Same, ← Option.any_eq_true]
  cases value with
  | bool truth =>
      cases denotes
      rw [Value.same]
  | number number =>
      cases denotes
      rw [Value.same]
  | _ => cases denotes

theorem same_text_iff {text : String} : (Value.text text).Same other ↔ other = .text text := by
  cases other with
  | text text' =>
      rw [Same, Value.same, beq_iff_eq, Value.text.injEq]
      exact eq_comm
  | _ => simp [Value.same]

theorem Comparable.agrees_iff (comparable : value.Comparable) :
    value.agrees other = true ↔ value.Same other :=
  comparable.nanFree.agrees_iff

theorem same_array_iff {items : List Value} (comparable : (array items).Comparable) :
    (array items).Same other ↔ ∃ items', other = .array items' ∧ Forall₂ Same items items' := by
  cases other with
  | array items' =>
      rw [Same, Value.same, sameItems_eq_true]
      simp only [Value.array.injEq, exists_eq_left']
      cases comparable with
      | array all =>
          constructor <;> intro paired <;>
            refine forall₂_imp_of_mem paired fun item member item' _ found => ?_
          · exact (all item member).agrees_iff.mp found
          · exact agrees_of_same found
  | _ => simp [Value.same]

theorem same_table_iff (comparable : (table entries).Comparable)
    (otherComparable : other.Comparable) : (table entries).Same other ↔
      ∃ others, other = .table others ∧ Matched Same entries others := by
  cases otherComparable with
  | table distinct all =>
      rw [Same, Value.same, Bool.and_eq_true, beq_iff_eq, entriesIn_eq_true]
      simp only [Value.table.injEq, exists_eq_left', matched_iff comparable.distinct distinct]
      refine and_congr_right fun _ => forall₂_congr fun entry member => ?_
      simp only [(comparable.entry member).agrees_iff, Table.Finds]
  | _ => simp [Value.same]

namespace Same

theorem refl (comparable : value.Comparable) : value.Same value := by
  induction comparable with
  | bool truth => exact (same_of_number? rfl).mpr ⟨_, rfl, Number.same_self rfl⟩
  | number canonical =>
      exact (same_of_number? rfl).mpr ⟨_, rfl, Number.same_self (Number.Canonical.isNan canonical)⟩
  | text text => exact same_text_iff.mpr rfl
  | array all ih =>
      exact (same_array_iff (.array all)).mpr ⟨_, rfl, List.forall₂_same.mpr ih⟩
  | @table entries distinct all ih =>
      refine (same_table_iff (.table distinct all) (.table distinct all)).mpr ⟨entries, rfl, ?_⟩
      refine (matched_iff distinct distinct).mpr ⟨rfl, fun entry member => ?_⟩
      exact ⟨entry.2, distinct.get?_of_mem member rfl, ih entry member⟩

end Same

/-- Numbers and truth values are equal when they stand for the same quantity. -/
theorem same_quantities {number : Number} (comparable : value.Comparable)
    (otherComparable : other.Comparable) (denotes : value.number? = some number) :
    value.Same other ↔
      ∃ number', other.number? = some number' ∧ number.quantity? = number'.quantity? := by
  rw [same_of_number? denotes]
  refine exists_congr fun number' => and_congr_right fun otherDenotes => ?_
  exact Number.same_iff (comparable.number? denotes) (otherComparable.number? otherDenotes)

namespace Same

theorem symm_number {number : Number} (same : value.Same other)
    (denotes : value.number? = some number) (comparable : value.Comparable)
    (otherComparable : other.Comparable) : other.Same value := by
  obtain ⟨_, otherDenotes, quantity⟩ := (same_quantities comparable otherComparable denotes).mp same
  exact (same_quantities otherComparable comparable otherDenotes).mpr ⟨_, denotes, quantity.symm⟩

theorem symm (same : value.Same other) (comparable : value.Comparable)
    (otherComparable : other.Comparable) : other.Same value := by
  induction comparable generalizing other with
  | bool truth => exact same.symm_number rfl (.bool truth) otherComparable
  | number canonical => exact same.symm_number rfl (.number canonical) otherComparable
  | text text =>
      obtain rfl := same_text_iff.mp same
      exact same_text_iff.mpr rfl
  | array all ih =>
      obtain ⟨items', rfl, paired⟩ := (same_array_iff (.array all)).mp same
      refine (same_array_iff otherComparable).mpr ⟨_, rfl, ?_⟩
      cases otherComparable with
      | array otherAll =>
          exact (forall₂_imp_of_mem paired fun item member item' member' found =>
            ih item member found (otherAll item' member')).flip
  | @table entries distinct all ih =>
      have comparable := Comparable.table distinct all
      obtain ⟨others, rfl, matched⟩ := (same_table_iff comparable otherComparable).mp same
      refine (same_table_iff otherComparable comparable).mpr ⟨entries, rfl, ?_⟩
      exact (matched.imp fun entry member other member' found =>
        ih entry member found (otherComparable.entry member')).flip

section Chained

variable (same : value.Same other) (next : other.Same further)
include same next

theorem trans_number {number : Number} (denotes : value.number? = some number)
    (first : value.Comparable) (second : other.Comparable) (third : further.Comparable) :
    value.Same further := by
  obtain ⟨_, denotesNext, quantity⟩ := (same_quantities first second denotes).mp same
  obtain ⟨_, denotesLast, later⟩ := (same_quantities second third denotesNext).mp next
  exact (same_quantities first third denotes).mpr ⟨_, denotesLast, quantity.trans later⟩

theorem trans (first : value.Comparable) (second : other.Comparable) (third : further.Comparable) :
    value.Same further := by
  induction first generalizing other further with
  | bool truth => exact same.trans_number next rfl (.bool truth) second third
  | number canonical => exact same.trans_number next rfl (.number canonical) second third
  | text text =>
      obtain rfl := same_text_iff.mp same
      exact next
  | @array items all ih =>
      obtain ⟨middle, rfl, paired⟩ := (same_array_iff (.array all)).mp same
      obtain ⟨last, rfl, pairedNext⟩ := (same_array_iff second).mp next
      refine (same_array_iff (.array all)).mpr ⟨_, rfl, ?_⟩
      cases second with
      | array middleAll =>
          cases third with
          | array lastAll =>
              have known : Forall₂ (fun item item' => item'.Comparable ∧ Same item item')
                  items middle := forall₂_imp_of_mem paired
                fun _ _ item' member found => ⟨middleAll item' member, found⟩
              refine forall₂_imp_of_mem (forall₂_comp known pairedNext) ?_
              rintro item member end' memberLast ⟨item', ⟨comparable, found⟩, foundNext⟩
              exact ih item member found foundNext comparable (lastAll end' memberLast)
  | @table entries distinct all ih =>
      have comparable := Comparable.table distinct all
      obtain ⟨others, rfl, matched⟩ := (same_table_iff comparable second).mp same
      obtain ⟨last, rfl, matchedNext⟩ := (same_table_iff second third).mp next
      have known : Matched (fun value other => other.Comparable ∧ value.Same other)
          entries others := matched.imp
        fun _ _ other member found => ⟨second.entry member, found⟩
      refine (same_table_iff comparable third).mpr ⟨_, rfl, ?_⟩
      refine (known.trans matchedNext).imp ?_
      rintro entry member final memberLast ⟨other, ⟨comparable, found⟩, foundNext⟩
      exact ih entry member found foundNext comparable (third.entry memberLast)

end Chained

end Same

/-- A literal without a nan is respelled to one. -/
theorem Comparable.respelled {value value' : Value} (comparable : value.Comparable)
    (respelled : value.Respelled value') : value'.Comparable := by
  induction comparable generalizing value' with
  | bool truth =>
      cases respelled
      exact .bool truth
  | number canonical =>
      cases respelled with
      | number => exact .number canonical
      | nan => exact canonical.elim
  | text text =>
      cases respelled
      exact .text text
  | array all ih =>
      cases respelled with
      | array respelled =>
          refine .array fun item' member => ?_
          obtain ⟨item, known, found⟩ := forall₂_left_of_mem respelled member
          exact ih item known found
  | table distinct all ih =>
      have literal := (Comparable.table distinct all).literal.respelled respelled
      cases respelled with
      | table order respelled =>
          refine .table literal.distinct fun entry' member => ?_
          obtain ⟨entry, known, found⟩ :=
            (Respelled.table order respelled).exists_spelled member
          exact ih entry known found.value

/-- Equality does not see how values are spelled and ordered. -/
theorem Same.respelled_iff {value value' other other' : Value} (comparable : value.Comparable)
    (otherComparable : other.Comparable) (respelled : value.Respelled value')
    (otherRespelled : other.Respelled other') : value'.Same other' ↔ value.Same other := by
  have again := comparable.respelled respelled
  have otherAgain := otherComparable.respelled otherRespelled
  have same : value.Same value' := respelled.same comparable.literal comparable.nanFree
  have otherSame : other.Same other' :=
    otherRespelled.same otherComparable.literal otherComparable.nanFree
  constructor
  · intro equal
    have front := same.trans equal comparable again otherAgain
    exact front.trans (otherSame.symm otherComparable otherAgain) comparable otherAgain
      otherComparable
  · intro equal
    have front := (same.symm comparable again).trans equal again comparable otherComparable
    exact front.trans otherSame again otherComparable otherAgain

theorem same_tables_iff (comparable : (table entries).Comparable)
    (otherComparable : (table others).Comparable) :
    (table entries).Same (table others) ↔ entries.length = others.length ∧
      ∀ key ∈ others.map Prod.fst, ∃ value other,
        Table.get? entries key = some value ∧ Table.get? others key = some other ∧
          value.Same other := by
  rw [same_table_iff comparable otherComparable]
  simp only [table.injEq, exists_eq_left']
  have distinct := comparable.distinct
  have otherDistinct := otherComparable.distinct
  constructor
  · intro matched
    refine ⟨((Table.matched_iff distinct otherDistinct).mp matched).1, ?_⟩
    intro key member
    obtain ⟨entry, known, rfl⟩ := List.mem_map.mp member
    have found := otherDistinct.get?_of_mem known rfl
    obtain ⟨value, hit, same⟩ := matched.back entry.1 entry.2 found
    exact ⟨value, entry.2, hit, found, same⟩
  · rintro ⟨length, finds⟩
    have turned : Table.Matched (flip Same) others entries := by
      refine (Table.matched_iff otherDistinct distinct).mpr
        ⟨length.symm, fun entry member => ?_⟩
      obtain ⟨value, other, hit, found, same⟩ := finds entry.1 (List.mem_map_of_mem member)
      rw [otherDistinct.get?_of_mem member rfl] at found
      cases found
      exact ⟨value, hit, same⟩
    exact turned.flip

end ScriptAudit.Value
