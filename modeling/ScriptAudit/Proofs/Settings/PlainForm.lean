import ScriptAudit.Proofs.Settings.Freezing
import ScriptAudit.Proofs.Settings.Projection
import ScriptAudit.Proofs.Value.Dictionary

namespace ScriptAudit.Value

/-! Literals and their plain forms.

Freezing and the way back are inverse to each other, between the literals and the plain data whose
keys stay distinct when letter case is ignored. -/

open Settings

variable {given literal : Value}

/-- Plain data with a literal form: lists, and mappings from texts that stay distinct when letter
case is ignored. -/
inductive IsPlain : Value → Prop where
  | bool (value : Bool) : IsPlain (.bool value)
  | number (value : Number) : IsPlain (.number value)
  | text (value : String) : IsPlain (.text value)
  | list {items : List Value} (all : ∀ item ∈ items, IsPlain item) : IsPlain (.list items)
  | mapping {entries : List (String × Value)} (distinct : Table.Distinct entries)
      (all : ∀ entry ∈ entries, IsPlain entry.2) :
      IsPlain (.mapping (entries.map fun entry => (.text entry.1, entry.2)))

@[simp] theorem toPlainItems_eq (items : List Value) : toPlainItems items = items.map toPlain := by
  induction items with
  | nil => rfl
  | cons item rest ih => rw [toPlainItems, ih, List.map_cons]

@[simp] theorem toPlainEntries_eq (entries : List (String × Value)) :
    toPlainEntries entries = entries.map fun entry => (.text entry.1, entry.2.toPlain) := by
  induction entries with
  | nil => rfl
  | cons entry rest ih => rw [toPlainEntries, ih, List.map_cons]

/-- No key of a table takes the place of another when the entries are put into a dictionary one by
one. -/
theorem toPlain_table {entries : List (String × Value)} (distinct : Table.Distinct entries) :
    (table entries).toPlain =
      .mapping ((Dictionary.setAll [] (entries.map fun entry => (entry.1, entry.2.toPlain))).map
        fun entry => (.text entry.1, entry.2)) := by
  have spelled : (entries.map Prod.fst).Nodup := by
    refine .of_map Text.lower ?_
    rwa [List.map_map]
  rw [Dictionary.setAll_new (by simpa [Function.comp_def] using spelled)]
  simp [toPlain]

/-- Freezing succeeds with the literals that a value stands for, and with nothing else. -/
theorem freeze_eq_ok_iff :
    given.freeze = .ok literal ↔ given.StandsFor literal ∧ literal.IsLiteral := by
  rw [← @normalize_eq_ok_iff ⟨""⟩]
  have concur := normalize_freezes ⟨""⟩ given
  generalize normalize ⟨""⟩ given = normal at concur ⊢
  generalize given.freeze = frozen at concur ⊢
  cases concur with
  | ok value => simp
  | error => simp

theorem toPlain_standsFor (valid : literal.IsLiteral) : literal.toPlain.StandsFor literal := by
  induction valid with
  | bool value => exact .bool value
  | number value => exact .number value
  | text value => exact .text value
  | array valid ih =>
      rw [toPlain, toPlainItems_eq]
      refine .list (itemsStandFor_iff.mpr ?_)
      exact List.forall₂_map_left_iff.mpr (List.forall₂_same.mpr ih)
  | table distinct valid ih =>
      rw [toPlain, toPlainEntries_eq]
      refine .mapping (pairsStandFor_iff.mpr (List.forall₂_map_left_iff.mpr ?_))
      exact List.forall₂_same.mpr fun entry member => ⟨rfl, ih entry member⟩

/-- The plain data are the plain forms of the literals. -/
theorem isPlain_iff {plain : Value} :
    plain.IsPlain ↔ ∃ literal : Value, literal.IsLiteral ∧ literal.toPlain = plain := by
  constructor
  · intro plain
    induction plain with
    | bool value => exact ⟨_, .bool value, rfl⟩
    | number value => exact ⟨_, .number value, rfl⟩
    | text value => exact ⟨_, .text value, rfl⟩
    | @list items _ ih =>
        choose! literal valid same using ih
        refine ⟨.array (items.map literal), .array (List.forall_mem_map.mpr valid), ?_⟩
        rw [toPlain, toPlainItems_eq, List.map_map]
        exact congrArg Value.list ((List.map_congr_left same).trans (List.map_id' items))
    | @mapping entries distinct _ ih =>
        choose! literal valid same using ih
        refine ⟨.table (entries.map fun entry => (entry.1, literal entry)), .table ?_ ?_, ?_⟩
        · rwa [Table.Distinct, Table.folded, List.map_map]
        · exact List.forall_mem_map.mpr valid
        · rw [toPlain, toPlainEntries_eq, List.map_map]
          refine congrArg Value.mapping (List.map_congr_left fun entry member => ?_)
          exact congrArg (Prod.mk (Value.text entry.1)) (same entry member)
  · rintro ⟨literal, valid, rfl⟩
    induction valid with
    | bool value => exact .bool value
    | number value => exact .number value
    | text value => exact .text value
    | array valid ih =>
        rw [toPlain, toPlainItems_eq]
        exact .list (List.forall_mem_map.mpr ih)
    | @table entries distinct valid ih =>
        have plain : IsPlain (.mapping ((entries.map fun entry =>
            (entry.1, entry.2.toPlain)).map fun entry => (.text entry.1, entry.2))) := .mapping
          (by rwa [Table.Distinct, Table.folded, List.map_map])
          (List.forall_mem_map.mpr ih)
        rw [List.map_map] at plain
        rwa [toPlain, toPlainEntries_eq]

/-- Freezing undoes the conversion to plain data and is undone by it, and frozen values stay as they
are.  No key of a table is lost in its plain form. -/
theorem freeze_undoes_toPlain :
    (∀ literal : Value, literal.IsLiteral →
      literal.toPlain.freeze = .ok literal ∧ literal.toPlain.IsPlain ∧
        literal.freeze = .ok literal) ∧
    (∀ plain : Value, plain.IsPlain →
      ∃ literal, plain.freeze = .ok literal ∧ literal.IsLiteral ∧ literal.toPlain = plain) ∧
    (∀ given literal : Value, given.freeze = .ok literal →
      literal.IsLiteral ∧ literal.freeze = .ok literal) ∧
    ∀ entries : List (String × Value), (table entries).IsLiteral →
      (table entries).toPlain =
        .mapping ((Dictionary.setAll [] (entries.map fun entry => (entry.1, entry.2.toPlain))).map
          fun entry => (.text entry.1, entry.2)) := by
  have again {literal : Value} (valid : literal.IsLiteral) : literal.freeze = .ok literal :=
    freeze_eq_ok_iff.mpr ⟨standsFor_self valid, valid⟩
  have back {literal : Value} (valid : literal.IsLiteral) : literal.toPlain.freeze = .ok literal :=
    freeze_eq_ok_iff.mpr ⟨toPlain_standsFor valid, valid⟩
  refine ⟨fun literal valid => ?_, fun plain isPlain => ?_, fun given literal made => ?_,
    fun entries valid => toPlain_table valid.distinct⟩
  · exact ⟨back valid, isPlain_iff.mpr ⟨literal, valid, rfl⟩, again valid⟩
  · obtain ⟨literal, valid, rfl⟩ := isPlain_iff.mp isPlain
    exact ⟨literal, back valid, valid, rfl⟩
  · have valid := (freeze_eq_ok_iff.mp made).2
    exact ⟨valid, again valid⟩

/-- Tables in an array in a table. -/
def nestedRules : Value :=
  .table [("Rules", .array [.table [("Width", .number (.integer 3)), ("Tabs", .bool false)],
    .array [], .table []]), ("severity", .text "Error")]

theorem nestedRules_literal : nestedRules.IsLiteral := by
  have rule : (table [("Width", .number (.integer 3)), ("Tabs", .bool false)]).IsLiteral :=
    .table (by decide +kernel)
      (List.forall_mem_cons.mpr ⟨.number _, List.forall_mem_singleton.mpr (.bool _)⟩)
  have rules : (array [table [("Width", .number (.integer 3)), ("Tabs", .bool false)],
      .array [], .table []]).IsLiteral := by
    refine .array ?_
    simp only [List.forall_mem_cons]
    exact ⟨rule, .array (List.forall_mem_nil _), .table (by decide) (List.forall_mem_nil _), nofun⟩
  exact .table (by decide +kernel)
    (List.forall_mem_cons.mpr ⟨rules, List.forall_mem_singleton.mpr (.text _)⟩)

theorem nestedRules_plain :
    nestedRules.IsLiteral ∧ nestedRules.toPlain.IsPlain ∧
      nestedRules.toPlain = .mapping [(.text "Rules", .list [
        .mapping [(.text "Width", .number (.integer 3)), (.text "Tabs", .bool false)],
        .list [], .mapping []]), (.text "severity", .text "Error")] ∧
      nestedRules.toPlain.freeze = .ok nestedRules ∧ nestedRules.freeze = .ok nestedRules ∧
      ∃ literal, nestedRules.toPlain.freeze = .ok literal ∧ literal.IsLiteral ∧
        literal.toPlain = nestedRules.toPlain := by
  obtain ⟨back, plain, again, -⟩ := freeze_undoes_toPlain
  obtain ⟨undone, isPlain, -⟩ := back _ nestedRules_literal
  exact ⟨nestedRules_literal, isPlain, rfl, undone, (again _ _ undone).2, plain _ isPlain⟩

end ScriptAudit.Value
