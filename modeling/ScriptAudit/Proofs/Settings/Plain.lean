import Mathlib.Data.List.Forall2
import ScriptAudit.Proofs.Literal.Written
import ScriptAudit.Proofs.Settings.Normalize

namespace ScriptAudit

/-! Plain data: what a caller hands in to say what a data file says. -/

mutual

/-- The value stands for the literal: its lists and arrays for arrays, and its tables and mappings,
whose keys are texts, for tables. -/
inductive Value.StandsFor : Value → Value → Prop where
  | bool (value : Bool) : StandsFor (.bool value) (.bool value)
  | number (value : Number) : StandsFor (.number value) (.number value)
  | text (value : String) : StandsFor (.text value) (.text value)
  | array {items literals : List Value} (all : ItemsStandFor items literals) :
      StandsFor (.array items) (.array literals)
  | list {items literals : List Value} (all : ItemsStandFor items literals) :
      StandsFor (.list items) (.array literals)
  | table {entries literals : List (String × Value)}
      (all : PairsStandFor (entries.map fun entry => (.text entry.1, entry.2)) literals) :
      StandsFor (.table entries) (.table literals)
  | mapping {pairs : List (Value × Value)} {literals : List (String × Value)}
      (all : PairsStandFor pairs literals) : StandsFor (.mapping pairs) (.table literals)

inductive Value.ItemsStandFor : List Value → List Value → Prop where
  | nil : ItemsStandFor [] []
  | cons {item literal : Value} {items literals : List Value} (first : StandsFor item literal)
      (later : ItemsStandFor items literals) : ItemsStandFor (item :: items) (literal :: literals)

inductive Value.PairsStandFor : List (Value × Value) → List (String × Value) → Prop where
  | nil : PairsStandFor [] []
  | cons {key : String} {value literal : Value} {pairs : List (Value × Value)}
      {literals : List (String × Value)} (first : StandsFor value literal)
      (later : PairsStandFor pairs literals) :
      PairsStandFor ((.text key, value) :: pairs) ((key, literal) :: literals)

end

namespace Value

/-- The pair stands for the entry of a table. -/
def PairStandsFor (pair : Value × Value) (literal : String × Value) : Prop :=
  pair.1 = .text literal.1 ∧ pair.2.StandsFor literal.2

theorem itemsStandFor_iff {items literals : List Value} :
    ItemsStandFor items literals ↔ List.Forall₂ StandsFor items literals := by
  constructor
  · intro stands
    induction items generalizing literals with
    | nil =>
        cases stands
        exact .nil
    | cons item items ih =>
        cases stands with
        | cons first later => exact .cons first (ih later)
  · intro all
    induction all with
    | nil => exact .nil
    | cons first later ih => exact .cons first ih

theorem pairsStandFor_iff {pairs : List (Value × Value)} {literals : List (String × Value)} :
    PairsStandFor pairs literals ↔ List.Forall₂ PairStandsFor pairs literals := by
  constructor
  · intro stands
    induction pairs generalizing literals with
    | nil =>
        cases stands
        exact .nil
    | cons pair pairs ih =>
        cases stands with
        | cons first later => exact .cons ⟨rfl, first⟩ (ih later)
  · intro all
    induction all with
    | nil => exact .nil
    | @cons pair literal pairs literals first later ih =>
        obtain ⟨key, value⟩ := pair
        obtain ⟨rfl, stands⟩ := first
        exact .cons stands ih

end Value

namespace Settings

open Value Literal Syntax Lexeme

theorem spelling?_of_distinct {made : List (String × Value)} {name : String} {value : Value}
    {rest : List (String × Value)} (distinct : Table.Distinct (made ++ (name, value) :: rest)) :
    Table.spelling? made name = none := by
  have new := distinct.not_contains
  rw [Table.contains, Option.isSome_eq_false_iff, Option.isNone_iff_eq_none] at new
  rw [Table.spelling?, new]
  rfl

theorem normalizeEntries_eq (place : Fault.Place) (made entries : List (String × Value)) :
    normalizeEntries place made entries =
      normalizePairs place made (entries.map fun entry => (.text entry.1, entry.2)) := by
  induction entries generalizing made with
  | nil => rfl
  | cons entry entries ih =>
      rw [normalizeEntries, List.map_cons, normalizePairs]
      cases Table.spelling? made entry.1 with
      | some other => rfl
      | none =>
          simp only [ih]

mutual

/-- Plain data is normalized to the literal that it stands for. -/
theorem normalize_standsFor {given literal : Value} (stands : given.StandsFor literal)
    (valid : literal.IsLiteral) (place : Fault.Place) : normalize place given = .ok literal := by
  -- The literal gets smaller.  What stands for it may not: the entries of a table become pairs.
  cases stands with
  | bool value => rfl
  | number value => rfl
  | text value => rfl
  | array all =>
      cases valid with
      | array valid => rw [normalize, normalizeItems_standsFor all valid]; rfl
  | list all =>
      cases valid with
      | array valid => rw [normalize, normalizeItems_standsFor all valid]; rfl
  | table all =>
      cases valid with
      | table distinct valid =>
          rw [normalize, normalizeEntries_eq, normalizePairs_standsFor [] all distinct valid]
          rfl
  | mapping all =>
      cases valid with
      | table distinct valid =>
          rw [normalize, normalizePairs_standsFor [] all distinct valid]
          rfl
termination_by sizeOf literal

theorem normalizeItems_standsFor {items literals : List Value}
    (stands : ItemsStandFor items literals) (valid : ∀ literal ∈ literals, literal.IsLiteral)
    (place : Fault.Place) : normalizeItems place items = .ok literals := by
  cases stands with
  | nil => rfl
  | cons first later =>
      obtain ⟨validFirst, validLater⟩ := List.forall_mem_cons.mp valid
      rw [normalizeItems, normalize_standsFor first validFirst,
        normalizeItems_standsFor later validLater]
      rfl
termination_by sizeOf literals

theorem normalizePairs_standsFor (made : List (String × Value)) {pairs : List (Value × Value)}
    {literals : List (String × Value)} (stands : PairsStandFor pairs literals)
    (distinct : Table.Distinct (made ++ literals))
    (valid : ∀ literal ∈ literals, literal.2.IsLiteral) (place : Fault.Place) :
    normalizePairs place made pairs = .ok (made ++ literals) := by
  cases stands with
  | nil => rw [normalizePairs, List.append_nil]
  | cons first later =>
      obtain ⟨validFirst, validLater⟩ := List.forall_mem_cons.mp valid
      rw [normalizePairs, spelling?_of_distinct distinct]
      dsimp only
      rw [normalize_standsFor first validFirst]
      rw [List.append_cons] at distinct ⊢
      exact normalizePairs_standsFor _ later distinct validLater place
termination_by sizeOf literals

end

mutual

theorem normalize_stands (place : Fault.Place) (given : Value) :
    Ends given.StandsFor (fun _ => True) (normalize place given) := by
  cases given with
  | bool value => exact .bool value
  | number value => exact .number value
  | text value => exact .text value
  | array items => exact ((normalizeItems_stands place items).imp (fun _ => .array) fun _ => id).map
  | list items => exact ((normalizeItems_stands place items).imp (fun _ => .list) fun _ => id).map
  | table entries =>
      refine ((normalizeEntries_stands place [] entries).imp ?_ fun _ => id).map
      rintro _ ⟨literals, rfl, all⟩
      exact .table all
  | mapping pairs =>
      refine ((normalizePairs_stands place [] pairs).imp ?_ fun _ => id).map
      rintro _ ⟨literals, rfl, all⟩
      exact .mapping all
  | null | path | bytes => trivial

theorem normalizeItems_stands (place : Fault.Place) (items : List Value) :
    Ends (ItemsStandFor items) (fun _ => True) (normalizeItems place items) := by
  cases items with
  | nil => exact .nil
  | cons item rest =>
      rw [normalizeItems]
      refine (normalize_stands place item).bind fun first stands => ?_
      exact (normalizeItems_stands place rest).bind fun later all => .cons stands all

theorem normalizeEntries_stands (place : Fault.Place) (made entries : List (String × Value)) :
    Ends (fun whole => ∃ literals, whole = made ++ literals ∧
        PairsStandFor (entries.map fun entry => (.text entry.1, entry.2)) literals)
      (fun _ => True) (normalizeEntries place made entries) := by
  match entries with
  | [] => exact ⟨[], (List.append_nil made).symm, .nil⟩
  | (key, value) :: rest =>
      rw [normalizeEntries]
      split
      · trivial
      · refine (normalize_stands _ value).bind fun literal stands => ?_
        refine (normalizeEntries_stands place _ rest).imp ?_ fun _ => id
        rintro _ ⟨literals, rfl, all⟩
        exact ⟨(key, literal) :: literals, List.append_cons .. |>.symm, .cons stands all⟩

theorem normalizePairs_stands (place : Fault.Place) (made : List (String × Value))
    (pairs : List (Value × Value)) :
    Ends (fun whole => ∃ literals, whole = made ++ literals ∧ PairsStandFor pairs literals)
      (fun _ => True) (normalizePairs place made pairs) := by
  match pairs with
  | [] => exact ⟨[], (List.append_nil made).symm, .nil⟩
  | (key, value) :: rest =>
      cases key with
      | text name =>
          rw [normalizePairs]
          split
          · trivial
          · refine (normalize_stands _ value).bind fun literal stands => ?_
            refine (normalizePairs_stands place _ rest).imp ?_ fun _ => id
            rintro _ ⟨literals, rfl, all⟩
            exact ⟨(name, literal) :: literals, List.append_cons .. |>.symm, .cons stands all⟩
      | _ => trivial

end

/-- Normalizing succeeds with the literals that a value stands for, and with nothing else. -/
theorem normalize_eq_ok_iff {place : Fault.Place} {given literal : Value} :
    normalize place given = .ok literal ↔ given.StandsFor literal ∧ literal.IsLiteral := by
  refine ⟨fun normal => ?_, fun ⟨stands, valid⟩ => normalize_standsFor stands valid place⟩
  have stands := normalize_stands place given
  have made : Ends (IsMade False) (IsMisshapen False) (normalize place given) :=
    normalize_ends place given False.elim
  rw [normal] at stands made
  exact ⟨stands, made.literal⟩

mutual

/-- What is written is a literal that messages can show. -/
theorem made_of_written {value : Value} {text : List Char} (written : Written value text) :
    IsMade True value := by
  cases written with
  | text said => exact ⟨.text said, fun _ => rfl⟩
  | @integer digits negative written short =>
      have size : (signedValue negative digits).natAbs = Nat.ofDigitChars 10 digits 0 := by
        cases negative <;> simp [signedValue, Number.Binary64.signed]
      refine ⟨.number _, fun _ => ?_⟩
      rw [Fault.isShown, Fault.isShownNumber, size, decide_eq_true_eq]
      exact Nat.le_trans (length_toDigits_le written) short
  | bool value => exact ⟨.bool value, fun _ => rfl⟩
  | emptyArray inside => exact .array (List.forall_mem_nil _)
  | array opening closing first later spreads =>
      exact .array (List.forall_mem_cons.mpr ⟨made_of_written first, made_of_writtenLater later⟩)
  | table opening distinct written => exact .table distinct (made_of_writtenEntries written)

theorem made_of_writtenLater {items : List Value} {text : List Char}
    (written : WrittenLater items text) : ∀ item ∈ items, IsMade True item := by
  cases written with
  | nil => exact List.forall_mem_nil _
  | cons opening first later =>
      exact List.forall_mem_cons.mpr ⟨made_of_written first, made_of_writtenLater later⟩

theorem made_of_writtenEntries {entries : List (String × Value)} {text : List Char}
    (written : WrittenEntries entries text) : ∀ entry ∈ entries, IsMade True entry.2 := by
  cases written with
  | nil => exact List.forall_mem_nil _
  | cons key gap opening closing joins first later separated =>
      exact List.forall_mem_cons.mpr ⟨made_of_written first, made_of_writtenEntries later⟩

end

end Settings
end ScriptAudit
