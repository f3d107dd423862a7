import Mathlib.Data.List.Nodup
import ScriptAudit.Value.Table

namespace ScriptAudit.Table

/-! Tables whose keys stay distinct when letter case is ignored. -/

variable {α : Type} {made : List (String × α)}

instance : Decidable (Distinct made) :=
  inferInstanceAs (Decidable (folded made).Nodup)

theorem not_contains_of_new {seen : List String} {name : String}
    (known : ∀ entry ∈ made, Text.lower entry.1 ∈ seen) (new : Text.lower name ∉ seen) :
    contains made name = false := by
  rw [contains, find?, Option.isSome_eq_false_iff, Option.isNone_iff_eq_none,
    List.find?_eq_none]
  intro entry member same
  exact new (beq_iff_eq.mp same ▸ known entry member)

theorem Distinct.not_contains {name : String} {value : α} {rest : List (String × α)}
    (distinct : Distinct (made ++ (name, value) :: rest)) : contains made name = false := by
  rw [Distinct, folded, List.map_append, List.map_cons, List.nodup_append] at distinct
  obtain ⟨-, -, apart⟩ := distinct
  have known : ∀ entry ∈ made, Text.lower entry.1 ∈ folded made :=
    fun entry member => List.mem_map_of_mem member
  exact not_contains_of_new known fun member => apart _ member _ List.mem_cons_self rfl

theorem distinct_nil : Distinct ([] : List (String × α)) :=
  List.nodup_nil

theorem Distinct.concat {name : String} {value : α} (distinct : Distinct made)
    (new : contains made name = false) : Distinct (made ++ [(name, value)]) := by
  have apart : Text.lower name ∉ folded made := by
    intro member
    obtain ⟨entry, known, same⟩ := List.mem_map.mp member
    rw [contains, find?, Option.isSome_eq_false_iff, Option.isNone_iff_eq_none,
      List.find?_eq_none] at new
    exact new entry known (beq_iff_eq.mpr same)
  rw [Distinct, folded, List.map_append, List.map_singleton, List.nodup_append]
  refine ⟨distinct, by simp, fun key member other single same => ?_⟩
  rw [List.mem_singleton.mp single] at same
  exact apart (same ▸ member)

theorem get?_concat {name : String} {value : α} (new : contains made name = false) (key : String) :
    get? (made ++ [(name, value)]) key =
      if Text.lower name = Text.lower key then some value else get? made key := by
  rw [contains, find?, Option.isSome_eq_false_iff, Option.isNone_iff_eq_none] at new
  rw [get?, get?, find?, find?, List.find?_append]
  split
  · next same => simp [← same, new]
  · next other => simp [other]

theorem mem_of_get? {key : String} {value : α} (found : get? made key = some value) :
    ∃ entry ∈ made, Text.lower entry.1 = Text.lower key ∧ entry.2 = value := by
  obtain ⟨entry, hit, rfl⟩ := Option.map_eq_some_iff.mp found
  rw [find?] at hit
  exact ⟨entry, List.mem_of_find?_eq_some hit, by simpa using List.find?_some hit, rfl⟩

/-- Where keys are distinct, each entry is found under its key. -/
theorem Distinct.find?_of_mem (distinct : Distinct made) {entry : String × α}
    (member : entry ∈ made) {key : String} (same : Text.lower entry.1 = Text.lower key) :
    find? made key = some entry := by
  rw [find?]
  cases found : made.find? fun entry => Text.lower entry.1 == Text.lower key with
  | none => exact absurd (beq_iff_eq.mpr same) (List.find?_eq_none.mp found entry member)
  | some first =>
      have hit : Text.lower first.1 = Text.lower key := by simpa using List.find?_some found
      have known := List.mem_of_find?_eq_some found
      rw [List.inj_on_of_nodup_map distinct known member (hit.trans same.symm)]

theorem Distinct.get?_of_mem (distinct : Distinct made) {entry : String × α}
    (member : entry ∈ made) {key : String} (same : Text.lower entry.1 = Text.lower key) :
    get? made key = some entry.2 := by
  rw [get?, distinct.find?_of_mem member same, Option.map_some]

theorem get?_eq_none {key : String} :
    get? made key = none ↔ ∀ entry ∈ made, Text.lower entry.1 ≠ Text.lower key := by
  rw [get?, find?, Option.map_eq_none_iff, List.find?_eq_none]
  simp only [beq_iff_eq, ne_eq]

/-- Pairs with distinct texts as keys make the table that they spell out. -/
theorem ofPairs_texts {entries : List (String × α)} (distinct : Distinct entries) :
    ofPairs (entries.map fun entry => (.text entry.1, entry.2)) = .ok entries := by
  have added : ∀ (made later : List (String × α)), Distinct (made ++ later) →
      (later.map fun entry => (Value.text entry.1, entry.2)).foldlM
        (fun entries pair => add entries pair.1 pair.2) made = .ok (made ++ later) := by
    intro made later distinct
    induction later generalizing made with
    | nil =>
        rw [List.append_nil]
        rfl
    | cons entry later ih =>
        have new : contains made entry.1 = false := distinct.not_contains
        rw [List.append_cons] at distinct ⊢
        rw [← ih _ distinct, List.map_cons, List.foldlM_cons, add, new]
        rfl
  exact added [] entries distinct

end ScriptAudit.Table
