import Mathlib.Data.List.Perm.Subperm
import ScriptAudit.Proofs.Value.Paired
import ScriptAudit.Proofs.Value.Table

namespace ScriptAudit.Table

/-! Tables that have related values under the same keys, whatever the letter case of the keys and
the order of the entries. -/

open List (Forall₂)

variable {α β γ : Type} {entries : List (String × α)} {others : List (String × β)}
  {further : List (String × γ)} {related : α → β → Prop} {related' : β → γ → Prop}

theorem get?_congr {key key' : String} (same : Text.lower key = Text.lower key') :
    get? entries key = get? entries key' := by
  rw [get?, get?, find?, find?, same]

theorem length_folded (entries : List (String × α)) : (folded entries).length = entries.length :=
  List.length_map _

/-- A key of one of the tables has a related value in the other. -/
structure Matched (related : α → β → Prop) (entries : List (String × α))
    (others : List (String × β)) : Prop where
  forth : ∀ key value, get? entries key = some value →
    ∃ other, get? others key = some other ∧ related value other
  back : ∀ key other, get? others key = some other →
    ∃ value, get? entries key = some value ∧ related value other

/-- The table has a related value under the key of the entry. -/
def Finds (related : α → β → Prop) (others : List (String × β)) (entry : String × α) : Prop :=
  ∃ other, get? others entry.1 = some other ∧ related entry.2 other

theorem folded_subset (finds : ∀ entry ∈ entries, Finds related others entry) :
    folded entries ⊆ folded others := by
  intro key member
  obtain ⟨entry, known, rfl⟩ := List.mem_map.mp member
  obtain ⟨value, found, -⟩ := finds entry known
  obtain ⟨other, known, same, -⟩ := mem_of_get? found
  exact List.mem_map.mpr ⟨other, known, same⟩

theorem length_le (distinct : Distinct entries)
    (finds : ∀ entry ∈ entries, Finds related others entry) : entries.length ≤ others.length := by
  have included := (List.subperm_of_subset distinct (folded_subset finds)).length_le
  rwa [length_folded, length_folded] at included

theorem folded_eq (all : Forall₂ (fun entry other => Text.lower entry.1 = Text.lower other.1 ∧
    related entry.2 other.2) entries others) : folded entries = folded others := by
  induction all with
  | nil => rfl
  | cons first later ih => exact congrArg₂ List.cons first.1 ih

namespace Matched

theorem flip (matched : Matched related entries others) :
    Matched (flip related) others entries :=
  ⟨matched.back, matched.forth⟩

theorem finds (matched : Matched related entries others) (distinct : Distinct entries) :
    ∀ entry ∈ entries, Finds related others entry :=
  fun _ member => matched.forth _ _ (distinct.get?_of_mem member rfl)

theorem imp {again : α → β → Prop} (matched : Matched related entries others)
    (implies : ∀ entry ∈ entries, ∀ other ∈ others,
      related entry.2 other.2 → again entry.2 other.2) : Matched again entries others := by
  have found {key : String} {value : α} {other : β} (hit : get? entries key = some value)
      (hit' : get? others key = some other) (relates : related value other) :
      again value other := by
    obtain ⟨entry, member, -, rfl⟩ := mem_of_get? hit
    obtain ⟨entry', member', -, rfl⟩ := mem_of_get? hit'
    exact implies entry member entry' member' relates
  constructor
  case forth =>
    intro key value hit
    obtain ⟨other, hit', relates⟩ := matched.forth key value hit
    exact ⟨other, hit', found hit hit' relates⟩
  case back =>
    intro key other hit'
    obtain ⟨value, hit, relates⟩ := matched.back key other hit'
    exact ⟨value, hit, found hit hit' relates⟩

theorem trans (matched : Matched related entries others)
    (matched' : Matched related' others further) :
    Matched (Relation.Comp related related') entries further := by
  constructor
  case forth =>
    intro key value hit
    obtain ⟨other, hit, relates⟩ := matched.forth key value hit
    obtain ⟨last, hit, relates'⟩ := matched'.forth key other hit
    exact ⟨last, hit, other, relates, relates'⟩
  case back =>
    intro key last hit
    obtain ⟨other, hit, relates'⟩ := matched'.back key last hit
    obtain ⟨value, hit, relates⟩ := matched.back key other hit
    exact ⟨value, hit, other, relates, relates'⟩

/-- The entries of one table in the order of the other. -/
theorem exists_ordered (matched : Matched related entries others) (distinct : Distinct entries)
    (distinct' : Distinct others) : ∃ ordered, ordered.Perm others ∧
      Forall₂ (fun entry other => Text.lower entry.1 = Text.lower other.1 ∧
        related entry.2 other.2) entries ordered := by
  have known : ∀ entry ∈ entries, ∃ other, other ∈ others ∧
      Text.lower entry.1 = Text.lower other.1 ∧ related entry.2 other.2 := by
    intro entry member
    obtain ⟨_, found, relates⟩ := matched.finds distinct entry member
    obtain ⟨other, known, same, rfl⟩ := mem_of_get? found
    exact ⟨other, known, same.symm, relates⟩
  obtain ⟨ordered, all⟩ := exists_forall₂ known
  have inside : ordered ⊆ others := by
    intro other member
    obtain ⟨_, -, known, -⟩ := forall₂_left_of_mem all member
    exact known
  have all := all.imp fun _ _ found => found.2
  have nodup : ordered.Nodup := by
    rw [Distinct, folded_eq all] at distinct
    exact .of_map _ distinct
  have length : others.length ≤ ordered.length := by
    rw [← all.length_eq]
    exact length_le distinct' (matched.flip.finds distinct')
  exact ⟨ordered, (List.subperm_of_subset nodup inside).perm_of_length_le length, all⟩

end Matched

/-- When there are no more entries than keys that are found, each entry is under such a key. -/
theorem matched_iff (distinct : Distinct entries) (distinct' : Distinct others) :
    Matched related entries others ↔
      entries.length = others.length ∧ ∀ entry ∈ entries, Finds related others entry := by
  constructor
  · intro matched
    have finds := matched.finds distinct
    exact ⟨Nat.le_antisymm (length_le distinct finds)
      (length_le distinct' (matched.flip.finds distinct')), finds⟩
  · rintro ⟨length, finds⟩
    have same : (folded entries).Perm (folded others) :=
      (List.subperm_of_subset distinct (folded_subset finds)).perm_of_length_le
        (by simp only [length_folded, length, Nat.le_refl])
    constructor
    case forth =>
      intro key value hit
      obtain ⟨entry, member, spelled, rfl⟩ := mem_of_get? hit
      rw [get?_congr spelled.symm]
      exact finds entry member
    case back =>
      intro key other hit
      obtain ⟨_, known, spelled, rfl⟩ := mem_of_get? hit
      obtain ⟨entry, member, agrees⟩ :=
        List.mem_map.mp (same.mem_iff.mpr (List.mem_map_of_mem known))
      obtain ⟨value, found, relates⟩ := finds entry member
      have agrees : Text.lower entry.1 = Text.lower key := agrees.trans spelled
      rw [get?_congr agrees, hit] at found
      cases found
      exact ⟨entry.2, distinct.get?_of_mem member agrees, relates⟩

end ScriptAudit.Table
