import Mathlib.Data.List.Forall2
import Mathlib.Logic.Relation

namespace ScriptAudit

/-! Lists whose items are related one by one. -/

open List (Forall₂)

variable {α β γ δ : Type}

theorem forall₂_right_of_mem {R : α → β → Prop} {items : List α} {items' : List β}
    (all : Forall₂ R items items') {item : α} (member : item ∈ items) :
    ∃ item' ∈ items', R item item' := by
  induction all with
  | nil => cases member
  | cons first later ih =>
      rcases List.mem_cons.mp member with rfl | member
      · exact ⟨_, List.mem_cons_self, first⟩
      · obtain ⟨item', known, found⟩ := ih member
        exact ⟨item', List.mem_cons_of_mem _ known, found⟩

theorem forall₂_left_of_mem {R : α → β → Prop} {items : List α} {items' : List β}
    (all : Forall₂ R items items') {item' : β} (member : item' ∈ items') :
    ∃ item ∈ items, R item item' :=
  forall₂_right_of_mem (R := flip R) all.flip member

theorem exists_forall₂ {R : α → β → Prop} {items : List α}
    (all : ∀ item ∈ items, ∃ item', R item item') : ∃ items', Forall₂ R items items' := by
  induction items with
  | nil => exact ⟨[], .nil⟩
  | cons item rest ih =>
      obtain ⟨first, later⟩ := List.forall_mem_cons.mp all
      obtain ⟨item', related⟩ := first
      obtain ⟨rest', paired⟩ := ih later
      exact ⟨item' :: rest', .cons related paired⟩

theorem forall₂_imp_of_mem {R S : α → β → Prop} {items : List α} {items' : List β}
    (all : Forall₂ R items items')
    (implies : ∀ item ∈ items, ∀ item' ∈ items', R item item' → S item item') :
    Forall₂ S items items' := by
  induction all with
  | nil => exact .nil
  | cons first later ih =>
      refine .cons (implies _ List.mem_cons_self _ List.mem_cons_self first) (ih ?_)
      exact fun item member item' member' =>
        implies item (List.mem_cons_of_mem _ member) item' (List.mem_cons_of_mem _ member')

theorem forall₂_comp {R : α → β → Prop} {S : β → γ → Prop} {items : List α} {items' : List β}
    {items'' : List γ} (all : Forall₂ R items items') (all' : Forall₂ S items' items'') :
    Forall₂ (Relation.Comp R S) items items'' := by
  induction all generalizing items'' with
  | nil =>
      cases all'
      exact .nil
  | cons first later ih =>
      cases all' with
      | cons first' later' => exact .cons ⟨_, first, first'⟩ (ih later')

/-- Two relations out of each item of a list, completed to a square for each item. -/
theorem forall₂_square {left : α → γ → Prop} {top : α → β → Prop} {right : β → δ → Prop}
    {bottom : γ → δ → Prop} {items : List α} {items' : List β} {results : List γ}
    (lefts : Forall₂ left items results) (tops : Forall₂ top items items')
    (completes : ∀ result ∈ results, ∀ item item', left item result → top item item' →
      ∃ result', right item' result' ∧ bottom result result') :
    ∃ results', Forall₂ right items' results' ∧ Forall₂ bottom results results' := by
  induction lefts generalizing items' with
  | nil =>
      cases tops
      exact ⟨[], .nil, .nil⟩
  | cons first later ih =>
      obtain ⟨completesFirst, completesLater⟩ := List.forall_mem_cons.mp completes
      cases tops with
      | cons topFirst topsLater =>
          obtain ⟨result', rightFirst, bottomFirst⟩ := completesFirst _ _ first topFirst
          obtain ⟨results', rights, bottoms⟩ := ih topsLater completesLater
          exact ⟨result' :: results', .cons rightFirst rights, .cons bottomFirst bottoms⟩

end ScriptAudit
