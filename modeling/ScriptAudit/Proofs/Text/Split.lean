import ScriptAudit.Text.Split

namespace ScriptAudit.Text

/-! Cutting a text that has been put together cuts it where it was joined. -/

variable {separator : Char}

theorem splitAt_ne_nil (separator : Char) (text : List Char) : splitAt separator text ≠ [] := by
  fun_cases splitAt separator text <;> simp_all

theorem separator_not_mem {text part : List Char} (member : part ∈ splitAt separator text) :
    separator ∉ part := by
  induction text generalizing part with
  | nil =>
      rw [List.mem_singleton.mp member]
      exact List.not_mem_nil
  | cons c rest ih =>
      rw [splitAt] at member
      split at member
      · rcases List.mem_cons.mp member with rfl | member
        · exact List.not_mem_nil
        · exact ih member
      · next other =>
          split at member
          · next empty => exact absurd empty (splitAt_ne_nil _ _)
          · next first others same =>
              rw [same] at ih
              rcases List.mem_cons.mp member with rfl | member
              · rw [List.mem_cons, not_or]
                exact ⟨Ne.symm other, ih List.mem_cons_self⟩
              · exact ih (List.mem_cons_of_mem _ member)

theorem mem_of_mem_splitAt {text part : List Char} {c : Char}
    (member : part ∈ splitAt separator text) (inside : c ∈ part) : c ∈ text := by
  induction text generalizing part with
  | nil => rwa [List.mem_singleton.mp member] at inside
  | cons first rest ih =>
      rw [splitAt] at member
      split at member
      · rcases List.mem_cons.mp member with rfl | member
        · cases inside
        · exact List.mem_cons_of_mem _ (ih member inside)
      · split at member
        · next empty => exact absurd empty (splitAt_ne_nil _ _)
        · next head others same =>
            rw [same] at ih
            rcases List.mem_cons.mp member with rfl | member
            · rcases List.mem_cons.mp inside with rfl | inside
              · exact List.mem_cons_self
              · exact List.mem_cons_of_mem _ (ih List.mem_cons_self inside)
            · exact List.mem_cons_of_mem _ (ih (List.mem_cons_of_mem _ member) inside)

theorem splitAt_part {part : List Char} (whole : separator ∉ part) :
    splitAt separator part = [part] := by
  induction part with
  | nil => rfl
  | cons c rest ih =>
      rw [List.mem_cons, not_or] at whole
      rw [splitAt, if_neg (Ne.symm whole.1), ih whole.2]

theorem splitAt_append {part : List Char} (rest : List Char) (whole : separator ∉ part) :
    splitAt separator (part ++ separator :: rest) = part :: splitAt separator rest := by
  induction part with
  | nil => exact if_pos rfl
  | cons c others ih =>
      rw [List.mem_cons, not_or] at whole
      rw [List.cons_append, splitAt, if_neg (Ne.symm whole.1), ih whole.2]

theorem splitAt_append_separator (before after : List Char) :
    splitAt separator (before ++ separator :: after) =
      splitAt separator before ++ splitAt separator after := by
  induction before with
  | nil => exact if_pos rfl
  | cons c before ih =>
      rw [List.cons_append, splitAt, splitAt, ih]
      split
      · rfl
      · cases cut : splitAt separator before with
        | nil => exact absurd cut (splitAt_ne_nil _ _)
        | cons first others => rfl

theorem splitAt_intercalate {parts : List (List Char)} (some : parts ≠ [])
    (whole : ∀ part ∈ parts, separator ∉ part) :
    splitAt separator ([separator].intercalate parts) = parts := by
  induction parts with
  | nil => exact absurd rfl some
  | cons part rest ih =>
      obtain ⟨first, later⟩ := List.forall_mem_cons.mp whole
      cases rest with
      | nil => simpa using splitAt_part first
      | cons next others =>
          rw [List.intercalate_cons_cons, List.append_assoc, List.singleton_append,
            splitAt_append _ first, ih (List.cons_ne_nil _ _) later]

theorem afterLast_part {part : List Char} (whole : separator ∉ part) :
    afterLast separator part = part := by
  simp [afterLast, splitAt_part whole]

end ScriptAudit.Text
