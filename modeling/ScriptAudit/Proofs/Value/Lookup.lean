import Mathlib.Data.List.Basic

namespace ScriptAudit

/-! Looking a key up among entries, where the first entry of a key counts. -/

variable {α β : Type} [DecidableEq α] {key : α} {entries : List (α × β)}

theorem lookup_cons_eq (entry : α × β) :
    List.lookup key (entry :: entries) =
      if key = entry.1 then some entry.2 else entries.lookup key := by
  rw [List.lookup_cons]
  split <;> rename_i equal
  · rw [if_pos (eq_of_beq equal)]
  · rw [if_neg (ne_of_beq_false equal)]

theorem not_mem_keys (absent : entries.lookup key = none) : key ∉ entries.map Prod.fst := by
  rw [List.lookup_eq_none_iff] at absent
  rintro member
  obtain ⟨entry, inside, rfl⟩ := List.mem_map.mp member
  simpa using absent entry inside

end ScriptAudit
