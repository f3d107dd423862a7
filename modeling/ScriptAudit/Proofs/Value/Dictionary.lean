import ScriptAudit.Proofs.Value.Lookup

namespace ScriptAudit.Dictionary

/-! Dictionaries: entries under keys that are compared as they stand, in the order in which the keys
came. -/

variable {α : Type} {entries given : List (String × α)} {key other : String} {value : α}

/-- Gives a key a value, in its old place when it has one. -/
def set (entries : List (String × α)) (key : String) (value : α) : List (String × α) :=
  match entries with
  | [] => [(key, value)]
  | entry :: rest =>
      if entry.1 = key then (key, value) :: rest else entry :: set rest key value

def setAll (entries given : List (String × α)) : List (String × α) :=
  given.foldl (fun made entry => set made entry.1 entry.2) entries

theorem lookup_set :
    (set entries key value).lookup other =
      if other = key then some value else entries.lookup other := by
  induction entries with
  | nil => exact lookup_cons_eq _
  | cons entry rest ih =>
      rw [set]
      split
      · next same =>
          rw [lookup_cons_eq, lookup_cons_eq, same]
          split <;> rfl
      · next apart =>
          rw [lookup_cons_eq, lookup_cons_eq, ih]
          by_cases first : other = entry.1
          · rw [if_pos first, if_pos first, if_neg (first ▸ apart)]
          · rw [if_neg first, if_neg first]

theorem setAll_cons (entry : String × α) :
    setAll entries (entry :: given) = setAll (set entries entry.1 entry.2) given :=
  rfl

/-- The last value that is given to a key is found. -/
theorem lookup_setAll :
    (setAll entries given).lookup key = (given.reverse.lookup key).or (entries.lookup key) := by
  induction given generalizing entries with
  | nil => rfl
  | cons entry rest ih =>
      rw [setAll_cons, ih, lookup_set, List.reverse_cons, List.lookup_append,
        lookup_cons_eq, Option.or_assoc]
      split <;> rfl

theorem set_new (new : key ∉ entries.map Prod.fst) :
    set entries key value = entries ++ [(key, value)] := by
  induction entries with
  | nil => rfl
  | cons entry rest ih =>
      simp only [List.map_cons, List.mem_cons, not_or] at new
      rw [set, if_neg (Ne.symm new.1), ih new.2, List.cons_append]

/-- Entries with new keys come behind the others. -/
theorem setAll_new (nodup : ((entries ++ given).map Prod.fst).Nodup) :
    setAll entries given = entries ++ given := by
  induction given generalizing entries with
  | nil => simp [setAll]
  | cons entry rest ih =>
      have new : entry.1 ∉ entries.map Prod.fst := by
        intro member
        rw [List.map_append, List.nodup_append] at nodup
        exact nodup.2.2 _ member entry.1 (by simp) rfl
      rw [List.append_cons] at nodup ⊢
      rw [setAll_cons, set_new new, ih nodup]

end ScriptAudit.Dictionary
