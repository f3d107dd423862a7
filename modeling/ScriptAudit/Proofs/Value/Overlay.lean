import ScriptAudit.Proofs.Value.Dictionary
import ScriptAudit.Proofs.Value.Table

namespace ScriptAudit.Table

/-! Entries that are put into a table one after the other.

Of the entries that are put under one key the first has its place, and the last has its spelling
and its value. -/

variable {α : Type} {entries given rest : List (String × α)} {entry : String × α}
  {key other : String} {value old : α}

def putAll (entries given : List (String × α)) : List (String × α) :=
  given.foldl (fun made entry => put made entry.1 entry.2) entries

/-- The table of what both say, where the second has the last word. -/
def overlay (first second : List (String × α)) : List (String × α) :=
  putAll [] (first ++ second)

/-- The entries whose keys agree with this one but for letter case. -/
def under (entries : List (String × α)) (key : String) : List (String × α) :=
  entries.filter fun entry => Text.sameFolded entry.1 key

theorem putAll_cons (entry : String × α) :
    putAll entries (entry :: rest) = putAll (put entries entry.1 entry.2) rest :=
  rfl

theorem putAll_append (later : List (String × α)) :
    putAll entries (given ++ later) = putAll (putAll entries given) later :=
  List.foldl_append

theorem find?_cons (entry : String × α) :
    find? (entry :: rest) key =
      if Text.lower entry.1 = Text.lower key then some entry else find? rest key := by
  rw [find?, List.find?_cons]
  split <;> simp_all [find?]

theorem find?_put : find? (put entries key value) other =
    if Text.lower key = Text.lower other then some (key, value) else find? entries other := by
  induction entries with
  | nil => exact find?_cons (key, value)
  | cons entry rest ih =>
      rw [put]
      split
      · next same =>
          rw [beq_iff_eq] at same
          rw [find?_cons, find?_cons, same]
          split <;> rfl
      · next apart =>
          rw [beq_iff_eq] at apart
          rw [find?_cons, find?_cons, ih]
          by_cases first : Text.lower entry.1 = Text.lower other
          · rw [if_pos first, if_pos first, if_neg (fun same => apart (first.trans same.symm))]
          · rw [if_neg first, if_neg first]

theorem mem_of_find? (found : find? entries key = some entry) :
    entry ∈ entries ∧ Text.lower entry.1 = Text.lower key := by
  rw [find?] at found
  exact ⟨List.mem_of_find?_eq_some found, by simpa using List.find?_some found⟩

theorem find?_append (later : List (String × α)) :
    find? (entries ++ later) key = (find? entries key).or (find? later key) :=
  List.find?_append

/-- The last entry that is put under a key is found. -/
theorem find?_putAll :
    find? (putAll entries given) key = (find? given.reverse key).or (find? entries key) := by
  induction given generalizing entries with
  | nil => rfl
  | cons entry rest ih =>
      rw [putAll_cons, ih, find?_put, List.reverse_cons, find?_append, find?_cons,
        Option.or_assoc]
      split <;> rfl

theorem folded_put : folded (put entries key value) =
    if contains entries key then folded entries else folded entries ++ [Text.lower key] := by
  induction entries with
  | nil => rfl
  | cons entry rest ih =>
      rw [put, contains, find?_cons]
      split
      · next same =>
          rw [beq_iff_eq] at same
          simp [folded, same]
      · next apart =>
          rw [beq_iff_eq] at apart
          rw [if_neg apart]
          change Text.lower entry.1 :: folded (put rest key value) = _
          rw [ih, contains]
          split <;> rfl

theorem contains_iff : contains entries key = true ↔ Text.lower key ∈ folded entries := by
  simp [contains, find?, folded, List.find?_isSome]

theorem Distinct.put (distinct : Distinct entries) : Distinct (put entries key value) := by
  rw [Distinct, folded_put]
  split
  · exact distinct
  · next new =>
      rw [contains_iff] at new
      simpa using List.Nodup.concat new distinct

theorem Distinct.putAll (distinct : Distinct entries) : Distinct (putAll entries given) := by
  induction given generalizing entries with
  | nil => exact distinct
  | cons entry rest ih => exact ih distinct.put

theorem mem_put (member : entry ∈ put entries key value) :
    entry = (key, value) ∨ entry ∈ entries := by
  induction entries with
  | nil => simpa [Table.put] using member
  | cons first rest ih =>
      rw [Table.put] at member
      split at member
      · rcases List.mem_cons.mp member with here | later
        · exact .inl here
        · exact .inr (List.mem_cons_of_mem _ later)
      · rcases List.mem_cons.mp member with here | later
        · exact .inr (here ▸ List.mem_cons_self)
        · exact (ih later).imp_right (List.mem_cons_of_mem _)

theorem mem_putAll (member : entry ∈ putAll entries given) : entry ∈ given ∨ entry ∈ entries := by
  induction given generalizing entries with
  | nil => exact .inr member
  | cons first rest ih =>
      rcases ih member with later | made
      · exact .inl (List.mem_cons_of_mem _ later)
      · rcases mem_put made with here | before
        · exact .inl (here ▸ List.mem_cons_self)
        · exact .inr before

/-- Where keys are distinct, at most one entry is under each of them. -/
theorem Distinct.under_eq (distinct : Distinct entries) (key : String) :
    under entries key = (find? entries key).toList := by
  induction entries with
  | nil => rfl
  | cons entry rest ih =>
      rw [Distinct, folded, List.map_cons, List.nodup_cons] at distinct
      obtain ⟨new, later⟩ := distinct
      have tail := ih later
      rw [find?_cons]
      by_cases same : Text.lower entry.1 = Text.lower key
      · have absent : find? rest key = none := by
          rw [← Option.not_isSome_iff_eq_none]
          exact fun held => new (same ▸ contains_iff.mp held)
        simp [under, Text.sameFolded, same] at tail ⊢
        simpa [absent] using tail
      · simpa [under, Text.sameFolded, same] using tail

section Overlay

/-- Putting a key again forgets what was put before. -/
theorem put_put (same : Text.lower key = Text.lower other) :
    put (put entries key old) other value = put entries other value := by
  induction entries with
  | nil => simp [put, same]
  | cons entry rest ih =>
      by_cases first : Text.lower entry.1 = Text.lower other
      · simp [put, same, first]
      · simp [put, same, first, ih]

/-- A key that is there keeps its place, whatever is put under another one. -/
theorem put_comm (apart : Text.lower key ≠ Text.lower other) (held : contains entries key) :
    put (put entries other old) key value = put (put entries key value) other old := by
  induction entries with
  | nil => cases held
  | cons entry rest ih =>
      by_cases first : Text.lower entry.1 = Text.lower key
      · have differs : Text.lower entry.1 ≠ Text.lower other := first ▸ apart
        simp [put, first, apart]
      · have later : contains rest key := by
          rwa [contains, find?_cons, if_neg first] at held
        by_cases second : Text.lower entry.1 = Text.lower other
        · simp [put, second, apart.symm]
        · simp [put, first, second, ih later]

theorem put_putAll (held : contains entries key) (apart : Text.lower key ∉ folded given) :
    put (putAll entries given) key value = putAll (put entries key value) given := by
  induction given generalizing entries with
  | nil => rfl
  | cons entry rest ih =>
      simp only [folded, List.map_cons, List.mem_cons, not_or] at apart
      have still : contains (put entries entry.1 entry.2) key := by
        rw [contains, find?_put, if_neg (Ne.symm apart.1)]
        exact held
      rw [putAll_cons, putAll_cons, ih still apart.2, put_comm apart.1 held]

/-- Putting the entries of a table one after the other and then one more is putting those of the
table with this one. -/
theorem putAll_put (single : (under given key).length ≤ 1) :
    putAll entries (put given key value) = put (putAll entries given) key value := by
  induction given generalizing entries with
  | nil => rfl
  | cons entry rest ih =>
      by_cases same : Text.lower entry.1 = Text.lower key
      · have apart : Text.lower key ∉ folded rest := by
          simp [under, Text.sameFolded, same, folded] at single ⊢
          exact single
        have held : contains (put entries entry.1 entry.2) key := by
          rw [contains, find?_put, if_pos same]
          rfl
        rw [putAll_cons, put_putAll held apart, put_put same]
        simp [put, same, putAll_cons]
      · have later : (under rest key).length ≤ 1 := by
          simpa [under, Text.sameFolded, same] using single
        simp only [put, beq_iff_eq, same, if_false, putAll_cons, ih later]

theorem Distinct.single (distinct : Distinct given) (key : String) :
    (under given key).length ≤ 1 := by
  rw [distinct.under_eq]
  cases find? given key <;> simp

theorem putAll_putAll (distinct : Distinct given) (later : List (String × α)) :
    putAll entries (putAll given later) = putAll (putAll entries given) later := by
  induction later generalizing given with
  | nil => rfl
  | cons entry rest ih =>
      rw [putAll_cons, ih distinct.put, putAll_put (distinct.single _), putAll_cons]

/-- Where a key is there as it stands and under no other spelling, it is set in its own place. -/
theorem set_eq_put (held : key ∈ given.map Prod.fst) (single : (under given key).length ≤ 1) :
    Dictionary.set given key value = put given key value := by
  induction given with
  | nil => cases held
  | cons entry rest ih =>
      by_cases here : entry.1 = key
      · simp [Dictionary.set, put, here]
      · have later : key ∈ rest.map Prod.fst := by
          simpa [Ne.symm here] using held
        have other : Text.lower entry.1 ≠ Text.lower key := by
          intro same
          obtain ⟨known, member, rfl⟩ := List.mem_map.mp later
          have second : known ∈ under rest known.1 := by simp [under, member, Text.sameFolded]
          have several := List.length_pos_of_mem second
          simp [under, Text.sameFolded, same] at single several
          exact absurd rfl (single _ _ member)
        have single : (under rest key).length ≤ 1 := by
          simpa [under, Text.sameFolded, other] using single
        simp [Dictionary.set, put, here, other, ih later single]

theorem putAll_set (single : (under given key).length ≤ 1) :
    putAll entries (Dictionary.set given key value) = put (putAll entries given) key value := by
  by_cases held : key ∈ given.map Prod.fst
  · rw [set_eq_put held single, putAll_put single]
  · rw [Dictionary.set_new held, putAll_append]
    rfl

theorem under_set (apart : Text.lower key ≠ Text.lower other) :
    under (Dictionary.set given key value) other = under given other := by
  induction given with
  | nil => simp [Dictionary.set, under, Text.sameFolded, apart]
  | cons entry rest ih =>
      rw [Dictionary.set]
      split
      · next same => simp [under, Text.sameFolded, same, apart]
      · rw [under, List.filter_cons, ← under, ih, under, under, List.filter_cons]

/-- Two tables laid over each other as dictionaries come to the same. -/
theorem putAll_setAll {later : List (String × α)} (distinct : Distinct later)
    (single : ∀ entry ∈ later, (under given entry.1).length ≤ 1) :
    putAll entries (Dictionary.setAll given later) = putAll entries (given ++ later) := by
  induction later generalizing given with
  | nil => simp [Dictionary.setAll]
  | cons entry rest ih =>
      obtain ⟨first, others⟩ := List.forall_mem_cons.mp single
      obtain ⟨new, distinct⟩ := List.nodup_cons.mp
        (show (Text.lower entry.1 :: folded rest).Nodup from distinct)
      have still : ∀ known ∈ rest,
          (under (Dictionary.set given entry.1 entry.2) known.1).length ≤ 1 := by
        intro known member
        have apart : Text.lower entry.1 ≠ Text.lower known.1 :=
          fun same => new (same ▸ List.mem_map_of_mem member)
        rw [under_set apart]
        exact others known member
      rw [Dictionary.setAll_cons, ih distinct still, putAll_append, putAll_set first,
        putAll_append, putAll_cons]

end Overlay

end ScriptAudit.Table
