import Mathlib.Data.List.Dedup
import Mathlib.Data.List.Induction
import ScriptAudit.Proofs.Text.Lowered
import ScriptAudit.Proofs.Value.Equality
import ScriptAudit.Proofs.Value.Overlay

namespace ScriptAudit.Value

/-! A table compared with a mapping whose keys are texts.

The keys of the mapping are put in lower case before they are compared, so that of several keys
that agree but for letter case the last one stays.  A table has no such keys. -/

open Table (Distinct Finds Matched putAll)

variable {entries given made : List (String × Value)} {key : String} {value : Value}

def textMapping (given : List (String × Value)) : Value :=
  .mapping (given.map fun entry => (.text entry.1, entry.2))

def lowered (given : List (String × Value)) : List (String × Value) :=
  given.map fun entry => (Text.lower entry.1, entry.2)

section Folding

theorem mem_lowered {entry : String × Value} (member : entry ∈ lowered given) :
    Text.lower entry.1 = entry.1 := by
  obtain ⟨known, -, rfl⟩ := List.mem_map.mp member
  exact Text.lower_lower known.1

/-- Keys in lower case are compared as they stand. -/
theorem replace_eq_put (low : ∀ entry ∈ made, Text.lower entry.1 = entry.1)
    (distinct : Distinct made) (same : Text.lower key = key) (value : Value) :
    (if made.any (·.1 == key) then
      made.map fun entry => if entry.1 == key then (entry.1, value) else entry
    else made ++ [(key, value)]) = Table.put made key value := by
  induction made with
  | nil => rfl
  | cons entry rest ih =>
      obtain ⟨here, later⟩ := List.forall_mem_cons.mp low
      obtain ⟨new, distinct⟩ := List.nodup_cons.mp
        (show (Text.lower entry.1 :: Table.folded rest).Nodup from distinct)
      rw [Table.put, here, same]
      by_cases first : entry.1 = key
      · have others : ∀ other ∈ rest, other.1 ≠ key := by
          intro other member agrees
          refine new (List.mem_map.mpr ⟨other, member, ?_⟩)
          rw [agrees, first]
        have kept : (rest.map fun other => if other.1 = key then (other.1, value) else other) =
            rest := by
          conv_rhs => rw [← List.map_id rest]
          exact List.map_congr_left fun other member => if_neg (others other member)
        simp [first, kept]
      · rw [← ih later distinct]
        by_cases known : rest.any (·.1 == key) <;> simp [first, known]

theorem low_putAll_lowered {entry : String × Value} (member : entry ∈ putAll [] (lowered given)) :
    Text.lower entry.1 = entry.1 := by
  rcases Table.mem_putAll member with later | before
  · exact mem_lowered later
  · cases before

theorem foldPairs_texts :
    foldPairs (given.map fun entry => (.text entry.1, entry.2)) =
      some (putAll [] (lowered given)) := by
  -- The last pair is split off: what the fold has made before it has distinct keys in lower case.
  induction given using List.reverseRecOn with
  | nil => rfl
  | append_singleton rest entry ih =>
      have low : ∀ known ∈ putAll [] (lowered rest), Text.lower known.1 = known.1 :=
        fun _ => low_putAll_lowered
      have put := replace_eq_put low Table.distinct_nil.putAll (Text.lower_lower entry.1) entry.2
      rw [foldPairs] at ih
      have parts : lowered (rest ++ [entry]) = lowered rest ++ lowered [entry] := List.map_append
      rw [foldPairs, List.map_append, List.foldlM_append, ih, parts, Table.putAll_append]
      exact congrArg some put

/-- The value of the last key that agrees is found. -/
theorem get?_putAll_lowered :
    Table.get? (putAll [] (lowered given)) key = Table.get? given.reverse key := by
  have spelled : Table.find? (lowered given.reverse) key =
      (Table.find? given.reverse key).map fun entry => (Text.lower entry.1, entry.2) := by
    rw [Table.find?, lowered, List.find?_map]
    simp only [Function.comp_def, Text.lower_lower]
    rfl
  rw [Table.get?, Table.get?, Table.find?_putAll, lowered, ← List.map_reverse, ← lowered, spelled]
  cases Table.find? given.reverse key <;> rfl

end Folding

/-- A table equals a mapping of texts when each has, under the keys of the other, a value that
agrees, that of the last key for the mapping. -/
theorem same_textMapping_iff (distinct : Distinct entries) :
    (table entries).Same (textMapping given) ↔ Matched Agrees entries given.reverse := by
  have last : Matched Agrees entries given.reverse ↔
      Matched Agrees entries (putAll [] (lowered given)) := by
    have found (key : String) : Table.get? given.reverse key =
        Table.get? (putAll [] (lowered given)) key := get?_putAll_lowered.symm
    constructor <;> rintro ⟨forth, back⟩ <;> constructor <;>
      first
      | simpa only [found] using forth
      | simpa only [found] using back
  rw [last, Table.matched_iff distinct Table.distinct_nil.putAll, Same, textMapping, Value.same,
    foldPairs_texts, Bool.and_eq_true, beq_iff_eq, entriesIn_eq_true]
  rfl

/-- The number of keys up to letter case. -/
def keyCount (given : List (String × Value)) : Nat :=
  (Table.folded given).dedup.length

theorem keyCount_eq_length (distinct : Distinct given) : keyCount given = given.length := by
  rw [keyCount, List.Nodup.dedup distinct, Table.length_folded]

theorem mem_folded {entry : String × Value} (member : entry ∈ given) :
    Text.lower entry.1 ∈ Table.folded given :=
  List.mem_map_of_mem member

theorem exists_get?_reverse {entry : String × Value} (member : entry ∈ given) :
    ∃ value, Table.get? given.reverse entry.1 = some value := by
  cases found : Table.get? given.reverse entry.1 with
  | none => exact absurd rfl (Table.get?_eq_none.mp found entry (List.mem_reverse.mpr member))
  | some value => exact ⟨value, rfl⟩

section Compared

/-- A matched mapping has the keys of the table and no other. -/
theorem folded_perm (matched : Matched Agrees entries given.reverse)
    (distinct : Distinct entries) : (Table.folded entries).Perm (Table.folded given).dedup := by
  refine (List.perm_ext_iff_of_nodup distinct (List.nodup_dedup _)).mpr fun key => ?_
  rw [List.mem_dedup]
  constructor
  · intro member
    obtain ⟨entry, known, rfl⟩ := List.mem_map.mp member
    obtain ⟨value, found, -⟩ := matched.finds distinct entry known
    obtain ⟨other, known', agrees, -⟩ := Table.mem_of_get? found
    exact agrees ▸ mem_folded (List.mem_reverse.mp known')
  · intro member
    obtain ⟨entry, known, rfl⟩ := List.mem_map.mp member
    obtain ⟨value, found⟩ := exists_get?_reverse known
    obtain ⟨value', found', -⟩ := matched.back entry.1 value found
    obtain ⟨other, known', agrees, -⟩ := Table.mem_of_get? found'
    exact agrees ▸ mem_folded known'

/-- Where each entry is found and there are as many keys, each key of the table is matched. -/
theorem matched_of_finds (count : entries.length = keyCount given)
    (finds : ∀ entry ∈ given, ∃ value, Table.get? entries entry.1 = some value ∧
      value.Agrees entry.2) : Matched Agrees entries given.reverse := by
  have turned : ∀ entry ∈ given, Finds (flip Agrees) entries entry := finds
  have included : Table.folded given ⊆ Table.folded entries := Table.folded_subset turned
  have all : (Table.folded given).dedup.Perm (Table.folded entries) := by
    refine (List.subperm_of_subset (List.nodup_dedup _) fun key member =>
      included (List.mem_dedup.mp member)).perm_of_length_le ?_
    rw [Table.length_folded, count, keyCount]
  have back : ∀ key other, Table.get? given.reverse key = some other →
      ∃ value, Table.get? entries key = some value ∧ value.Agrees other := by
    intro key other found
    obtain ⟨entry, member, agrees, rfl⟩ := Table.mem_of_get? found
    rw [Table.get?_congr agrees.symm]
    exact finds entry (List.mem_reverse.mp member)
  refine ⟨fun key value found => ?_, back⟩
  obtain ⟨entry, member, agrees, -⟩ := Table.mem_of_get? found
  obtain ⟨other, member', agrees'⟩ := List.mem_map.mp
    (List.mem_dedup.mp (all.mem_iff.mpr (mem_folded member)))
  obtain ⟨last, held⟩ := exists_get?_reverse member'
  rw [Table.get?_congr (agrees'.trans agrees)] at held
  obtain ⟨value', found', same⟩ := back key last held
  rw [found] at found'
  cases found'
  exact ⟨last, held, same⟩

theorem finds_of_matched (matched : Matched Agrees entries given.reverse) {entry : String × Value}
    (member : entry ∈ given) : ∃ value, Table.get? entries entry.1 = some value ∧
      ∃ other ∈ given, Text.lower other.1 = Text.lower entry.1 ∧ value.Agrees other.2 := by
  obtain ⟨last, held⟩ := exists_get?_reverse member
  obtain ⟨value, found, same⟩ := matched.back entry.1 last held
  obtain ⟨other, known, agrees, rfl⟩ := Table.mem_of_get? held
  exact ⟨value, found, other, List.mem_reverse.mp known, agrees, same⟩

end Compared

/-- A table equals a mapping with texts as keys when it has, under each key, the value or one equal
to it, and there are no other keys.  Where the mapping spells a key several times, it has more
entries than keys, and one of the entries has the value. -/
theorem table_same_mapping (distinct : Distinct entries) :
    ((table entries).Same (textMapping given) →
      (∀ entry ∈ given, ∃ value, Table.get? entries entry.1 = some value ∧
        ∃ other ∈ given, Text.lower other.1 = Text.lower entry.1 ∧ value.Agrees other.2) ∧
      entries.length = keyCount given) ∧
    ((∀ entry ∈ given, ∃ value, Table.get? entries entry.1 = some value ∧
        value.Agrees entry.2) → entries.length = keyCount given →
      (table entries).Same (textMapping given)) ∧
    (Distinct given → ((table entries).Same (textMapping given) ↔
      (∀ entry ∈ given, ∃ value, Table.get? entries entry.1 = some value ∧
        value.Agrees entry.2) ∧ entries.length = given.length)) := by
  rw [same_textMapping_iff distinct]
  have count (matched : Matched Agrees entries given.reverse) :
      entries.length = keyCount given := by
    rw [← Table.length_folded, (folded_perm matched distinct).length_eq, keyCount]
  refine ⟨fun matched => ⟨fun _ member => finds_of_matched matched member, count matched⟩,
    fun finds length => matched_of_finds length finds, fun distinct' => ⟨?_, ?_⟩⟩
  · intro matched
    refine ⟨fun entry member => ?_, (count matched).trans (keyCount_eq_length distinct')⟩
    obtain ⟨value, found, other, known, agrees, same⟩ := finds_of_matched matched member
    rw [List.inj_on_of_nodup_map distinct' known member agrees] at same
    exact ⟨value, found, same⟩
  · rintro ⟨finds, length⟩
    exact matched_of_finds (length.trans (keyCount_eq_length distinct').symm) finds

/-- What a rule is given, and the same with the depth given twice. -/
def depthGiven : List (String × Value) :=
  [("Severity", .array [.text "Error"]), ("Depth", .number (.integer 2))]

def depthGivenTwice : List (String × Value) :=
  [("depth", .number (.integer 2)), ("SEVERITY", .array [.text "Error"]),
    ("DEPTH", .number (.integer 2))]

theorem table_same_mapping_severities :
    Distinct depthGiven ∧ (table depthGiven).Same (textMapping depthGivenTwice) ∧
      (∀ entry ∈ depthGivenTwice, ∃ value, Table.get? depthGiven entry.1 = some value ∧
        ∃ other ∈ depthGivenTwice, Text.lower other.1 = Text.lower entry.1 ∧
          value.Agrees other.2) ∧
      depthGiven.length = keyCount depthGivenTwice := by
  have distinct : Distinct depthGiven := by decide +kernel
  have same : (table depthGiven).Same (textMapping depthGivenTwice) := by decide +kernel
  exact ⟨distinct, same, (table_same_mapping distinct).1 same⟩

/-- A mapping that spells a key twice can have as many entries as a table with other keys, and the
value of the first spelling does not count.  A nan does count as its own value. -/
theorem entries_do_not_decide :
    ((∀ entry ∈ [("a", number (.integer 1)), ("A", number (.integer 1))], ∃ value,
        Table.get? [("a", number (.integer 1)), ("b", number (.integer 2))] entry.1 = some value ∧
          value.Same entry.2) ∧
      [("a", number (.integer 1)), ("b", number (.integer 2))].length =
        [("a", number (.integer 1)), ("A", number (.integer 1))].length ∧
      ¬ (table [("a", number (.integer 1)), ("b", number (.integer 2))]).Same
        (textMapping [("a", number (.integer 1)), ("A", number (.integer 1))])) ∧
    ((table [("a", number (.integer 2))]).Same
        (textMapping [("a", number (.integer 1)), ("A", number (.integer 2))]) ∧
      Table.get? [("a", number (.integer 2))] "a" = some (number (.integer 2)) ∧
      ¬ (number (.integer 2)).Same (number (.integer 1))) ∧
    (table [("a", number (.real (.nan 0)))]).Same (textMapping [("a", number (.real (.nan 0)))]) ∧
      ¬ (number (.real (.nan 0))).Same (number (.real (.nan 0))) := by
  refine ⟨⟨?_, rfl, by decide +kernel⟩, ⟨by decide +kernel, rfl, by decide +kernel⟩,
    by decide +kernel, by decide +kernel⟩
  refine List.forall_mem_cons.mpr ⟨⟨_, rfl, by decide +kernel⟩, ?_⟩
  exact List.forall_mem_singleton.mpr ⟨_, rfl, by decide +kernel⟩

end ScriptAudit.Value
