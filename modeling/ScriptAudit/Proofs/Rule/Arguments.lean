import ScriptAudit.Proofs.Value.Overlay
import ScriptAudit.Rule.Basic

namespace ScriptAudit.Rule

/-! What a rule makes of the arguments that it is given.

Arguments are laid over the defaults of the rule in a dictionary, under folded keys.  The table of
arguments is made anew from what the dictionary holds, and two spellings of one key would not make
a table. -/

section Spelling

variable {rule : Rule} {key other known : String}

/-- The name agrees with that of an argument in the schema or with that of an implicit one. -/
def accepts (rule : Rule) (key : String) : Bool :=
  Table.contains rule.descriptor.schema key ||
    rule.implicitArguments.any (Text.sameFolded · key)

/-- Which spelling a rule has for a name. -/
inductive Spelling (rule : Rule) (key : String) : Option String → Prop where
  | declared {entry : String × Value} (member : entry ∈ rule.descriptor.schema)
      (same : Text.lower entry.1 = Text.lower key) : Spelling rule key (some entry.1)
  | implicit {name : String} (undeclared : Table.contains rule.descriptor.schema key = false)
      (member : name ∈ rule.implicitArguments) (same : Text.lower name = Text.lower key) :
      Spelling rule key (some name)
  | free (other : rule.accepts key = false) (schema : rule.descriptor.schema = []) :
      Spelling rule key (some key)
  | unknown (other : rule.accepts key = false) (schema : rule.descriptor.schema ≠ []) :
      Spelling rule key none

theorem spelling (rule : Rule) (key : String) : rule.Spelling key (rule.spelling? key) := by
  rw [spelling?, Table.spelling?]
  cases declared : Table.find? rule.descriptor.schema key with
  | some entry =>
      obtain ⟨member, same⟩ := Table.mem_of_find? declared
      exact .declared member same
  | none =>
      have undeclared : Table.contains rule.descriptor.schema key = false := by
        rw [Table.contains, declared]
        rfl
      cases implicit : rule.implicitArguments.reverse.find? (Text.sameFolded · key) with
      | some name =>
          have same : Text.lower name = Text.lower key := by
            simpa [Text.sameFolded] using List.find?_some implicit
          have member := List.mem_reverse.mp (List.mem_of_find?_eq_some implicit)
          exact .implicit undeclared member same
      | none =>
          have other : rule.accepts key = false := by
            simpa [accepts, undeclared] using implicit
          by_cases schema : rule.descriptor.schema = []
          · simpa [schema] using Spelling.free other schema
          · simpa [schema] using Spelling.unknown other schema

theorem lower_of_spelling? (found : rule.spelling? key = some known) :
    Text.lower known = Text.lower key := by
  have spelling := rule.spelling key
  rw [found] at spelling
  cases spelling with
  | declared member same => exact same
  | implicit undeclared member same => exact same
  | free => rfl

theorem mem_of_spelling? (found : rule.spelling? key = some known) :
    known ∈ rule.descriptor.schema.map Prod.fst ∨ known ∈ rule.implicitArguments ∨
      (rule.descriptor.schema = [] ∧ known = key) := by
  have spelling := rule.spelling key
  rw [found] at spelling
  cases spelling with
  | declared member same => exact .inl (List.mem_map_of_mem member)
  | implicit undeclared member same => exact .inr (.inl member)
  | free other schema => exact .inr (.inr ⟨schema, rfl⟩)

theorem accepts_congr (same : Text.lower key = Text.lower other) :
    rule.accepts key = rule.accepts other := by
  simp only [accepts, Table.contains, Table.find?, Text.sameFolded, same]

theorem spelling?_isSome :
    (rule.spelling? key).isSome = (rule.accepts key || rule.descriptor.schema.isEmpty) := by
  have spelling := rule.spelling key
  generalize rule.spelling? key = found at spelling
  cases spelling with
  | declared member same =>
      have held : Table.contains rule.descriptor.schema key := by
        rw [Table.contains_iff, ← same]
        exact List.mem_map_of_mem member
      simp [accepts, held]
  | implicit undeclared member same =>
      have held : rule.implicitArguments.any (Text.sameFolded · key) :=
        List.any_eq_true.mpr ⟨_, member, beq_iff_eq.mpr same⟩
      simp [accepts, held]
  | free other schema => simp [schema]
  | unknown other schema => simp [other, schema]

end Spelling

/-- The entry as the rule spells it. -/
def spell? (rule : Rule) (entry : String × Value) : Option (String × Value) :=
  (rule.spelling? entry.1).map (·, entry.2)

def spelled (rule : Rule) (given : List (String × Value)) : List (String × Value) :=
  given.filterMap rule.spell?

section Spelled

variable {rule : Rule} {entry made : String × Value} {arguments given : List (String × Value)}
  {key : String}

theorem lower_of_spell? (found : rule.spell? entry = some made) :
    Text.lower made.1 = Text.lower entry.1 := by
  obtain ⟨known, spelt, rfl⟩ := Option.map_eq_some_iff.mp found
  exact lower_of_spelling? spelt

theorem spell?_eq_none : rule.spell? entry = none ↔
    rule.accepts entry.1 = false ∧ rule.descriptor.schema ≠ [] := by
  rw [spell?, Option.map_eq_none_iff, ← Option.not_isSome_iff_eq_none, spelling?_isSome]
  simp

theorem spell?_congr {other : String × Value}
    (same : Text.lower entry.1 = Text.lower other.1) :
    rule.spell? entry = none ↔ rule.spell? other = none := by
  rw [spell?_eq_none, spell?_eq_none, accepts_congr same]

theorem spelled_cons (entry : String × Value) (rest : List (String × Value)) :
    rule.spelled (entry :: rest) = (rule.spell? entry).toList ++ rule.spelled rest := by
  rw [spelled, List.filterMap_cons]
  cases rule.spell? entry <;> rfl

/-- Of the entries that the rule spells, the first under a key is the first of all under it. -/
theorem find?_spelled : Table.find? (rule.spelled given) key =
    (Table.find? given key).bind rule.spell? := by
  induction given with
  | nil => rfl
  | cons entry rest ih =>
      rw [spelled_cons, Table.find?_cons]
      cases found : rule.spell? entry with
      | some made =>
          rw [Option.toList_some, List.singleton_append, Table.find?_cons, lower_of_spell? found,
            ih]
          split <;> simp [found]
      | none =>
          rw [Option.toList_none, List.nil_append, ih]
          split
          · next same =>
              cases later : Table.find? rest key with
              | none => simp [found]
              | some other =>
                  obtain ⟨-, alike⟩ := Table.mem_of_find? later
                  simp [found, (spell?_congr (same.trans alike.symm)).mp found]
          · rfl

/-- Spelling what is put into a table is putting what is spelled, if it is. -/
theorem spelled_put : rule.spelled (Table.put given entry.1 entry.2) =
    Table.putAll (rule.spelled given) (rule.spell? entry).toList := by
  induction given with
  | nil => cases found : rule.spell? entry <;> simp [Table.put, spelled, Table.putAll, found]
  | cons first rest ih =>
      by_cases same : Text.lower first.1 = Text.lower entry.1
      · have alike : rule.spell? first = none ↔ rule.spell? entry = none := spell?_congr same
        rw [Table.put, if_pos (beq_iff_eq.mpr same), spelled_cons, spelled_cons]
        cases found : rule.spell? entry with
        | none => simp [alike.mpr found, Table.putAll]
        | some made =>
            cases before : rule.spell? first with
            | none => simp [alike.mp before] at found
            | some old =>
                have agree : Text.lower old.1 = Text.lower made.1 := by
                  rw [lower_of_spell? before, same, lower_of_spell? found]
                simp [Table.putAll, Table.put, agree]
      · rw [Table.put, if_neg (mt beq_iff_eq.mp same), spelled_cons, ih, spelled_cons]
        cases before : rule.spell? first with
        | none => rfl
        | some old =>
            cases found : rule.spell? entry with
            | none => rfl
            | some made =>
                have apart : Text.lower old.1 ≠ Text.lower made.1 := by
                  rwa [lower_of_spell? before, lower_of_spell? found]
                simp [Table.putAll, Table.put, apart]

theorem spelled_putAll (later : List (String × Value)) :
    rule.spelled (Table.putAll given later) =
      Table.putAll (rule.spelled given) (rule.spelled later) := by
  induction later generalizing given with
  | nil => rfl
  | cons entry rest ih =>
      rw [Table.putAll_cons, ih, spelled_put, spelled_cons, Table.putAll_append]

theorem configure_eq (rule : Rule) (arguments given : List (String × Value)) :
    rule.configure arguments given = (Table.putAll arguments (rule.spelled given),
      (given.map Prod.fst).filter fun key => (rule.spelling? key).isNone) := by
  induction given generalizing arguments with
  | nil => rfl
  | cons entry rest ih =>
      obtain ⟨key, value⟩ := entry
      rw [configure]
      cases found : rule.spelling? key with
      | some known => simp [ih, spelled, spell?, found, Table.putAll_cons]
      | none => simp [ih, spelled, spell?, found]

/-- Only the table that given entries make counts. -/
theorem configure_putAll :
    (rule.configure arguments (Table.putAll [] given)).1 = (rule.configure arguments given).1 := by
  rw [configure_eq, configure_eq]
  change Table.putAll arguments (rule.spelled (Table.putAll [] given)) = _
  rw [spelled_putAll]
  exact Table.putAll_putAll Table.distinct_nil (rule.spelled given)

end Spelled

section Overlaying

/-- Folded keys, and the spelling and the value that stand under each. -/
abbrev Merged := List (String × String × Value)

def keyed (entries : List (String × Value)) : Merged :=
  entries.map fun entry => (Text.lower entry.1, entry)

def implicitSpellings (rule : Rule) : List (String × String) :=
  Dictionary.setAll [] (rule.implicitArguments.map fun name => (Text.lower name, name))

/-- One given entry goes into the dictionary, or its name to those that are not known. -/
def mergeEntry (rule : Rule) (state : Merged × List String) (entry : String × Value) :
    Merged × List String :=
  let folded := Text.lower entry.1
  match Table.spelling? rule.descriptor.schema entry.1 with
  | some known => (Dictionary.set state.1 folded (known, entry.2), state.2)
  | none =>
      match rule.implicitSpellings.lookup folded with
      | some known => (Dictionary.set state.1 folded (known, entry.2), state.2)
      | none =>
          if rule.descriptor.schema.isEmpty then (Dictionary.set state.1 folded entry, state.2)
          else (state.1, state.2 ++ [entry.1])

/-- Overlaying in a dictionary.  It fails where what the dictionary holds makes no table. -/
def merge (rule : Rule) (arguments given : List (String × Value)) :
    Except Table.Fault (List (String × Value) × List String) := do
  let start : Merged := Dictionary.setAll [] (keyed arguments)
  let merged := given.foldl rule.mergeEntry (start, [])
  let made ← Table.ofPairs (merged.1.map fun item => (.text item.2.1, item.2.2))
  return (made, merged.2)

/-- Gives a new rule arguments, several times. -/
def mergeAll (rule : Rule) (calls : List (List (String × Value))) :
    Except Table.Fault (List (String × Value)) := do
  let start ← Table.ofPairs (rule.descriptor.schema.map fun entry => (.text entry.1, entry.2))
  calls.foldlM (fun arguments given => Prod.fst <$> rule.merge arguments given) start

variable {rule : Rule} {arguments given : List (String × Value)} {key known : String}
  {value : Value}

theorem keyed_put (same : Text.lower known = Text.lower key) :
    keyed (Table.put arguments known value) =
      Dictionary.set (keyed arguments) (Text.lower key) (known, value) := by
  induction arguments with
  | nil => simp [keyed, Table.put, Dictionary.set, same]
  | cons entry rest ih =>
      by_cases here : Text.lower entry.1 = Text.lower key
      · simp [keyed, Table.put, Dictionary.set, here, same]
      · simpa [keyed, Table.put, Dictionary.set, here, same] using ih

theorem implicitSpellings_lookup (rule : Rule) (key : String) :
    rule.implicitSpellings.lookup (Text.lower key) =
      rule.implicitArguments.reverse.find? (Text.sameFolded · key) := by
  rw [implicitSpellings, Dictionary.lookup_setAll, ← List.map_reverse]
  generalize rule.implicitArguments.reverse = names
  induction names with
  | nil => rfl
  | cons name rest ih =>
      by_cases same : Text.lower name = Text.lower key
      · simp [lookup_cons_eq, Text.sameFolded, same]
      · simpa [lookup_cons_eq, Text.sameFolded, same, Ne.symm same] using ih

theorem mergeEntry_eq (state : Merged × List String) (entry : String × Value) :
    rule.mergeEntry state entry =
      match rule.spelling? entry.1 with
      | some known => (Dictionary.set state.1 (Text.lower entry.1) (known, entry.2), state.2)
      | none => (state.1, state.2 ++ [entry.1]) := by
  rw [mergeEntry, implicitSpellings_lookup, spelling?]
  cases Table.spelling? rule.descriptor.schema entry.1 with
  | some known => rfl
  | none =>
      cases rule.implicitArguments.reverse.find? (Text.sameFolded · entry.1) with
      | some name => rfl
      | none => cases rule.descriptor.schema.isEmpty <;> rfl

theorem foldl_mergeEntry (unknown : List String) :
    given.foldl rule.mergeEntry (keyed arguments, unknown) =
      (keyed (rule.configure arguments given).1,
        unknown ++ (rule.configure arguments given).2) := by
  induction given generalizing arguments unknown with
  | nil => simp [configure]
  | cons entry rest ih =>
      obtain ⟨key, value⟩ := entry
      rw [List.foldl_cons, mergeEntry_eq, configure]
      cases found : rule.spelling? key with
      | some known => simp [← keyed_put (lower_of_spelling? found), ih]
      | none => simp [ih]

theorem configure_distinct (distinct : Table.Distinct arguments) :
    Table.Distinct (rule.configure arguments given).1 := by
  rw [configure_eq]
  exact distinct.putAll

/-- What the dictionary holds makes a table, the one that overlaying gives. -/
theorem merge_eq (distinct : Table.Distinct arguments) :
    rule.merge arguments given = .ok (rule.configure arguments given) := by
  have start : Dictionary.setAll [] (keyed arguments) = keyed arguments := by
    apply Dictionary.setAll_new
    simpa [keyed, Function.comp_def, Table.Distinct, Table.folded] using distinct
  have pairs : (keyed (rule.configure arguments given).1).map (fun item =>
      (Value.text item.2.1, item.2.2)) = (rule.configure arguments given).1.map fun entry =>
        (Value.text entry.1, entry.2) := by
    simp [keyed]
  have after : Table.Distinct (rule.configure arguments given).1 := configure_distinct distinct
  simp only [merge, start, foldl_mergeEntry, List.nil_append, pairs,
    Table.ofPairs_texts after]
  rfl

end Overlaying

/-- The arguments of a rule after it was given these, one after the other. -/
def argumentsAfter (rule : Rule) (calls : List (List (String × Value))) : List (String × Value) :=
  calls.foldl (fun arguments given => (rule.configure arguments given).1) rule.defaults

section After

variable {rule : Rule}

theorem argumentsAfter_eq (rule : Rule) (calls : List (List (String × Value))) :
    rule.argumentsAfter calls =
      Table.putAll rule.descriptor.schema (rule.spelled calls.flatten) := by
  have run : ∀ arguments, calls.foldl (fun arguments given => (rule.configure arguments given).1)
      arguments = Table.putAll arguments (rule.spelled calls.flatten) := by
    induction calls with
    | nil => exact fun arguments => rfl
    | cons given calls ih =>
        intro arguments
        rw [List.foldl_cons, ih, configure_eq, List.flatten_cons, spelled, spelled,
          spelled, List.filterMap_append, Table.putAll_append]
  exact run rule.defaults

theorem argumentsAfter_distinct (distinct : Table.Distinct rule.descriptor.schema)
    (calls : List (List (String × Value))) : Table.Distinct (rule.argumentsAfter calls) := by
  rw [argumentsAfter_eq]
  exact distinct.putAll

theorem argumentsAfter_concat (rule : Rule) (calls : List (List (String × Value)))
    (given : List (String × Value)) :
    rule.argumentsAfter (calls ++ [given]) =
      (rule.configure (rule.argumentsAfter calls) given).1 := by
  simp [argumentsAfter]

/-- No call fails. -/
theorem mergeAll_eq (distinct : Table.Distinct rule.descriptor.schema)
    (calls : List (List (String × Value))) :
    rule.mergeAll calls = .ok (rule.argumentsAfter calls) := by
  have run : ∀ arguments, Table.Distinct arguments →
      calls.foldlM (fun arguments given => Prod.fst <$> rule.merge arguments given) arguments =
        .ok (calls.foldl (fun arguments given => (rule.configure arguments given).1)
          arguments) := by
    induction calls with
    | nil => exact fun arguments distinct => rfl
    | cons given calls ih =>
        intro arguments distinct
        rw [List.foldlM_cons, merge_eq distinct]
        exact ih _ (configure_distinct distinct)
  rw [mergeAll, Table.ofPairs_texts distinct]
  exact run rule.defaults distinct

/-- The value that is given last under any spelling of a name. -/
def lastGiven? (given : List (String × Value)) (name : String) : Option Value :=
  Table.get? given.reverse name

/-- The arguments of a rule with a schema.  Each one of the schema is there once, under the spelling
of the schema, and an implicit one only when it is given. -/
structure Overlaid (rule : Rule) (given arguments : List (String × Value)) : Prop where
  declared : ∀ entry ∈ rule.descriptor.schema, Table.under arguments entry.1 =
    [(entry.1, (lastGiven? given entry.1).getD entry.2)]
  implicit : ∀ name ∈ rule.implicitArguments,
    Table.contains rule.descriptor.schema name = false →
      ∃ known ∈ rule.implicitArguments, Text.lower known = Text.lower name ∧
        Table.under arguments name = (lastGiven? given name).toList.map (known, ·)
  nothingElse : ∀ entry ∈ arguments,
    entry.1 ∈ rule.descriptor.schema.map Prod.fst ∨ entry.1 ∈ rule.implicitArguments

/-- The arguments of a rule without a schema: all that is given, each name once. -/
structure Gathered (rule : Rule) (given arguments : List (String × Value)) : Prop where
  kept : ∀ name, (Table.under arguments name).map Prod.snd = (lastGiven? given name).toList
  spelt : ∀ entry ∈ arguments,
    entry.1 ∈ rule.implicitArguments ∨ entry.1 ∈ given.map Prod.fst

/-- What one more call does.  It tells of the names that are not known, in their order, and these
change nothing. -/
structure Configures (rule : Rule) (arguments given : List (String × Value)) : Prop where
  succeeds : rule.merge arguments given = .ok (rule.configure arguments given)
  unknown : rule.descriptor.schema ≠ [] → (rule.configure arguments given).2 =
    (given.map Prod.fst).filter (!rule.accepts ·)
  ignored : rule.descriptor.schema ≠ [] →
    (rule.configure arguments (given.filter (rule.accepts ·.1))).1 =
      (rule.configure arguments given).1
  schemaless : rule.descriptor.schema = [] → (rule.configure arguments given).2 = []

theorem spelling?_isNone (key : String) : (rule.spelling? key).isNone =
    (!rule.accepts key && !rule.descriptor.schema.isEmpty) := by
  rw [← Option.not_isSome, spelling?_isSome, Bool.not_or]

theorem configures {arguments : List (String × Value)} (distinct : Table.Distinct arguments)
    (given : List (String × Value)) : rule.Configures arguments given where
  succeeds := merge_eq distinct
  unknown schema := by
    have filled : rule.descriptor.schema.isEmpty = false := by simpa using schema
    rw [configure_eq]
    simp [spelling?_isNone, filled]
  ignored schema := by
    have same : rule.spelled (given.filter (rule.accepts ·.1)) = rule.spelled given := by
      rw [spelled, spelled, List.filterMap_filter]
      refine List.filterMap_congr fun entry _ => ?_
      split
      · rfl
      · next other =>
          exact (spell?_eq_none.mpr ⟨Bool.eq_false_iff.mpr other, schema⟩).symm
    rw [configure_eq, configure_eq, same]
  schemaless schema := by
    rw [configure_eq]
    simp [spelling?_isNone, schema]

/-- The argument under a name: what is given last for it, if the rule takes that, and otherwise what
the schema has. -/
theorem find?_argumentsAfter (rule : Rule) (calls : List (List (String × Value))) (name : String) :
    Table.find? (rule.argumentsAfter calls) name =
      ((Table.find? calls.flatten.reverse name).bind rule.spell?).or
        (Table.find? rule.descriptor.schema name) := by
  rw [argumentsAfter_eq, Table.find?_putAll, spelled, ← List.filterMap_reverse]
  exact congrArg₂ Option.or find?_spelled rfl

theorem spelling?_declared (distinct : Table.Distinct rule.descriptor.schema)
    {entry : String × Value} (member : entry ∈ rule.descriptor.schema) {key : String}
    (same : Text.lower entry.1 = Text.lower key) : rule.spelling? key = some entry.1 := by
  rw [spelling?, Table.spelling?, distinct.find?_of_mem member same]
  rfl

theorem spelling?_undeclared {key known : String}
    (undeclared : Table.contains rule.descriptor.schema key = false)
    (schema : rule.descriptor.schema ≠ []) (found : rule.spelling? key = some known) :
    known ∈ rule.implicitArguments := by
  have spelling := rule.spelling key
  rw [found] at spelling
  cases spelling with
  | declared member same =>
      rw [Bool.eq_false_iff, Ne, Table.contains_iff, ← same] at undeclared
      exact absurd (List.mem_map_of_mem member) undeclared
  | implicit undeclared member same => exact member
  | free other empty => exact absurd empty schema

theorem mem_argumentsAfter {calls : List (List (String × Value))} {entry : String × Value}
    (member : entry ∈ rule.argumentsAfter calls) :
    entry ∈ rule.descriptor.schema ∨
      ∃ given ∈ calls.flatten, rule.spelling? given.1 = some entry.1 := by
  rw [argumentsAfter_eq] at member
  cases Table.mem_putAll member with
  | inr declared => exact .inl declared
  | inl put =>
      obtain ⟨given, known, spelt⟩ := List.mem_filterMap.mp put
      obtain ⟨name, found, rfl⟩ := Option.map_eq_some_iff.mp spelt
      exact .inr ⟨given, known, found⟩

theorem overlaid (distinct : Table.Distinct rule.descriptor.schema)
    (schema : rule.descriptor.schema ≠ []) (calls : List (List (String × Value))) :
    rule.Overlaid calls.flatten (rule.argumentsAfter calls) where
  declared entry member := by
    rw [(argumentsAfter_distinct distinct calls).under_eq, find?_argumentsAfter,
      distinct.find?_of_mem member rfl, lastGiven?, Table.get?]
    cases found : Table.find? calls.flatten.reverse entry.1 with
    | none => rfl
    | some last =>
        obtain ⟨-, same⟩ := Table.mem_of_find? found
        simp [spell?, spelling?_declared distinct member same.symm]
  implicit name member undeclared := by
    have absent : Table.find? rule.descriptor.schema name = none := by
      simpa [Table.contains] using undeclared
    rw [(argumentsAfter_distinct distinct calls).under_eq, find?_argumentsAfter, absent,
      lastGiven?, Table.get?]
    cases found : Table.find? calls.flatten.reverse name with
    | none => exact ⟨name, member, rfl, rfl⟩
    | some last =>
        obtain ⟨-, same⟩ := Table.mem_of_find? found
        have known : (rule.spelling? last.1).isSome := by
          have held : rule.implicitArguments.any (Text.sameFolded · name) :=
            List.any_eq_true.mpr ⟨name, member, beq_self_eq_true _⟩
          rw [spelling?_isSome, accepts_congr same, accepts, held, Bool.or_true, Bool.true_or]
        obtain ⟨spelling, spelt⟩ := Option.isSome_iff_exists.mp known
        have undeclared : Table.contains rule.descriptor.schema last.1 = false := by
          simpa only [Table.contains, Table.find?, same] using undeclared
        refine ⟨spelling, spelling?_undeclared undeclared schema spelt, ?_, ?_⟩
        · rw [lower_of_spelling? spelt, same]
        · simp [spell?, spelt]
  nothingElse entry member := by
    rcases mem_argumentsAfter member with declared | ⟨given, -, spelt⟩
    · exact .inl (List.mem_map_of_mem declared)
    · rcases mem_of_spelling? spelt with declared | implicit | ⟨empty, -⟩
      · exact .inl declared
      · exact .inr implicit
      · exact absurd empty schema

theorem gathered (schema : rule.descriptor.schema = []) (calls : List (List (String × Value))) :
    rule.Gathered calls.flatten (rule.argumentsAfter calls) where
  kept name := by
    have distinct : Table.Distinct rule.descriptor.schema := by
      rw [schema]
      exact Table.distinct_nil
    rw [(argumentsAfter_distinct distinct calls).under_eq, find?_argumentsAfter, schema,
      lastGiven?, Table.get?]
    cases Table.find? calls.flatten.reverse name with
    | none => rfl
    | some last =>
        have known : (rule.spelling? last.1).isSome := by simp [spelling?_isSome, schema]
        obtain ⟨spelling, spelt⟩ := Option.isSome_iff_exists.mp known
        simp [spell?, spelt]
  spelt entry member := by
    rcases mem_argumentsAfter member with declared | ⟨given, known, spelt⟩
    · rw [schema] at declared
      cases declared
    · rcases mem_of_spelling? spelt with declared | implicit | ⟨-, same⟩
      · rw [schema] at declared
        cases declared
      · exact .inl implicit
      · exact .inr (same ▸ List.mem_map_of_mem known)

theorem argumentsAfter_overlay (rule : Rule) (calls : List (List (String × Value)))
    (first second : List (String × Value)) :
    rule.argumentsAfter (calls ++ [first, second]) =
      rule.argumentsAfter (calls ++ [Table.overlay first second]) := by
  have twice : rule.argumentsAfter (calls ++ [first, second]) =
      (rule.configure (rule.argumentsAfter calls) (first ++ second)).1 := by
    simp [argumentsAfter, configure_eq, spelled, Table.putAll_append]
  rw [twice, argumentsAfter_concat, Table.overlay, configure_putAll]

/-- Two tables may be laid over each other as dictionaries, too. -/
theorem argumentsAfter_setAll (rule : Rule) (calls : List (List (String × Value)))
    {first second : List (String × Value)} (distinct : Table.Distinct first)
    (distinct' : Table.Distinct second) :
    rule.argumentsAfter (calls ++ [Dictionary.setAll first second]) =
      rule.argumentsAfter (calls ++ [Table.overlay first second]) := by
  rw [argumentsAfter_concat, argumentsAfter_concat, Table.overlay, ← configure_putAll,
    Table.putAll_setAll distinct' fun entry _ => distinct.single entry.1]

/-- Arguments are laid over the defaults of a rule, whatever is given and how often.  No call fails,
each one tells of what it does not know, and two are as good as one with what both give. -/
theorem configure_overlays (rule : Rule) (distinct : Table.Distinct rule.descriptor.schema)
    (calls : List (List (String × Value))) :
    rule.mergeAll calls = .ok (rule.argumentsAfter calls) ∧
    (∀ given, rule.Configures (rule.argumentsAfter calls) given) ∧
    (rule.descriptor.schema ≠ [] → rule.Overlaid calls.flatten (rule.argumentsAfter calls)) ∧
    (rule.descriptor.schema = [] → rule.Gathered calls.flatten (rule.argumentsAfter calls)) ∧
    (∀ first second, rule.argumentsAfter (calls ++ [first, second]) =
      rule.argumentsAfter (calls ++ [Table.overlay first second])) ∧
    ∀ first second, Table.Distinct first → Table.Distinct second →
      rule.argumentsAfter (calls ++ [first, second]) =
        rule.argumentsAfter (calls ++ [Dictionary.setAll first second]) := by
  have single := argumentsAfter_distinct distinct calls
  refine ⟨mergeAll_eq distinct calls, fun given => configures single given,
    fun schema => overlaid distinct schema calls, fun schema => gathered schema calls,
    argumentsAfter_overlay rule calls, ?_⟩
  intro first second distinctFirst distinctSecond
  rw [argumentsAfter_overlay, argumentsAfter_setAll rule calls distinctFirst distinctSecond]

/-- A rule with one argument that has to be enabled. -/
def lengthRule : Rule where
  descriptor := { name := "Length", schema := [("MinLength", .number (.integer 1))] }
  implicitArguments := [enableArgument]
  asksEnable := true
  analyze := fun _ => {}

def lengthCalls : List (List (String × Value)) :=
  [[("minlength", .number (.integer 3)), ("Bogus", .bool true)],
    [("ENABLE", .bool true), ("MINLENGTH", .number (.integer 4))]]

def lengthArguments : List (String × Value) :=
  [("MinLength", .number (.integer 4)), ("Enable", .bool true)]

def longerArguments : List (String × Value) :=
  [("enable", .bool false), ("minLength", .number (.integer 5))]

/-- Arguments in three spellings, one that is not known, and two more tables of arguments. -/
theorem configure_respelled :
    Table.Distinct lengthRule.descriptor.schema ∧ lengthRule.descriptor.schema ≠ [] ∧
      lengthRule.mergeAll lengthCalls = .ok lengthArguments ∧
      lengthRule.Overlaid lengthCalls.flatten lengthArguments ∧
      (lengthRule.configure lengthArguments [("Bogus", .null), ("ENABLE", .null)]).2 = ["Bogus"] ∧
      Table.Distinct lengthArguments ∧ Table.Distinct longerArguments ∧
      lengthRule.argumentsAfter (lengthCalls ++ [lengthArguments, longerArguments]) =
        lengthRule.argumentsAfter
          (lengthCalls ++ [Dictionary.setAll lengthArguments longerArguments]) := by
  have distinct : Table.Distinct lengthRule.descriptor.schema := by decide +kernel
  have schema : lengthRule.descriptor.schema ≠ [] := List.cons_ne_nil _ _
  have first : Table.Distinct lengthArguments := by decide +kernel
  have second : Table.Distinct longerArguments := by decide +kernel
  have arguments : lengthRule.argumentsAfter lengthCalls = lengthArguments := rfl
  obtain ⟨succeeds, configures, overlaid, -, -, union⟩ :=
    configure_overlays lengthRule distinct lengthCalls
  rw [arguments] at succeeds configures overlaid
  have unknown := (configures [("Bogus", .null), ("ENABLE", .null)]).unknown schema
  refine ⟨distinct, schema, succeeds, overlaid schema, ?_, first, second, union _ _ first second⟩
  rw [unknown]
  decide +kernel

end After
end ScriptAudit.Rule
