import Mathlib.Data.List.Perm.Basic
import ScriptAudit.Proofs.Settings.Projection
import ScriptAudit.Proofs.Value.Respelled

namespace ScriptAudit

/-! Settings ignore the letter case of their keys and the order of their entries, at every level. -/

open List (Forall₂)

namespace Value

variable {given given' literal : Value}

/-- Whatever stands for the literal stands, when it is re-spelled, for the literal re-spelled. -/
def StandsRespelled (literal : Value) : Prop :=
  ∀ given given' : Value, given.StandsFor literal → given.Respelled given' →
    ∃ literal', given'.StandsFor literal' ∧ literal.Respelled literal'

theorem ItemsStandFor.exists_respelled {items items' literals : List Value}
    (stands : ItemsStandFor items literals) (respelled : Forall₂ Respelled items items')
    (again : ∀ literal ∈ literals, literal.StandsRespelled) :
    ∃ literals', ItemsStandFor items' literals' ∧
      (Value.array literals).Respelled (.array literals') := by
  obtain ⟨literals', stands', found⟩ :=
    forall₂_square (itemsStandFor_iff.mp stands) respelled again
  exact ⟨literals', itemsStandFor_iff.mpr stands', .array found⟩

theorem PairsStandFor.exists_respelled {entries ordered entries' literals : List (String × Value)}
    (stands : PairsStandFor (entries.map fun entry => (.text entry.1, entry.2)) literals)
    (order : entries.Perm ordered) (respelled : Forall₂ EntryRespelled ordered entries')
    (again : ∀ literal ∈ literals, literal.2.StandsRespelled) :
    ∃ literals', PairsStandFor (entries'.map fun entry => (.text entry.1, entry.2)) literals' ∧
      (Value.table literals).Respelled (.table literals') := by
  -- The literals follow the entries into their new order, and then correspond one by one.
  obtain ⟨moved, standsMoved, order'⟩ := List.perm_comp_forall₂ order.symm
    (List.forall₂_map_left_iff.mp (pairsStandFor_iff.mp stands))
  have completes : ∀ literal ∈ moved, ∀ entry entry' : String × Value,
      PairStandsFor (.text entry.1, entry.2) literal → EntryRespelled entry entry' →
      ∃ literal', PairStandsFor (.text entry'.1, entry'.2) literal' ∧
        EntryRespelled literal literal' := by
    rintro ⟨key, value⟩ member entry entry' ⟨same, stands⟩ respelled
    cases same
    obtain ⟨value', stands', found⟩ :=
      again _ (order'.mem_iff.mp member) _ _ stands respelled.value
    exact ⟨(entry'.1, value'), ⟨rfl, stands'⟩, .intro respelled.key found⟩
  obtain ⟨literals', stands', found⟩ := forall₂_square standsMoved respelled completes
  exact ⟨literals', pairsStandFor_iff.mpr (List.forall₂_map_left_iff.mpr stands'),
    .table order'.symm found⟩

theorem IsLiteral.standsRespelled (valid : literal.IsLiteral) : literal.StandsRespelled := by
  -- By induction on the literal: lists and arrays stand for one kind of literal, and so do tables
  -- and mappings.
  induction valid with
  | bool value | number value | text value =>
      intro given given' stands respelled
      cases stands
      cases respelled <;> exact ⟨_, by constructor, by constructor⟩
  | array valid ih =>
      intro given given' stands respelled
      cases stands with
      | array stands =>
          cases respelled with
          | array respelled =>
              obtain ⟨literals', stands', found⟩ := stands.exists_respelled respelled ih
              exact ⟨_, .array stands', found⟩
      | list stands =>
          cases respelled with
          | list respelled =>
              obtain ⟨literals', stands', found⟩ := stands.exists_respelled respelled ih
              exact ⟨_, .list stands', found⟩
  | table distinct valid ih =>
      intro given given' stands respelled
      cases stands with
      | table stands =>
          cases respelled with
          | table order respelled =>
              obtain ⟨literals', stands', found⟩ :=
                stands.exists_respelled order respelled ih
              exact ⟨_, .table stands', found⟩
      | mapping stands =>
          cases respelled with
          | mapping order respelled =>
              obtain ⟨literals', stands', found⟩ :=
                stands.exists_respelled order respelled ih
              exact ⟨_, .mapping stands', found⟩

/-- Normalizing brings no nan in. -/
theorem NanFree.of_standsFor (comparable : given.NanFree) (valid : literal.IsLiteral)
    (stands : given.StandsFor literal) : literal.NanFree := by
  induction valid generalizing given with
  | bool | number | text =>
      cases stands
      exact comparable
  | @array literals valid ih =>
      have items {items : List Value} (comparable : ∀ item ∈ items, item.NanFree)
          (stands : ItemsStandFor items literals) : (Value.array literals).NanFree := by
        refine .array fun literal member => ?_
        obtain ⟨item, known, found⟩ := forall₂_left_of_mem (itemsStandFor_iff.mp stands) member
        exact ih literal member (comparable item known) found
      cases stands with
      | array stands =>
          cases comparable with
          | array comparable => exact items comparable stands
      | list stands =>
          cases comparable with
          | list comparable => exact items comparable stands
  | @table literals distinct valid ih =>
      have pairs {pairs : List (Value × Value)} (comparable : ∀ pair ∈ pairs, pair.2.NanFree)
          (stands : PairsStandFor pairs literals) : (Value.table literals).NanFree := by
        refine .table fun literal member => ?_
        obtain ⟨pair, known, -, found⟩ :=
          forall₂_left_of_mem (pairsStandFor_iff.mp stands) member
        exact ih literal member (comparable pair known) found
      cases stands with
      | table stands =>
          cases comparable with
          | table comparable => exact pairs (List.forall_mem_map.mpr comparable) stands
      | mapping stands =>
          cases comparable with
          | mapping keys comparable => exact pairs comparable stands

end Value

namespace Settings

open Files Value

variable {setting : Setting} {value value' : Value} {part part' : Part}
  {entries entries' : List (String × Value)} {mode : Mode} {sourcePath : Option String}
  {configuration configuration' : Configuration}

/-- The parts differ in the keys of their rules and arguments at most. -/
inductive Part.Respelled : Part → Part → Prop where
  | texts (texts : List String) : Respelled (.texts texts) (.texts texts)
  | truth (truth : Bool) : Respelled (.truth truth) (.truth truth)
  | rules {rules rules' : RuleArguments}
      (respelled : (Value.table rules.entries).Respelled (.table rules'.entries)) :
      Respelled (.rules rules) (.rules rules')

/-- The configurations differ in the keys of their rules and arguments at most. -/
structure Configuration.Respelled (configuration configuration' : Configuration) : Prop where
  parts : ∀ setting, (configuration.part setting).Respelled (configuration'.part setting)
  mode : configuration.mode = configuration'.mode
  sourcePath : configuration.sourcePath = configuration'.sourcePath

theorem eq_texts_of_respelled {texts : List String} {items : List Value}
    (respelled : Forall₂ Respelled (texts.map .text) items) : items = texts.map .text := by
  induction texts generalizing items with
  | nil =>
      cases respelled
      rfl
  | cons text texts ih =>
      cases respelled with
      | cons first later =>
          cases first
          rw [ih later, List.map_cons]

theorem Lists.respelled {texts : List String} (lists : Lists value texts)
    (respelled : value.Respelled value') : Lists value' texts := by
  cases lists with
  | one text =>
      cases respelled
      exact .one text
  | many texts =>
      cases respelled with
      | array all => exact eq_texts_of_respelled all ▸ .many texts

theorem exists_rules_respelled {rules : RuleArguments}
    (respelled : (Value.table rules.entries).Respelled (.table entries'))
    (literal : (Value.table entries').IsLiteral) :
    ∃ rules' : RuleArguments, entries' = rules'.entries := by
  rcases exists_rules fun _ => literal.entry with
    rules' | ⟨earlier, rule, value, later, rfl, wrong⟩
  · exact rules'
  · have member : (rule, value) ∈ earlier.entries ++ (rule, value) :: later :=
      List.mem_append_cons_self
    obtain ⟨entry, known, found⟩ := respelled.exists_spelled member
    obtain ⟨spelled, -, rfl⟩ := List.mem_map.mp known
    cases found.value
    cases wrong

/-- A setting takes a re-spelled value, and makes the same part of it up to the spelling. -/
theorem Setting.Takes.respelled (takes : setting.Takes value part)
    (respelled : value.Respelled value') (literal : value'.IsLiteral) :
    ∃ part', setting.Takes value' part' ∧ part.Respelled part' := by
  cases takes with
  | texts takes lists => exact ⟨_, .texts takes (lists.respelled respelled), .texts _⟩
  | truth takes truth =>
      cases respelled
      exact ⟨_, .truth takes truth, .truth truth⟩
  | rules rules =>
      cases respelled with
      | table order all =>
          have whole := Respelled.table order all
          obtain ⟨rules', rfl⟩ := exists_rules_respelled whole literal
          exact ⟨_, .rules rules', .rules whole⟩

theorem Setting.standard_respelled (setting : Setting) :
    (Configuration.standard.part setting).Respelled (Configuration.standard.part setting) := by
  cases setting with
  | severity | includeRules | excludeRules | customRulePath => exact .texts _
  | includeDefaultRules | recurseCustomRulePath => exact .truth _
  | rules => exact .rules (.table (.refl _) .nil)

theorem Part.Respelled.texts_eq {texts texts' : List String}
    (respelled : (Part.texts texts).Respelled (.texts texts')) : texts = texts' := by
  cases respelled
  rfl

theorem Part.Respelled.truth_eq {truth truth' : Bool}
    (respelled : (Part.truth truth).Respelled (.truth truth')) : truth = truth' := by
  cases respelled
  rfl

theorem Part.Respelled.rules_entries {rules rules' : RuleArguments}
    (respelled : (Part.rules rules).Respelled (.rules rules')) :
    (Value.table rules.entries).Respelled (.table rules'.entries) := by
  cases respelled with
  | rules respelled => exact respelled

theorem Fits.respelled {entry entry' : String × Value} (fits : Fits entry)
    (respelled : EntryRespelled entry entry') (literal : entry'.2.IsLiteral) : Fits entry' := by
  obtain ⟨setting, part, named, takes⟩ := fits
  obtain ⟨part', takes', -⟩ := takes.respelled respelled.value literal
  exact ⟨setting, part', respelled.key.symm.trans named, takes'⟩

/-- Re-spelled entries make a re-spelled configuration. -/
theorem Configures.respelled (configures : Configures mode sourcePath entries configuration)
    (configures' : Configures mode sourcePath entries' configuration')
    (respelled : (Value.table entries).Respelled (.table entries'))
    (literal : (Value.table entries).IsLiteral) : configuration.Respelled configuration' := by
  have literal' := literal.respelled respelled
  have given (setting : Setting) {value value' : Value}
      (found : Table.get? entries setting.name = some value)
      (found' : Table.get? entries' setting.name = some value') (same : value.Respelled value') :
      (configuration.part setting).Respelled (configuration'.part setting) := by
    obtain ⟨entry', member', -, rfl⟩ := Table.mem_of_get? found'
    obtain ⟨part', takes', made⟩ :=
      (configures.given setting value found).respelled same (literal'.entry member')
    rwa [← takes'.unique (configures'.given setting _ found')]
  have parts (setting : Setting) (other : setting ≠ .includeDefaultRules) :
      (configuration.part setting).Respelled (configuration'.part setting) := by
    rcases respelled.get? literal.distinct setting.name with
      ⟨absent, absent'⟩ | ⟨_, _, found, found', same⟩
    · rw [configures.absent setting other absent, configures'.absent setting other absent']
      exact setting.standard_respelled
    · exact given setting found found' same
  refine ⟨fun setting => ?_, configures.mode.trans configures'.mode.symm,
    configures.sourcePath.trans configures'.sourcePath.symm⟩
  by_cases other : setting = .includeDefaultRules
  · -- Where nothing is said of the default rules, the custom rule paths decide.
    subst other
    rcases respelled.get? literal.distinct Setting.includeDefaultRules.name with
      ⟨absent, absent'⟩ | ⟨_, _, found, found', same⟩
    · have paths := (parts .customRulePath (by decide)).texts_eq
      rw [Configuration.part, configures.defaults absent, paths, ← configures'.defaults absent']
      exact .truth _
    · exact given _ found found' same
  · exact parts setting other

theorem get?_entries (rules : RuleArguments) (key : String) :
    Table.get? rules.entries key = (Table.get? rules key).map .table := by
  simp [Table.get?, Table.find?, RuleArguments.entries, List.find?_map, Function.comp_def]

theorem Configuration.argumentsFor_mem (configuration : Configuration) (name qualified : String) :
    configuration.argumentsFor name qualified = [] ∨
      ∃ rule, (rule, configuration.argumentsFor name qualified) ∈ configuration.ruleArguments := by
  unfold Configuration.argumentsFor
  dsimp only
  cases found : ([qualified, name, Rule.simpleName name].filter (· != "")).findSome?
      (Table.get? configuration.ruleArguments) with
  | none => exact .inl rfl
  | some arguments =>
      obtain ⟨key, -, hit⟩ := List.exists_of_findSome?_eq_some found
      obtain ⟨⟨rule, _⟩, member, -, rfl⟩ := Table.mem_of_get? hit
      exact .inr ⟨rule, member⟩

section
variable (respelled : configuration.Respelled configuration')
  (literal : configuration.ruleArguments.value.IsLiteral)
include respelled literal

/-- Re-spelled configurations have re-spelled arguments for each rule. -/
theorem Configuration.Respelled.argumentsFor (name qualified : String) :
    (Value.table (configuration.argumentsFor name qualified)).Respelled
      (.table (configuration'.argumentsFor name qualified)) := by
  have rules := (respelled.parts .rules).rules_entries
  unfold Configuration.argumentsFor
  dsimp only
  induction [qualified, name, Rule.simpleName name].filter (· != "") with
  | nil => exact .table (.refl _) .nil
  | cons key keys ih =>
      rw [List.findSome?_cons, List.findSome?_cons]
      rcases rules.get? literal.distinct key with ⟨absent, absent'⟩ | ⟨_, _, found, found', same⟩
      · rw [get?_entries, Option.map_eq_none_iff] at absent absent'
        rw [absent, absent']
        exact ih
      · rw [get?_entries, Option.map_eq_some_iff] at found found'
        obtain ⟨arguments, found, rfl⟩ := found
        obtain ⟨arguments', found', rfl⟩ := found'
        rw [found, found']
        exact same

variable (comparable : configuration.ruleArguments.value.NanFree)
include comparable

theorem Configuration.Respelled.same : configuration.same configuration' = true := by
  have rules : configuration.ruleArguments.value.same configuration'.ruleArguments.value = true :=
    Value.Respelled.same (respelled.parts .rules).rules_entries literal comparable
  have parts := respelled.parts
  rw [Configuration.same, (parts .severity).texts_eq, (parts .includeRules).texts_eq,
    (parts .excludeRules).texts_eq, (parts .customRulePath).texts_eq,
    (parts .recurseCustomRulePath).truth_eq, (parts .includeDefaultRules).truth_eq]
  simpa using rules

theorem Configuration.Respelled.same_argumentsFor (name qualified : String) :
    (Value.table (configuration.argumentsFor name qualified)).same
      (.table (configuration'.argumentsFor name qualified)) = true := by
  refine Value.Respelled.same (respelled.argumentsFor literal name qualified) ?_ ?_
  all_goals rcases configuration.argumentsFor_mem name qualified with none | ⟨rule, member⟩
  · exact none ▸ .table Table.distinct_nil (List.forall_mem_nil _)
  · exact literal.entry (List.mem_map_of_mem member)
  · exact none ▸ .table (List.forall_mem_nil _)
  · cases comparable with
    | table comparable => exact comparable _ (List.mem_map_of_mem member)

end

theorem Configures.nanFree (configures : Configures mode sourcePath entries configuration)
    (comparable : (Value.table entries).NanFree) :
    configuration.ruleArguments.value.NanFree := by
  cases comparable with
  | table comparable =>
      cases found : Table.get? entries Setting.rules.name with
      | none =>
          have standard : configuration.ruleArguments = [] :=
            Part.rules.inj (configures.absent .rules (by decide) found)
          rw [standard]
          exact .table (List.forall_mem_nil _)
      | some value =>
          have takes : Setting.rules.Takes value (.rules configuration.ruleArguments) :=
            configures.given .rules value found
          obtain ⟨entry, member, -, rfl⟩ := Table.mem_of_get? found
          have comparable := comparable entry member
          generalize entry.2 = value at takes comparable
          cases takes
          exact comparable

/-- Settings that are re-spelled and reordered, at any level, are resolved to the same
configuration with its rules and arguments re-spelled and reordered.  Without a nan, which equals
no other one, the configurations and the arguments of each rule are equal. -/
theorem resolve_respelled {tree tree' : FileTree} {given given' : Value} {folder folder' : String}
    (mapping : IsMapping given) (respelled : given.Respelled given')
    (resolved : resolve tree given folder = .ok configuration) :
    ∃ configuration', resolve tree' given' folder' = .ok configuration' ∧
      configuration.Respelled configuration' ∧
      (∀ name qualified, (Value.table (configuration.argumentsFor name qualified)).Respelled
        (.table (configuration'.argumentsFor name qualified))) ∧
      (given.NanFree → configuration.same configuration' = true ∧
        ∀ name qualified, (Value.table (configuration.argumentsFor name qualified)).same
          (.table (configuration'.argumentsFor name qualified)) = true) := by
  obtain ⟨entries, stands, literal, fits, configures⟩ :=
    (resolve_mapping_eq_ok_iff mapping).mp resolved
  obtain ⟨entries', stands', found⟩ : ∃ entries', given'.StandsFor (.table entries') ∧
      (Value.table entries).Respelled (.table entries') := by
    obtain ⟨_, stands', found⟩ := literal.standsRespelled given given' stands respelled
    cases found with
    | table order all => exact ⟨_, stands', .table order all⟩
  have literal' := literal.respelled found
  have fits' : ∀ entry' ∈ entries', Fits entry' := by
    intro entry' member'
    obtain ⟨entry, member, same⟩ := found.exists_spelled member'
    exact (fits entry member).respelled same (literal'.entry member')
  obtain ⟨configuration', -, configures'⟩ := exists_configures .hashtable none [] literal' fits'
  have mapping' : IsMapping given' := by
    cases stands' <;> trivial
  have rules := (configures.takes literal .rules).2
  have same := configures.respelled configures' found literal
  refine ⟨configuration', ?_, same, same.argumentsFor rules, fun comparable => ?_⟩
  · exact (resolve_mapping_eq_ok_iff mapping').mpr ⟨entries', stands', literal', fits', configures'⟩
  · have comparable := configures.nanFree (comparable.of_standsFor literal stands)
    exact ⟨same.same rules comparable, same.same_argumentsFor rules comparable⟩

/-- Settings for one argument of one rule. -/
def limitSettings (rules rule argument : String) (limit : Number) : Value :=
  .mapping [(.text rules, .mapping [(.text rule, .mapping [(.text argument, .number limit)])])]

def limitConfiguration (rule argument : String) (limit : Number) : Configuration where
  ruleArguments := [(rule, [(argument, .number limit)])]
  mode := .hashtable

theorem limitSettings_respelled {rules rules' rule rule' argument argument' : String}
    {limit limit' : Number} (sameRules : Text.lower rules = Text.lower rules')
    (sameRule : Text.lower rule = Text.lower rule')
    (sameArgument : Text.lower argument = Text.lower argument')
    (sameLimit : (Value.number limit).Respelled (.number limit')) :
    (limitSettings rules rule argument limit).Respelled
      (limitSettings rules' rule' argument' limit') := by
  have single {key key' : String} {value value' : Value} (same : Text.lower key = Text.lower key')
      (first : value.Respelled value') :
      (Value.mapping [(.text key, value)]).Respelled (.mapping [(.text key', value')]) :=
    @Respelled.mapping [(key, value)] _ [(key', value')] (.refl _) (.cons (.intro same first) .nil)
  exact single sameRules (single sameRule (single sameArgument sameLimit))

/-- Equality fails where an argument is a nan that has become another one. -/
theorem resolve_respelled_nan :
    (limitSettings "Rules" "R" "Limit" (.real (.nan 0))).Respelled
      (limitSettings "rules" "r" "LIMIT" (.real (.nan 1))) ∧
    resolve ⟨"/work", "/work/home", []⟩ (limitSettings "Rules" "R" "Limit" (.real (.nan 0))) "" =
      .ok (limitConfiguration "R" "Limit" (.real (.nan 0))) ∧
    resolve ⟨"/work", "/work/home", []⟩ (limitSettings "rules" "r" "LIMIT" (.real (.nan 1))) "" =
      .ok (limitConfiguration "r" "LIMIT" (.real (.nan 1))) ∧
    (limitConfiguration "R" "Limit" (.real (.nan 0))).same
      (limitConfiguration "r" "LIMIT" (.real (.nan 1))) = false := by
  refine ⟨limitSettings_respelled ?_ ?_ ?_ (.nan 0 1), rfl, rfl, ?_⟩ <;> decide +kernel

/-- Settings with a list of texts and two arguments of a rule. -/
def alignSettings : Value :=
  .mapping (textPairs [("severity", .list [.text "Error"]),
    ("Rules", .table [("PSAlign", .table [("Width", .number (.integer 3)), ("On", .bool true)])])])

def alignSettingsRespelled : Value :=
  .mapping (textPairs [("RULES", .table [("psalign", .table [("on", .bool true),
    ("WIDTH", .number (.integer 3))])]), ("Severity", .list [.text "Error"])])

theorem resolve_respelled_align :
    alignSettings.Respelled alignSettingsRespelled ∧ alignSettings.NanFree ∧
    ∃ configuration configuration',
      resolve ⟨"/work", "/work/home", []⟩ alignSettings "" = .ok configuration ∧
      resolve ⟨"/work", "/work/home", []⟩ alignSettingsRespelled "" = .ok configuration' ∧
      configuration.same configuration' = true := by
  have mapping : IsMapping alignSettings := trivial
  have respelled : alignSettings.Respelled alignSettingsRespelled := by
    refine .mapping (.swap _ _ _) (.cons (.intro (by decide +kernel) ?_)
      (.cons (.intro (by decide +kernel) ?_) .nil))
    · refine .table (.refl _) (.cons (.intro (by decide +kernel) ?_) .nil)
      exact .table (.swap _ _ _) (.cons (.intro (by decide +kernel) (.bool true))
        (.cons (.intro (by decide +kernel) (.number _)) .nil))
    · exact .list (.cons (.text "Error") .nil)
  have comparable : alignSettings.NanFree := by
    refine .mapping (by simp [textPairs, NanFree.text])
      (List.forall_mem_cons.mpr ⟨?_, List.forall_mem_singleton.mpr ?_⟩)
    · exact .list (List.forall_mem_singleton.mpr (.text "Error"))
    · refine .table (List.forall_mem_singleton.mpr (.table (List.forall_mem_cons.mpr ⟨?_, ?_⟩)))
      · exact .number (by decide)
      · exact List.forall_mem_singleton.mpr (.bool true)
  obtain ⟨configuration, resolved⟩ : ∃ configuration,
      resolve ⟨"/work", "/work/home", []⟩ alignSettings "" = .ok configuration := ⟨_, rfl⟩
  obtain ⟨configuration', resolved', -, -, same⟩ := resolve_respelled mapping respelled resolved
  exact ⟨respelled, comparable, configuration, configuration', resolved, resolved',
    (same comparable).1⟩

end Settings
end ScriptAudit
