import ScriptAudit.Proofs.Settings.Blame
import ScriptAudit.Proofs.Value.Earlier

namespace ScriptAudit.Settings

/-! What a configuration has from the entries of a table.

Every setting has a part of the configuration to itself.  Taking an entry over makes the part of its
setting and leaves the other parts as they are, so the order of the entries decides nothing but
which of the wrong ones is met first. -/

open Text (greatestIntegerDigits)

/-- The texts without an earlier one that is the same when letter case is ignored. -/
def firstSpellings (texts : List String) : List String :=
  (withEarlier texts).filterMap fun place =>
    if place.2.any (Text.lower · == Text.lower place.1) then none else some place.1

/-- The rules as entries of a table. -/
def RuleArguments.entries (rules : RuleArguments) : List (String × Value) :=
  rules.map fun rule => (rule.1, .table rule.2)

/-- What a setting decides. -/
inductive Part where
  | texts (texts : List String)
  | truth (truth : Bool)
  | rules (rules : RuleArguments)

def Configuration.part (configuration : Configuration) : Setting → Part
  | .severity => .texts configuration.severities
  | .includeRules => .texts configuration.includeRules
  | .excludeRules => .texts configuration.excludeRules
  | .customRulePath => .texts configuration.customRulePaths
  | .includeDefaultRules => .truth configuration.includeDefaultRules
  | .recurseCustomRulePath => .truth configuration.recurseCustomRulePath
  | .rules => .rules configuration.ruleArguments

/-- A text or an array of texts. -/
inductive Lists : Value → List String → Prop where
  | one (text : String) : Lists (.text text) [text]
  | many (texts : List String) : Lists (.array (texts.map .text)) texts

/-- The setting takes this value, and makes this part of it. -/
inductive Setting.Takes : Setting → Value → Part → Prop where
  | texts {setting : Setting} {value : Value} {texts : List String} (takes : setting.takesTexts)
      (lists : Lists value texts) : Takes setting value (.texts (firstSpellings texts))
  | truth {setting : Setting} (takes : setting.takesTruth) (truth : Bool) :
      Takes setting (.bool truth) (.truth truth)
  | rules (rules : RuleArguments) : Takes .rules (.table rules.entries) (.rules rules)

/-- The key of the entry names a setting that takes its value. -/
def Fits (entry : String × Value) : Prop :=
  ∃ (setting : Setting) (part : Part),
    Text.lower entry.1 = Text.lower setting.name ∧ setting.Takes entry.2 part

/-- The entry does not fit, for this cause. -/
inductive Misfits : String × Value → Fault.Cause → Prop where
  | unknown {key : String} {value : Value}
      (unknown : ∀ setting : Setting, Text.lower key ≠ Text.lower setting.name) :
      Misfits (key, value) (.unknownSetting key (Setting.all.map Setting.name))
  | notTexts {key : String} {value : Value} {setting : Setting}
      (named : Text.lower key = Text.lower setting.name) (takes : setting.takesTexts)
      (wrong : ∀ texts, ¬ Lists value texts) : Misfits (key, value) (.notTexts key value)
  | notTruth {key : String} {value : Value} {setting : Setting}
      (named : Text.lower key = Text.lower setting.name) (takes : setting.takesTruth)
      (wrong : ∀ truth, value ≠ .bool truth) :
      Misfits (key, value) (.typeMismatch key "boolean" value)
  | notTable {key : String} {value : Value}
      (named : Text.lower key = Text.lower Setting.rules.name) (wrong : value.isKeyed = false) :
      Misfits (key, value) (.rulesNotTable key)
  | notArguments {key rule : String} {value : Value} {earlier : RuleArguments}
      {later : List (String × Value)} (named : Text.lower key = Text.lower Setting.rules.name)
      (wrong : value.isKeyed = false) :
      Misfits (key, .table (earlier.entries ++ (rule, value) :: later))
        (.argumentsNotTable rule value)

/-- The configuration says what the entries say, and has the defaults where they say nothing. -/
structure Configures (mode : Mode) (sourcePath : Option String)
    (entries : List (String × Value)) (configuration : Configuration) : Prop where
  given : ∀ (setting : Setting) (value : Value), Table.get? entries setting.name = some value →
    setting.Takes value (configuration.part setting)
  absent : ∀ setting : Setting, setting ≠ .includeDefaultRules →
    Table.get? entries setting.name = none →
    configuration.part setting = Configuration.standard.part setting
  defaults : Table.get? entries Setting.includeDefaultRules.name = none →
    configuration.includeDefaultRules = configuration.customRulePaths.isEmpty
  mode : configuration.mode = mode
  sourcePath : configuration.sourcePath = sourcePath

theorem distinctTexts_eq (seen texts : List String) :
    distinctTexts seen texts = (withEarlier texts).filterMap fun place =>
      if seen.contains (Text.lower place.1) || place.2.any (Text.lower · == Text.lower place.1)
      then none else some place.1 := by
  induction texts generalizing seen with
  | nil => rfl
  | cons text rest ih =>
      have moved := seen_or_earlier Text.lower text seen
      rw [withEarlier_cons, List.filterMap_cons, List.filterMap_map, List.any_nil, Bool.or_false,
        distinctTexts]
      split
      · next met =>
          -- What was seen before does not become more by a text that was seen.
          have same (wanted : String) :
              (Text.lower text :: seen).contains wanted = seen.contains wanted := by
            have member : Text.lower text ∈ seen := by simpa using met
            simp only [List.contains_eq_mem, List.mem_cons]
            grind
          refine (ih seen).trans (List.filterMap_congr fun place _ => ?_)
          rw [← same, moved]
          rfl
      · next new =>
          rw [ih]
          refine congrArg (text :: ·) (List.filterMap_congr fun place _ => ?_)
          rw [moved]
          rfl

theorem distinctTexts_nil (texts : List String) :
    distinctTexts [] texts = firstSpellings texts := by
  simp only [distinctTexts_eq, List.contains_nil, Bool.false_or, firstSpellings]

theorem textItems?_array {items : List Value} {texts : List String} :
    textItems? (.array items) = some texts ↔ items = texts.map .text := by
  rw [textItems?]
  induction items generalizing texts with
  | nil => cases texts <;> simp
  | cons item items ih =>
      rw [List.mapM_cons]
      cases item <;> cases texts <;> simp [Option.bind_eq_some_iff, ih, and_comm]

theorem textItems?_eq_some {value : Value} {texts : List String} :
    textItems? value = some texts ↔ Lists value texts := by
  constructor
  · intro found
    cases value with
    | text text =>
        cases found
        exact .one text
    | array items => exact textItems?_array.mp found ▸ .many texts
    | _ => cases found
  · rintro (text | texts)
    · rfl
    · exact textItems?_array.mpr rfl

namespace Setting

theorem ofKey?_eq_some {key : String} {setting : Setting} :
    ofKey? key = some setting ↔ Text.lower key = Text.lower setting.name := by
  refine ⟨lower_of_known, fun same => ?_⟩
  rw [ofKey?, same]
  cases setting <;> decide +kernel

theorem ofKey?_eq_none {key : String} :
    ofKey? key = none ↔ ∀ setting : Setting, Text.lower key ≠ Text.lower setting.name := by
  simp only [ne_eq, ← ofKey?_eq_some, Option.eq_none_iff_forall_ne_some]

end Setting

/-- What taking over a setting does to the draft. -/
structure Draft.Sets (draft : Draft) (setting : Setting) (part : Part) (next : Draft) : Prop where
  made : next.configuration.part setting = part
  others : ∀ other, other ≠ setting →
    next.configuration.part other = draft.configuration.part other
  defaults : next.saysDefaults = (draft.saysDefaults || decide (setting = .includeDefaultRules))
  mode : next.configuration.mode = draft.configuration.mode
  sourcePath : next.configuration.sourcePath = draft.configuration.sourcePath

section
variable (locations : Locations) (draft : Draft) {setting : Setting} {key : String} {value : Value}
variable {part : Part}

theorem map_ok {α β : Type} {f : α → β} {outcome : Except Problem α} {value : α}
    (ended : outcome = .ok value) : f <$> outcome = .ok (f value) := by
  rw [ended]
  rfl

theorem textsOf_lists {texts : List String} (lists : Lists value texts) :
    textsOf locations key value = .ok (firstSpellings texts) := by
  rw [textsOf, textItems?_eq_some.mpr lists, ← distinctTexts_nil]

theorem ruleTables_entries (rules : RuleArguments) :
    ruleTables locations rules.entries =
      .ok (rules.map fun rule => (.text rule.1, rule.2)) := by
  induction rules with
  | nil => rfl
  | cons rule rules ih =>
      rw [RuleArguments.entries, List.map_cons, ruleTables_cons, ← RuleArguments.entries,
        ih]
      rfl

theorem folded_entries (rules : RuleArguments) :
    Table.folded rules.entries = Table.folded rules := by
  simp [Table.folded, RuleArguments.entries]

theorem set_rules_entries {rules : RuleArguments} (distinct : Table.Distinct rules) :
    draft.set locations .rules key (.table rules.entries) =
      .ok { draft with
        configuration := { draft.configuration with ruleArguments := rules } } := by
  have named : (Table.ofPairs (rules.map fun rule => (.text rule.1, rule.2))).mapError
      Problem.table = .ok rules := by
    rw [Table.ofPairs_texts distinct]
    rfl
  rw [set_rules, ruleTables_entries]
  exact map_ok named

theorem set_takes (takes : setting.Takes value part) (literal : value.IsLiteral) :
    ∃ next, draft.set locations setting key value = .ok next ∧ draft.Sets setting part next := by
  cases takes with
  | @texts setting value texts takes lists =>
      have listed : (textsOf locations key value).mapError Problem.ofFault =
          .ok (firstSpellings texts) := by
        rw [textsOf_lists locations lists]
        rfl
      cases setting with
      | severity | includeRules | excludeRules | customRulePath =>
          refine ⟨_, map_ok listed, rfl, fun other apart => ?_, (Bool.or_false _).symm, rfl, rfl⟩
          cases other <;> first | rfl | exact absurd rfl apart
      | includeDefaultRules | recurseCustomRulePath | rules => cases takes
  | @truth setting takes truth =>
      cases setting with
      | includeDefaultRules =>
          refine ⟨_, rfl, rfl, fun other apart => ?_, (Bool.or_true _).symm, rfl, rfl⟩
          cases other <;> first | rfl | exact absurd rfl apart
      | recurseCustomRulePath =>
          refine ⟨_, rfl, rfl, fun other apart => ?_, (Bool.or_false _).symm, rfl, rfl⟩
          cases other <;> first | rfl | exact absurd rfl apart
      | severity | includeRules | excludeRules | customRulePath | rules => cases takes
  | rules rules =>
      cases literal with
      | table distinct all =>
          rw [Table.Distinct, folded_entries] at distinct
          refine ⟨_, set_rules_entries locations draft distinct, rfl, fun other apart => ?_,
            (Bool.or_false _).symm, rfl, rfl⟩
          cases other <;> first | rfl | exact absurd rfl apart

theorem ruleTables_stops (earlier : RuleArguments) {rule : String}
    {later : List (String × Value)} (wrong : value.isKeyed = false) :
    ruleTables locations (earlier.entries ++ (rule, value) :: later) =
      .error (offence locations (.argumentsNotTable rule value)) := by
  induction earlier with
  | nil =>
      change ruleTables locations ((rule, value) :: later) = _
      rw [ruleTables_cons, argumentsOf_not_table locations wrong]
      rfl
  | cons first earlier ih =>
      rw [RuleArguments.entries, List.map_cons, List.cons_append, ruleTables_cons,
        ← RuleArguments.entries, ih]
      rfl

/-- The first entry that is no table, if there is one. -/
theorem exists_rules {entries : List (String × Value)}
    (literal : ∀ entry ∈ entries, entry.2.IsLiteral) :
    (∃ rules : RuleArguments, entries = rules.entries) ∨
      ∃ (earlier : RuleArguments) (rule : String) (value : Value) (later : List (String × Value)),
        entries = earlier.entries ++ (rule, value) :: later ∧ value.isKeyed = false := by
  induction entries with
  | nil => exact .inl ⟨[], rfl⟩
  | cons entry entries ih =>
      obtain ⟨literalFirst, literalLater⟩ := List.forall_mem_cons.mp literal
      by_cases keyed : entry.2.isKeyed
      · obtain ⟨arguments, table⟩ := table_of_keyed literalFirst keyed
        have same : entry = (entry.1, .table arguments) := by rw [← table]
        rcases ih literalLater with ⟨rules, rfl⟩ | ⟨earlier, rule, value, later, rfl, wrong⟩
        · exact .inl ⟨(entry.1, arguments) :: rules, by rw [same]; rfl⟩
        · exact .inr ⟨(entry.1, arguments) :: earlier, rule, value, later, by rw [same]; rfl, wrong⟩
      · exact .inr ⟨[], entry.1, entry.2, entries, rfl, Bool.eq_false_iff.mpr keyed⟩

variable {entry : String × Value} {cause : Fault.Cause}

theorem Misfits.stops (misfits : Misfits entry cause) :
    draft.take locations (.text entry.1) entry.2 = .error (offence locations cause) := by
  cases misfits with
  | unknown unknown => exact take_unknown locations draft (Setting.ofKey?_eq_none.mpr unknown)
  | @notTexts key value setting named takes wrong =>
      rw [take_known locations draft (Setting.ofKey?_eq_some.mpr named)]
      refine (set_texts locations draft takes).mpr ⟨?_, rfl⟩
      exact Option.eq_none_iff_forall_ne_some.mpr fun texts found =>
        wrong texts (textItems?_eq_some.mp found)
  | notTruth named takes wrong =>
      rw [take_known locations draft (Setting.ofKey?_eq_some.mpr named)]
      exact (set_truth locations draft takes).mpr ⟨wrong, rfl⟩
  | notTable named wrong =>
      rw [take_known locations draft (Setting.ofKey?_eq_some.mpr named)]
      exact set_not_table locations draft wrong
  | notArguments named wrong =>
      rw [take_known locations draft (Setting.ofKey?_eq_some.mpr named), set_rules,
        ruleTables_stops locations _ wrong]
      rfl

/-- An entry of a table of literals fits or it does not, for some cause. -/
theorem misfits_of_not_fits (literal : entry.2.IsLiteral) (wrong : ¬ Fits entry) :
    ∃ cause, Misfits entry cause := by
  obtain ⟨key, value⟩ := entry
  by_cases unknown : ∀ setting : Setting, Text.lower key ≠ Text.lower setting.name
  · exact ⟨_, .unknown unknown⟩
  · push Not at unknown
    obtain ⟨setting, named⟩ := unknown
    have wrong : ∀ part, ¬ setting.Takes value part := fun part takes =>
      wrong ⟨setting, part, named, takes⟩
    cases setting with
    | severity | includeRules | excludeRules | customRulePath =>
        exact ⟨_, .notTexts named rfl fun texts lists => wrong _ (.texts rfl lists)⟩
    | includeDefaultRules | recurseCustomRulePath =>
        refine ⟨_, .notTruth named rfl ?_⟩
        rintro truth rfl
        exact wrong _ (.truth rfl truth)
    | rules =>
        by_cases keyed : value.isKeyed
        · obtain ⟨entries, rfl⟩ := table_of_keyed literal keyed
          rcases exists_rules fun _ => literal.entry with
            ⟨rules, rfl⟩ | ⟨earlier, rule, value, later, rfl, wrongArguments⟩
          · exact absurd (.rules rules) (wrong _)
          · exact ⟨_, .notArguments named wrongArguments⟩
        · exact ⟨_, .notTable named (Bool.eq_false_iff.mpr keyed)⟩

/-- The draft that was made of these entries. -/
structure Drafted (mode : Mode) (sourcePath : Option String) (entries : List (String × Value))
    (draft : Draft) : Prop where
  given : ∀ (setting : Setting) (value : Value), Table.get? entries setting.name = some value →
    setting.Takes value (draft.configuration.part setting)
  absent : ∀ setting : Setting, Table.get? entries setting.name = none →
    draft.configuration.part setting = Configuration.standard.part setting
  defaults : draft.saysDefaults = (Table.get? entries Setting.includeDefaultRules.name).isSome
  mode : draft.configuration.mode = mode
  sourcePath : draft.configuration.sourcePath = sourcePath

variable {mode : Mode} {sourcePath : Option String} {made : List (String × Value)} {next : Draft}

theorem Setting.name_eq {first second : Setting}
    (same : Text.lower first.name = Text.lower second.name) : first = second :=
  Option.some.inj ((ofKey?_eq_some.mpr rfl).symm.trans (ofKey?_eq_some.mpr same))

theorem Drafted.concat (drafted : Drafted mode sourcePath made draft)
    (new : Table.contains made key = false) (named : Text.lower key = Text.lower setting.name)
    (takes : setting.Takes value part) (sets : draft.Sets setting part next) :
    Drafted mode sourcePath (made ++ [(key, value)]) next := by
  have found (other : Setting) : Table.get? (made ++ [(key, value)]) other.name =
      if other = setting then some value else Table.get? made other.name := by
    rw [Table.get?_concat new, named]
    refine if_congr ⟨fun same => (Setting.name_eq same).symm, ?_⟩ rfl rfl
    rintro rfl
    rfl
  constructor
  case given =>
    intro other said given
    rw [found] at given
    split at given
    · next same =>
        cases given
        rw [same, sets.made]
        exact takes
    · next apart =>
        rw [sets.others other apart]
        exact drafted.given other said given
  case absent =>
    intro other absent
    rw [found] at absent
    split at absent
    · cases absent
    · next apart => rw [sets.others other apart, drafted.absent other absent]
  case defaults =>
    rw [sets.defaults, drafted.defaults, found]
    by_cases same : setting = .includeDefaultRules
    · simp [same]
    · simp [same, Ne.symm same]
  case mode => rw [sets.mode, drafted.mode]
  case sourcePath => rw [sets.sourcePath, drafted.sourcePath]

/-- As long as the entries fit, they go on making a draft. -/
theorem drafted_of_fits {later : List (String × Value)}
    (drafted : Drafted mode sourcePath made draft) (distinct : Table.Distinct (made ++ later))
    (literal : ∀ entry ∈ later, entry.2.IsLiteral) (fits : ∀ entry ∈ later, Fits entry) :
    ∃ next, (textPairs later).foldlM (fun draft pair => draft.take locations pair.1 pair.2) draft =
        .ok next ∧ Drafted mode sourcePath (made ++ later) next := by
  induction later generalizing made draft with
  | nil => exact ⟨draft, rfl, by rwa [List.append_nil]⟩
  | cons entry later ih =>
      obtain ⟨literalFirst, literalLater⟩ := List.forall_mem_cons.mp literal
      obtain ⟨⟨setting, part, named, takes⟩, fitsLater⟩ := List.forall_mem_cons.mp fits
      obtain ⟨taken, passed, sets⟩ := set_takes locations draft takes literalFirst
      have first := drafted.concat draft distinct.not_contains named takes sets
      rw [List.append_cons] at distinct ⊢
      obtain ⟨next, ended, drafted⟩ := ih taken first distinct literalLater fitsLater
      refine ⟨next, ?_, drafted⟩
      rw [textPairs, List.map_cons, List.foldlM_cons,
        take_known locations draft (Setting.ofKey?_eq_some.mpr named), passed]
      exact ended

theorem Draft.finish_part (other : setting ≠ .includeDefaultRules) :
    draft.finish.part setting = draft.configuration.part setting := by
  unfold Draft.finish
  split
  · cases setting <;> first | rfl | exact absurd rfl other
  · rfl

theorem Draft.finish_eq (decided : draft.saysDefaults = true) :
    draft.finish = draft.configuration := by
  simp [Draft.finish, decided]

theorem Drafted.configures {entries : List (String × Value)}
    (drafted : Drafted mode sourcePath entries draft) :
    Configures mode sourcePath entries draft.finish := by
  constructor
  case given =>
    intro setting value given
    by_cases same : setting = .includeDefaultRules
    · subst same
      have decided : draft.saysDefaults = true := by rw [drafted.defaults, given]; rfl
      rw [draft.finish_eq decided]
      exact drafted.given _ value given
    · rw [draft.finish_part same]
      exact drafted.given setting value given
  case absent =>
    intro setting other absent
    rw [draft.finish_part other, drafted.absent setting absent]
  case defaults =>
    intro absent
    have undecided : draft.saysDefaults = false := by rw [drafted.defaults, absent]; rfl
    have standard : draft.configuration.includeDefaultRules = true :=
      Part.truth.inj (drafted.absent _ absent)
    unfold Draft.finish
    split
    · next custom => simpa [undecided] using custom
    · next plain => simpa [undecided, standard] using plain
  case mode =>
    unfold Draft.finish
    split <;> exact drafted.mode
  case sourcePath =>
    unfold Draft.finish
    split <;> exact drafted.sourcePath

end

section
variable (mode : Mode) (sourcePath : Option String) (locations : Locations)
variable {entries : List (String × Value)}

theorem drafted_nil : Drafted mode sourcePath []
    { configuration := { mode := mode, sourcePath := sourcePath } } where
  given _ _ given := by cases given
  absent setting _ := by cases setting <;> rfl
  defaults := rfl
  mode := rfl
  sourcePath := rfl

theorem exists_configures (literal : (Value.table entries).IsLiteral)
    (fits : ∀ entry ∈ entries, Fits entry) :
    ∃ configuration, build mode sourcePath locations (Value.table entries).pairs =
        .ok configuration ∧ Configures mode sourcePath entries configuration := by
  cases literal with
  | table distinct all =>
      obtain ⟨draft, ended, drafted⟩ :=
        drafted_of_fits locations _ (drafted_nil mode sourcePath) distinct all fits
      exact ⟨draft.finish, map_ok ended, drafted.configures⟩

/-- Building stops at an entry that does not fit when all entries in front of it do. -/
theorem build_stops (literal : (Value.table entries).IsLiteral)
    {before after : List (String × Value)} {entry : String × Value}
    (parted : entries = before ++ entry :: after) (fits : ∀ fit ∈ before, Fits fit)
    (wrong : ¬ Fits entry) :
    ∃ cause, Misfits entry cause ∧
      build mode sourcePath locations (Value.table entries).pairs =
        .error (offence locations cause) := by
  subst parted
  cases literal with
  | table distinct all =>
      obtain ⟨allBefore, allLater⟩ := List.forall_mem_append.mp all
      have distinctBefore : Table.Distinct ([] ++ before) := by
        rw [Table.Distinct, Table.folded, List.map_append] at distinct
        exact (List.nodup_append.mp distinct).1
      obtain ⟨draft, ended, -⟩ := drafted_of_fits locations _ (drafted_nil mode sourcePath)
        distinctBefore allBefore fits
      obtain ⟨cause, misfits⟩ := misfits_of_not_fits (allLater entry List.mem_cons_self) wrong
      refine ⟨cause, misfits, map_eq_error.mpr ?_⟩
      rw [Value.pairs, List.map_append, List.foldlM_append, ← textPairs, ended, List.map_cons]
      change (do let draft ← draft.take locations (.text entry.1) entry.2; _) = _
      rw [misfits.stops]
      rfl

theorem exists_first_misfit (wrong : ¬ ∀ entry ∈ entries, Fits entry) :
    ∃ before entry after, entries = before ++ entry :: after ∧ (∀ fit ∈ before, Fits fit) ∧
      ¬ Fits entry := by
  classical
  cases first : entries.find? fun entry => ¬ Fits entry with
  | none => exact absurd (by simpa using first) wrong
  | some entry =>
      obtain ⟨misfit, before, after, parted, fits⟩ := List.find?_eq_some_iff_append.mp first
      exact ⟨before, entry, after, parted, by simpa using fits, by simpa using misfit⟩

end

/-- A table of literals makes a configuration exactly when all of its entries fit, and the
configuration says what they say.  Otherwise the first entry that does not fit gives the fault,
unless the message would have to show a number with too many digits. -/
theorem build_exact {entries : List (String × Value)} (literal : (Value.table entries).IsLiteral)
    (mode : Mode) (sourcePath : Option String) (locations : Locations) :
    ((∃ configuration, build mode sourcePath locations (Value.table entries).pairs =
        .ok configuration) ↔ ∀ entry ∈ entries, Fits entry) ∧
    (∀ configuration, build mode sourcePath locations (Value.table entries).pairs =
        .ok configuration → Configures mode sourcePath entries configuration) ∧
    ∀ before entry after, entries = before ++ entry :: after → (∀ fit ∈ before, Fits fit) →
      ¬ Fits entry → ∃ cause, Misfits entry cause ∧
        build mode sourcePath locations (Value.table entries).pairs =
          .error (if cause.isShown then .fault ⟨cause, askedExtent locations cause⟩
            else .integerNotShown) := by
  have made (fits : ∀ entry ∈ entries, Fits entry) :=
    exists_configures mode sourcePath locations literal fits
  have fits_of_ok : ∀ configuration, build mode sourcePath locations (Value.table entries).pairs =
      .ok configuration → ∀ entry ∈ entries, Fits entry := by
    intro configuration built
    by_contra wrong
    obtain ⟨before, entry, after, parted, fits, wrong⟩ := exists_first_misfit wrong
    obtain ⟨cause, -, stopped⟩ := build_stops mode sourcePath locations literal parted fits wrong
    cases built.symm.trans stopped
  refine ⟨⟨fun ⟨configuration, built⟩ => fits_of_ok configuration built, fun fits => ?_⟩, ?_, ?_⟩
  · obtain ⟨configuration, built, -⟩ := made fits
    exact ⟨configuration, built⟩
  · intro configuration built
    obtain ⟨_, same, configures⟩ := made (fits_of_ok configuration built)
    cases built.symm.trans same
    exact configures
  · intro before entry after parted fits wrong
    exact build_stops mode sourcePath locations literal parted fits wrong

/-- The least number with too many digits. -/
def leastHidden : Number :=
  .integer (.ofNat (Nat.pow 10 greatestIntegerDigits))

theorem leastHidden_hidden : Fault.isShownNumber leastHidden = false := by
  have long {digits : Nat} (some : 0 < digits) :
      ¬ (Nat.toDigits 10 (Nat.pow 10 digits)).length ≤ digits := by
    rw [Nat.length_toDigits_le_iff (by decide) some]
    exact Nat.lt_irrefl _
  have some : 0 < greatestIntegerDigits := by decide
  rw [leastHidden, Fault.isShownNumber, Int.natAbs]
  exact decide_eq_false (long some)

/-- An integer with too many digits hides that it is no truth value. -/
theorem build_misses_number :
    (Value.table [("IncludeDefaultRules", .number leastHidden)]).IsLiteral ∧
    ¬ Fits ("IncludeDefaultRules", .number leastHidden) ∧
    build .file none [] (Value.table [("IncludeDefaultRules", .number leastHidden)]).pairs =
      .error .integerNotShown := by
  have hidden := leastHidden_hidden
  have literal : (Value.table [("IncludeDefaultRules", .number leastHidden)]).IsLiteral :=
    .table (List.pairwise_singleton _ _) (List.forall_mem_singleton.mpr (.number _))
  have wrong : ¬ Fits ("IncludeDefaultRules", .number leastHidden) := by
    rintro ⟨setting, part, -, takes⟩
    cases takes with
    | texts takes lists => cases lists
  refine ⟨literal, wrong, ?_⟩
  have named {setting : Setting}
      (same : Text.lower Setting.includeDefaultRules.name = Text.lower setting.name) :
      setting = .includeDefaultRules := (Setting.name_eq same).symm
  obtain ⟨-, -, stops⟩ := build_exact literal .file none []
  obtain ⟨cause, misfits, stopped⟩ := stops [] _ [] rfl (List.forall_mem_nil _) wrong
  cases misfits with
  | unknown unknown => exact absurd rfl (unknown .includeDefaultRules)
  | notTexts same takes =>
      cases named same
      cases takes
  | notTruth => exact stopped.trans (by simp [Fault.Cause.isShown, hidden])
  | notTable same => cases named same

end ScriptAudit.Settings
