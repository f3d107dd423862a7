import ScriptAudit.Proofs.Settings.Contents

namespace ScriptAudit.Settings

/-! A configuration is determined by the entries that it is made of. -/

variable {setting : Setting} {value : Value} {part part' : Part} {entries : List (String × Value)}
  {mode : Mode} {sourcePath : Option String} {configuration configuration' : Configuration}

theorem Lists.unique {texts texts' : List String} (lists : Lists value texts)
    (listsToo : Lists value texts') : texts = texts' :=
  Option.some.inj ((textItems?_eq_some.mpr lists).symm.trans (textItems?_eq_some.mpr listsToo))

theorem RuleArguments.entries_inj {rules rules' : RuleArguments}
    (same : rules.entries = rules'.entries) : rules = rules' := by
  refine List.map_injective_iff.mpr ?_ same
  rintro ⟨name, arguments⟩ ⟨name', arguments'⟩ equal
  cases equal
  rfl

theorem Setting.Takes.unique (takes : setting.Takes value part)
    (takesToo : setting.Takes value part') : part = part' := by
  cases takes with
  | texts takes lists =>
      cases takesToo with
      | texts _ listsToo => rw [lists.unique listsToo]
      | truth => cases lists
      | rules => cases lists
  | truth takes truth =>
      cases takesToo with
      | texts _ lists => cases lists
      | truth => rfl
  | rules rules =>
      generalize given : Value.table rules.entries = value at takesToo
      cases takesToo with
      | texts _ lists => cases lists <;> cases given
      | truth => cases given
      | rules rules' => rw [RuleArguments.entries_inj (Value.table.inj given)]

theorem Configuration.ext_parts
    (parts : ∀ setting, configuration.part setting = configuration'.part setting)
    (mode : configuration.mode = configuration'.mode)
    (sourcePath : configuration.sourcePath = configuration'.sourcePath) :
    configuration = configuration' := by
  obtain ⟨severities, included, excluded, customRulePaths, recurse, defaults, rules, _, _⟩ :=
    configuration
  cases Part.texts.inj (parts .severity)
  cases Part.texts.inj (parts .includeRules)
  cases Part.texts.inj (parts .excludeRules)
  cases Part.texts.inj (parts .customRulePath)
  cases Part.truth.inj (parts .recurseCustomRulePath)
  cases Part.truth.inj (parts .includeDefaultRules)
  cases Part.rules.inj (parts .rules)
  cases mode
  cases sourcePath
  rfl

theorem Configures.unique (configures : Configures mode sourcePath entries configuration)
    (configuresToo : Configures mode sourcePath entries configuration') :
    configuration = configuration' := by
  have parts (setting : Setting) (other : setting ≠ .includeDefaultRules) :
      configuration.part setting = configuration'.part setting := by
    cases given : Table.get? entries setting.name with
    | some value =>
        exact (configures.given setting value given).unique
          (configuresToo.given setting value given)
    | none =>
        rw [configures.absent setting other given, configuresToo.absent setting other given]
  refine Configuration.ext_parts (fun setting => ?_) (configures.mode.trans configuresToo.mode.symm)
    (configures.sourcePath.trans configuresToo.sourcePath.symm)
  by_cases other : setting = .includeDefaultRules
  · subst other
    cases given : Table.get? entries Setting.includeDefaultRules.name with
    | some value =>
        exact (configures.given _ value given).unique (configuresToo.given _ value given)
    | none =>
        have paths := Part.texts.inj (parts .customRulePath (by decide))
        rw [Configuration.part, configures.defaults given, paths, ← configuresToo.defaults given]
        rfl
  · exact parts setting other

/-- A table of literals makes the configuration that says what its entries say, if they fit. -/
theorem build_eq_ok_iff (literal : (Value.table entries).IsLiteral) (locations : Locations) :
    build mode sourcePath locations (Value.table entries).pairs = .ok configuration ↔
      (∀ entry ∈ entries, Fits entry) ∧ Configures mode sourcePath entries configuration := by
  have made (fits : ∀ entry ∈ entries, Fits entry) :=
    exists_configures mode sourcePath locations literal fits
  constructor
  · intro built
    have fits : ∀ entry ∈ entries, Fits entry := by
      by_contra wrong
      obtain ⟨before, entry, after, parted, fits, wrong⟩ := exists_first_misfit wrong
      obtain ⟨cause, -, stopped⟩ := build_stops mode sourcePath locations literal parted fits wrong
      cases built.symm.trans stopped
    obtain ⟨found, same, configures⟩ := made fits
    cases built.symm.trans same
    exact ⟨fits, configures⟩
  · rintro ⟨fits, configures⟩
    obtain ⟨found, built, configuresToo⟩ := made fits
    rw [built, configures.unique configuresToo]

end ScriptAudit.Settings
