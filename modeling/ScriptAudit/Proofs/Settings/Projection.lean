import ScriptAudit.Proofs.Settings.Determined
import ScriptAudit.Proofs.Settings.Precedence
import ScriptAudit.Proofs.Settings.Rendered

namespace ScriptAudit.Settings

/-! Resolving what a configuration says gives the configuration back. -/

open Files Value

/-- A literal stands for itself. -/
theorem standsFor_self {literal : Value} (valid : literal.IsLiteral) :
    literal.StandsFor literal := by
  induction valid with
  | bool value => exact .bool value
  | number value => exact .number value
  | text value => exact .text value
  | array valid ih =>
      exact .array (itemsStandFor_iff.mpr (List.forall₂_same.mpr ih))
  | table distinct valid ih =>
      refine .table (pairsStandFor_iff.mpr (List.forall₂_map_left_iff.mpr ?_))
      exact List.forall₂_same.mpr fun entry member => ⟨rfl, ih entry member⟩

/-- Normalizing leaves its own results as they are. -/
theorem normalize_normal {place place' : Fault.Place} {given literal : Value}
    (normal : normalize place given = .ok literal) : normalize place' literal = .ok literal := by
  obtain ⟨-, valid⟩ := normalize_eq_ok_iff.mp normal
  exact normalize_standsFor (standsFor_self valid) valid place'

theorem distinctTexts_idem (seen texts : List String) :
    distinctTexts seen (distinctTexts seen texts) = distinctTexts seen texts := by
  fun_induction distinctTexts seen texts with
  | case1 seen => rfl
  | case2 seen text rest met ih => exact ih
  | case3 seen text rest new ih =>
      rw [distinctTexts, if_neg new, ih]

/-- How settings say a part of a configuration. -/
def Part.value : Part → Value
  | .texts all => .array (all.map .text)
  | .truth told => .bool told
  | .rules named => .table named.entries

/-- The settings that say a configuration in full. -/
def Configuration.settings (configuration : Configuration) : List (String × Value) :=
  Setting.all.map fun setting => (setting.name, (configuration.part setting).value)

section
variable {setting : Setting} {value : Value} {part : Part} {entries : List (String × Value)}
  {mode : Mode} {sourcePath : Option String} {configuration : Configuration}

theorem Setting.Takes.again (takes : setting.Takes value part) :
    setting.Takes part.value part := by
  cases takes with
  | @texts setting value texts takes lists =>
      have same : firstSpellings (firstSpellings texts) = firstSpellings texts := by
        rw [← distinctTexts_nil, ← distinctTexts_nil, distinctTexts_idem]
      have again := Setting.Takes.texts takes (.many (firstSpellings texts))
      rwa [same] at again
  | truth takes truth => exact .truth takes truth
  | rules rules => exact .rules rules

theorem Setting.Takes.literal (takes : setting.Takes value part) (literal : value.IsLiteral) :
    part.value.IsLiteral := by
  cases takes with
  | texts => exact .array (List.forall_mem_map.mpr fun text _ => .text text)
  | truth takes truth => exact .bool truth
  | rules rules => exact literal

theorem Setting.takes_standard (setting : Setting) :
    setting.Takes (Configuration.standard.part setting).value
      (Configuration.standard.part setting) := by
  have none {setting : Setting} (takes : setting.takesTexts) :
      setting.Takes (Part.texts []).value (.texts []) := .texts takes (.many [])
  cases setting with
  | severity | includeRules | excludeRules | customRulePath => exact none rfl
  | includeDefaultRules | recurseCustomRulePath => exact .truth rfl _
  | rules => exact .rules []

theorem Setting.standard_literal (setting : Setting) :
    (Configuration.standard.part setting).value.IsLiteral := by
  cases setting with
  | severity | includeRules | excludeRules | customRulePath => exact .array (List.forall_mem_nil _)
  | includeDefaultRules | recurseCustomRulePath => exact .bool _
  | rules => exact .table Table.distinct_nil (List.forall_mem_nil _)

/-- Each part of a configuration is one that its setting takes, as it is. -/
theorem Configures.takes (configures : Configures mode sourcePath entries configuration)
    (literal : (Value.table entries).IsLiteral) (setting : Setting) :
    setting.Takes (configuration.part setting).value (configuration.part setting) ∧
      (configuration.part setting).value.IsLiteral := by
  cases given : Table.get? entries setting.name with
  | some value =>
      have takes := configures.given setting value given
      obtain ⟨entry, member, -, rfl⟩ := Table.mem_of_get? given
      exact ⟨takes.again, takes.literal (literal.entry member)⟩
  | none =>
      by_cases other : setting = .includeDefaultRules
      · subst other
        exact ⟨.truth rfl _, .bool _⟩
      · rw [configures.absent setting other given]
        exact ⟨setting.takes_standard, setting.standard_literal⟩

theorem settings_distinct (configuration : Configuration) :
    Table.Distinct configuration.settings := by
  rw [Table.Distinct, Table.folded, Configuration.settings, List.map_map]
  refine List.Nodup.map (fun first second same => Setting.name_eq same) ?_
  decide

/-- The configuration says what its settings say, in whatever order they come. -/
theorem Configures.settings (configures : Configures mode sourcePath entries configuration)
    (literal : (Value.table entries).IsLiteral) {again : List (String × Value)}
    (order : again.Perm configuration.settings) :
    (Value.table again).IsLiteral ∧ (∀ entry ∈ again, Fits entry) ∧
      Configures mode sourcePath again configuration := by
  have takes := configures.takes literal
  have said {entry : String × Value} (member : entry ∈ again) :
      ∃ setting : Setting, entry = (setting.name, (configuration.part setting).value) := by
    obtain ⟨setting, -, same⟩ := List.mem_map.mp (order.mem_iff.mp member)
    exact ⟨setting, same.symm⟩
  have distinct : Table.Distinct again :=
    (order.map _).nodup_iff.mpr (settings_distinct configuration)
  have found (setting : Setting) :
      Table.get? again setting.name = some (configuration.part setting).value := by
    have known : setting ∈ Setting.all := by cases setting <;> decide
    exact distinct.get?_of_mem (order.mem_iff.mpr (List.mem_map_of_mem known)) rfl
  refine ⟨.table distinct fun entry member => ?_, fun entry member => ?_, ?_⟩
  · obtain ⟨setting, rfl⟩ := said member
    exact (takes setting).2
  · obtain ⟨setting, rfl⟩ := said member
    exact ⟨setting, _, rfl, (takes setting).1⟩
  · constructor
    case given =>
      intro setting value given
      cases (found setting).symm.trans given
      exact (takes setting).1
    case absent => exact fun setting _ absent => by cases (found setting).symm.trans absent
    case defaults => exact fun absent => by cases (found _).symm.trans absent
    case mode => exact configures.mode
    case sourcePath => exact configures.sourcePath

end

/-- What a mapping is resolved to: the configuration of the table that it stands for. -/
theorem resolve_mapping_eq_ok_iff {tree : FileTree} {given : Value} {workingFolder : String}
    (mapping : IsMapping given) {configuration : Configuration} :
    resolve tree given workingFolder = .ok configuration ↔
      ∃ entries, given.StandsFor (.table entries) ∧ (Value.table entries).IsLiteral ∧
        (∀ entry ∈ entries, Fits entry) ∧ Configures .hashtable none entries configuration := by
  constructor
  · intro resolved
    rw [resolve_handedIn (originOf_mapping mapping tree workingFolder)] at resolved
    obtain ⟨literal, normal, built⟩ := bind_eq_ok resolved
    have normal : normalize ⟨""⟩ given = .ok literal := by
      generalize normalize ⟨""⟩ given = outcome at normal
      cases outcome <;> cases normal
      rfl
    obtain ⟨stands, valid⟩ := normalize_eq_ok_iff.mp normal
    have table : ∃ entries, literal = .table entries := by
      cases stands with
      | table all => exact ⟨_, rfl⟩
      | mapping all => exact ⟨_, rfl⟩
      | _ => cases mapping
    obtain ⟨entries, rfl⟩ := table
    exact ⟨entries, stands, valid, (build_eq_ok_iff valid []).mp built⟩
  · rintro ⟨entries, stands, valid, fits, configures⟩
    rw [resolve_standsFor stands valid]
    exact (build_eq_ok_iff valid []).mpr ⟨fits, configures⟩

/-- Resolving a mapping that says a configuration in full gives this very configuration, whatever
the order of its settings, when the configuration comes from a mapping.  Normalizing what was
normalized changes nothing. -/
theorem resolve_projects :
    (∀ (tree tree' : FileTree) (given : Value) (folder folder' : String)
        (configuration : Configuration),
      IsMapping given → resolve tree given folder = .ok configuration →
      ∀ (entries : List (String × Value)) (again : Value),
        entries.Perm configuration.settings → again.StandsFor (.table entries) →
        resolve tree' again folder' = .ok configuration) ∧
    ∀ (place place' : Fault.Place) (given literal : Value),
      normalize place given = .ok literal → normalize place' literal = .ok literal := by
  refine ⟨?_, fun place place' given literal => normalize_normal⟩
  intro tree tree' given folder folder' configuration mapping resolved entries again order stands
  obtain ⟨made, -, literal, -, configures⟩ := (resolve_mapping_eq_ok_iff mapping).mp resolved
  obtain ⟨valid, fits, configuresAgain⟩ := configures.settings literal order
  have keyed : IsMapping again := by
    cases stands <;> trivial
  exact (resolve_mapping_eq_ok_iff keyed).mpr ⟨entries, stands, valid, fits, configuresAgain⟩

/-- Settings with a repetition, without a word on the default rules. -/
def customSettings : Value :=
  .mapping [(.text "severity", .list [.text "Error", .text "ERROR"]),
    (.text "CustomRulePath", .text "./rules"),
    (.text "Rules", .mapping [(.text "PSAlign", .mapping [(.text "Width", .number (.integer 3))])])]

def customConfiguration : Configuration where
  severities := ["Error"]
  customRulePaths := ["./rules"]
  includeDefaultRules := false
  ruleArguments := [("PSAlign", [("Width", .number (.integer 3))])]
  mode := .hashtable

theorem resolve_projects_custom :
    resolve ⟨"/work", "/work/home", []⟩ customSettings "" = .ok customConfiguration ∧
    resolve ⟨"/work", "/work/home", []⟩ (.table customConfiguration.settings.reverse) "" =
      .ok customConfiguration ∧
    normalize ⟨""⟩ customConfiguration.ruleArguments.value =
      .ok customConfiguration.ruleArguments.value := by
  have resolved : resolve ⟨"/work", "/work/home", []⟩ customSettings "" =
    .ok customConfiguration := rfl
  have mapping : IsMapping customSettings := trivial
  have order := List.reverse_perm customConfiguration.settings
  have stands : Value.StandsFor (.table customConfiguration.settings.reverse)
      (.table customConfiguration.settings.reverse) := by
    obtain ⟨made, -, literal, -, configures⟩ := (resolve_mapping_eq_ok_iff mapping).mp resolved
    obtain ⟨valid, -, -⟩ := configures.settings literal order
    exact standsFor_self valid
  obtain ⟨again, normal⟩ := resolve_projects
  exact ⟨resolved, again _ _ _ _ "" _ mapping resolved _ _ order stands,
    normal ⟨""⟩ ⟨""⟩ customConfiguration.ruleArguments.value _ rfl⟩

end ScriptAudit.Settings
