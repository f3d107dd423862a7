import ScriptAudit.Proofs.Literal.FirstTable
import ScriptAudit.Proofs.Literal.Values
import ScriptAudit.Proofs.Settings.Build
import ScriptAudit.Proofs.Value.Paired
import ScriptAudit.Settings.Resolve

namespace ScriptAudit.Settings

/-! Which entry of a settings table is to blame.

An entry offends when its key is no setting or its value is not what the setting takes.  The first
entry that offends stops the building of the configuration. -/

open Syntax Literal

/-- The settings whose values are texts. -/
def Setting.takesTexts : Setting → Bool
  | severity | includeRules | excludeRules | customRulePath => true
  | includeDefaultRules | recurseCustomRulePath | rules => false

/-- The settings whose values are truth values. -/
def Setting.takesTruth : Setting → Bool
  | includeDefaultRules | recurseCustomRulePath => true
  | severity | includeRules | excludeRules | customRulePath | rules => false

theorem Setting.lower_of_known {name : String} {setting : Setting}
    (known : Setting.ofKey? name = some setting) : Text.lower name = Text.lower setting.name := by
  have found := List.find?_some known
  exact (eq_of_beq found).symm

/-- The first of these rules whose arguments are no table, and what they are instead. -/
inductive WrongRule : List (Node × Node) → String → Value → Node → Prop where
  | here {extent : Source.Extent} {rule : String} {quote : Quote} {arguments : Node}
      {value : Value} {rest : List (Node × Node)} (given : nodeValue true arguments = .ok value)
      (wrong : value.isKeyed = false) :
      WrongRule ((.stringConstant extent rule quote, arguments) :: rest) rule value arguments
  | later {pair : Node × Node} {entries : List (String × Value)} {rest : List (Node × Node)}
      {rule : String} {value : Value} {arguments : Node}
      (given : nodeValue true pair.2 = .ok (.table entries))
      (later : WrongRule rest rule value arguments) : WrongRule (pair :: rest) rule value arguments

/-- A pair of a settings table is wrong: what is wrong with it, and the node to blame. -/
inductive Offends : Node × Node → Fault.Cause → Node → Prop where
  | unknown {extent : Source.Extent} {name : String} {quote : Quote} {node : Node}
      (unknown : Setting.ofKey? name = none) :
      Offends (.stringConstant extent name quote, node)
        (.unknownSetting name (Setting.all.map Setting.name)) (.stringConstant extent name quote)
  | notTexts {extent : Source.Extent} {name : String} {quote : Quote} {node : Node}
      {setting : Setting} {value : Value} (known : Setting.ofKey? name = some setting)
      (takes : setting.takesTexts) (given : nodeValue true node = .ok value)
      (wrong : textItems? value = none) :
      Offends (.stringConstant extent name quote, node) (.notTexts name value) node
  | notTruth {extent : Source.Extent} {name : String} {quote : Quote} {node : Node}
      {setting : Setting} {value : Value} (known : Setting.ofKey? name = some setting)
      (takes : setting.takesTruth) (given : nodeValue true node = .ok value)
      (wrong : ∀ truth, value ≠ .bool truth) :
      Offends (.stringConstant extent name quote, node) (.typeMismatch name "boolean" value) node
  | notTable {extent : Source.Extent} {name : String} {quote : Quote} {node : Node}
      {value : Value} (known : Setting.ofKey? name = some .rules)
      (given : nodeValue true node = .ok value) (wrong : value.isKeyed = false) :
      Offends (.stringConstant extent name quote, node) (.rulesNotTable name) node
  | notArguments {extent : Source.Extent} {name rule : String} {quote : Quote}
      {node arguments : Node} {value : Value} {rules : List (Node × Node)}
      (known : Setting.ofKey? name = some .rules) (table : IsTable rules node)
      (wrong : WrongRule rules rule value arguments) :
      Offends (.stringConstant extent name quote, node) (.argumentsNotTable rule value) arguments

/-- The entry has the name and the value that the key and the value of the pair stand for. -/
def Makes (pair : Node × Node) (entry : String × Value) : Prop :=
  ∃ extent quote, pair.1 = .stringConstant extent entry.1 quote ∧
    nodeValue true pair.2 = .ok entry.2

theorem pairEntries_makes {made entries : List (String × Value)} {pairs : List (Node × Node)}
    (evaluated : pairEntries true made pairs = .ok entries) :
    ∃ later, entries = made ++ later ∧ List.Forall₂ Makes pairs later := by
  induction pairs generalizing made with
  | nil =>
      cases evaluated
      exact ⟨[], (List.append_nil _).symm, .nil⟩
  | cons pair rest ih =>
      obtain ⟨key, node⟩ := pair
      cases key with
      | stringConstant extent name quote =>
          rw [pairEntries] at evaluated
          split at evaluated
          · cases evaluated
          · obtain ⟨value, given, evaluated⟩ := bind_eq_ok evaluated
            obtain ⟨later, rfl, makes⟩ := ih evaluated
            exact ⟨(name, value) :: later, by simp, .cons ⟨extent, quote, rfl, given⟩ makes⟩
      | _ => cases evaluated

section
variable (locations : Locations)

/-- Where the fault of an entry points: the name that is looked up depends on the cause. -/
def askedExtent : Fault.Cause → Option Source.Extent
  | .unknownSetting name _ => (locations.find? name).map Location.key
  | .notTexts name _ | .typeMismatch name _ _ | .rulesNotTable name => valueExtent? locations name
  | .argumentsNotTable rule _ => valueExtent? locations (rulesKey ++ "." ++ rule)
  | _ => none

/-- The problem of an entry that offends. -/
def offence (cause : Fault.Cause) : Problem :=
  .ofFault ⟨cause, askedExtent locations cause⟩

/-- The rules with their arguments, as far as these are tables. -/
def ruleTables (entries : List (String × Value)) :
    Except Problem (List (Value × List (String × Value))) :=
  (Value.table entries).pairs.mapM fun rule => do
    return (rule.1, ← argumentsOf locations rule.1 rule.2)

theorem ruleTables_cons (entry : String × Value) (entries : List (String × Value)) :
    ruleTables locations (entry :: entries) = do
      let arguments ← argumentsOf locations (.text entry.1) entry.2
      let later ← ruleTables locations entries
      return (.text entry.1, arguments) :: later := by
  rw [ruleTables, Value.pairs, List.map_cons, List.mapM_cons, bind_assoc]
  rfl

theorem argumentsOf_not_table {rule : String} {value : Value} (wrong : value.isKeyed = false) :
    argumentsOf locations (.text rule) value =
      .error (offence locations (.argumentsNotTable rule value)) := by
  cases value <;> first | rfl | cases wrong

theorem WrongRule.stops {pairs : List (Node × Node)} {entries : List (String × Value)}
    {rule : String} {value : Value} {arguments : Node}
    (wrong : WrongRule pairs rule value arguments) (makes : List.Forall₂ Makes pairs entries) :
    ruleTables locations entries = .error (offence locations (.argumentsNotTable rule value)) := by
  induction wrong generalizing entries with
  | here given wrong =>
      obtain ⟨entry, entries, ⟨extent, quote, named, made⟩, -, rfl⟩ :=
        List.forall₂_cons_left_iff.mp makes
      cases named
      cases given.symm.trans made
      rw [ruleTables_cons, argumentsOf_not_table locations wrong]
      rfl
  | later given later ih =>
      obtain ⟨entry, entries, ⟨extent, quote, named, made⟩, others, rfl⟩ :=
        List.forall₂_cons_left_iff.mp makes
      rw [ruleTables_cons, ih others]
      rw [given] at made
      rw [← Except.ok.inj made]
      rfl

theorem table_of_keyed {value : Value} (literal : value.IsLiteral) (keyed : value.isKeyed) :
    ∃ entries, value = .table entries := by
  cases literal with
  | table distinct all => exact ⟨_, rfl⟩
  | _ => cases keyed

theorem exists_wrongRule {pairs : List (Node × Node)} {entries : List (String × Value)}
    {problem : Problem} (makes : List.Forall₂ Makes pairs entries)
    (literal : ∀ entry ∈ entries, entry.2.IsLiteral)
    (stopped : ruleTables locations entries = .error problem) :
    ∃ rule value arguments, WrongRule pairs rule value arguments ∧
      problem = offence locations (.argumentsNotTable rule value) := by
  induction makes with
  | nil => cases stopped
  | @cons pair entry pairs entries first makes ih =>
      obtain ⟨extent, quote, named, given⟩ := first
      obtain ⟨literalFirst, literalLater⟩ := List.forall_mem_cons.mp literal
      rw [ruleTables_cons] at stopped
      by_cases keyed : entry.2.isKeyed
      · obtain ⟨inner, table⟩ := table_of_keyed literalFirst keyed
        rw [table] at stopped given
        rcases bind_eq_error stopped with failed | ⟨_, _, failed⟩
        · cases failed
        · rcases bind_eq_error failed with failed | ⟨_, _, failed⟩
          · obtain ⟨rule, value, arguments, wrong, same⟩ := ih literalLater failed
            exact ⟨rule, value, arguments, .later given wrong, same⟩
          · cases failed
      · have wrong := Bool.eq_false_iff.mpr keyed
        rw [argumentsOf_not_table locations wrong] at stopped
        cases stopped
        obtain ⟨key, node⟩ := pair
        cases named
        exact ⟨entry.1, entry.2, node, .here given wrong, rfl⟩

theorem makes_of_isTable {pairs : List (Node × Node)} {node : Node} (table : IsTable pairs node)
    {value : Value} (given : nodeValue true node = .ok value) :
    ∃ entries, value = .table entries ∧ List.Forall₂ Makes pairs entries := by
  rw [table.value] at given
  obtain ⟨entries, evaluated, rfl⟩ := map_eq_ok given
  obtain ⟨later, same, makes⟩ := pairEntries_makes evaluated
  cases same
  exact ⟨later, rfl, makes⟩

variable (draft : Draft) {key : String} {value : Value} {setting : Setting} {problem : Problem}

theorem take_unknown (unknown : Setting.ofKey? key = none) :
    draft.take locations (.text key) value =
      .error (offence locations (.unknownSetting key (Setting.all.map Setting.name))) := by
  simp only [Draft.take, unknown]
  rfl

theorem take_known (known : Setting.ofKey? key = some setting) :
    draft.take locations (.text key) value = draft.set locations setting key value := by
  simp only [Draft.take, known]

/-- A chain that ends with a value when its first part does. -/
theorem map_eq_error {α β : Type} {f : α → β} {outcome : Except Problem α} :
    f <$> outcome = .error problem ↔ outcome = .error problem := by
  cases outcome <;> simp

theorem textsOf_error : (textsOf locations key value).mapError .ofFault = .error problem ↔
    textItems? value = none ∧ problem = offence locations (.notTexts key value) := by
  rw [textsOf]
  cases textItems? value with
  | some texts => simp [Except.mapError]
  | none => simp [Except.mapError, offence, askedExtent, eq_comm]

theorem boolOf_error : (boolOf locations key value).mapError .ofFault = .error problem ↔
    (∀ truth, value ≠ .bool truth) ∧
      problem = offence locations (.typeMismatch key "boolean" value) := by
  cases value <;> simp [boolOf, Except.mapError, offence, askedExtent, eq_comm]

theorem set_texts (takes : setting.takesTexts) :
    draft.set locations setting key value = .error problem ↔
      textItems? value = none ∧ problem = offence locations (.notTexts key value) := by
  rw [← textsOf_error]
  cases setting with
  | severity | includeRules | excludeRules | customRulePath => exact map_eq_error
  | includeDefaultRules | recurseCustomRulePath | rules => cases takes

theorem set_truth (takes : setting.takesTruth) :
    draft.set locations setting key value = .error problem ↔
      (∀ truth, value ≠ .bool truth) ∧
        problem = offence locations (.typeMismatch key "boolean" value) := by
  rw [← boolOf_error]
  cases setting with
  | includeDefaultRules | recurseCustomRulePath => exact map_eq_error
  | severity | includeRules | excludeRules | customRulePath | rules => cases takes

theorem set_rules (entries : List (String × Value)) :
    draft.set locations .rules key (.table entries) = do
      let rules ← ruleTables locations entries
      let made ← (Table.ofPairs rules).mapError .table
      let configuration := { draft.configuration with ruleArguments := made }
      return { draft with configuration := configuration } := by
  rw [Draft.set, rulesOf, if_pos (show (Value.table _).isKeyed = true from rfl), bind_assoc]
  rfl

theorem set_not_table (wrong : value.isKeyed = false) :
    draft.set locations .rules key value = .error (offence locations (.rulesNotTable key)) := by
  rw [Draft.set, rulesOf, if_neg (by simp [wrong])]
  rfl

variable {pair : Node × Node} {entry : String × Value}

/-- An entry that offends stops the building. -/
theorem Offends.stops {cause : Fault.Cause} {node : Node} (offends : Offends pair cause node)
    (makes : Makes pair entry) :
    draft.take locations (.text entry.1) entry.2 = .error (offence locations cause) := by
  obtain ⟨extent, quote, named, made⟩ := makes
  cases offends with
  | unknown unknown =>
      cases named
      exact take_unknown locations draft unknown
  | notTexts known takes given wrong =>
      cases named
      cases given.symm.trans made
      rw [take_known locations draft known]
      exact (set_texts locations draft takes).mpr ⟨wrong, rfl⟩
  | notTruth known takes given wrong =>
      cases named
      cases given.symm.trans made
      rw [take_known locations draft known]
      exact (set_truth locations draft takes).mpr ⟨wrong, rfl⟩
  | notTable known given wrong =>
      cases named
      cases given.symm.trans made
      rw [take_known locations draft known, set_not_table locations draft wrong]
  | notArguments known table wrong =>
      cases named
      obtain ⟨entries, same, makes⟩ := makes_of_isTable table made
      rw [take_known locations draft known, same, set_rules, wrong.stops locations makes]
      rfl

/-- What stops the building at the rules is that they are no table, or one of them that offends. -/
theorem set_rules_stopped {node : Node} (given : nodeValue true node = .ok value)
    (literal : value.IsLiteral) (stopped : draft.set locations .rules key value = .error problem) :
    value.isKeyed = false ∧ problem = offence locations (.rulesNotTable key) ∨
      ∃ pairs rule inner arguments, IsTable pairs node ∧ WrongRule pairs rule inner arguments ∧
        problem = offence locations (.argumentsNotTable rule inner) := by
  cases keyed : value.isKeyed with
  | false =>
      rw [set_not_table locations draft keyed] at stopped
      cases stopped
      exact .inl ⟨rfl, rfl⟩
  | true =>
      obtain ⟨entries, rfl⟩ := table_of_keyed literal keyed
      have ends := set_ends draft locations .rules key (isMade_of_literal literal)
      rw [stopped] at ends
      obtain ⟨pairs, table, evaluated⟩ := exists_isTable given
      obtain ⟨later, same, makes⟩ := pairEntries_makes evaluated
      cases same
      rw [set_rules] at stopped
      rcases bind_eq_error stopped with failed | ⟨rules, _, failed⟩
      · obtain ⟨rule, inner, arguments, wrong, same⟩ :=
          exists_wrongRule locations makes (fun _ => literal.entry) failed
        exact .inr ⟨pairs, rule, inner, arguments, table, wrong, same⟩
      · -- Rules that were made tables of have the distinct names of their entries.
        cases named : Table.ofPairs rules with
        | ok table =>
            rw [named] at failed
            cases failed
        | error fault =>
            rw [named] at failed
            cases failed
            exact ends.elim

/-- What stops the building at an entry is that it offends. -/
theorem exists_offends (makes : Makes pair entry) (literal : entry.2.IsLiteral)
    (stopped : draft.take locations (.text entry.1) entry.2 = .error problem) :
    ∃ cause node, Offends pair cause node ∧ problem = offence locations cause := by
  obtain ⟨key, node⟩ := pair
  obtain ⟨extent, quote, rfl, given⟩ := makes
  cases known : Setting.ofKey? entry.1 with
  | none =>
      rw [take_unknown locations draft known] at stopped
      cases stopped
      exact ⟨_, _, .unknown known, rfl⟩
  | some setting =>
      rw [take_known locations draft known] at stopped
      cases setting with
      | severity | includeRules | excludeRules | customRulePath =>
          obtain ⟨wrong, rfl⟩ := (set_texts locations draft rfl).mp stopped
          exact ⟨_, _, .notTexts known rfl given wrong, rfl⟩
      | includeDefaultRules | recurseCustomRulePath =>
          obtain ⟨wrong, rfl⟩ := (set_truth locations draft rfl).mp stopped
          exact ⟨_, _, .notTruth known rfl given wrong, rfl⟩
      | rules =>
          rcases set_rules_stopped locations draft given literal stopped with
            ⟨wrong, rfl⟩ | ⟨pairs, rule, inner, arguments, table, wrong, rfl⟩
          · exact ⟨_, _, .notTable known given wrong, rfl⟩
          · exact ⟨_, _, .notArguments known table wrong, rfl⟩

/-- The first of the pairs that offends. -/
structure IsFirstOffence (pairs before : List (Node × Node)) (pair : Node × Node)
    (after : List (Node × Node)) (cause : Fault.Cause) (node : Node) : Prop where
  split : pairs = before ++ pair :: after
  earlier : ∀ good ∈ before, ∀ cause node, ¬ Offends good cause node
  offends : Offends pair cause node

theorem exists_first_offence {pairs : List (Node × Node)} {entries : List (String × Value)}
    (makes : List.Forall₂ Makes pairs entries) (literal : ∀ entry ∈ entries, entry.2.IsLiteral)
    (stopped : (textPairs entries).foldlM
      (fun draft pair => draft.take locations pair.1 pair.2) draft = .error problem) :
    ∃ before pair after cause node, IsFirstOffence pairs before pair after cause node ∧
      problem = offence locations cause := by
  induction makes generalizing draft with
  | nil => cases stopped
  | @cons pair entry pairs entries first makes ih =>
      obtain ⟨literalFirst, literalLater⟩ := List.forall_mem_cons.mp literal
      rw [textPairs, List.map_cons, List.foldlM_cons] at stopped
      rcases bind_eq_error stopped with failed | ⟨taken, passed, failed⟩
      · obtain ⟨cause, node, offends, same⟩ :=
          exists_offends locations draft first literalFirst failed
        exact ⟨[], pair, pairs, cause, node, ⟨rfl, by simp, offends⟩, same⟩
      · obtain ⟨before, wrong, after, cause, node, ⟨rfl, earlier, offends⟩, same⟩ :=
          ih taken literalLater failed
        refine ⟨pair :: before, wrong, after, cause, node, ⟨rfl, ?_, offends⟩, same⟩
        refine List.forall_mem_cons.mpr ⟨fun cause node offends => ?_, earlier⟩
        rw [offends.stops locations draft first] at passed
        cases passed

end

end ScriptAudit.Settings
