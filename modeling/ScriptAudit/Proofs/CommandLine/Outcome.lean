import ScriptAudit.CommandLine.Run
import ScriptAudit.Proofs.Literal.Values
import ScriptAudit.Proofs.Settings.Load
import ScriptAudit.Proofs.Syntax.Occurrence

namespace ScriptAudit

/-! How a command ends.

A command that prints ends well with the one text of what it computes, with the status of wrong
settings where the settings or a literal are to blame, and with the status of trouble otherwise.
Unless it ends well it prints nothing. -/

namespace Value

mutual

/-- The plain form of a literal is written as the literal. -/
theorem toJson_toPlain (value : Value) : value.toPlain.toJson = value.toJson := by
  cases value with
  | array items => rw [toPlain, toJson, toJson, jsonItems_toPlainItems]
  | table entries => rw [toPlain, toJson, toJson, jsonPairs_toPlainEntries]
  | _ => rfl

theorem jsonItems_toPlainItems (items : List Value) :
    jsonItems (toPlainItems items) = jsonItems items := by
  cases items with
  | nil => rfl
  | cons item rest =>
      rw [toPlainItems, jsonItems, jsonItems, toJson_toPlain item, jsonItems_toPlainItems rest]

theorem jsonPairs_toPlainEntries (entries : List (String × Value)) :
    jsonPairs (toPlainEntries entries) = jsonEntries entries := by
  cases entries with
  | nil => rfl
  | cons entry rest =>
      rw [toPlainEntries, jsonPairs, jsonEntries, toJson_toPlain entry.2,
        jsonPairs_toPlainEntries rest]

end

end Value

namespace Settings.Configuration

def plainTexts (texts : List String) : Value :=
  .list (texts.map .text)

/-- A configuration as plain data. -/
def plain (configuration : Configuration) : Value :=
  .mapping [
    (.text "mode", .text configuration.mode.name),
    (.text "source_path", configuration.sourcePath.elim .null .text),
    (.text "severity", plainTexts configuration.severities),
    (.text "include_rules", plainTexts configuration.includeRules),
    (.text "exclude_rules", plainTexts configuration.excludeRules),
    (.text "custom_rule_path", plainTexts configuration.customRulePaths),
    (.text "recurse_custom_rule_path", .bool configuration.recurseCustomRulePath),
    (.text "include_default_rules", .bool configuration.includeDefaultRules),
    (.text "rules", configuration.ruleArguments.value.toPlain)]

theorem toJson_plainTexts (texts : List String) :
    (plainTexts texts).toJson = textsJson texts := by
  rw [plainTexts, Value.toJson, textsJson]
  congr 1
  induction texts with
  | nil => rfl
  | cons text rest ih => rw [List.map_cons, Value.jsonItems, ih]; rfl

theorem toJson_plain (configuration : Configuration) :
    configuration.plain.toJson = configuration.toJson := by
  simp only [plain, toJson, Value.toJson, Value.jsonPairs, toJson_plainTexts,
    Value.toJson_toPlain]
  cases configuration.sourcePath <;> rfl

end Settings.Configuration

namespace CommandLine

open Files Syntax

/-- The settings that a command line names; an empty name is none. -/
def sourceOf : Option String → Value
  | some text => if text = "" then .null else .text text
  | none => .null

def Command.indentation : Command → Int
  | parse _ indentation => indentation
  | settings .. | presets => settingsIndentation

/-- A file holds a text without syntax errors, and this node of it is to be evaluated. -/
def Offers (tree : FileTree) (path : String) (node : Node) : Prop :=
  ∃ text result, tree.readText path = .ok text ∧ parseText text path = .ok result ∧
    result.issues = [] ∧ result.tree.Selects node

/-- What a command computes, as plain data. -/
inductive Obtains (tree : FileTree) : Command → Value → Prop where
  | settings {given folder : Option String} {configuration : Settings.Configuration}
      (resolved : Settings.resolve tree (sourceOf given) (folder.getD "") = .ok configuration) :
      Obtains tree (.settings given folder) configuration.plain
  | parse {input : String} {indentation : Int} {node : Node} {value : Value}
      (offered : Offers tree input node) (evaluated : Literal.evaluate true node = .ok value) :
      Obtains tree (.parse input indentation) value.toPlain

/-- The settings, or the literal to evaluate, are refused with this fault. -/
inductive Refuses (tree : FileTree) : Command → Fault → Prop where
  | settings {given folder : Option String} {fault : Fault}
      (failed : Settings.resolve tree (sourceOf given) (folder.getD "") = .error (.fault fault)) :
      Refuses tree (.settings given folder) fault
  | parse {input : String} {indentation : Int} {node : Node} {fault : Fault}
      (offered : Offers tree input node) (failed : Literal.evaluate true node = .error fault) :
      Refuses tree (.parse input indentation) fault

/-- The text is what the command computes, in JSON. -/
def Renders (tree : FileTree) (command : Command) (text : String) : Prop :=
  ∃ value, Obtains tree command value ∧ value.toJson.indented? command.indentation = some text

def Blames (tree : FileTree) (command : Command) : Prop :=
  ∃ fault, Refuses tree command fault ∧ fault.kind.isSettings

/-- One of three ends: with status 0 and one of these texts, with status 1 where the settings are
to blame, and with status 2.  Only the first one comes with output. -/
structure Classified (outcome : Outcome) (renders : String → Prop) (blamed : Prop) : Prop where
  prints : ∀ text, renders text → outcome.status = 0 ∧ outcome.output = text ++ "\n"
  printed : outcome.status = 0 → ∃ text, renders text
  blames : outcome.status = 1 ↔ blamed
  silent : outcome.status ≠ 0 → outcome.output = ""
  three : outcome.status ≤ 2

variable {tree : FileTree} {path input : String} {indentation : Int} {command : Command}

section Files

theorem parseFile_eq_ok_iff {result : ParseResult} : parseFile tree path = .ok result ↔
    ∃ text, tree.readText path = .ok text ∧ parseText text path = .ok result := by
  unfold parseFile
  cases tree.readText path with
  | ok text =>
      simp only [Except.ok.injEq, exists_eq_left']
      cases parseText text path <;> simp [Except.mapError]
  | error trouble => cases trouble <;> simp

/-- A file that cannot be parsed says nothing about settings. -/
theorem parseFile_fault {fault : Fault} (failed : parseFile tree path = .error (.fault fault)) :
    fault.kind = .parserFailure := by
  unfold parseFile at failed
  split at failed
  · next text read =>
      obtain ⟨found, failed, same⟩ := mapError_eq_error failed
      cases same
      have ends := parseText_ends text path
      rwa [failed] at ends
  · cases failed
  · cases failed
  · cases failed
    rfl

theorem evaluateFile_parsed {result : ParseResult} (parsed : parseFile tree path = .ok result)
    (clean : result.issues = []) : evaluateFile tree path =
      (Literal.evaluate true (result.tree.firstHashtable.getD result.tree)).mapError .fault := by
  unfold evaluateFile
  rw [parsed]
  dsimp only [bind, Except.bind]
  rw [clean]

theorem evaluateFile_offered {node : Node} (offered : Offers tree path node) :
    evaluateFile tree path = (Literal.evaluate true node).mapError .fault := by
  obtain ⟨text, result, read, parsed, clean, selected⟩ := offered
  rw [evaluateFile_parsed (parseFile_eq_ok_iff.mpr ⟨text, read, parsed⟩) clean,
    Node.selects_iff.mp selected]

/-- Evaluating a file fails before there is a node to evaluate, or else is evaluating this node. -/
theorem evaluateFile_cases (tree : FileTree) (path : String) :
    (∃ node, Offers tree path node) ∨ ∃ problem, evaluateFile tree path = .error problem ∧
      ∀ fault, problem = .fault fault → fault.kind = .parserFailure := by
  cases parsed : parseFile tree path with
  | error problem =>
      refine .inr ⟨problem, ?_, fun fault same => parseFile_fault (same ▸ parsed)⟩
      rw [evaluateFile, parsed]
      rfl
  | ok result =>
      obtain ⟨text, read, parsed'⟩ := parseFile_eq_ok_iff.mp parsed
      cases issues : result.issues with
      | nil => exact .inl ⟨_, text, result, read, parsed', issues, Node.selects_iff.mpr rfl⟩
      | cons first others =>
          refine .inr ⟨.fault (Fault.ofIssues path first others), ?_, ?_⟩
          · unfold evaluateFile
            rw [parsed]
            dsimp only [bind, Except.bind]
            rw [issues]
          · rintro _ ⟨⟩
            exact Settings.ofIssues_kind path first others

end Files

section Computed

theorem settings_eq (tree : FileTree) (given folder : Option String) :
    CommandLine.settings tree given folder =
      (·.toJson) <$> Settings.resolve tree (sourceOf given) (folder.getD "") := by
  cases given <;> rfl

theorem settings_eq_ok_iff {given folder : Option String} {json : Json} :
    CommandLine.settings tree given folder = .ok json ↔
      ∃ value, Obtains tree (.settings given folder) value ∧ value.toJson = json := by
  rw [settings_eq]
  constructor
  · intro made
    cases resolved : Settings.resolve tree (sourceOf given) (folder.getD "") with
    | error problem =>
        rw [resolved] at made
        cases made
    | ok configuration =>
        rw [resolved] at made
        cases made
        exact ⟨_, .settings resolved, configuration.toJson_plain⟩
  · rintro ⟨_, obtained, rfl⟩
    cases obtained with
    | settings resolved => rw [resolved, Settings.Configuration.toJson_plain]; rfl

theorem settings_eq_fault_iff {given folder : Option String} {fault : Fault} :
    CommandLine.settings tree given folder = .error (.fault fault) ↔
      Refuses tree (.settings given folder) fault := by
  rw [settings_eq]
  constructor
  · intro failed
    cases resolved : Settings.resolve tree (sourceOf given) (folder.getD "") with
    | error problem =>
        rw [resolved] at failed
        cases failed
        exact .settings resolved
    | ok configuration =>
        rw [resolved] at failed
        cases failed
  · intro refused
    cases refused with
    | settings failed => rw [failed]; rfl

theorem parse_offered {node : Node} (offered : Offers tree input node) :
    parse tree input = match Literal.evaluate true node with
      | .ok value => .ok value.toPlain.toJson
      | .error fault => .error (.fault (fault.withFile input)) := by
  unfold parse
  rw [evaluateFile_offered offered]
  cases Literal.evaluate true node <;> rfl

theorem parse_failed {problem : Problem} (failed : evaluateFile tree input = .error problem) :
    parse tree input = .error (problem.inFile input) := by
  unfold parse
  rw [failed]
  rfl

theorem parse_eq_ok_iff {json : Json} : parse tree input = .ok json ↔
    ∃ value, Obtains tree (.parse input indentation) value ∧ value.toJson = json := by
  constructor
  · intro made
    rcases evaluateFile_cases tree input with ⟨node, offered⟩ | ⟨problem, failed, -⟩
    · rw [parse_offered offered] at made
      split at made
      · next value evaluated =>
          cases made
          exact ⟨_, .parse offered evaluated, rfl⟩
      · cases made
    · rw [parse_failed failed] at made
      cases made
  · rintro ⟨_, obtained, rfl⟩
    cases obtained with
    | parse offered evaluated => rw [parse_offered offered, evaluated]

/-- A file is to blame for its literal, not for what keeps it from being parsed. -/
theorem parse_blames_iff : (∃ fault, parse tree input = .error (.fault fault) ∧
    fault.kind.isSettings) ↔ Blames tree (.parse input indentation) := by
  constructor
  · rintro ⟨fault, failed, kind⟩
    rcases evaluateFile_cases tree input with ⟨node, offered⟩ | ⟨problem, failed', parser⟩
    · rw [parse_offered offered] at failed
      split at failed
      · cases failed
      · next found evaluated =>
          cases failed
          exact ⟨found, .parse offered evaluated, kind⟩
    · rw [parse_failed failed'] at failed
      cases problem with
      | fault found =>
          cases failed
          have same : (found.withFile input).kind = found.kind := rfl
          rw [same, parser found rfl] at kind
          cases kind
      | _ => cases failed
  · rintro ⟨fault, refused, kind⟩
    cases refused with
    | parse offered evaluated =>
        refine ⟨fault.withFile input, ?_, kind⟩
        rw [parse_offered offered, evaluated]

end Computed

section Ends

variable {renders : String → Prop} {blamed : Prop}

theorem Classified.of_text {text : String} (single : ∀ text', renders text' ↔ text' = text)
    (blameless : ¬ blamed) : Classified ⟨0, text ++ "\n", some ""⟩ renders blamed where
  prints text' holds := ⟨rfl, by rw [(single text').mp holds]⟩
  printed _ := ⟨text, (single text).mpr rfl⟩
  blames := ⟨nofun, fun holds => absurd holds blameless⟩
  silent failed := absurd rfl failed
  three := Nat.zero_le 2

theorem Classified.of_failure {status : Nat} {message : Option String}
    (mute : ∀ text, ¬ renders text) (blames : status = 1 ↔ blamed) (fails : status ≠ 0)
    (three : status ≤ 2) : Classified ⟨status, "", message⟩ renders blamed where
  prints text holds := absurd holds (mute text)
  printed well := absurd well fails
  blames := blames
  silent _ := rfl
  three := three

theorem report_classifies {result : Except Problem Json}
    (obtains : ∀ json, result = .ok json ↔
      ∃ value, Obtains tree command value ∧ value.toJson = json)
    (blames : (∃ fault, result = .error (.fault fault) ∧ fault.kind.isSettings) ↔
      Blames tree command) :
    Classified (report command.indentation result) (Renders tree command)
      (Blames tree command) := by
  have renders (text : String) : Renders tree command text ↔
      ∃ json, result = .ok json ∧ json.indented? command.indentation = some text := by
    simp [obtains, Renders]
  cases result with
  | ok json =>
      have blameless : ¬ Blames tree command := fun holds => by
        obtain ⟨_, failed, -⟩ := blames.mpr holds
        cases failed
      simp only [Except.ok.injEq, exists_eq_left'] at renders
      rw [report, printed]
      cases shown : json.indented? command.indentation with
      | some text => exact .of_text (fun text' => by simp [renders, shown, eq_comm]) blameless
      | none =>
          exact .of_failure (fun text => by simp [renders, shown])
            ⟨fun same => absurd same (by decide), fun holds => absurd holds blameless⟩ (by decide)
            (by decide)
  | error problem =>
      have mute (text : String) : ¬ Renders tree command text := by simp [renders]
      rw [← blames]
      cases problem with
      | fault fault =>
          cases kind : fault.kind.isSettings with
          | true =>
              rw [report, if_pos kind]
              exact .of_failure mute (by simp [kind]) (by decide) (by decide)
          | false =>
              rw [report, if_neg (by simp [kind])]
              exact .of_failure mute (by simp [kind]) (by decide) (by decide)
      | _ => exact .of_failure mute (by simp) (by decide) (by decide)

end Ends

/-- How a command that computes something ends, for all arguments that name one and all files: with
status 0, and one text in JSON and a line break as its output, just when that is what it computes;
with status 1, and without output, just when the settings or the literal are refused; and otherwise
with status 2 and without output. -/
theorem run_classifies {arguments : List String} {verbosity : Nat}
    (reads : readArguments arguments = .ok (.run verbosity command))
    (computes : command ≠ .presets) :
    Classified (run tree arguments) (Renders tree command) (Blames tree command) := by
  unfold run
  rw [reads]
  cases command with
  | settings given folder =>
      refine report_classifies (fun _ => settings_eq_ok_iff) ?_
      simp only [settings_eq_fault_iff, Blames]
  | presets => exact absurd rfl computes
  | parse input indentation =>
      exact report_classifies (fun _ => parse_eq_ok_iff) parse_blames_iff

/-- A folder with one file of this text. -/
def loneTree (text : String) : FileTree :=
  ⟨"/work", "/home", [("/work", .folder [("a.psd1", .file text.toUTF8)])]⟩

theorem run_classifies_parsed :
    readArguments ["parse", "a.psd1"] = .ok (.run 0 (.parse "a.psd1" 2)) ∧
      Command.parse "a.psd1" 2 ≠ .presets ∧
      (run (loneTree "\x7b 1 \x7d; @\x7ba = 1\x7d") ["parse", "a.psd1"]).output =
        "\x7b\n  \"a\": 1\n\x7d\n" ∧
      (∃ text, Renders (loneTree "\x7b 1 \x7d; @\x7ba = 1\x7d") (.parse "a.psd1" 2) text) ∧
      Blames (loneTree "Get-Date") (.parse "a.psd1" 2) ∧
      (run (loneTree "@\x7b") ["parse", "a.psd1"]).status = 2 ∧
      ¬ Blames (loneTree "@\x7b") (.parse "a.psd1" 2) := by
  have reads : readArguments ["parse", "a.psd1"] = .ok (.run 0 (.parse "a.psd1" 2)) := by
    decide +kernel
  have computes : Command.parse "a.psd1" 2 ≠ .presets := by decide
  have classified (text : String) : Classified (run (loneTree text) ["parse", "a.psd1"])
      (Renders (loneTree text) (.parse "a.psd1" 2)) (Blames (loneTree text) (.parse "a.psd1" 2)) :=
    run_classifies reads computes
  have stuck : (run (loneTree "@\x7b") ["parse", "a.psd1"]).status = 2 := by decide +kernel
  refine ⟨reads, computes, by decide +kernel, (classified _).printed (by decide +kernel),
    (classified _).blames.mp (by decide +kernel), stuck, fun blamed => ?_⟩
  rw [(classified _).blames.mpr blamed] at stuck
  cases stuck

end CommandLine
end ScriptAudit
