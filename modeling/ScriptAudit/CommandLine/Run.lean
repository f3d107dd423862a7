import ScriptAudit.CommandLine.Arguments
import ScriptAudit.Json.Writable
import ScriptAudit.Settings.Resolve
import ScriptAudit.Value.Freeze

namespace ScriptAudit.CommandLine

/-! What the commands print, and how they end.

The status is 0 when all went well, 1 when the settings are wrong, and 2 when anything else went
wrong. -/

open Files

/-- `message` is what the user is told apart from the output; it is missing where a usage text or a
log entry takes its place. -/
structure Outcome where
  status : Nat
  output : String := ""
  message : Option String := none

def programName : String := "psscriptlint"

def versionText : String := programName ++ " 0.1.0"

def usageText : String :=
  "usage: " ++ programName ++ " [-h] [--version] [-v] <command> ...\n\n" ++
    "commands:\n" ++
    "  settings [--path DIR] [SETTINGS]   print the settings that apply as JSON\n" ++
    "  presets                            list the presets\n" ++
    "  parse [--indent N] INPUT           print the first hashtable of a data file as JSON\n"

/-- Prints a value, if it has a text. -/
def printed (indentation : Int) (json : Json) : Outcome :=
  match json.indented? indentation with
  | some text => ⟨0, text ++ "\n", some ""⟩
  | none => ⟨2, "", none⟩

/-- Ends with the value that a computation gives, or with its fault. -/
def report (indentation : Int) (result : Except Problem Json) : Outcome :=
  match result with
  | .ok json => printed indentation json
  | .error (.fault fault) =>
      ⟨if fault.kind.isSettings then 1 else 2, "", some (fault.describe ++ "\n")⟩
  | .error _ => ⟨2, "", none⟩

/-- The indentation of printed settings. -/
def settingsIndentation : Int := 2

def settings (tree : FileTree) (given folder : Option String) : Except Problem Json := do
  let value : Value := match given with
    | some text => if text = "" then .null else .text text
    | none => .null
  let configuration ← Settings.resolve tree value (folder.getD "")
  return configuration.toJson

def presets : String :=
  String.join (Settings.Preset.all.map (·.name ++ "\n"))

/-- The value of the first hashtable of a data file, or of the whole file when there is none. -/
def evaluateFile (tree : FileTree) (path : String) : Except Problem Value := do
  let parsed ← Syntax.parseFile tree path
  match parsed.issues with
  | first :: others => .error (.fault (Fault.ofIssues path first others))
  | [] =>
      let node := parsed.tree.firstHashtable.getD parsed.tree
      (Literal.evaluate true node).mapError .fault

def parse (tree : FileTree) (path : String) : Except Problem Json :=
  Except.mapError (Problem.inFile path) do
    let value ← evaluateFile tree path
    return value.toPlain.toJson

def runCommand (tree : FileTree) : Command → Outcome
  | .settings given folder => report settingsIndentation (settings tree given folder)
  | .presets => ⟨0, presets, some ""⟩
  | .parse input indentation => report indentation (parse tree input)

/-- The whole program: arguments in, an outcome out. -/
def run (tree : FileTree) (arguments : List String) : Outcome :=
  match readArguments arguments with
  | .error .help => ⟨0, usageText, none⟩
  | .error .version => ⟨0, versionText ++ "\n", none⟩
  | .error .wrong | .ok .nothing => ⟨2, "", none⟩
  | .ok (.run _ command) => runCommand tree command

end ScriptAudit.CommandLine
