import ScriptAudit.Files.Search
import ScriptAudit.Literal.Evaluate
import ScriptAudit.Settings.Build
import ScriptAudit.Settings.Normalize
import ScriptAudit.Settings.Preset
import ScriptAudit.Syntax.File

namespace ScriptAudit.Settings

/-! Resolving settings.

Settings come from exactly one source: a mapping or a table that is handed in, the preset that a
text names, the file that any other text names, or a settings file in the working folder.  Where
there is none of these, the standard configuration holds. -/

open Files

/-- The folder of the presets. -/
def presetFolder : String := "/presets"

def fileEnding : String := ".psd1"

/-- The name under which a settings file is found in the working folder. -/
def settingsFileName : String := "PSScriptAnalyzerSettings" ++ fileEnding

/-- The folder of the presets, as a part of a file tree. -/
def presetEntry : String × Entry :=
  (presetFolder, .folder (Preset.all.map fun preset =>
    (preset.name ++ fileEnding, .file preset.text.toUTF8)))

def presetPath? (name : String) : Option String :=
  (Preset.all.find? fun preset => Text.sameFolded preset.name name).map fun preset =>
    join presetFolder (preset.name ++ fileEnding)

inductive Origin where
  | handedIn (value : Value)
  | preset (path : String)
  | file (path : String)
  | discovered (path : String)
  | nowhere

def Origin.mode : Origin → Mode
  | handedIn _ => .hashtable
  | preset _ => .preset
  | file _ => .file
  | discovered _ => .auto
  | nowhere => .none

def Origin.path? : Origin → Option String
  | preset path | file path | discovered path => some path
  | handedIn _ | nowhere => Option.none

/-- The settings file in the working folder.  Where a file is named instead, its folder counts. -/
def discover (tree : FileTree) (workingFolder : String) : Except Trouble Origin := do
  if workingFolder = "" then return .nowhere
  else
    let given := tidy workingFolder
    let folder := if ← tree.isFile given then parent given else given
    let candidate := below folder settingsFileName
    return if ← tree.isFile candidate then .discovered candidate else .nowhere

def originOfText (tree : FileTree) (workingFolder text : String) : Except Problem Origin :=
  if Text.strip text = "" then (discover tree workingFolder).mapError .file
  else match presetPath? text with
    | some path => .ok (.preset path)
    | none => .ok (.file text)

/-- Where the settings come from; no text and a blank one are as good as nothing. -/
def originOf (tree : FileTree) (given : Value) (workingFolder : String) :
    Except Problem Origin :=
  match given with
  | .table _ | .mapping _ => .ok (.handedIn given)
  | .text text | .path text => originOfText tree workingFolder text
  | .null => (discover tree workingFolder).mapError .file
  | _ => .error (.fault ⟨.notSettings given.typeName, none⟩)

/-- The absolute path of the file that a path of the user stands for.  A tilde and wildcards are
expanded; a path that stands for no file or for several is left as it is. -/
def resolvePath (tree : FileTree) (path : String) : Except Trouble String := do
  let expanded ← tree.expandHome path
  if Pattern.hasWildcards expanded then
    match ← tree.expand expanded with
    | [found] => return absolute tree.current found
    | _ => return path
  else return if tree.exists? expanded then absolute tree.current expanded else path

/-- The entries of the first hashtable of a settings file, and where they stand. -/
def loadTable (tree : FileTree) (path : String) :
    Except Problem (List (String × Value) × Locations) := do
  if ← (tree.isFile path).mapError .file then
    let parsed ← Syntax.parseFile tree path
    match parsed.issues with
    | first :: others => .error (.fault (Fault.ofIssues path first others))
    | [] =>
        match parsed.tree.firstHashtable with
        | none => .error (.fault ⟨.noHashtable path, some (.ofFile path)⟩)
        | some hashtable =>
            let entries ← (Literal.pairEntries true [] (pairsOf hashtable)).mapError .fault
            return (entries, locate "" hashtable)
  else .error (.fault (Fault.ofMissingSettings path))

def textPairs (entries : List (String × Value)) : List (Value × Value) :=
  entries.map fun entry => (.text entry.1, entry.2)

def resolveFile (tree : FileTree) (mode : Mode) (path : String) :
    Except Problem Configuration :=
  Except.mapError (Problem.inFile path) do
    let loaded ← loadTable tree path
    build mode (some path) loaded.2 (textPairs loaded.1)

def resolve (tree : FileTree) (given : Value) (workingFolder : String) :
    Except Problem Configuration := do
  match ← originOf tree given workingFolder with
  | .nowhere => return .standard
  | .handedIn value =>
      let literal ← (normalize ⟨""⟩ value).mapError .ofFault
      build .hashtable none [] literal.pairs
  | .discovered path => resolveFile tree .file path
  | .preset path => do
      let found ← (resolvePath tree path).mapError .file
      resolveFile tree .preset found
  | .file path => do
      let found ← (resolvePath tree path).mapError .file
      resolveFile tree .file found

end ScriptAudit.Settings
