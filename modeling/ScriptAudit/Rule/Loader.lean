import ScriptAudit.Files.Search
import ScriptAudit.Rule.Basic

namespace ScriptAudit.Rule

/-! Loading rules from the files of rule modules.

A module that is broken leaves a failure and does not keep the others from loading, unless its
failure cannot be told. -/

open Files

/-- What comes out of reading a module: an error; no list of rules; or the makers of its rules,
after which an error may follow. -/
inductive Module where
  | broken (failure : Fault.Failure)
  | withoutRules
  | rules (factories : List Factory) (ending : Option Fault.Failure)

structure LoadFailure where
  path : String
  reason : String
deriving DecidableEq

def LoadFailure.describe (failure : LoadFailure) : String :=
  failure.path ++ ": " ++ failure.reason

structure LoadResult where
  entries : List Entry := []
  failures : List LoadFailure := []

def LoadResult.append (first second : LoadResult) : LoadResult :=
  ⟨first.entries ++ second.entries, first.failures ++ second.failures⟩

/-- What stops the loading altogether. -/
inductive LoadFault where
  | noHome
  | pattern (fault : SearchFault)
  | file (trouble : Trouble)
  | untold (failure : Fault.Failure)

def noHomeMessage : String := "Could not determine home directory."

def moduleEnding : String := ".py"

/-- The path with a tilde in front replaced by the home folder. -/
def expandModulePath (tree : FileTree) (path : String) : Except LoadFault String :=
  let short := tidy path
  match pathParts short with
  | first :: rest =>
      if anchor short = "" ∧ first.startsWith "~" then
        if first = "~" then .ok (tidy (rest.foldl join tree.home)) else .error .noHome
      else .ok short
  | [] => .ok short

/-- The module files that a path names, or why there are none. -/
def moduleFiles (tree : FileTree) (pattern : String) (recurse : Bool) (raw : String) :
    Except LoadFault (Except String (List String)) := do
  let path ← expandModulePath tree raw
  if ← (tree.isFile path).mapError .file then return .ok [path]
  else if tree.isFolder path then
    let found ← (tree.search path pattern recurse).mapError .pattern
    return .ok (found.filter fun file => !(fileName file).startsWith "_")
  else return .error "path does not exist"

/-- The entry of a rule from a module, which is never builtin. -/
def customEntry (factory : Factory) : Except Fault.Failure Entry := do
  let entry ← factory.describe none
  if entry.descriptor.isBuiltin then factory.describe (some .module) else return entry

/-- The entries of the factories up to the first that fails, and the failure that ends the list. -/
def customEntries (ending : Option Fault.Failure) :
    List Factory → List Entry × Option Fault.Failure
  | [] => ([], ending)
  | factory :: rest =>
      match customEntry factory with
      | .error failure => ([], some failure)
      | .ok entry =>
          let later := customEntries ending rest
          (entry :: later.1, later.2)

def withoutRules : Fault.Failure :=
  .ofArgument "LookupError" "module defines no get_rules() function"

def readModule (tree : FileTree) (parse : ByteArray → Module) (path : String) :
    List Entry × Option Fault.Failure :=
  if !path.endsWith moduleEnding then
    ([], some (.ofArgument "ImportError" ("cannot create an import spec for " ++ path)))
  else match tree.read path with
    | .error trouble => ([], some (.ofArgument "ImportError" trouble.reason))
    | .ok content =>
        match parse content with
        | .broken failure => ([], some failure)
        | .withoutRules => ([], some withoutRules)
        | .rules factories ending => customEntries ending factories

/-- What a file gives.  Of a failure that ends its rules the path and the reason are kept. -/
def loadFile (tree : FileTree) (parse : ByteArray → Module) (path : String) :
    Except LoadFault LoadResult :=
  let found := readModule tree parse path
  match found.2 with
  | none => .ok ⟨found.1, []⟩
  | some failure =>
      match failure.told? with
      | some told => .ok ⟨found.1, [⟨path, told⟩]⟩
      | none => .error (.untold failure)

/-- Loads what has these names, one after the other. -/
def loadEach (loadOne : String → Except LoadFault LoadResult) :
    List String → Except LoadFault LoadResult
  | [] => .ok {}
  | name :: rest => do
      let first ← loadOne name
      let later ← loadEach loadOne rest
      return first.append later

def loadPath (tree : FileTree) (parse : ByteArray → Module) (pattern : String) (recurse : Bool)
    (raw : String) : Except LoadFault LoadResult := do
  match ← moduleFiles tree pattern recurse raw with
  | .error problem => return ⟨[], [⟨raw, problem⟩]⟩
  | .ok files => loadEach (loadFile tree parse) files

/-- Loads the modules that the paths name; `parse` reads the content of one. -/
def load (tree : FileTree) (parse : ByteArray → Module) (pattern : String) (recurse : Bool) :
    List String → Except LoadFault LoadResult :=
  loadEach (loadPath tree parse pattern recurse)

end ScriptAudit.Rule
