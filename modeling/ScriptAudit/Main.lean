import ScriptAudit.CommandLine.Run

namespace ScriptAudit.CommandLine

/-! The program.

It collects the files and folders to which its arguments lead, runs the command on them, and
prints what comes out. -/

open Files

/-- What a path leads to: a file with its content, a folder without one, or nothing. -/
def lookUp (path : String) : IO (List (String × Option ByteArray)) := do
  let place := (← IO.currentDir) / path
  if ← place.isDir then return [(path, none)]
  else match ← (IO.FS.readBinFile place).toBaseIO with
    | .ok content => return [(path, some content)]
    | .error _ => return []

/-- The names in a folder for one part of a path: all of them when the part has wildcards. -/
def namesFor (folder part : String) : IO (List String) := do
  let place := (← IO.currentDir) / folder
  if Pattern.hasWildcards part then
    if ← place.isDir then return (← place.readDir).toList.map (·.fileName) ++ [part]
  return [part]

/-- Everything on the way that the parts of a path take below a folder. -/
def gather (folder : String) : List String → IO (List (String × Option ByteArray))
  | [] => return []
  | part :: rest => do
      let found ← (← namesFor folder part).mapM fun name => do
        let path := join folder name
        return (← lookUp path) ++ (← gather path rest)
      return found.flatten

/-- The texts in an argument that may be paths. -/
def pathsIn (home argument : String) : List String :=
  ((splitValue argument).2.toList ++ [argument]).map (expandHome home)

/-- The files that a command with these arguments may ask for, under absolute paths. -/
def collectFiles (current home : String) (arguments : List String) :
    IO (List (String × Option ByteArray)) := do
  let found ← ("." :: arguments.flatMap (pathsIn home)).mapM fun path =>
    gather (anchor path) (pathParts path ++ [Settings.settingsFileName])
  return found.flatten.map fun file => (absolute current file.1, file.2)

/-- Runs the command that the arguments name, and returns how it ended. -/
def program (arguments : List String) : IO UInt32 := do
  let current := (← IO.currentDir).toString
  let home := (← IO.getEnv "HOME").getD current
  let files ← collectFiles current home arguments
  let tree : FileTree :=
    ⟨current, home, [Settings.presetEntry, ("/", (Entry.folder []).putAll files)]⟩
  let outcome := run tree arguments
  IO.print outcome.output
  IO.eprint (outcome.message.getD "")
  return outcome.status.toUInt32

end ScriptAudit.CommandLine

def main (arguments : List String) : IO UInt32 :=
  ScriptAudit.CommandLine.program arguments
