import ScriptAudit.Files.Tree
import ScriptAudit.Pattern.Glob

namespace ScriptAudit.Files

/-! Paths that match a pattern.

There are two searches.  A path with wildcards is expanded part by part, and names that begin with
a dot match only patterns that do.  A search below a folder follows the parts of a pattern too,
but has two stars for folders at any depth, and names that begin with a dot are like others. -/

/-- The entries of the folder that a path names. -/
def FileTree.list (tree : FileTree) (path : String) : List (String × Entry) :=
  match tree.look path with
  | .ok entry => entry.entries
  | .error _ => []

def isHidden (name : String) : Bool :=
  name.startsWith "."

/-- The names in a folder that fit one part of a path. -/
def FileTree.fitting (tree : FileTree) (folder part : String) (foldersOnly : Bool) : List String :=
  (tree.list (if folder = "" then "." else folder)).filterMap fun entry =>
    if (foldersOnly && entry.2.isFile) || (isHidden entry.1 && !isHidden part) then none
    else if Pattern.globMatches part entry.1 then some entry.1
    else none

/-- Expands the parts of a path below the folders found so far; `inFolder` says that a slash comes
after the last part. -/
def FileTree.expandParts (tree : FileTree) (inFolder : Bool) (found : List String) :
    List String → List String
  | [] => if inFolder then (found.filter tree.isFolder).map (join · "") else found
  | part :: rest =>
      tree.expandParts inFolder
        (found.flatMap fun folder =>
          if Pattern.hasWildcards part then
            (tree.fitting folder part (inFolder || !rest.isEmpty)).map (join folder)
          else [join folder part].filter tree.exists?) rest

/-- All paths that a path with wildcards stands for.  The folder in front of the first wildcard is
opened as it is named, and so its name must be one that a folder can have. -/
def FileTree.expand (tree : FileTree) (path : String) : Except Trouble (List String) :=
  let slashes := path.toList.takeWhile (· == '/')
  let parts := (Text.parts '/' path).filter (· != "")
  let folder := parts.takeWhile (!Pattern.hasWildcards ·)
  if folder.any (·.toList.contains '\x00') then .error .nullCharacter
  else .ok (tree.expandParts (path.endsWith "/" && !parts.isEmpty) [String.ofList slashes] parts)

/-- One part of a pattern below a folder. -/
inductive SearchStep where
  | up
  | deep
  | exact (name : String)
  | fitting (pattern : String)
  | folderItself

/-- Why a pattern cannot be searched for. -/
inductive SearchFault where
  | emptyPattern
  | absolutePattern
  | noParts
  | onlyFolder
  | starsInPart
deriving DecidableEq

def SearchStep.ofPart (part : String) : Except SearchFault SearchStep :=
  if part = "**" then .ok .deep
  else if part = ".." then .ok .up
  else if (part.splitOn "**").length ≠ 1 then .error .starsInPart
  else if Pattern.hasWildcards part then .ok (.fitting part)
  else .ok (.exact part)

/-- The steps of a pattern; a slash at its end asks for folders. -/
def searchSteps (deeply : Bool) (pattern : String) : Except SearchFault (List SearchStep) :=
  if pattern = "" ∧ !deeply then .error .emptyPattern
  else if pattern.startsWith "/" then .error .absolutePattern
  else do
    let parts := (if deeply then ["**"] else []) ++ pathParts pattern
    let steps ← parts.mapM SearchStep.ofPart
    let closed := if pattern.endsWith "/" then steps ++ [.folderItself] else steps
    match closed with
    | [] => .error .noParts
    | [.folderItself] => .error .onlyFolder
    | _ => .ok closed

mutual

/-- The folders below an entry by their paths, after the path of the entry itself. -/
def Entry.foldersBelow (path : String) : Entry → List String
  | .file _ => []
  | .folder entries => path :: foldersAmong path entries

def foldersAmong (path : String) : List (String × Entry) → List String
  | [] => []
  | (name, entry) :: rest =>
      entry.foldersBelow (below path name) ++ foldersAmong path rest

end

def FileTree.searchFrom (tree : FileTree) (found : List String) : List SearchStep → List String
  | [] => found
  | step :: rest =>
      let foldersOnly := !rest.isEmpty
      let next := match step with
        | .folderItself => found
        | .up => found.map (below · "..")
        | .exact name => (found.map (below · name)).filter fun path =>
            if foldersOnly then tree.isFolder path else tree.exists? path
        | .fitting pattern => found.flatMap fun folder =>
            (tree.list folder).filterMap fun entry =>
              if foldersOnly && entry.2.isFile then none
              else if Pattern.globMatches pattern entry.1 then some (below folder entry.1)
              else none
        | .deep => found.flatMap fun folder =>
            match tree.look folder with
            | .ok entry => entry.foldersBelow folder
            | .error _ => []
      tree.searchFrom next rest

/-- Paths in the order of their parts. -/
def pathOrder (first second : String) : Bool :=
  !((if anchor second = "" then [] else [anchor second]) ++ pathParts second <
    (if anchor first = "" then [] else [anchor first]) ++ pathParts first)

/-- The files below a folder that fit a pattern, in the order of their paths. -/
def FileTree.search (tree : FileTree) (folder pattern : String) (deeply : Bool) :
    Except SearchFault (List String) := do
  let steps ← searchSteps deeply pattern
  let found := (tree.searchFrom [folder] steps).eraseDups
  return (found.filter fun path => (tree.isFile path).toOption.getD false).mergeSort pathOrder

end ScriptAudit.Files
