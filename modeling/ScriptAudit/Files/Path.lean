import ScriptAudit.Text.Split

namespace ScriptAudit.Files

/-! Paths as texts with slashes. -/

/-- The parts of a path that name something; empty parts and single dots name nothing. -/
def pathParts (path : String) : List String :=
  (Text.parts '/' path).filter fun part => part != "" && part != "."

/-- How a path is anchored: two slashes in front are kept, any other number counts as one. -/
def anchor (path : String) : String :=
  if path.startsWith "/" then
    if path.startsWith "//" && !path.startsWith "///" then "//" else "/"
  else ""

/-- The path with other parts behind its anchor, and a dot where nothing stands. -/
def withParts (path : String) (parts : List String) : String :=
  let text := anchor path ++ String.intercalate "/" parts
  if text = "" then "." else text

/-- The path without repeated slashes and single dots. -/
def tidy (path : String) : String :=
  withParts path (pathParts path)

def join (folder name : String) : String :=
  if name.startsWith "/" then name
  else if folder = "" || folder.endsWith "/" then folder ++ name
  else folder ++ "/" ++ name

/-- A tidy path with one more part. -/
def below (folder name : String) : String :=
  if folder = "." then name else join folder name

/-- A tidy path without its last part. -/
def parent (path : String) : String :=
  withParts path (pathParts path).dropLast

/-- The last part of a path. -/
def fileName (path : String) : String :=
  (pathParts path).getLast?.getD ""

/-- Cancels each `..` against the part before it.  Where nothing is left to cancel, the `..` is
dropped under a root and kept otherwise. -/
def cancel (rooted : Bool) : (kept : List String) → List String → List String
  | kept, [] => kept.reverse
  | kept, part :: rest =>
      if part = ".." then
        match kept with
        | [] => cancel rooted (if rooted then [] else [".."]) rest
        | last :: before =>
            if last = ".." then cancel rooted (".." :: kept) rest else cancel rooted before rest
      else cancel rooted (part :: kept) rest

/-- The path in full, each `..` cancelled; relative paths begin in `base`. -/
def absolute (base path : String) : String :=
  let full := join base path
  withParts full (cancel (anchor full != "") [] (pathParts full))

/-- Two names of one file; an empty name agrees with every other. -/
def sameFile (base first second : String) : Bool :=
  first == "" || second == "" || absolute base first == absolute base second

def withoutLastSlashes (path : String) : String :=
  String.ofList (path.toList.reverse.dropWhile (· == '/')).reverse

/-- The user in whose home folder a path begins: a name, or nothing, between a leading tilde and the
next slash. -/
def homeOwner? (path : String) : Option String :=
  match path.toList with
  | '~' :: rest => some (String.ofList (rest.takeWhile (· != '/')))
  | _ => none

/-- A leading tilde, alone or before a slash, stands for the home folder. -/
def expandHome (home path : String) : String :=
  if homeOwner? path = some "" then
    let text := withoutLastSlashes home ++ String.ofList path.toList.tail
    if text = "" then "/" else text
  else path

end ScriptAudit.Files
