import ScriptAudit.Files.Content
import ScriptAudit.Files.Path

namespace ScriptAudit.Files

/-! Files and folders.

A file tree holds the folders that are known, each under its absolute path.  Nothing is known
outside of them, and a path that climbs above one of them finds nothing. -/

inductive Entry where
  | file (content : ByteArray)
  | folder (entries : List (String × Entry))

/-- Why a path gives no content. -/
inductive Trouble where
  | missing
  | notFolder
  | isFolder
  | nameTooLong
  | nullCharacter
  | undecodable
  | unencodable
deriving DecidableEq

/-- What the operating system says of it. -/
def Trouble.reason : Trouble → String
  | missing => "No such file or directory"
  | notFolder => "Not a directory"
  | isFolder => "Is a directory"
  | nameTooLong => "File name too long"
  | nullCharacter => "embedded null byte"
  | undecodable => "bytes that are no text"
  | unencodable => "characters that have no bytes"

/-- How many bytes one name, and how many bytes a whole path, may have. -/
def greatestName : Nat := 255
def greatestPath : Nat := 4095

namespace Entry

def isFile : Entry → Bool
  | file _ => true
  | folder _ => false

def isFolder (entry : Entry) : Bool :=
  !entry.isFile

def entries : Entry → List (String × Entry)
  | file _ => []
  | folder entries => entries

/-- Follows the parts of a path; `above` are the folders on the way, the nearest one first.  An
empty part and a single dot stay in a folder. -/
def follow (above : List Entry) (here : Entry) : List String → Except Trouble Entry
  | [] => .ok here
  | part :: rest =>
      if here.isFile then .error .notFolder
      else if greatestName < part.utf8ByteSize then .error .nameTooLong
      else if part = "" ∨ part = "." then follow above here rest
      else if part = ".." then
        match above with
        | [] => .error .missing
        | up :: higher => follow higher up rest
      else match here.entries.lookup part with
        | some entry => follow (here :: above) entry rest
        | none => .error .missing

/-- Puts an entry under a path, making the folders on the way. -/
def put (here : Entry) (entry : Entry) : List String → Entry
  | [] => entry
  | part :: rest =>
      let old := (here.entries.lookup part).getD (.folder [])
      .folder (here.entries.filter (·.1 != part) ++ [(part, old.put entry rest)])

/-- Puts files, and folders where there is no content, under their paths.  A folder that is there
already stays as it is. -/
def putAll (here : Entry) (files : List (String × Option ByteArray)) : Entry :=
  files.foldl (fun folder file =>
    let parts := pathParts file.1
    match file.2 with
    | some content => folder.put (.file content) parts
    | none =>
        if (folder.follow [] parts).isOk then folder else folder.put (.folder []) parts) here

end Entry

/-- `current` is where relative paths begin, and `home` is the folder of the user. -/
structure FileTree where
  current : String
  home : String
  folders : List (String × Entry)

namespace FileTree

/-- The folder that an absolute path begins with, and the rest of the path. -/
def rootOf? (tree : FileTree) (parts : List String) : Option (Entry × List String) :=
  tree.folders.findSome? fun folder =>
    let inside := pathParts folder.1
    if inside.isPrefixOf parts then some (folder.2, parts.drop inside.length) else none

def look (tree : FileTree) (path : String) : Except Trouble Entry :=
  if path.toList.contains '\x00' then .error .nullCharacter
  else if path = "" then .error .missing
  else if greatestPath < path.utf8ByteSize then .error .nameTooLong
  else
    let parts := Text.parts '/' path
    let full :=
      if anchor path = "" then pathParts tree.current ++ parts
      else parts.dropWhile (· == "")
    match tree.rootOf? full with
    | some (entry, rest) => entry.follow [] rest
    | none => .error .missing

/-- The path with the home folder for a leading tilde.  Other users are not known; a name that
nobody can have is refused. -/
def expandHome (tree : FileTree) (path : String) : Except Trouble String :=
  if ((homeOwner? path).getD "").toList.contains '\x00' then .error .nullCharacter
  else .ok (Files.expandHome tree.home path)

def exists? (tree : FileTree) (path : String) : Bool :=
  (tree.look path).isOk

def isFolder (tree : FileTree) (path : String) : Bool :=
  match tree.look path with
  | .ok entry => entry.isFolder
  | .error _ => false

/-- Whether a path names a file; nobody can tell when a name is too long. -/
def isFile (tree : FileTree) (path : String) : Except Trouble Bool :=
  match tree.look (tidy path) with
  | .ok entry => .ok entry.isFile
  | .error .nameTooLong => .error .nameTooLong
  | .error _ => .ok false

def read (tree : FileTree) (path : String) : Except Trouble ByteArray :=
  match tree.look (tidy path) with
  | .ok (.file content) => .ok content
  | .ok (.folder _) => .error .isFolder
  | .error trouble => .error trouble

/-- The text of a data file. -/
def readText (tree : FileTree) (path : String) : Except Trouble String := do
  let content ← tree.read path
  match dataFileText? content with
  | some text => .ok text
  | none => .error .undecodable

end FileTree
end ScriptAudit.Files
