import ScriptAudit.Source.Extent

namespace ScriptAudit.Source

/-! Lines of a text, and the two ways between offsets and positions.

A line ends at a line feed, at a carriage return, or at both together.  Offsets count characters
from zero. -/

/-- Where a line begins and where its content ends, the line break left out. -/
structure Line where
  start : Nat
  stop : Nat
deriving DecidableEq

/-- The lines of the rest of a text that begins at `offset`, the current line having begun at
`start`. -/
def linesFrom (start offset : Nat) : List Char → List Line
  | [] => [⟨start, offset⟩]
  | '\r' :: '\n' :: rest => ⟨start, offset⟩ :: linesFrom (offset + 2) (offset + 2) rest
  | c :: rest =>
      if c = '\r' ∨ c = '\n' then ⟨start, offset⟩ :: linesFrom (offset + 1) (offset + 1) rest
      else linesFrom start (offset + 1) rest

structure LineIndex where
  text : List Char
  lines : List Line

namespace LineIndex

def ofText (text : List Char) : LineIndex :=
  ⟨text, linesFrom 0 0 text⟩

/-- The position of an offset on the last of the lines that begin at or before it; the first line
has the number `number`. -/
def positionOn (offset : Nat) (number : Nat) : List Line → Position
  | [] => ⟨number, offset + 1⟩
  | [line] => ⟨number, (offset : Int) - line.start + 1⟩
  | line :: next :: rest =>
      if offset < next.start then ⟨number, (offset : Int) - line.start + 1⟩
      else positionOn offset (number + 1) (next :: rest)

def position (index : LineIndex) (offset : Nat) : Position :=
  positionOn offset 1 index.lines

/-- The offset of a position that lies in the text. -/
def offset? (index : LineIndex) (position : Position) : Option Nat :=
  if position.line < 1 ∨ position.column < 1 then none
  else match index.lines[(position.line - 1).toNat]? with
    | none => none
    | some line =>
        let offset := line.start + (position.column - 1).toNat
        if offset ≤ line.stop then some offset else none

def slice (index : LineIndex) (start stop : Nat) : String :=
  String.ofList ((index.text.drop start).take (stop - start))

def extent (index : LineIndex) (file : String) (start stop : Nat) : Extent :=
  { start := index.position start
    stop := index.position stop
    file := file
    text := index.slice start stop }

/-- The extent from where the first one begins to where the last one ends.  A place that is not in
the text counts as the beginning or the end of the text. -/
def merge (index : LineIndex) (file : String) (first last : Extent) : Extent :=
  index.extent file ((index.offset? first.start).getD 0)
    ((index.offset? last.stop).getD index.text.length)

end LineIndex
end ScriptAudit.Source
