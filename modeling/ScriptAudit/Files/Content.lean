namespace ScriptAudit.Files

/-! The text that bytes denote.

A data file is UTF-8.  A byte order mark in front of it is no part of the text, and every kind of
line break becomes a line feed.  A file that ends inside the mark has no text yet and counts as
empty. -/

inductive Encoding where
  | utf8
  | latin1
deriving DecidableEq

namespace Encoding

/-- The text that the bytes denote as they stand. -/
def decode? (encoding : Encoding) (content : ByteArray) : Option String :=
  match encoding with
  | utf8 => String.fromUTF8? content
  | latin1 => some (String.ofList (content.data.toList.map fun byte => Char.ofNat byte.toNat))

/-- The bytes of a text, when the encoding has all of its characters. -/
def encode? (encoding : Encoding) (text : String) : Option ByteArray :=
  match encoding with
  | utf8 => some text.toUTF8
  | latin1 =>
      if text.toList.all (·.toNat < 256) then
        some ⟨(text.toList.map fun c => UInt8.ofNat c.toNat).toArray⟩
      else none

end Encoding

def orderMark : Char := '\ufeff'

/-- The content is the beginning of a byte order mark and no more. -/
def isPartOfMark (content : ByteArray) : Bool :=
  content.data.toList == [0xef] || content.data.toList == [0xef, 0xbb]

def withoutMark : List Char → List Char
  | [] => []
  | c :: rest => if c = orderMark then rest else c :: rest

/-- Carriage returns, with or without a line feed after them, become line feeds. -/
def unifyLineBreaks : List Char → List Char
  | [] => []
  | '\r' :: '\n' :: rest => '\n' :: unifyLineBreaks rest
  | c :: rest => (if c = '\r' then '\n' else c) :: unifyLineBreaks rest

/-- The text of a data file. -/
def dataFileText? (content : ByteArray) : Option String :=
  if isPartOfMark content then some ""
  else (Encoding.utf8.decode? content).map fun text =>
    String.ofList (unifyLineBreaks (withoutMark text.toList))

end ScriptAudit.Files
