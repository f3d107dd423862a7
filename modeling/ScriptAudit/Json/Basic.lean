import ScriptAudit.Number.Basic
import ScriptAudit.Text.Quoted

namespace ScriptAudit

/-! Output in JSON.

Everything beyond the printable ASCII characters is escaped, in UTF-16 units.  Infinities and
not-a-number are written as the words that many readers accept. -/

inductive Json where
  | null
  | bool (value : Bool)
  | number (value : Number)
  | text (value : String)
  | array (items : List Json)
  | object (fields : List (String × Json))

namespace Json

def int (value : Int) : Json :=
  .number (.integer value)

def unitEscape (unit : Nat) : List Char :=
  '\\' :: 'u' :: Text.hexDigits 4 unit

/-- A character as one or two UTF-16 units. -/
def charEscape (c : Char) : List Char :=
  if c.toNat < 0x10000 then unitEscape c.toNat
  else
    let above := c.toNat - 0x10000
    unitEscape (0xd800 + above / 0x400) ++ unitEscape (0xdc00 + above % 0x400)

def charText (c : Char) : List Char :=
  if c = '"' then ['\\', '"']
  else if c = '\\' then ['\\', '\\']
  else if c = '\n' then ['\\', 'n']
  else if c = '\r' then ['\\', 'r']
  else if c = '\t' then ['\\', 't']
  else if c = '\x08' then ['\\', 'b']
  else if c = '\x0c' then ['\\', 'f']
  else if ' ' ≤ c ∧ c ≤ '~' then [c]
  else charEscape c

def quotedText (text : String) : String :=
  String.ofList ('"' :: text.toList.flatMap charText ++ ['"'])

def numberText : Number → String
  | .integer value => Number.decimal value
  | .real value => value.textWith "Infinity" "NaN"

/-- How the parts of arrays and objects are set apart.  Without an indentation they stand on one
line; with one each part has its own line, indented by that many spaces for each level. -/
structure Layout where
  indentation : Option Nat

def Layout.lineBreak (layout : Layout) (level : Nat) : String :=
  match layout.indentation with
  | none => ""
  | some width => "\n" ++ String.ofList (List.replicate (width * level) ' ')

def Layout.separator (layout : Layout) (level : Nat) : String :=
  match layout.indentation with
  | none => ", "
  | some _ => "," ++ layout.lineBreak level

def Layout.enclose (layout : Layout) (level : Nat) (left right : String) : List String → String
  | [] => left ++ right
  | parts =>
      left ++ layout.lineBreak (level + 1) ++
        String.intercalate (layout.separator (level + 1)) parts ++
        layout.lineBreak level ++ right

mutual

def write (layout : Layout) (level : Nat) : Json → String
  | null => "null"
  | bool value => if value then "true" else "false"
  | number value => numberText value
  | text value => quotedText value
  | array items => layout.enclose level "[" "]" (writeItems layout (level + 1) items)
  | object fields =>
      layout.enclose level "\x7b" "\x7d" (writeFields layout (level + 1) fields)

def writeItems (layout : Layout) (level : Nat) : List Json → List String
  | [] => []
  | item :: rest => item.write layout level :: writeItems layout level rest

def writeFields (layout : Layout) (level : Nat) : List (String × Json) → List String
  | [] => []
  | (key, value) :: rest =>
      (quotedText key ++ ": " ++ value.write layout level) :: writeFields layout level rest

end

def compact (json : Json) : String :=
  json.write ⟨none⟩ 0

/-- A negative indentation counts as none, but the lines stay. -/
def indented (indentation : Int) (json : Json) : String :=
  json.write ⟨some indentation.toNat⟩ 0

end Json
end ScriptAudit
