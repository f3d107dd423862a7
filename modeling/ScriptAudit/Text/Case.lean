import ScriptAudit.Text.CasedTable
import ScriptAudit.Text.LowerTable
import ScriptAudit.Text.UpperTable

namespace ScriptAudit.Text

/-! Letter case of whole texts.

Lower-casing is by character except in two places: a dotted capital I becomes two characters, and
a capital sigma at the end of a word takes its final form.  Upper-casing is by character, and some
characters grow. -/

def isCased (c : Char) : Bool :=
  if c.toNat < 128 then c.isAlpha else casedTable.contains c

/-- Characters that are passed over when the ends of a word are looked for. -/
def isCaseIgnorable (c : Char) : Bool :=
  if c.toNat < 128 then c == '\'' || c == '.' || c == ':' || c == '^' || c == '\x60'
  else caseIgnorableTable.contains c

/-- The lower-case form of one character where that form is one character long. -/
def lowerChar (c : Char) : Char :=
  if c.toNat < 128 then c.toLower else Char.ofNat (caseImage lowerTable c.toNat)

/-- The first letter or other visible sign of `rest` that is not passed over has case. -/
def casedAhead : List Char → Bool
  | [] => false
  | c :: rest => if isCaseIgnorable c then casedAhead rest else isCased c

/-- `casedBefore` says that the last character before the list that is not passed over has case. -/
def lowerChars (casedBefore : Bool) : List Char → List Char
  | [] => []
  | c :: rest =>
      let here :=
        if c = 'Σ' then [if casedBefore && !casedAhead rest then 'ς' else 'σ']
        else if c = 'İ' then ['i', '\u0307']
        else [lowerChar c]
      here ++ lowerChars (if isCaseIgnorable c then casedBefore else isCased c) rest

def lower (text : String) : String :=
  String.ofList (lowerChars false text.toList)

def upperChar (c : Char) : List Char :=
  if c.toNat < 128 then [c.toUpper]
  else match upperExpansions.lookup c.toNat with
    | some codes => codes.map Char.ofNat
    | none => [Char.ofNat (caseImage upperTable c.toNat)]

def upper (text : String) : String :=
  String.ofList (text.toList.flatMap upperChar)

/-- Two texts that differ in letter case only. -/
def sameFolded (first second : String) : Bool :=
  lower first == lower second

end ScriptAudit.Text
