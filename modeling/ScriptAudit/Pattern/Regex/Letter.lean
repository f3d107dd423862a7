import ScriptAudit.Text.Case

namespace ScriptAudit.Pattern

/-! Characters that differ in letter case only.

Code points are compared by their lower-case forms.  Some forms of one letter have several
lower-case forms, which count as one. -/

/-- Lower-case forms of one letter. -/
def letterForms : List (List Nat) := [
  [0x69, 0x131], [0x73, 0x17f], [0xb5, 0x3bc], [0x345, 0x3b9, 0x1fbe], [0x390, 0x1fd3],
  [0x3b0, 0x1fe3], [0x3b2, 0x3d0], [0x3b5, 0x3f5], [0x3b8, 0x3d1], [0x3ba, 0x3f0],
  [0x3c0, 0x3d6], [0x3c1, 0x3f1], [0x3c2, 0x3c3], [0x3c6, 0x3d5], [0x432, 0x1c80],
  [0x434, 0x1c81], [0x43e, 0x1c82], [0x441, 0x1c83], [0x442, 0x1c84, 0x1c85],
  [0x44a, 0x1c86], [0x463, 0x1c87], [0x1c88, 0xa64b], [0x1e61, 0x1e9b], [0xfb05, 0xfb06]]

/-- The lower-case forms that count as this one. -/
def formsOf (code : Nat) : List Nat :=
  (letterForms.find? (·.contains code)).getD [code]

/-- Letter case, of all scripts or of the first 128 code points only. -/
structure LetterCase where
  ascii : Bool
deriving DecidableEq

namespace LetterCase

def isUpperAscii (code : Nat) : Bool :=
  0x41 ≤ code && code ≤ 0x5a

def isLowerAscii (code : Nat) : Bool :=
  0x61 ≤ code && code ≤ 0x7a

def lower (letterCase : LetterCase) (code : Nat) : Nat :=
  if isUpperAscii code then code + 0x20
  else if letterCase.ascii || code < 0x80 then code
  else if code = 0x130 then 0x69
  else Text.caseImage Text.lowerTable code

/-- The code points with this lower-case form. -/
def sources (letterCase : LetterCase) (code : Nat) : List Nat :=
  let upper := if isLowerAscii code then [code - 0x20] else []
  let beyond :=
    if letterCase.ascii then []
    else
      (if code = 0x69 then [0x130] else []) ++
        Text.lowerTable.toList.filterMap fun run =>
          let source := run.first + (code - run.target)
          if run.target ≤ code && letterCase.lower source == code then some source else none
  (if letterCase.lower code = code then [code] else []) ++ upper ++ beyond

def forms (letterCase : LetterCase) (code : Nat) : List Nat :=
  if letterCase.ascii then [code] else formsOf code

/-- A lower-case code point is a form of a letter of the range. -/
def inRange (letterCase : LetterCase) (low high lowered : Nat) : Bool :=
  (letterCase.forms lowered).any fun form =>
    (letterCase.sources form).any fun source => low ≤ source && source ≤ high

end LetterCase
end ScriptAudit.Pattern
