import ScriptAudit.Pattern.Regex.Letter
import ScriptAudit.Text.Blank
import ScriptAudit.Text.LetterTable
import ScriptAudit.Text.Word

namespace ScriptAudit.Pattern

/-! Regular expressions. -/

inductive CharKind where
  | digit
  | space
  | word
deriving DecidableEq

def CharKind.holds (kind : CharKind) (ascii : Bool) (c : Char) : Bool :=
  match kind with
  | digit => if ascii then c.isDigit else Text.isDecimalDigit c
  | space => if ascii then c == ' ' || ('\t' ≤ c && c ≤ '\r') else Text.isSeparator c
  | word =>
      c == '_' || c.isAlphanum ||
        (!ascii && 0x80 ≤ c.toNat && Text.letterOrNumberTable.contains c)

/-- A member of a character class, by code points. -/
inductive ClassMember where
  | code (code : Nat)
  | range (low high : Nat)
  | kind (kind : CharKind) (negated : Bool)
deriving DecidableEq

/-- What is asked of one character. -/
structure CharTest where
  negated : Bool
  members : List ClassMember
  ignoreCase : Bool
  ascii : Bool
deriving DecidableEq

namespace CharTest

def memberHolds (test : CharTest) (code : Nat) : ClassMember → Bool
  | .code other =>
      if test.ignoreCase then
        ((LetterCase.mk test.ascii).forms ((LetterCase.mk test.ascii).lower other)).contains code
      else code == other
  | .range low high =>
      if test.ignoreCase then (LetterCase.mk test.ascii).inRange low high code
      else low ≤ code && code ≤ high
  | .kind kind negated => kind.holds test.ascii (Char.ofNat code) != negated

def holds (test : CharTest) (c : Char) : Bool :=
  let code := if test.ignoreCase then (LetterCase.mk test.ascii).lower c.toNat else c.toNat
  test.members.any (test.memberHolds code) != test.negated

end CharTest

/-- A condition on a place in the text. -/
inductive Anchor where
  | textStart
  | textEnd
  | beforeLastBreak
  | lineStart
  | lineEnd
  | wordBoundary (ascii negated : Bool)
deriving DecidableEq

/-- How many repetitions are tried first: many, few, or as many as there are and no fewer. -/
inductive Greed where
  | greedy
  | lazy
  | possessive
deriving DecidableEq

inductive Regex where
  | nothing
  | never
  | one (test : CharTest)
  | anyChar (lineBreaks : Bool)
  | anchor (anchor : Anchor)
  | sequence (first second : Regex)
  | either (first second : Regex)
  | enclosed (body : Regex)
  | capture (number : Nat) (body : Regex)
  | backReference (number : Nat) (letterCase : Option LetterCase)
  | repeated (least : Nat) (most : Option Nat) (greed : Greed) (body : Regex)
  | atomic (body : Regex)
  | ahead (negated : Bool) (body : Regex)
  | behind (negated : Bool) (width : Nat) (body : Regex)
  | conditional (number : Nat) (yes no : Regex)

instance : Inhabited Regex := ⟨.nothing⟩

/-- The least and the greatest number of characters; there may be no greatest one. -/
structure Width where
  least : Nat
  most : Option Nat
deriving DecidableEq

namespace Width

def zero : Width := ⟨0, some 0⟩

def add (first second : Width) : Width :=
  ⟨first.least + second.least, do return (← first.most) + (← second.most)⟩

def either (first second : Width) : Width :=
  ⟨min first.least second.least, do return max (← first.most) (← second.most)⟩

def times (width : Width) (least : Nat) (most : Option Nat) : Width :=
  ⟨width.least * least,
    if width.most = some 0 then some 0 else do return (← width.most) * (← most)⟩

end Width

/-- The width of what a regular expression matches; `groups` are the widths of the groups. -/
def Regex.width (groups : Nat → Width) : Regex → Width
  | nothing | never | anchor _ | ahead .. | behind .. => .zero
  | one _ | anyChar _ => ⟨1, some 1⟩
  | sequence first second => (first.width groups).add (second.width groups)
  | either first second => (first.width groups).either (second.width groups)
  | enclosed body | capture _ body | atomic body => body.width groups
  | backReference number _ => groups number
  | repeated least most _ body => (body.width groups).times least most
  | conditional _ yes no => (yes.width groups).either (no.width groups)

end ScriptAudit.Pattern
