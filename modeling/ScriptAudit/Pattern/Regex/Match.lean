import ScriptAudit.Pattern.Regex.Basic

namespace ScriptAudit.Pattern

/-! Matching a text against a regular expression.

The alternatives are tried in order, and an attempt that fails later on is taken back.  A match is
a way through the expression that ends where the rest of the work agrees. -/

/-- How far a match has come, and what each group has matched last. -/
structure Progress where
  position : Nat
  groups : List (Nat × Nat × Nat) := []

/-- The work that follows a part of an expression. -/
abbrev Rest := Progress → Option Progress

def Progress.group? (progress : Progress) (number : Nat) : Option (Nat × Nat) :=
  progress.groups.lookup number

def isWordAt (text : Array Char) (ascii : Bool) (position : Nat) : Bool :=
  text[position]?.any (CharKind.word.holds ascii)

/-- An empty text has no word boundary and no place that is none. -/
def Anchor.holds (anchor : Anchor) (text : Array Char) (position : Nat) : Bool :=
  match anchor with
  | textStart => position == 0
  | textEnd => position == text.size
  | beforeLastBreak =>
      position == text.size || (position + 1 == text.size && text[position]? == some '\n')
  | lineStart => position == 0 || text[position - 1]? == some '\n'
  | lineEnd => position == text.size || text[position]? == some '\n'
  | wordBoundary ascii negated =>
      0 < text.size &&
        ((0 < position && isWordAt text ascii (position - 1)) != isWordAt text ascii position) !=
          negated

/-- Two equally long pieces of the text agree. -/
def sameAt (text : Array Char) (letterCase : Option LetterCase) (first second length : Nat) :
    Bool :=
  (List.range length).all fun step =>
    match text[first + step]?, text[second + step]? with
    | some c, some d =>
        match letterCase with
        | some letterCase => letterCase.lower c.toNat == letterCase.lower d.toNat
        | none => c == d
    | _, _ => false

/-- Repeats a body.  After the least number of repetitions another one must not begin where the
one before it began; `last` is that place. -/
def repeatBody (body : Rest → Rest) (least : Nat) (most : Option Nat) (greed : Greed)
    (rest : Rest) :
    (fuel count : Nat) → (last : Option Nat) → Rest
  | 0, _, _, _ => none
  | fuel + 1, count, last, progress =>
      if count < least then
        body (repeatBody body least most greed rest fuel (count + 1) last) progress
      else
        let again : Unit → Option Progress := fun _ =>
          if most.all (count < ·) && last != some progress.position then
            body (repeatBody body least most greed rest fuel (count + 1) (some progress.position))
              progress
          else none
        match greed with
        | .lazy => (rest progress).orElse again
        | _ => (again ()).orElse fun _ => rest progress

/-- Repeats a body, each time in the first way in which it matches. -/
def repeatFirst (body : Rest) (least : Nat) (most : Option Nat) :
    (fuel count : Nat) → (last : Option Nat) → Rest
  | 0, _, _, _ => none
  | fuel + 1, count, last, progress =>
      if count < least then
        (body progress).bind (repeatFirst body least most fuel (count + 1) last)
      else if most.all (count < ·) && last != some progress.position then
        match body progress with
        | some further =>
            repeatFirst body least most fuel (count + 1) (some progress.position) further
        | none => some progress
      else some progress

namespace Regex

def run (text : Array Char) : Regex → Rest → Rest
  | nothing, rest, progress => rest progress
  | never, _, _ => none
  | one test, rest, progress =>
      if text[progress.position]?.any test.holds then
        rest { progress with position := progress.position + 1 }
      else none
  | anyChar lineBreaks, rest, progress =>
      if text[progress.position]?.any fun c => lineBreaks || c != '\n' then
        rest { progress with position := progress.position + 1 }
      else none
  | anchor place, rest, progress =>
      if place.holds text progress.position then rest progress else none
  | sequence first second, rest, progress => first.run text (second.run text rest) progress
  | either first second, rest, progress =>
      (first.run text rest progress).orElse fun _ => second.run text rest progress
  | enclosed body, rest, progress => body.run text rest progress
  | capture number body, rest, progress =>
      body.run text (fun further =>
        rest { further with
          groups := (number, progress.position, further.position) :: further.groups }) progress
  | backReference number letterCase, rest, progress =>
      match progress.group? number with
      | none => none
      | some (start, stop) =>
          if sameAt text letterCase start progress.position (stop - start) then
            rest { progress with position := progress.position + (stop - start) }
          else none
  | repeated least most greed body, rest, progress =>
      let fuel := least + text.size + 2
      match greed with
      | .possessive =>
          (repeatFirst (fun start => body.run text some start) least most fuel 0 none
            progress).bind rest
      | _ =>
          repeatBody (fun next start => body.run text next start) least most greed rest fuel 0 none
            progress
  | atomic body, rest, progress => (body.run text some progress).bind rest
  | ahead negated body, rest, progress =>
      match body.run text some progress with
      | some found =>
          if negated then none else rest { progress with groups := found.groups }
      | none => if negated then rest progress else none
  | behind negated width body, rest, progress =>
      let found :=
        if width ≤ progress.position then
          body.run text some { progress with position := progress.position - width }
        else none
      match found with
      | some found => if negated then none else rest { progress with groups := found.groups }
      | none => if negated then rest progress else none
  | conditional number yes no, rest, progress =>
      if (progress.group? number).isSome then yes.run text rest progress
      else no.run text rest progress

/-- The whole text matches. -/
def matchesAll (regex : Regex) (text : String) : Bool :=
  let chars := text.toList.toArray
  (regex.run chars (fun progress =>
    if progress.position = chars.size then some progress else none) ⟨0, []⟩).isSome

end Regex
end ScriptAudit.Pattern
