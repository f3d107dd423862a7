import ScriptAudit.Diagnostic.Basic
import ScriptAudit.Fault.Code
import ScriptAudit.Files.Path
import ScriptAudit.Source.LineIndex

namespace ScriptAudit.Correction

/-! Applying the corrections of many diagnostics to one text.

Of each diagnostic the first correction counts.  Corrections are applied from the beginning of the
text to its end; one that begins inside the one applied last is skipped, and so is one for another
file and one that points outside of the text. -/

open Source

inductive SkipReason where
  | conflict
  | crossFile
  | outOfRange
deriving DecidableEq

namespace SkipReason

def name : SkipReason → String
  | conflict => "ConflictingCorrection"
  | crossFile => "CrossFileCorrection"
  | outOfRange => "OutOfRange"

def code : SkipReason → Fault.Code
  | conflict => .conflictingCorrection
  | crossFile => .crossFileCorrection
  | outOfRange => .outOfRange

end SkipReason

/-- A correction that was not applied, and the one that it overlaps. -/
structure Skipped where
  diagnostic : Diagnostic
  correction : Correction
  reason : SkipReason
  overlapping : Option Correction := none
deriving DecidableEq

def Skipped.describe (skipped : Skipped) : String :=
  skipped.reason.name ++ ": " ++ skipped.diagnostic.rule ++ " correction at " ++
    skipped.correction.extent.describe ++
    (match skipped.overlapping with
      | some other => " overlaps the correction at " ++ other.extent.describe
      | none => "") ++
    " [" ++ skipped.reason.code.text ++ "]"

/-- A correction with the offsets between which it replaces the text. -/
structure Edit where
  start : Nat
  stop : Nat
  diagnostic : Diagnostic
  correction : Correction
deriving DecidableEq

/-- The text for which corrections are meant: its lines, its file, and the folder where relative
paths begin. -/
structure Subject where
  index : LineIndex
  file : String
  base : String

/-- The edit of a correction, or why there is none. -/
def Subject.edit (subject : Subject) (diagnostic : Diagnostic) (correction : Correction) :
    Except SkipReason Edit :=
  if !Files.sameFile subject.base subject.file correction.extent.file then .error .crossFile
  else match subject.index.offset? correction.extent.start,
      subject.index.offset? correction.extent.stop with
    | some start, some stop =>
        if stop < start then .error .outOfRange else .ok ⟨start, stop, diagnostic, correction⟩
    | _, _ => .error .outOfRange

/-- The edits of the diagnostics, and the corrections that have none. -/
def Subject.collect (subject : Subject) : List Diagnostic → List Edit × List Skipped
  | [] => ([], [])
  | diagnostic :: rest =>
      let later := subject.collect rest
      match diagnostic.preferredCorrection with
      | none => later
      | some correction =>
          match subject.edit diagnostic correction with
          | .ok edit => (edit :: later.1, later.2)
          | .error reason => (later.1, ⟨diagnostic, correction, reason, none⟩ :: later.2)

/-- The edits by where they begin; those that begin at one place keep their order. -/
def inOrder (edits : List Edit) : List Edit :=
  edits.mergeSort fun first second => first.start ≤ second.start

/-- The edits that are applied, and those that begin before the end of the edit applied last.
`reached` is that end and `previous` the correction of that edit. -/
def sweep (reached : Nat) (previous : Option Correction) : List Edit → List Edit × List Skipped
  | [] => ([], [])
  | edit :: rest =>
      if edit.start < reached then
        let later := sweep reached previous rest
        (later.1, ⟨edit.diagnostic, edit.correction, .conflict, previous⟩ :: later.2)
      else
        let later := sweep edit.stop (some edit.correction) rest
        (edit :: later.1, later.2)

/-- The text from `reached` on, with each edit in place of what it replaces. -/
def splice (text : List Char) (reached : Nat) : List Edit → List Char
  | [] => text.drop reached
  | edit :: rest =>
      (text.take edit.start).drop reached ++ edit.correction.text.toList ++
        splice text edit.stop rest

structure Outcome where
  text : String
  applied : Nat
  skipped : List Skipped

def Outcome.changed (outcome : Outcome) : Bool :=
  0 < outcome.applied

/-- Applies the corrections to a text; an empty `file` stands for every file. -/
def apply (base file text : String) (diagnostics : List Diagnostic) : Outcome :=
  let subject : Subject := ⟨.ofText text.toList, file, base⟩
  let collected := subject.collect diagnostics
  let swept := sweep 0 none (inOrder collected.1)
  { text := String.ofList (splice text.toList 0 swept.1)
    applied := swept.1.length
    skipped := collected.2 ++ swept.2 }

end ScriptAudit.Correction
