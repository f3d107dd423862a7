import ScriptAudit.Proofs.Syntax.Filler
import ScriptAudit.Proofs.Syntax.GrammarReads
import ScriptAudit.Proofs.Syntax.Quotation

namespace ScriptAudit.Syntax

/-! Where a here-string ends.

It ends at the first line behind its own first one that begins with the closing mark.  Without any
lines the mark stands right behind the header, and there it ends the string only when no later line
of the text begins with it. -/

open Source Lexeme

/-- A line and the break at its end.  A carriage return in front of a line feed is part of the
break. -/
structure Line where
  text : List Char
  withReturn : Bool
  plain : '\n' ∉ text
  trimmed : withReturn = false → text.getLast? ≠ some '\r'

namespace Line

def written (line : Line) : List Char :=
  line.text ++ Filler.feedText line.withReturn

/-- The line begins with the closing mark of a here-string. -/
def Closes (mark : Char) (line : Line) : Prop :=
  [mark, '@'] <+: line.text

def writtenAll (lines : List Line) : List Char :=
  lines.flatMap written

/-- The lines with the breaks that part them. -/
def joined : List Line → List Char
  | [] => []
  | [line] => line.text
  | line :: next :: rest => line.written ++ joined (next :: rest)

end Line

namespace Lexeme

variable {mark c : Char} {text rest after : List Char} {withReturn : Bool}

theorem afterLineBreak?_inside (plain : '\n' ∉ c :: text)
    (trimmed : withReturn = false → (c :: text).getLast? ≠ some '\r') (rest : List Char) :
    afterLineBreak? (c :: text ++ Filler.feedText withReturn ++ rest) = none := by
  have notFeed : c ≠ '\n' := fun same => plain (same ▸ List.mem_cons_self)
  by_cases returned : c = '\r'
  · subst returned
    cases text with
    | nil =>
        cases withReturn with
        | false => exact absurd rfl (trimmed rfl)
        | true => rfl
    | cons next text =>
        have nextNotFeed : next ≠ '\n' := fun same => plain (by simp [same])
        simp [afterLineBreak?, nextNotFeed]
  · simp [afterLineBreak?, notFeed, returned]

theorem hereLines_feed : hereLines mark (Filler.feedText withReturn ++ rest) =
    match afterHereCloser? mark rest with
    | some after => some ([], after)
    | none => (hereLines mark rest).map fun found =>
        (Filler.feedText withReturn ++ found.1, found.2) := by
  cases closer : afterHereCloser? mark rest <;> cases withReturn <;>
    simp [Filler.feedText, hereLines, afterLineBreak?, closer, Function.comp_def]

/-- A line belongs to the string, without its break if the closing mark follows. -/
theorem hereLines_line (line : Line) : hereLines mark (line.written ++ rest) =
    match afterHereCloser? mark rest with
    | some after => some (line.text, after)
    | none => (hereLines mark rest).map fun found => (line.written ++ found.1, found.2) := by
  obtain ⟨text, withReturn, plain, trimmed⟩ := line
  simp only [Line.written]
  induction text with
  | nil => exact hereLines_feed
  | cons c text ih =>
      have plainLater : '\n' ∉ text := fun member => plain (List.mem_cons_of_mem c member)
      have later := ih plainLater fun none last =>
        trimmed none (by rw [List.getLast?_cons, last]; rfl)
      have inside := afterLineBreak?_inside plain trimmed rest
      rw [List.cons_append, List.cons_append] at inside ⊢
      rw [hereLines, inside, Option.bind_none, later]
      cases afterHereCloser? mark rest <;> simp [Function.comp_def]

theorem afterHereCloser?_line {line : Line} (opens : ¬ line.Closes mark)
    (unbroken : isLineBreak mark = false) :
    afterHereCloser? mark (line.written ++ rest) = none := by
  rw [← Option.not_isSome_iff_eq_none, Option.isSome_iff_exists]
  rintro ⟨after, closes⟩
  have begins := afterHereCloser?_parts closes
  obtain ⟨text, withReturn, plain, trimmed⟩ := line
  match text with
  | [] =>
      cases withReturn <;> obtain ⟨rfl, -⟩ := List.cons.inj begins <;> cases unbroken
  | [c] => cases withReturn <;> simp [Line.written, Filler.feedText] at begins
  | c :: d :: text =>
      rw [Line.written, List.cons_append, List.cons_append, List.cons_append] at begins
      cases begins
      exact opens ⟨text, rfl⟩

/-- The lines are read up to the closing mark when only the first of them may begin with it. -/
theorem hereLines_written {line : Line} {lines : List Line}
    (opens : ∀ line ∈ lines, ¬ line.Closes mark) (unbroken : isLineBreak mark = false) :
    hereLines mark (Line.writtenAll (line :: lines) ++ mark :: '@' :: after) =
      some (Line.joined (line :: lines), after) := by
  rw [Line.writtenAll, List.flatMap_cons, List.append_assoc, hereLines_line]
  induction lines generalizing line with
  | nil => simp [afterHereCloser?, Line.joined]
  | cons next lines ih =>
      obtain ⟨nextOpens, opens⟩ := List.forall_mem_cons.mp opens
      rw [List.flatMap_cons, List.append_assoc, afterHereCloser?_line nextOpens unbroken,
        hereLines_line, ih opens]
      rfl

/-- Lines end somewhere exactly when some line break has the closing mark behind it. -/
theorem hereLines_isSome :
    (hereLines mark text).isSome ↔ ['\n', mark, '@'] <:+: text := by
  fun_induction hereLines mark text with
  | case1 => simp
  | case2 c rest after closed =>
      obtain ⟨broken, breaks, closes⟩ := Option.bind_eq_some_iff.mp closed
      rw [afterHereCloser?_parts closes] at breaks
      refine iff_of_true rfl ?_
      rcases afterLineBreak?_parts breaks with parted | parted <;> rw [parted]
      · exact ⟨[], after, rfl⟩
      · exact ⟨['\r'], after, rfl⟩
  | case3 c rest unclosed ih =>
      rw [Option.isSome_map, ih, List.infix_cons_iff]
      refine ⟨.inr, fun within => within.resolve_left ?_⟩
      rintro ⟨after, begins⟩
      cases begins
      simp [afterLineBreak?, afterHereCloser?] at unclosed

/-- What stands in front of the closing mark is what was read, unless there is nothing and the mark
comes again later. -/
theorem hereBody_written {lines : List Line} (opens : ∀ line ∈ lines.tail, ¬ line.Closes mark)
    (unbroken : isLineBreak mark = false)
    (ends : lines ≠ [] ∨ ¬ ['\n', mark, '@'] <:+: after) :
    hereBody mark (Line.writtenAll lines ++ mark :: '@' :: after) =
      some (Line.joined lines, after) := by
  cases lines with
  | cons line lines =>
      rw [List.tail_cons] at opens
      rw [hereBody, hereLines_written opens unbroken]
  | nil =>
      have alone : hereLines mark (mark :: '@' :: after) = none := by
        have notFeed : mark ≠ '\n' := fun same => by cases same ▸ unbroken
        rw [← Option.not_isSome_iff_eq_none, hereLines_isSome, List.infix_cons_iff,
          List.infix_cons_iff]
        simpa [notFeed.symm] using ends
      change hereBody mark (mark :: '@' :: after) = _
      simp [hereBody, alone, afterHereCloser?, Line.joined]

/-- A closing mark right behind the header is read over when the mark comes again later. -/
theorem hereBody_runs_on (again : ['\n', mark, '@'] <:+: after) :
    ∃ body rest, hereBody mark (mark :: '@' :: after) = some (body, rest) ∧
      rest.length < after.length := by
  have later : (hereLines mark (mark :: '@' :: after)).isSome :=
    hereLines_isSome.mpr (List.infix_cons (List.infix_cons again))
  obtain ⟨⟨body, rest⟩, lines⟩ := Option.isSome_iff_exists.mp later
  obtain ⟨written, parted, alone⟩ := hereLines_parts lines
  have long : 3 ≤ written.length :=
    (hereLines_isSome.mp (Option.isSome_of_eq_some alone)).length_le
  refine ⟨body, rest, by rw [hereBody, lines], ?_⟩
  have lengths := congrArg List.length parted
  simp only [List.length_cons, List.length_append] at lengths
  omega

theorem hereString_header {blanks : List Char} (blank : ∀ c ∈ blanks, c = ' ' ∨ c = '\t')
    (withReturn : Bool) : hereString mark (blanks ++ Filler.feedText withReturn ++ text) =
      hereBody mark text := by
  have skipped : (blanks ++ Filler.feedText withReturn ++ text).dropWhile
      (fun c => c == ' ' || c == '\t') = Filler.feedText withReturn ++ text := by
    rw [List.append_assoc,
      List.dropWhile_append_of_pos fun c member => by simpa using blank c member]
    cases withReturn <;> rfl
  rw [hereString, skipped]
  cases withReturn <;> rfl

end Lexeme

open Grammar Reader

/-- The mark of a here-string, and the node that is made of the lines. -/
inductive HereForm : (mark : Char) → (make : Extent → List Char → Node) → Prop
  | single : HereForm '\'' fun extent body =>
      .stringConstant extent (String.ofList body) .hereSingle
  | double : HereForm '"' fun extent body => doubleQuotedNode extent body false .hereDouble

/-- A here-string as it is written. -/
def hereLexeme (mark : Char) (blanks : List Char) (withReturn : Bool) (lines : List Line) :
    List Char :=
  ['@', mark] ++ (blanks ++ Filler.feedText withReturn ++ (Line.writtenAll lines ++ [mark, '@']))

variable {origin : Origin} {inner : Level} {mark : Char} {make : Extent → List Char → Node}
variable {blanks after : List Char}

namespace HereForm

theorem unbroken (form : HereForm mark make) : isLineBreak mark = false := by
  cases form <;> rfl

/-- A here-string is read wherever an operand may begin. -/
theorem primary_eq (form : HereForm mark make) {written body : List Char}
    (read : hereString mark (written ++ after) = some (body, after)) (tokens : List Token) :
    let lexeme := ['@', mark] ++ written
    let extent := lexemeExtent origin lexeme after
    primary origin inner ⟨lexeme ++ after, tokens⟩ =
      some (make extent body, ⟨after, ⟨.string, String.ofList lexeme, extent⟩ :: tokens⟩) := by
  have taken : quotation origin ['@', mark] (hereString mark) _ = some _ :=
    quotation_lexeme read tokens
  cases form with
  | single =>
      refine (primary_here (by decide) (by decide) tokens).trans ?_
      exact orElse_eq_some.mpr (.inl (bind_eq_some.mpr ⟨_, _, taken, rfl⟩))
  | double =>
      refine (primary_here (by decide) (by decide) tokens).trans ?_
      refine ((quotation_fails_second (by decide)).bind.orElse_eq tokens).trans ?_
      exact orElse_eq_some.mpr (.inl (bind_eq_some.mpr ⟨_, _, taken, rfl⟩))

/-- When the mark comes again on a later line, a here-string without lines goes on behind what would
be its end. -/
theorem primary_runs_on (form : HereForm mark make) (origin : Origin) (inner : Level)
    (tokens : List Token) (blank : ∀ c ∈ blanks, c = ' ' ∨ c = '\t') (withReturn : Bool)
    (again : ['\n', mark, '@'] <:+: after) :
    ∃ node left, primary origin inner ⟨hereLexeme mark blanks withReturn [] ++ after, tokens⟩ =
      some (node, left) ∧ left.rest.length < after.length := by
  obtain ⟨body, rest, lines, shorter⟩ := hereBody_runs_on again
  rw [← hereString_header blank withReturn] at lines
  obtain ⟨written, parted, -⟩ := hereString_parts lines
  have text : hereLexeme mark blanks withReturn [] ++ after = ['@', mark] ++ written ++ rest := by
    rw [List.append_assoc ['@', mark], ← parted]
    simp [hereLexeme, Line.writtenAll]
  rw [parted] at lines
  rw [text]
  exact ⟨_, _, form.primary_eq lines tokens, shorter⟩

end HereForm

/-- A here-string is read up to the closing mark behind its lines, and as these lines, whatever
follows it, unless it has no lines and a later line begins with the mark. -/
theorem hereString_ends (form : HereForm mark make) (origin : Origin) (inner : Level)
    (tokens : List Token) (blank : ∀ c ∈ blanks, c = ' ' ∨ c = '\t') (withReturn : Bool)
    {lines : List Line} (opens : ∀ line ∈ lines.tail, ¬ line.Closes mark) (after : List Char) :
    let lexeme := hereLexeme mark blanks withReturn lines
    let extent := lexemeExtent origin lexeme after
    primary origin inner ⟨lexeme ++ after, tokens⟩ =
        some (make extent (Line.joined lines),
          ⟨after, ⟨.string, String.ofList lexeme, extent⟩ :: tokens⟩) ↔
      lines ≠ [] ∨ ¬ ['\n', mark, '@'] <:+: after := by
  constructor
  · intro read
    rw [or_iff_not_imp_left, not_not]
    rintro rfl again
    obtain ⟨node, left, longer, shorter⟩ :=
      form.primary_runs_on origin inner tokens blank withReturn again
    cases longer.symm.trans read
    exact Nat.lt_irrefl _ shorter
  · intro ends
    refine form.primary_eq ?_ tokens
    have parted : blanks ++ Filler.feedText withReturn ++ (Line.writtenAll lines ++ [mark, '@']) ++
        after = blanks ++ Filler.feedText withReturn ++
          (Line.writtenAll lines ++ mark :: '@' :: after) := by simp
    rw [parted, hereString_header blank]
    exact hereBody_written opens form.unbroken ends

example : (match parseText "@'\n'@\n@'\n'@" "" with
    | .ok ⟨.scriptBlock _ [.pipeline _ [.stringConstant _ said .hereSingle]], _, []⟩ => said
    | _ => "") = "'@\n@'" := by decide +kernel

/-- Of two here-strings without lines the first one does not end at its own closing mark. -/
theorem empty_hereString_runs_on :
    let lexeme := hereLexeme '\'' [] false []
    let after := '\n' :: lexeme
    let origin := originOf (.ofText (lexeme ++ after)) ""
    primary origin (level origin origin.length) ⟨lexeme ++ after, []⟩ ≠
      some (.stringConstant (lexemeExtent origin lexeme after) "" .hereSingle,
        ⟨after, [⟨.string, String.ofList lexeme, lexemeExtent origin lexeme after⟩]⟩) := by
  intro lexeme after origin read
  have again : ['\n', '\'', '@'] <:+: after := ⟨['\n', '@', '\''], [], rfl⟩
  have ends := (hereString_ends .single origin (level origin origin.length) []
    (List.forall_mem_nil _) false (List.forall_mem_nil _) after).mp read
  exact ends.elim (absurd rfl) (absurd again)

end ScriptAudit.Syntax
