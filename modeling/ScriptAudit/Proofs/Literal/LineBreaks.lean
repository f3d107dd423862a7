import ScriptAudit.Proofs.Files.DataFile
import ScriptAudit.Proofs.Literal.Written
import ScriptAudit.Proofs.Syntax.StatementReads
import ScriptAudit.Proofs.Value.Literal

namespace ScriptAudit

/-! Line breaks in the text of a literal.

Unifying them changes what stands between the parts of a literal, and comments.  The literal stays
the same as long as there is no carriage return in its texts and keys. -/

open Files Syntax Lexeme

namespace Syntax

/-- A unified text begins as the text did, unless it begins with a line break. -/
theorem prefix_of_prefix_unified {c : Char} {body : List Char} (plain : c ≠ '\n')
    (front : [c] <+: unifyLineBreaks body) : [c] <+: body := by
  fun_cases unifyLineBreaks body with
  | case1 => exact front
  | case2 body => exact absurd (List.cons_prefix_cons.mp front).1 plain
  | case3 first body single =>
      rw [unifyLineBreaks_cons single] at front
      obtain ⟨same, -⟩ := List.cons_prefix_cons.mp front
      split at same
      · exact absurd same plain
      · exact ⟨body, by rw [same]; rfl⟩

theorem infix_of_infix_unified {body : List Char} (within : ['#', '>'] <:+: unifyLineBreaks body) :
    ['#', '>'] <:+: body := by
  fun_induction unifyLineBreaks body with
  | case1 => exact within
  | case2 body ih =>
      rcases List.infix_cons_iff.mp within with front | later
      · cases (List.cons_prefix_cons.mp front).1
      · exact List.infix_cons (List.infix_cons (ih later))
  | case3 c body single ih =>
      rcases List.infix_cons_iff.mp within with front | later
      · obtain ⟨hash, front⟩ := List.cons_prefix_cons.mp front
        have same : '#' = c := by
          split at hash
          · cases hash
          · exact hash
        have kept := prefix_of_prefix_unified (by decide) front
        exact (List.cons_prefix_cons.mpr ⟨same, kept⟩).isInfix
      · exact List.infix_cons (ih later)

namespace Filler

/-- The filler after its line breaks are unified. -/
def unified : Filler → Filler
  | returnFeed => feed
  | block body closed =>
      block (unifyLineBreaks body) fun within => closed (infix_of_infix_unified within)
  | line body plain _ => line body plain false
  | filler => filler

@[simp] theorem unified_separates (filler : Filler) :
    filler.unified.separates = filler.separates := by
  cases filler <;> rfl

theorem unifies (filler : Filler) : Unifies filler.text filler.unified.text := by
  cases filler with
  | space | tab | feed | semicolon => exact .plain (by decide)
  | returnFeed => exact fun rest => rfl
  | block body closed =>
      refine .cons (by decide) (.cons (by decide) fun rest => ?_)
      rw [List.append_assoc]
      refine (Unifies.before (by decide) body ('>' :: rest)).trans ?_
      rw [List.append_assoc]
      have ends : Unifies ['#', '>'] ['#', '>'] := .plain (by decide)
      exact congrArg _ (ends rest)
  | line body plain withReturn =>
      have clean : '\r' ∉ body := fun member => by
        have := plain '\r' member
        cases this
      have feed : Unifies (feedText withReturn) (feedText false) := by
        cases withReturn with
        | false => exact .plain (by decide)
        | true => exact fun rest => rfl
      exact .cons (by decide) ((Unifies.plain clean).append feed)

end Filler

theorem trivia_unifies (fillers : List Filler) :
    Unifies (trivia fillers) (trivia (fillers.map Filler.unified)) := by
  induction fillers with
  | nil => exact .nil
  | cons filler fillers ih => exact filler.unifies.append ih

theorem any_separates_unified (fillers : List Filler) :
    (fillers.map Filler.unified).any Filler.separates = fillers.any Filler.separates := by
  simp [List.any_map, Function.comp_def]

end Syntax

namespace Literal

theorem quotedText_unifies {said : String} (clean : '\r' ∉ said.toList) :
    Unifies (quotedText said) (quotedText said) := by
  have plain : '\r' ∉ doubled said.toList := by
    intro member
    obtain ⟨c, known, one⟩ := List.mem_flatMap.mp member
    split at one
    · simp at one
    · rw [List.mem_singleton.mp one] at clean
      exact clean known
  exact .cons (by decide) ((Unifies.plain plain).append (.plain (by decide)))

theorem numeral_unifies {digits : List Char} (written : IsDigits digits) (negative : Bool) :
    Unifies (sign negative ++ digits) (sign negative ++ digits) := by
  have clean : '\r' ∉ digits := fun member => by
    have := written.2 '\r' member
    cases this
  refine Unifies.append ?_ (.plain clean)
  cases negative <;> exact .plain (by decide)

mutual

theorem written_unifies {value : Value} {text : List Char} (written : Written value text)
    (clean : value.IsClean) : ∃ unified, Unifies text unified ∧ Written value unified := by
  cases written with
  | text said =>
      cases clean with
      | text clean => exact ⟨_, quotedText_unifies clean, .text said⟩
  | integer negative written short =>
      exact ⟨_, numeral_unifies written negative, .integer negative written short⟩
  | bool value =>
      refine ⟨_, ?_, .bool value⟩
      cases value <;> exact .plain (by decide)
  | emptyArray inside =>
      exact ⟨_, .cons (by decide) (.cons (by decide)
        ((trivia_unifies inside).append (.plain (by decide)))), .emptyArray _⟩
  | array opening closing first later spreads =>
      cases clean with
      | array all =>
          obtain ⟨cleanFirst, cleanLater⟩ := List.forall_mem_cons.mp all
          obtain ⟨_, unifies, first⟩ := written_unifies first cleanFirst
          obtain ⟨_, unifiesLater, later⟩ := writtenLater_unifies later cleanLater
          exact ⟨_, .cons (by decide) (.cons (by decide) ((trivia_unifies opening).append
            (unifies.append (unifiesLater.append ((trivia_unifies closing).append
              (.plain (by decide))))))), .array _ _ first later spreads⟩
  | table opening distinct written =>
      cases clean with
      | table keys all =>
          obtain ⟨_, unifies, written⟩ := writtenEntries_unifies written keys all
          exact ⟨_, .cons (by decide) (.cons (by decide) ((trivia_unifies opening).append
            (unifies.append (.plain (by decide))))), .table _ distinct written⟩

theorem writtenLater_unifies {items : List Value} {text : List Char}
    (written : WrittenLater items text) (clean : ∀ item ∈ items, item.IsClean) :
    ∃ unified, Unifies text unified ∧ WrittenLater items unified := by
  cases written with
  | nil => exact ⟨[], .nil, .nil⟩
  | cons opening first later =>
      obtain ⟨cleanFirst, cleanLater⟩ := List.forall_mem_cons.mp clean
      obtain ⟨_, unifies, first⟩ := written_unifies first cleanFirst
      obtain ⟨_, unifiesLater, later⟩ := writtenLater_unifies later cleanLater
      exact ⟨_, .cons (by decide) ((trivia_unifies opening).append (unifies.append unifiesLater)),
        .cons _ first later⟩

theorem writtenEntries_unifies {entries : List (String × Value)} {text : List Char}
    (written : WrittenEntries entries text) (keys : ∀ entry ∈ entries, '\r' ∉ entry.1.toList)
    (clean : ∀ entry ∈ entries, entry.2.IsClean) :
    ∃ unified, Unifies text unified ∧ WrittenEntries entries unified := by
  cases written with
  | nil => exact ⟨[], .nil, .nil⟩
  | cons key gap opening closing joins first later separated =>
      obtain ⟨cleanKey, keys⟩ := List.forall_mem_cons.mp keys
      obtain ⟨cleanFirst, cleanLater⟩ := List.forall_mem_cons.mp clean
      obtain ⟨_, unifies, first⟩ := written_unifies first cleanFirst
      obtain ⟨_, unifiesLater, later⟩ := writtenEntries_unifies later keys cleanLater
      refine ⟨_, (quotedText_unifies cleanKey).append ((trivia_unifies gap).append
        (.cons (by decide) ((trivia_unifies opening).append (unifies.append
          ((trivia_unifies closing).append unifiesLater))))), ?_⟩
      refine .cons key _ _ _ ?_ first later fun more => ?_
      · rw [any_separates_unified, joins]
      · rw [any_separates_unified, separated more]

end

/-- A text with a literal in it begins with no byte order mark. -/
theorem unmarked_rendered {value : Value} {text : List Char} (rendered : Rendered value text) :
    text.head? ≠ some orderMark := by
  obtain ⟨opening, body, closing, rfl, written⟩ := rendered
  cases opening with
  | nil =>
      obtain ⟨c, rest, rfl, mark⟩ := written.head
      have other : ∀ c ∈ marks, c ≠ orderMark := forall_mem_of_all (by decide)
      exact fun same => other c mark (Option.some.inj same)
  | cons filler opening =>
      obtain ⟨c, rest, same, boundary⟩ := filler.text_head
      have other : ∀ c ∈ boundaries, c ≠ orderMark := forall_mem_of_all (by decide)
      rw [trivia, List.flatMap_cons, same]
      exact fun begun => other c boundary (Option.some.inj begun)

/-- A literal without carriage returns is not changed by unified line breaks. -/
theorem rendered_unifies {value : Value} {text : List Char} (rendered : Rendered value text)
    (clean : value.IsClean) : Rendered value (unifyLineBreaks text) := by
  obtain ⟨opening, body, closing, rfl, written⟩ := rendered
  obtain ⟨unified, unifies, written⟩ := written_unifies written clean
  have whole := (trivia_unifies opening).append (unifies.append (trivia_unifies closing))
  exact ⟨_, unified, _, whole.unify, written⟩

end Literal
end ScriptAudit
