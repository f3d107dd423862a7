import ScriptAudit.Proofs.Syntax.Suffix
import ScriptAudit.Syntax.Grammar

namespace ScriptAudit.Syntax

/-! What a reader did, told from its result.

A reader that is made of parts gives a result exactly when its parts do, one after the other. -/

/-- The second cursor stands at the same place of a text as the first one or at a later one. -/
def Cursor.Reaches (before after : Cursor) : Prop :=
  after.rest <:+ before.rest

namespace Cursor

theorem reaches_refl (cursor : Cursor) : cursor.Reaches cursor :=
  List.suffix_refl _

theorem Reaches.trans {first second third : Cursor} (early : first.Reaches second)
    (late : second.Reaches third) : first.Reaches third :=
  List.IsSuffix.trans late early

end Cursor

namespace Reader

variable {α β : Type} {cursor : Cursor}

theorem bind_eq_some {first : Reader α} {next : α → Reader β} {read : β × Cursor} :
    (first >>= next) cursor = some read ↔
      ∃ value middle, first cursor = some (value, middle) ∧ next value middle = some read := by
  change (first cursor).bind (fun done => next done.1 done.2) = some read ↔ _
  simp [Option.bind_eq_some_iff]

theorem pure_eq_some {value : α} {read : α × Cursor} :
    (pure value : Reader α) cursor = some read ↔ (value, cursor) = read := by
  change some (value, cursor) = some read ↔ _
  simp

theorem orElse_eq_some {first second : Reader α} {read : α × Cursor} :
    (first <|> second) cursor = some read ↔
      first cursor = some read ∨ first cursor = none ∧ second cursor = some read := by
  change (first cursor <|> second cursor) = some read ↔ _
  cases first cursor <;> simp

theorem seqRight_eq_some {first : Reader α} {second : Reader β} {read : β × Cursor} :
    (first *> second) cursor = some read ↔
      ∃ value middle, first cursor = some (value, middle) ∧ second middle = some read := by
  change (first >>= fun _ => second) cursor = some read ↔ _
  rw [bind_eq_some]

theorem ifPresent_eq_some {item : Reader α} {read : Option α × Cursor} :
    ifPresent item cursor = some read ↔
      (∃ value after, item cursor = some (value, after) ∧ (some value, after) = read) ∨
        item cursor = none ∧ (none, cursor) = read := by
  have mapped : (some <$> item) cursor = (item cursor).map fun done => (some done.1, done.2) := by
    change (item cursor).bind (fun done => some (some done.1, done.2)) = _
    cases item cursor <;> rfl
  rw [ifPresent, orElse_eq_some, pure_eq_some, mapped]
  simp

theorem skip_eq_some {scan : List Char → Option (List Char)} {read : Unit × Cursor} :
    skip scan cursor = some read ↔
      ∃ rest, scan cursor.rest = some rest ∧ ((), { cursor with rest := rest }) = read := by
  simp [skip]

theorem lexeme_eq_some {scan : List Char → Option (List Char)} {read : List Char × Cursor} :
    lexeme scan cursor = some read ↔
      ∃ rest, scan cursor.rest = some rest ∧
        (cursor.rest.take (cursor.rest.length - rest.length), { cursor with rest := rest }) =
          read := by
  simp [lexeme]

/-- Whatever holds between two cursors with no item between them, and goes on holding when one more
item is read in front, holds for a repetition. -/
theorem repeated_chain {item : Reader α} {motive : Cursor → List α → Cursor → Prop}
    (none_read : ∀ cursor, motive cursor [] cursor)
    (one_more : ∀ {cursor value middle values after}, item cursor = some (value, middle) →
      motive middle values after → motive cursor (value :: values) after)
    {values : List α} {after : Cursor} (read : repeated item cursor = some (values, after)) :
    motive cursor values after := by
  have same : repeatedFrom item cursor = (values, after) := Option.some.inj read
  suffices motive cursor (repeatedFrom item cursor).1 (repeatedFrom item cursor).2 by
    rwa [same] at this
  clear read same
  fun_induction repeatedFrom item cursor with
  | case1 cursor stopped => exact none_read cursor
  | case2 cursor value middle found _ later ih => exact one_more found ih
  | case3 cursor value middle found _ => exact none_read cursor

theorem repeated_nil {item : Reader α} {after : Cursor}
    (read : repeated item cursor = some ([], after)) : after = cursor :=
  repeated_chain (motive := fun cursor values after => values = [] → after = cursor)
    (fun _ _ => rfl) (fun _ _ impossible => nomatch impossible) read rfl

end Reader

namespace Grammar

open Reader

variable {α : Type} {origin : Origin} {cursor : Cursor}

theorem offset_eq_some {read : Nat × Cursor} :
    offset origin cursor = some read ↔ (offsetAt origin cursor, cursor) = read := by
  simp [offset]

theorem located_eq_some {body : Reader (Source.Extent → α)} {value : α} {after : Cursor} :
    located origin body cursor = some (value, after) ↔
      ∃ build, body cursor = some (build, after) ∧
        build (origin.place (offsetAt origin cursor) (offsetAt origin after)) = value := by
  simp only [located, Option.map_eq_some_iff, Prod.mk.injEq, Prod.exists]
  constructor
  · rintro ⟨build, _, found, same, rfl⟩
    exact ⟨build, found, same⟩
  · rintro ⟨build, found, same⟩
    exact ⟨build, after, found, same, rfl⟩

/-- A token is the lexeme that was read, with the extent of it, and comes in front of those read
before. -/
theorem token_reads {kind : TokenKind} {scan : List Char → Option (List Char)}
    {found : List Char × Source.Extent} {after : Cursor}
    (read : token origin kind scan cursor = some (found, after)) :
    scan cursor.rest = some after.rest ∧
      found.1 = cursor.rest.take (cursor.rest.length - after.rest.length) ∧
      found.2 = origin.place (offsetAt origin cursor) (offsetAt origin after) ∧
      after.tokens = ⟨kind, String.ofList found.1, found.2⟩ :: cursor.tokens := by
  simp only [token, bind_eq_some, pure_eq_some] at read
  obtain ⟨text, middle, located, _, _, modified, same⟩ := read
  cases modified
  cases same
  obtain ⟨build, lexemes, placed⟩ := located_eq_some.mp located
  simp only [bind_eq_some, pure_eq_some, lexeme_eq_some] at lexemes
  obtain ⟨_, _, ⟨rest, scanned, lexed⟩, built⟩ := lexemes
  cases lexed
  cases built
  subst placed
  exact ⟨scanned, rfl, rfl, rfl⟩

end Grammar
end ScriptAudit.Syntax
