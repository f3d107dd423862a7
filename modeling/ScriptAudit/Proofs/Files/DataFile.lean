import ScriptAudit.Proofs.Files.OrderMark

namespace ScriptAudit.Files

/-! Data files whose text is known piece by piece. -/

/-- The line breaks of the piece become those of the other one, whatever comes after it. -/
def Unifies (piece unified : List Char) : Prop :=
  ∀ rest, unifyLineBreaks (piece ++ rest) = unified ++ unifyLineBreaks rest

namespace Unifies

variable {c : Char} {piece unified later unifiedLater : List Char}

theorem unify (unifies : Unifies piece unified) : unifyLineBreaks piece = unified := by
  have alone := unifies []
  rwa [List.append_nil, unifyLineBreaks, List.append_nil] at alone

theorem nil : Unifies [] [] := fun _ => rfl

theorem append (unifies : Unifies piece unified) (next : Unifies later unifiedLater) :
    Unifies (piece ++ later) (unified ++ unifiedLater) := fun rest => by
  rw [List.append_assoc, unifies, next, List.append_assoc]

theorem cons (plain : c ≠ '\r') (unifies : Unifies piece unified) :
    Unifies (c :: piece) (c :: unified) := fun rest => by
  rw [List.cons_append, unifyLineBreaks_cons fun _ same => absurd same plain, if_neg plain,
    unifies, List.cons_append]

theorem plain (clean : '\r' ∉ piece) : Unifies piece piece := by
  induction piece with
  | nil => exact nil
  | cons c piece ih =>
      rw [List.mem_cons, not_or] at clean
      exact cons (Ne.symm clean.1) (ih clean.2)

/-- A line feed behind a piece may belong to its last line break, any other character does not. -/
theorem before (plain : c ≠ '\n') (piece : List Char) (rest : List Char) :
    unifyLineBreaks (piece ++ c :: rest) =
      unifyLineBreaks piece ++ unifyLineBreaks (c :: rest) := by
  fun_induction unifyLineBreaks piece with
  | case1 => rfl
  | case2 piece ih =>
      rw [List.cons_append, List.cons_append, unifyLineBreaks, ih, List.cons_append]
  | case3 first piece single ih =>
      rw [List.cons_append, unifyLineBreaks_cons, ih, List.cons_append]
      intro later return_ feed
      cases piece with
      | nil => exact plain (List.cons.inj feed).1
      | cons second piece => exact single piece return_ (by rw [(List.cons.inj feed).1])

end Unifies

/-- A file that holds a text denotes the text with unified line breaks. -/
theorem dataFileText?_toUTF8 {text : List Char} (unmarked : text.head? ≠ some orderMark) :
    dataFileText? (String.ofList text).toUTF8 = some (String.ofList (unifyLineBreaks text)) := by
  have decoded : Encoding.utf8.decode? (String.ofList text).toUTF8 = some (String.ofList text) :=
    dif_pos (String.ofList text).isValidUTF8
  rw [dataFileText?_eq decoded, parsedText, String.toList_ofList, withoutMark_plain unmarked]

end ScriptAudit.Files
