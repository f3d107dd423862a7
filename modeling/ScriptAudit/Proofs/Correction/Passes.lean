import Mathlib.Logic.Function.Iterate
import ScriptAudit.Correction.Fix

namespace ScriptAudit.Correction

/-! How the passes over a text end.

A pass that applies something is followed by another one, as long as their greatest number is not
reached.  A pass that applies nothing leaves the text as it is, so the text is stable. -/

/-- Applying nothing changes nothing. -/
theorem apply_text_eq {base file text : String} {diagnostics : List Diagnostic}
    (none : (apply base file text diagnostics).applied = 0) :
    (apply base file text diagnostics).text = text := by
  have nothing := List.eq_nil_of_length_eq_zero none
  unfold apply
  dsimp only
  rw [nothing]
  exact String.ofList_toList

section
variable (base file : String) (analyze : String → List Diagnostic)

/-- What one pass does to a text. -/
def pass (text : String) : Outcome :=
  apply base file text (analyze text)

/-- The text after so many passes, one after the other. -/
def textAfter (count : Nat) (text : String) : String :=
  (fun text => (pass base file analyze text).text)^[count] text

/-- How many corrections so many passes apply together. -/
def appliedBy (count : Nat) (text : String) : Nat :=
  (List.range count).foldr (fun earlier total =>
    (pass base file analyze (textAfter base file analyze earlier text)).applied + total) 0

/-- So many passes are made, if there may be `greatest` of them: each applies something, and one
more would apply nothing or be one too many. -/
structure PassesMade (greatest count : Nat) (text : String) : Prop where
  bounded : count ≤ greatest
  effective : ∀ earlier < count,
    0 < (pass base file analyze (textAfter base file analyze earlier text)).applied
  stable : count < greatest →
    (pass base file analyze (textAfter base file analyze count text)).applied = 0

variable {base file analyze} {greatest count : Nat} {text : String}

theorem appliedBy_succ (count : Nat) (text : String) :
    appliedBy base file analyze (count + 1) text =
      (pass base file analyze text).applied +
        appliedBy base file analyze count (pass base file analyze text).text := by
  rw [appliedBy, List.range_succ_eq_map, List.foldr_cons, List.foldr_map]
  rfl

theorem passesMade_zero (none : 0 < greatest → (pass base file analyze text).applied = 0) :
    PassesMade base file analyze greatest 0 text :=
  ⟨Nat.zero_le _, nofun, none⟩

theorem PassesMade.succ (applied : 0 < (pass base file analyze text).applied)
    (later : PassesMade base file analyze greatest count (pass base file analyze text).text) :
    PassesMade base file analyze (greatest + 1) (count + 1) text where
  bounded := Nat.succ_le_succ later.bounded
  effective
    | 0, _ => applied
    | earlier + 1, below => later.effective earlier (Nat.lt_of_succ_lt_succ below)
  stable below := later.stable (Nat.lt_of_succ_lt_succ below)

theorem fix_changed (applied : 0 < (pass base file analyze text).applied) :
    fix (m := Id) base file analyze (greatest + 1) text =
      let later := fix (m := Id) base file analyze greatest (pass base file analyze text).text
      (later.1, (pass base file analyze text).applied + later.2) :=
  if_pos (decide_eq_true applied)

theorem fix_unchanged (none : (pass base file analyze text).applied = 0) :
    fix (m := Id) base file analyze (greatest + 1) text = (text, 0) := by
  refine if_neg fun changed => ?_
  have applied : 0 < (pass base file analyze text).applied := of_decide_eq_true changed
  omega

end

theorem fix_passes (base file : String) (analyze : String → List Diagnostic) (greatest : Nat)
    (text : String) :
    ∃ count, PassesMade base file analyze greatest count text ∧
      fix (m := Id) base file analyze greatest text =
        (textAfter base file analyze count text, appliedBy base file analyze count text) := by
  induction greatest generalizing text with
  | zero => exact ⟨0, passesMade_zero nofun, rfl⟩
  | succ greatest ih =>
      rcases Nat.eq_zero_or_pos (pass base file analyze text).applied with none | applied
      · exact ⟨0, passesMade_zero fun _ => none, fix_unchanged none⟩
      · obtain ⟨count, made, fixed⟩ := ih (pass base file analyze text).text
        refine ⟨count + 1, made.succ applied, ?_⟩
        rw [fix_changed applied, fixed, appliedBy_succ]
        rfl

/-- Correcting a text is a number of passes that all apply something.  Unless it is the greatest
number there may be, the text is stable afterwards. -/
theorem fix_stabilizes (base file : String) (analyze : String → List Diagnostic) (greatest : Nat)
    (text : String) :
    ∃ count ≤ greatest,
      fix (m := Id) base file analyze greatest text =
        (textAfter base file analyze count text, appliedBy base file analyze count text) ∧
      (∀ earlier < count,
        0 < (pass base file analyze (textAfter base file analyze earlier text)).applied) ∧
      (count < greatest →
        let final := textAfter base file analyze count text
        (apply base file final (analyze final)).applied = 0 ∧
          (apply base file final (analyze final)).text = final) := by
  obtain ⟨count, made, fixed⟩ := fix_passes base file analyze greatest text
  refine ⟨count, made.bounded, fixed, made.effective, fun below => ?_⟩
  exact ⟨made.stable below, apply_text_eq (made.stable below)⟩

end ScriptAudit.Correction
