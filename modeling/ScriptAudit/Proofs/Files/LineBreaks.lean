import ScriptAudit.Files.Content
import ScriptAudit.Proofs.Source.LineIndex

namespace ScriptAudit.Files

/-! Offsets in a text whose line breaks were unified, and in the text as it was.

The two texts have the same lines, so a position in one of them is a position in the other one. -/

open Source

/-- Where the character at an offset of the unified text begins in the text as it was. -/
def rawOffset : List Char → Nat → Nat
  | [], _ => 0
  | _ :: _, 0 => 0
  | '\r' :: '\n' :: rest, offset + 1 => rawOffset rest offset + 2
  | _ :: rest, offset + 1 => rawOffset rest offset + 1

theorem unifyLineBreaks_cons {c : Char} {rest : List Char}
    (single : ∀ later, c = '\r' → rest = '\n' :: later → False) :
    unifyLineBreaks (c :: rest) = (if c = '\r' then '\n' else c) :: unifyLineBreaks rest := by
  rw [unifyLineBreaks]
  exact single

theorem unified_break {c : Char} (ends : c = '\r' ∨ c = '\n') :
    (if c = '\r' then '\n' else c) = '\n' := by
  split
  · rfl
  · next other => exact ends.resolve_left other

theorem rawOffset_cons {c : Char} {rest : List Char} (offset : Nat)
    (single : ∀ later, c = '\r' → rest = '\n' :: later → False) :
    rawOffset (c :: rest) (offset + 1) = rawOffset rest offset + 1 := by
  rw [rawOffset]
  exact single

theorem rawOffset_le_length (text : List Char) (offset : Nat) :
    rawOffset text offset ≤ text.length := by
  fun_induction rawOffset text offset with
  | case1 => exact Nat.le_refl _
  | case2 => exact Nat.zero_le _
  | case3 rest offset ih =>
      simp only [List.length_cons]
      omega
  | case4 c rest offset single ih =>
      simp only [List.length_cons]
      omega

theorem rawOffset_add (text : List Char) (first second : Nat) :
    rawOffset text (first + second) =
      rawOffset text first + rawOffset (text.drop (rawOffset text first)) second := by
  fun_induction rawOffset text first with
  | case1 => simp [rawOffset]
  | case2 => simp
  | case3 rest offset ih =>
      rw [show offset + 1 + second = offset + second + 1 by omega, rawOffset, ih,
        List.drop_succ_cons, List.drop_succ_cons]
      omega
  | case4 c rest offset single ih =>
      rw [show offset + 1 + second = offset + second + 1 by omega, rawOffset_cons _ single,
        ih, List.drop_succ_cons]
      omega

theorem unifyLineBreaks_drop (text : List Char) (offset : Nat) :
    unifyLineBreaks (text.drop (rawOffset text offset)) =
      (unifyLineBreaks text).drop offset := by
  fun_induction rawOffset text offset with
  | case1 => simp [unifyLineBreaks]
  | case2 => rfl
  | case3 rest offset ih =>
      rw [unifyLineBreaks, List.drop_succ_cons, List.drop_succ_cons, List.drop_succ_cons]
      exact ih
  | case4 c rest offset single ih =>
      rw [unifyLineBreaks_cons single, List.drop_succ_cons, List.drop_succ_cons]
      exact ih

theorem unifyLineBreaks_take (text : List Char) (offset : Nat) :
    unifyLineBreaks (text.take (rawOffset text offset)) =
      (unifyLineBreaks text).take offset := by
  fun_induction rawOffset text offset with
  | case1 => simp [unifyLineBreaks]
  | case2 => simp [unifyLineBreaks]
  | case3 rest offset ih =>
      rw [unifyLineBreaks, List.take_succ_cons, List.take_succ_cons, List.take_succ_cons,
        unifyLineBreaks, ih]
  | case4 c rest offset single ih =>
      rw [unifyLineBreaks_cons single, List.take_succ_cons, List.take_succ_cons, ← ih]
      refine unifyLineBreaks_cons fun later return_ feed => ?_
      cases rest with
      | nil => simp at feed
      | cons next others =>
          cases taken : rawOffset (next :: others) offset with
          | zero => simp [taken] at feed
          | succ count =>
              rw [taken, List.take_succ_cons] at feed
              cases feed
              exact single _ return_ rfl

/-- The piece of a text between two offsets of the unified text. -/
theorem unifyLineBreaks_between (text : List Char) {start stop : Nat} (ordered : start ≤ stop) :
    unifyLineBreaks ((text.drop (rawOffset text start)).take
      (rawOffset text stop - rawOffset text start)) =
      ((unifyLineBreaks text).drop start).take (stop - start) := by
  have split := rawOffset_add text start (stop - start)
  rw [Nat.add_sub_cancel' ordered] at split
  rw [split, Nat.add_sub_cancel_left, unifyLineBreaks_take, unifyLineBreaks_drop]

theorem rawOffset_le_rawOffset (text : List Char) {first second : Nat} (ordered : first ≤ second) :
    rawOffset text first ≤ rawOffset text second := by
  have split := rawOffset_add text first (second - first)
  rw [Nat.add_sub_cancel' ordered] at split
  omega

/-- A position of the unified text, looked up among the lines of the text as it was. -/
theorem lookup_position (start offset start' offset' shift number : Nat) {position : Nat}
    {text : List Char} (begun : start ≤ offset) (begun' : start' ≤ offset')
    (apart : offset - start = offset' - start' + shift)
    (inside : position ≤ (unifyLineBreaks text).length) :
    Found (linesFrom start offset text) number shift (offset + rawOffset text position)
      (LineIndex.positionOn (offset' + position) number
        (linesFrom start' offset' (unifyLineBreaks text))) := by
  -- Along the raw offset.  The shift is that of the current line: a line break leaves it behind.
  fun_induction rawOffset text position generalizing start offset start' offset' shift number with
  | case1 position =>
      have nowhere : position = 0 := by simpa [unifyLineBreaks] using inside
      rw [nowhere]
      exact Found.here number begun begun' apart [] _
  | case2 c rest => exact Found.here number begun begun' apart (c :: rest) _
  | case3 rest position ih =>
      rw [unifyLineBreaks, List.length_cons] at inside
      rw [unifyLineBreaks, linesFrom_feed, LineIndex.positionOn_later _ _ (by omega), linesFrom,
        show offset' + (position + 1) = offset' + 1 + position by omega,
        show offset + (rawOffset rest position + 2) = offset + 2 + rawOffset rest position by omega]
      refine Found.later _ (LineIndex.number_le_line _ _ _) ?_
      refine ih _ _ _ _ _ _ (Nat.le_refl _) (Nat.le_refl _) ?_ ?_ <;> omega
  | case4 c rest position single ih =>
      rw [unifyLineBreaks_cons single, List.length_cons] at inside
      rw [unifyLineBreaks_cons single,
        show offset' + (position + 1) = offset' + 1 + position by omega,
        show offset + (rawOffset rest position + 1) = offset + 1 + rawOffset rest position by omega]
      by_cases ends : c = '\r' ∨ c = '\n'
      · rw [unified_break ends, linesFrom_feed, LineIndex.positionOn_later _ _ (by omega),
          linesFrom_break single ends]
        refine Found.later _ (LineIndex.number_le_line _ _ _) ?_
        refine ih _ _ _ _ _ _ (Nat.le_refl _) (Nat.le_refl _) ?_ ?_ <;> omega
      · have plain := not_or.mp ends
        rw [if_neg plain.1, linesFrom_plain _ plain, linesFrom_plain _ plain]
        refine ih _ _ _ _ _ _ ?_ ?_ ?_ ?_ <;> omega

/-- The beginning of a unified text that has no line break is as it was. -/
theorem take_first_line {text : List Char} {offset : Nat}
    (inside : offset ≤ (unifyLineBreaks text).length)
    (plain : '\n' ∉ (unifyLineBreaks text).take offset) :
    rawOffset text offset = offset ∧ text.take offset = (unifyLineBreaks text).take offset := by
  fun_induction rawOffset text offset with
  | case1 offset =>
      have nowhere : offset = 0 := by simpa [unifyLineBreaks] using inside
      simp [nowhere]
  | case2 => simp
  | case3 rest offset ih => simp [unifyLineBreaks] at plain
  | case4 c rest offset single ih =>
      rw [unifyLineBreaks_cons single] at inside plain ⊢
      rw [List.take_succ_cons, List.mem_cons, not_or] at plain
      obtain ⟨same, kept⟩ := ih (Nat.le_of_succ_le_succ inside) plain.2
      have unchanged : (if c = '\r' then '\n' else c) = c := by
        split at plain
        · exact absurd rfl plain.1
        · next other => exact if_neg other
      rw [same, List.take_succ_cons, List.take_succ_cons, kept, unchanged]
      exact ⟨rfl, rfl⟩

/-- A line break that was passed is before the offset, and the offset is on a later line. -/
theorem first_line_feed {start offset number position : Nat} (rest : List Char) :
    (LineIndex.positionOn (offset + (position + 1)) number
      (linesFrom start offset ('\n' :: rest))).line = number ↔
        '\n' ∉ ('\n' :: rest).take (position + 1) := by
  rw [linesFrom_feed, LineIndex.positionOn_later _ _ (by omega)]
  have beyond := LineIndex.number_le_line (offset + (position + 1)) (number + 1)
    (linesFrom (offset + 1) (offset + 1) rest)
  have passed : '\n' ∈ ('\n' :: rest).take (position + 1) := by simp
  constructor
  · intro same
    omega
  · exact fun plain => absurd passed plain

/-- An offset of a unified text is on the first line as long as no line break comes before it. -/
theorem first_line_iff (start offset number : Nat) {position : Nat} {text : List Char}
    (inside : position ≤ (unifyLineBreaks text).length) :
    (LineIndex.positionOn (offset + position) number
      (linesFrom start offset (unifyLineBreaks text))).line = number ↔
        '\n' ∉ (unifyLineBreaks text).take position := by
  fun_induction rawOffset text position generalizing start offset with
  | case1 position =>
      have nowhere : position = 0 := by simpa [unifyLineBreaks] using inside
      simp [nowhere, LineIndex.positionOn_here]
  | case2 => simp [LineIndex.positionOn_here]
  | case3 rest position ih =>
      rw [unifyLineBreaks]
      exact first_line_feed _
  | case4 c rest position single ih =>
      rw [unifyLineBreaks_cons single, List.length_cons] at inside
      rw [unifyLineBreaks_cons single]
      by_cases ends : c = '\r' ∨ c = '\n'
      · rw [unified_break ends]
        exact first_line_feed _
      · have plain := not_or.mp ends
        rw [if_neg plain.1, linesFrom_plain _ plain,
          show offset + (position + 1) = offset + 1 + position by omega,
          ih _ _ (by omega), List.take_succ_cons, List.mem_cons, not_or]
        exact (and_iff_right (Ne.symm plain.2)).symm

end ScriptAudit.Files
