import ScriptAudit.Source.LineIndex

namespace ScriptAudit.Source

/-! The lines of a text, and the positions on them.

Lines and offsets lie inside of their text.  The first of the lines of a rest begins where the
current line has begun, and a position up to which the text was read already is on it.  Positions
grow with offsets, and the position of an offset leads back to it unless it lies between the two
characters of a line break. -/

theorem linesFrom_stop_le {start offset : Nat} {text : List Char} {line : Line}
    (member : line ∈ linesFrom start offset text) : line.stop ≤ offset + text.length := by
  fun_induction linesFrom start offset text with
  | case1 start offset =>
      rw [List.mem_singleton.mp member]
      exact Nat.le_refl _
  | case2 start offset rest ih =>
      rcases List.mem_cons.mp member with rfl | member
      · exact Nat.le_add_right _ _
      · have := ih member
        simp only [List.length_cons]
        omega
  | case3 start offset c rest _ breaks ih =>
      rcases List.mem_cons.mp member with rfl | member
      · exact Nat.le_add_right _ _
      · have := ih member
        simp only [List.length_cons]
        omega
  | case4 start offset c rest _ plain ih =>
      have := ih member
      simp only [List.length_cons]
      omega

theorem linesFrom_head (start offset : Nat) (text : List Char) :
    ∃ stop later, linesFrom start offset text = ⟨start, stop⟩ :: later ∧ offset ≤ stop ∧
      ∀ line ∈ later, offset < line.start := by
  fun_induction linesFrom start offset text with
  | case1 start offset => exact ⟨offset, [], rfl, Nat.le_refl _, by simp⟩
  | case2 start offset rest ih =>
      obtain ⟨stop, later, same, -, after⟩ := ih
      refine ⟨offset, _, rfl, Nat.le_refl _, fun line member => ?_⟩
      rw [same] at member
      rcases List.mem_cons.mp member with rfl | member
      · exact Nat.lt_add_of_pos_right (by omega)
      · have := after line member
        omega
  | case3 start offset c rest _ breaks ih =>
      obtain ⟨stop, later, same, -, after⟩ := ih
      refine ⟨offset, _, rfl, Nat.le_refl _, fun line member => ?_⟩
      rw [same] at member
      rcases List.mem_cons.mp member with rfl | member
      · exact Nat.lt_succ_self _
      · have := after line member
        omega
  | case4 start offset c rest _ plain ih =>
      obtain ⟨stop, later, same, reached, after⟩ := ih
      refine ⟨stop, later, same, by omega, fun line member => ?_⟩
      have := after line member
      omega

theorem linesFrom_plain {start offset : Nat} {c : Char} (rest : List Char)
    (plain : c ≠ '\r' ∧ c ≠ '\n') :
    linesFrom start offset (c :: rest) = linesFrom start (offset + 1) rest := by
  rw [linesFrom, if_neg (not_or.mpr plain)]
  exact fun _ same _ => plain.1 same

theorem linesFrom_break {start offset : Nat} {c : Char} {rest : List Char}
    (single : ∀ later, c = '\r' → rest = '\n' :: later → False) (ends : c = '\r' ∨ c = '\n') :
    linesFrom start offset (c :: rest) =
      ⟨start, offset⟩ :: linesFrom (offset + 1) (offset + 1) rest := by
  rw [linesFrom, if_pos ends]
  exact single

theorem linesFrom_feed {start offset : Nat} (rest : List Char) :
    linesFrom start offset ('\n' :: rest) =
      ⟨start, offset⟩ :: linesFrom (offset + 1) (offset + 1) rest :=
  linesFrom_break (by simp) (.inr rfl)

namespace LineIndex

theorem positionOn_here {start reached offset : Nat} (number : Nat) (text : List Char)
    (before : offset ≤ reached) :
    positionOn offset number (linesFrom start reached text) =
      ⟨number, (offset : Int) - start + 1⟩ := by
  obtain ⟨stop, later, same, -, after⟩ := linesFrom_head start reached text
  rw [same]
  cases later with
  | nil => rfl
  | cons next rest =>
      have := after next List.mem_cons_self
      rw [positionOn, if_pos (by omega)]

/-- An offset behind the beginning of the next line is on one of the lines that follow. -/
theorem positionOn_later {offset number : Nat} (line : Line) {start reached : Nat}
    (text : List Char) (behind : start ≤ offset) :
    positionOn offset number (line :: linesFrom start reached text) =
      positionOn offset (number + 1) (linesFrom start reached text) := by
  obtain ⟨stop, later, same, -, -⟩ := linesFrom_head start reached text
  rw [same, positionOn, if_neg (Nat.not_lt.mpr behind)]

theorem number_le_line (offset number : Nat) (lines : List Line) :
    (number : Int) ≤ (positionOn offset number lines).line := by
  fun_induction positionOn offset number lines with
  | case1 => exact Int.le_refl _
  | case2 => exact Int.le_refl _
  | case3 => exact Int.le_refl _
  | case4 number line next rest behind ih =>
      have : ((number + 1 : Nat) : Int) = number + 1 := rfl
      omega

theorem line_le_line {first second : Nat} (ordered : first ≤ second) (number : Nat)
    (lines : List Line) :
    (positionOn first number lines).line ≤ (positionOn second number lines).line := by
  fun_induction positionOn first number lines with
  | case1 => exact Int.le_refl _
  | case2 => exact Int.le_refl _
  | case3 number line next rest before => exact number_le_line second number _
  | case4 number line next rest behind ih =>
      rw [positionOn, if_neg (by omega)]
      exact ih

/-- Positions grow with offsets. -/
theorem positionOn_lt {first second : Nat} (ordered : first < second) (number : Nat)
    (lines : List Line) : positionOn first number lines < positionOn second number lines := by
  change Position.lt _ _
  unfold Position.lt
  fun_induction positionOn first number lines with
  | case1 =>
      rw [positionOn]
      dsimp only
      omega
  | case2 =>
      rw [positionOn]
      dsimp only
      omega
  | case3 number line next rest before =>
      rw [positionOn]
      split
      · dsimp only
        omega
      · have := number_le_line second (number + 1) (next :: rest)
        dsimp only
        omega
  | case4 number line next rest behind ih =>
      rw [positionOn, if_neg (by omega)]
      exact ih

theorem position_lt (index : LineIndex) {first second : Nat} (ordered : first < second) :
    index.position first < index.position second :=
  positionOn_lt ordered 1 index.lines

theorem position_le (index : LineIndex) {first second : Nat} (ordered : first ≤ second) :
    index.position first ≤ index.position second := by
  change ¬ Position.lt _ _
  rcases Nat.eq_or_lt_of_le ordered with rfl | before
  · simp only [Position.lt]
    omega
  · have apart : Position.lt _ _ := index.position_lt before
    unfold Position.lt at *
    omega

theorem offset?_le_length {text : List Char} {position : Position} {offset : Nat}
    (found : (ofText text).offset? position = some offset) : offset ≤ text.length := by
  unfold offset? at found
  split at found
  · cases found
  · split at found
    · cases found
    · next line read =>
        dsimp only at found
        split at found
        · next inside =>
            cases found
            have := linesFrom_stop_le (List.mem_of_getElem? read)
            omega
        · cases found

end LineIndex

/-- A position found among the lines of a text, when the first of these lines has `shift` more
characters in front than the position counts. -/
structure Found (lines : List Line) (number shift offset : Nat) (position : Position) : Prop where
  column : 1 ≤ position.column
  line : ∃ line, lines[(position.line - number).toNat]? = some line ∧
    line.start + (position.column - 1).toNat + (if position.line = number then shift else 0) =
      offset ∧ line.start + (position.column - 1).toNat ≤ line.stop

theorem Found.later {lines : List Line} {number shift offset : Nat} {position : Position}
    (first : Line) (beyond : (number + 1 : Nat) ≤ position.line)
    (found : Found lines (number + 1) 0 offset position) :
    Found (first :: lines) number shift offset position := by
  obtain ⟨column, line, read, placed, inside⟩ := found
  refine ⟨column, line, ?_, ?_, inside⟩
  · rw [show (position.line - number).toNat =
      (position.line - (number + 1 : Nat)).toNat + 1 by omega, List.getElem?_cons_succ]
    exact read
  · rw [if_neg (by omega)]
    simpa using placed

/-- A position to which no line break leads is on the first line. -/
theorem Found.here {start offset start' offset' shift : Nat} (number : Nat)
    (begun : start ≤ offset) (begun' : start' ≤ offset')
    (apart : offset - start = offset' - start' + shift) (text text' : List Char) :
    Found (linesFrom start offset text) number shift offset
      (LineIndex.positionOn offset' number (linesFrom start' offset' text')) := by
  obtain ⟨stop, later, same, reached, -⟩ := linesFrom_head start offset text
  rw [LineIndex.positionOn_here _ _ (Nat.le_refl _), same]
  refine ⟨by dsimp only; omega, ⟨start, stop⟩, ?_, ?_, ?_⟩
  · simp
  · simp only [if_true]
    omega
  · dsimp only
    omega

/-- A position that was found is looked up as the offset at which it was found. -/
theorem offset?_of_found (index : LineIndex) {shift offset : Nat} {position : Position}
    (valid : 1 ≤ position.line) (found : Found index.lines 1 shift offset position) :
    ∃ landed, index.offset? position = some landed ∧
      landed + (if position.line = 1 then shift else 0) = offset := by
  obtain ⟨column, line, read, placed, inside⟩ := found
  refine ⟨line.start + (position.column - 1).toNat, ?_, placed⟩
  unfold LineIndex.offset?
  rw [if_neg (by omega), show position.line - 1 = position.line - (1 : Nat) from rfl, read]
  exact if_pos inside

/-- Between the two pieces of a text no line break is cut. -/
def Uncut (front rest : List Char) : Prop :=
  front.getLast? = some '\r' → rest.head? ≠ some '\n'

theorem Uncut.later {c : Char} {front rest : List Char} (uncut : Uncut (c :: front) rest) :
    Uncut front rest := by
  intro returns
  refine uncut ?_
  cases front with
  | nil => cases returns
  | cons d front => rwa [List.getLast?_cons_cons]

/-- No line break is hidden in a text by what is in front of the rest. -/
theorem Uncut.single {c : Char} {front rest : List Char} (uncut : Uncut (c :: front) rest)
    (single : ∀ later, c = '\r' → front = '\n' :: later → False) (later : List Char)
    (returns : c = '\r') : front ++ rest = '\n' :: later → False := by
  intro feeds
  cases front with
  | nil =>
      refine uncut (by rw [returns]; rfl) ?_
      rw [List.nil_append] at feeds
      rw [feeds, List.head?_cons]
  | cons d front => exact single front returns (by rw [(List.cons.inj feeds).1])

/-- The position of an offset at which no line break is cut is found at that offset. -/
theorem found_position {start reached : Nat} (number : Nat) (begun : start ≤ reached)
    {front rest : List Char} (uncut : Uncut front rest) :
    Found (linesFrom start reached (front ++ rest)) number 0 (reached + front.length)
      (LineIndex.positionOn (reached + front.length) number
        (linesFrom start reached (front ++ rest))) := by
  -- Along the lines of the front: what it ends in is the current line of the whole text.
  fun_induction linesFrom start reached front generalizing number with
  | case1 start reached => exact Found.here number begun begun (Nat.add_zero _).symm _ _
  | case2 start reached front ih =>
      rw [List.cons_append, List.cons_append, linesFrom, List.length_cons, List.length_cons,
        LineIndex.positionOn_later _ _ (by omega),
        show reached + (front.length + 1 + 1) = reached + 2 + front.length by omega]
      exact .later _ (LineIndex.number_le_line _ _ _)
        (ih _ (Nat.le_refl _) uncut.later.later)
  | case3 start reached c front single ends ih =>
      rw [List.cons_append, linesFrom_break (uncut.single single) ends, List.length_cons,
        LineIndex.positionOn_later _ _ (by omega),
        show reached + (front.length + 1) = reached + 1 + front.length by omega]
      exact .later _ (LineIndex.number_le_line _ _ _) (ih _ (Nat.le_refl _) uncut.later)
  | case4 start reached c front single plain ih =>
      rw [List.cons_append, linesFrom_plain _ (not_or.mp plain), List.length_cons,
        show reached + (front.length + 1) = reached + 1 + front.length by omega]
      exact ih _ (by omega) uncut.later

theorem LineIndex.offset?_position {front rest : List Char} (uncut : Uncut front rest) :
    let index := LineIndex.ofText (front ++ rest)
    index.offset? (index.position front.length) = some front.length := by
  have found := found_position 1 (Nat.le_refl 0) uncut
  rw [Nat.zero_add] at found
  obtain ⟨landed, looked, placed⟩ := offset?_of_found (.ofText (front ++ rest))
    (LineIndex.number_le_line _ 1 _) found
  rw [ite_self, Nat.add_zero] at placed
  rwa [placed] at looked

end ScriptAudit.Source
