import ScriptAudit.Proofs.Source.LineIndex

namespace ScriptAudit.Source

/-! Positions and offsets as inverses of each other.

Positions tell all offsets of a text apart, in their order.  The offset of a position is the one
that has the position, and only the places inside of a line break, between its two characters, are
not found again. -/

/-- The offset lies between the two characters of a line break. -/
def InsideBreak (text : List Char) (offset : Nat) : Prop :=
  ∃ front rest, text = front ++ '\r' :: '\n' :: rest ∧ offset = front.length + 1

/-- A line of a text with a line behind it. -/
structure Line.Precedes (line later : Line) : Prop where
  begun : line.start ≤ line.stop
  apart : line.stop < later.start

theorem linesFrom_begins {start offset : Nat} (begun : start ≤ offset) {text : List Char}
    {line : Line} (member : line ∈ linesFrom start offset text) : start ≤ line.start := by
  obtain ⟨stop, later, same, -, after⟩ := linesFrom_head start offset text
  rw [same] at member
  rcases List.mem_cons.mp member with rfl | member
  · exact Nat.le_refl _
  · exact Nat.le_trans begun (Nat.le_of_lt (after line member))

theorem linesFrom_ordered {start offset : Nat} (begun : start ≤ offset) (text : List Char) :
    (linesFrom start offset text).Pairwise Line.Precedes := by
  fun_induction linesFrom start offset text with
  | case1 start offset => exact List.pairwise_singleton _ _
  | case2 start offset rest ih =>
      refine List.pairwise_cons.mpr ⟨fun later member => ⟨begun, ?_⟩, ih (Nat.le_refl _)⟩
      have := linesFrom_begins (Nat.le_refl _) member
      dsimp only
      omega
  | case3 start offset c rest _ breaks ih =>
      refine List.pairwise_cons.mpr ⟨fun later member => ⟨begun, ?_⟩, ih (Nat.le_refl _)⟩
      exact linesFrom_begins (Nat.le_refl _) member
  | case4 start offset c rest _ plain ih => exact ih (by omega)

namespace LineIndex

/-- An offset on a line has the number of the line and the column on it. -/
theorem positionOn_inside {lines : List Line} (ordered : lines.Pairwise Line.Precedes)
    (number : Nat) {place : Nat} {line : Line} (read : lines[place]? = some line) {offset : Nat}
    (begun : line.start ≤ offset) (inside : offset ≤ line.stop) :
    positionOn offset number lines = ⟨(number + place : Nat), (offset : Int) - line.start + 1⟩ := by
  induction lines generalizing number place with
  | nil => cases read
  | cons first rest ih =>
      obtain ⟨before, orderedRest⟩ := List.pairwise_cons.mp ordered
      cases place with
      | zero =>
          cases read
          cases rest with
          | nil => rfl
          | cons next rest =>
              have apart := (before next List.mem_cons_self).apart
              rw [positionOn, if_pos (by omega)]
              rfl
      | succ place =>
          rw [List.getElem?_cons_succ] at read
          cases rest with
          | nil => cases read
          | cons next rest =>
              -- The line is none before the next one, so the search goes past the first line.
              have reached : next.start ≤ line.start := by
                cases place with
                | zero =>
                    cases read
                    exact Nat.le_refl _
                | succ place =>
                    have member := List.mem_of_getElem? (List.getElem?_cons_succ ▸ read)
                    obtain ⟨begun, apart⟩ := (List.pairwise_cons.mp orderedRest).1 line member
                    omega
              rw [positionOn, if_neg (by omega), ih orderedRest (number + 1) read,
                show number + 1 + place = number + (place + 1) by omega]

theorem exists_line_of_offset? {index : LineIndex} {position : Position} {offset : Nat}
    (found : index.offset? position = some offset) :
    ∃ line, index.lines[(position.line - 1).toNat]? = some line ∧ line.start ≤ offset ∧
      offset ≤ line.stop ∧ position =
        ⟨(1 + (position.line - 1).toNat : Nat), (offset : Int) - line.start + 1⟩ := by
  unfold offset? at found
  split at found
  · cases found
  · next valid =>
      split at found
      · cases found
      · next line read =>
          dsimp only at found
          split at found
          · next inside =>
              cases found
              refine ⟨line, read, Nat.le_add_right _ _, inside, ?_⟩
              obtain ⟨number, column⟩ := position
              dsimp only at valid ⊢
              congr 1 <;> omega
          · cases found

end LineIndex

/-- No line holds an offset that lies inside of a line break. -/
theorem linesFrom_insideBreak {start reached : Nat} (begun : start ≤ reached)
    {front rest : List Char} {line : Line}
    (member : line ∈ linesFrom start reached (front ++ '\r' :: '\n' :: rest)) :
    line.stop < reached + front.length + 1 ∨ reached + front.length + 1 < line.start := by
  have uncut (front : List Char) : Uncut front ('\r' :: '\n' :: rest) := fun _ => by simp
  fun_induction linesFrom start reached front with
  | case1 start reached =>
      rw [List.nil_append, linesFrom] at member
      rcases List.mem_cons.mp member with rfl | member
      · exact .inl (Nat.lt_succ_self _)
      · exact .inr (linesFrom_begins (Nat.le_refl _) member)
  | case2 start reached front ih =>
      rw [List.cons_append, List.cons_append, linesFrom] at member
      rw [List.length_cons, List.length_cons,
        show reached + (front.length + 1 + 1) = reached + 2 + front.length by omega]
      rcases List.mem_cons.mp member with rfl | member
      · exact .inl (by dsimp only; omega)
      · exact ih (Nat.le_refl _) member
  | case3 start reached c front single ends ih =>
      rw [List.cons_append, linesFrom_break ((uncut (c :: front)).single single) ends] at member
      rw [List.length_cons,
        show reached + (front.length + 1) = reached + 1 + front.length by omega]
      rcases List.mem_cons.mp member with rfl | member
      · exact .inl (by dsimp only; omega)
      · exact ih (Nat.le_refl _) member
  | case4 start reached c front single plain ih =>
      rw [List.cons_append, linesFrom_plain _ (not_or.mp plain)] at member
      rw [List.length_cons,
        show reached + (front.length + 1) = reached + 1 + front.length by omega]
      exact ih (by omega) member

theorem uncut_of_outside {front rest : List Char}
    (outside : ¬ InsideBreak (front ++ rest) front.length) : Uncut front rest := by
  intro returns feeds
  obtain ⟨before, rfl⟩ := List.getLast?_eq_some_iff.mp returns
  obtain ⟨after, rfl⟩ := List.head?_eq_some_iff.mp feeds
  exact outside ⟨before, after, by simp, by simp⟩

namespace LineIndex

variable (text : List Char)

theorem offset?_eq_some_iff {offset : Nat} (inside : offset ≤ text.length) (position : Position) :
    (ofText text).offset? position = some offset ↔
      (ofText text).position offset = position ∧ ¬ InsideBreak text offset := by
  constructor
  · intro found
    obtain ⟨line, read, begun, ended, same⟩ := exists_line_of_offset? found
    refine ⟨?_, ?_⟩
    · rw [same]
      exact positionOn_inside (linesFrom_ordered (Nat.le_refl 0) text) 1 read begun ended
    · rintro ⟨front, rest, rfl, rfl⟩
      have := linesFrom_insideBreak (Nat.le_refl 0) (List.mem_of_getElem? read)
      omega
  · rintro ⟨rfl, outside⟩
    obtain ⟨front, rest, rfl, rfl⟩ : ∃ front rest, text = front ++ rest ∧ offset = front.length :=
      ⟨text.take offset, text.drop offset, (List.take_append_drop offset text).symm,
        (List.length_take_of_le inside).symm⟩
    exact offset?_position (uncut_of_outside outside)

theorem extent_contains_iff (file file' : String) (start stop start' stop' : Nat) :
    ((ofText text).extent file start stop).Contains ((ofText text).extent file' start' stop') ↔
      start ≤ start' ∧ stop' ≤ stop := by
  have ordered (first second : Nat) :
      (ofText text).position first ≤ (ofText text).position second ↔ first ≤ second :=
    ⟨fun le => Nat.le_of_not_lt fun beyond => le (position_lt _ beyond), position_le _⟩
  exact and_congr (ordered start start') (ordered stop' stop)

/-- Positions grow strictly with offsets.  A position leads to an offset exactly when the offset has
it and lies inside of no line break, and to nothing when there is no such offset.  So one extent
contains another one exactly when its offsets do. -/
theorem positions_invert_offsets :
    (∀ first second, first < second → second ≤ text.length →
      (ofText text).position first < (ofText text).position second) ∧
    (∀ offset ≤ text.length, ∀ position, (ofText text).offset? position = some offset ↔
      (ofText text).position offset = position ∧ ¬ InsideBreak text offset) ∧
    (∀ position, (ofText text).offset? position = none ↔ ∀ offset ≤ text.length,
      (ofText text).position offset = position → InsideBreak text offset) ∧
    ∀ file file' start stop start' stop',
      ((ofText text).extent file start stop).Contains ((ofText text).extent file' start' stop') ↔
        start ≤ start' ∧ stop' ≤ stop := by
  refine ⟨fun first second ordered _ => position_lt _ ordered,
    fun offset inside => offset?_eq_some_iff text inside, fun position => ⟨?_, fun lost => ?_⟩,
    extent_contains_iff text⟩
  · intro absent offset inside has
    refine Classical.byContradiction fun outside => ?_
    have found := (offset?_eq_some_iff text inside position).mpr ⟨has, outside⟩
    cases absent.symm.trans found
  · cases found : (ofText text).offset? position with
    | none => rfl
    | some offset =>
        have inside := offset?_le_length found
        obtain ⟨has, outside⟩ := (offset?_eq_some_iff text inside position).mp found
        exact absurd (lost offset inside has) outside

theorem positions_invert_offsets_breaks :
    (ofText "a\r\nb\r".toList).position 2 < (ofText "a\r\nb\r".toList).position 3 ∧
    (ofText "a\r\nb\r".toList).offset? ⟨3, 1⟩ = some 5 ∧
    (ofText "a\r\nb\r".toList).offset? ⟨1, 3⟩ ≠ some 2 ∧
    ((ofText "a\r\nb\r".toList).extent "" 0 5).Contains
      ((ofText "a\r\nb\r".toList).extent "" 1 3) := by
  obtain ⟨grows, inverts, -, contains⟩ := positions_invert_offsets "a\r\nb\r".toList
  have ends : ¬ InsideBreak "a\r\nb\r".toList 5 := by
    rintro ⟨front, rest, same, place⟩
    have length := congrArg List.length same
    rw [List.length_append, List.length_cons, List.length_cons] at length
    have : "a\r\nb\r".toList.length = 5 := by decide
    omega
  have cut : InsideBreak "a\r\nb\r".toList 2 := ⟨['a'], ['b', '\r'], by decide, rfl⟩
  refine ⟨grows 2 3 (by decide) (by decide), ?_, ?_, ?_⟩
  · exact (inverts 5 (by decide) ⟨3, 1⟩).mpr ⟨by decide, ends⟩
  · exact fun found => ((inverts 2 (by decide) ⟨1, 3⟩).mp found).2 cut
  · exact (contains "" "" 0 5 1 3).mpr (by decide)

end LineIndex
end ScriptAudit.Source
