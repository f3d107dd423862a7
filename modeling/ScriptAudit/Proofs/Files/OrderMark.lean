import ScriptAudit.Proofs.Files.LineBreaks

namespace ScriptAudit.Files

/-! Positions of a parsed file in the text as it stands.

A file is parsed without its byte order mark and with unified line breaks.  Line breaks do no harm
to positions.  A mark does: it is a character of the first line, so what a position of this line
says begins one character too early. -/

open Source

variable {old : List Char}

theorem lines_marked (text : List Char) :
    (LineIndex.ofText (orderMark :: text)).lines = linesFrom 0 1 text :=
  linesFrom_plain text (by decide)

theorem withoutMark_plain (plain : old.head? ≠ some orderMark) : withoutMark old = old := by
  cases old with
  | nil => rfl
  | cons c rest => exact if_neg fun same => plain (congrArg some same)

theorem cons_withoutMark (marked : old.head? = some orderMark) :
    orderMark :: withoutMark old = old := by
  cases old with
  | nil => cases marked
  | cons c rest =>
      cases marked
      rw [withoutMark, if_pos rfl]

theorem drop_marked (marked : old.head? = some orderMark) (count : Nat) :
    old.drop (count + 1) = (withoutMark old).drop count := by
  have dropped := List.drop_succ_cons (a := orderMark) (l := withoutMark old) (i := count)
  rwa [cons_withoutMark marked] at dropped

def parsedText (old : List Char) : List Char :=
  unifyLineBreaks (withoutMark old)

/-- Bytes that end inside of a byte order mark are no text. -/
theorem undecodable_of_isPartOfMark {content : ByteArray} (part : isPartOfMark content) :
    Encoding.utf8.decode? content = none := by
  obtain ⟨⟨bytes⟩⟩ := content
  simp only [isPartOfMark, Bool.or_eq_true, beq_iff_eq] at part
  rcases part with rfl | rfl <;> decide

theorem dataFileText?_eq {content : ByteArray} {old : String}
    (decoded : Encoding.utf8.decode? content = some old) :
    dataFileText? content = some (String.ofList (parsedText old.toList)) := by
  rw [dataFileText?, if_neg, decoded]
  · rfl
  · intro part
    rw [undecodable_of_isPartOfMark part] at decoded
    cases decoded

def parsedPosition (old : List Char) (offset : Nat) : Position :=
  (LineIndex.ofText (parsedText old)).position offset

/-- The offset at which a parsed position lands in the text as it stands. -/
def landing (old : List Char) (offset : Nat) : Nat :=
  rawOffset (withoutMark old) offset +
    (if old.head? = some orderMark ∧ (parsedPosition old offset).line ≠ 1 then 1 else 0)

theorem landing_plain (plain : old.head? ≠ some orderMark) (offset : Nat) :
    landing old offset = rawOffset old offset := by
  rw [landing, if_neg fun both => plain both.1, withoutMark_plain plain, Nat.add_zero]

theorem landing_first {offset : Nat} (first : (parsedPosition old offset).line = 1) :
    landing old offset = rawOffset (withoutMark old) offset := by
  rw [landing, if_neg fun both => both.2 first, Nat.add_zero]

theorem landing_later {offset : Nat} (marked : old.head? = some orderMark)
    (later : (parsedPosition old offset).line ≠ 1) :
    landing old offset = rawOffset (withoutMark old) offset + 1 := by
  rw [landing, if_pos ⟨marked, later⟩]

theorem one_le_line (old : List Char) (offset : Nat) : 1 ≤ (parsedPosition old offset).line :=
  LineIndex.number_le_line _ _ _

theorem offset?_parsedPosition (old : List Char) {offset : Nat}
    (inside : offset ≤ (parsedText old).length) :
    (LineIndex.ofText old).offset? (parsedPosition old offset) = some (landing old offset) := by
  have shown : parsedPosition old offset =
      LineIndex.positionOn (0 + offset) 1 (linesFrom 0 0 (parsedText old)) := by
    rw [Nat.zero_add]
    rfl
  by_cases marked : old.head? = some orderMark
  · have found := lookup_position 0 1 0 0 1 1 (by omega) (by omega) (by omega) inside
    rw [← lines_marked, cons_withoutMark marked, ← parsedText, ← shown] at found
    obtain ⟨landed, looked, placed⟩ := offset?_of_found (.ofText old) (one_le_line old offset) found
    rw [looked]
    by_cases first : (parsedPosition old offset).line = 1
    · rw [if_pos first] at placed
      rw [landing_first first]
      congr 1
      omega
    · rw [if_neg first] at placed
      rw [landing_later marked first]
      congr 1
      omega
  · have found := lookup_position 0 0 0 0 0 1 (by omega) (by omega) (by omega) inside
    rw [← parsedText, ← shown, withoutMark_plain marked] at found
    obtain ⟨landed, looked, placed⟩ :=
      offset?_of_found (.ofText old) (one_le_line old offset) found
    rw [looked, landing_plain marked]
    rw [ite_self] at placed
    congr 1
    omega

theorem landing_le_landing (old : List Char) {first second : Nat} (ordered : first ≤ second) :
    landing old first ≤ landing old second := by
  have reached := rawOffset_le_rawOffset (withoutMark old) ordered
  have lines : (parsedPosition old first).line ≤ (parsedPosition old second).line :=
    LineIndex.line_le_line ordered 1 (linesFrom 0 0 (parsedText old))
  have valid := one_le_line old first
  unfold landing
  split
  · next late =>
      rw [if_pos ⟨late.1, by omega⟩]
      omega
  · omega

/-- The piece of the text as it stands between where two offsets land. -/
def landedRegion (old : List Char) (start stop : Nat) : List Char :=
  (old.drop (landing old start)).take (landing old stop - landing old start)

variable {start stop : Nat}

/-- Where nothing is shifted, the piece is the parsed one but for its line breaks. -/
theorem landedRegion_eq (old : List Char) (ordered : start ≤ stop)
    (unshifted : old.head? = some orderMark → (parsedPosition old start).line ≠ 1) :
    unifyLineBreaks (landedRegion old start stop) =
      ((parsedText old).drop start).take (stop - start) := by
  rw [parsedText, ← unifyLineBreaks_between _ ordered, landedRegion]
  congr 1
  have lines : (parsedPosition old start).line ≤ (parsedPosition old stop).line :=
    LineIndex.line_le_line ordered 1 (linesFrom 0 0 (parsedText old))
  have valid := one_le_line old start
  by_cases marked : old.head? = some orderMark
  · have later := unshifted marked
    rw [landing_later marked later, landing_later marked (by omega), Nat.add_sub_add_right,
      drop_marked marked]
  · rw [landing_plain marked, landing_plain marked, withoutMark_plain marked]

theorem unifyLineBreaks_plain {text : List Char} (plain : '\r' ∉ text) :
    unifyLineBreaks text = text := by
  induction text with
  | nil => rfl
  | cons c rest ih =>
      rw [List.mem_cons, not_or] at plain
      rw [unifyLineBreaks_cons fun _ same _ => plain.1 same.symm, ih plain.2,
        if_neg (Ne.symm plain.1)]

theorem return_not_mem (text : List Char) : '\r' ∉ unifyLineBreaks text := by
  fun_induction unifyLineBreaks text with
  | case1 => exact List.not_mem_nil
  | case2 rest ih =>
      rw [List.mem_cons, not_or]
      exact ⟨by decide, ih⟩
  | case3 c rest single ih =>
      rw [List.mem_cons, not_or]
      refine ⟨?_, ih⟩
      split
      · decide
      · next other => exact Ne.symm other

/-- A list is what comes of moving it one place to the right when all of it is what stands in front
of it. -/
theorem shifted_eq_iff (front : Char) (text : List Char) :
    (front :: text).take text.length = text ↔ ∀ c ∈ text, c = front := by
  induction text generalizing front with
  | nil => simp
  | cons c rest ih =>
      rw [List.length_cons, List.take_succ_cons, List.cons.injEq, ih c,
        List.forall_mem_cons]
      constructor
      · rintro ⟨rfl, same⟩
        exact ⟨rfl, same⟩
      · rintro ⟨rfl, same⟩
        exact ⟨rfl, same⟩

theorem first_line_parsed_iff {offset : Nat} (inside : offset ≤ (parsedText old).length) :
    (parsedPosition old offset).line = 1 ↔ '\n' ∉ (parsedText old).take offset := by
  have onFirst := first_line_iff 0 0 1 inside
  rwa [Nat.zero_add] at onFirst

/-- Nothing on the first line is moved by line breaks. -/
theorem landing_eq_self {offset : Nat} (inside : offset ≤ (parsedText old).length)
    (first : (parsedPosition old offset).line = 1) : landing old offset = offset := by
  rw [landing_first first]
  exact (take_first_line inside ((first_line_parsed_iff inside).mp first)).1

/-- On the first line of a marked text a place lands at the character in front of it, which is no
line break. -/
theorem drop_landing (inside : start ≤ (parsedText old).length)
    (marked : old.head? = some orderMark) (first : (parsedPosition old start).line = 1) :
    ∃ front, old.drop (landing old start) = front :: (withoutMark old).drop start ∧
      front ≠ '\r' ∧ front ≠ '\n' := by
  have before := (first_line_parsed_iff inside).mp first
  obtain ⟨same, kept⟩ := take_first_line inside before
  have bounded := rawOffset_le_length (withoutMark old) start
  have shorter := congrArg List.length (cons_withoutMark marked)
  have within : start < old.length := by
    rw [List.length_cons] at shorter
    omega
  have beginning : old.take (start + 1) = orderMark :: (parsedText old).take start := by
    rw [parsedText, ← kept, ← List.take_succ_cons, cons_withoutMark marked]
  have member : old[start] ∈ orderMark :: (parsedText old).take start := by
    rw [← beginning]
    exact List.mem_take_iff_getElem.mpr ⟨start, by omega, rfl⟩
  refine ⟨old[start], ?_, ?_, ?_⟩
  · rw [landing_eq_self inside first, List.drop_eq_getElem_cons within, drop_marked marked]
  · intro return_
    rw [return_, List.mem_cons] at member
    rcases member with mark | member
    · exact absurd mark (by decide)
    · exact return_not_mem _ (List.mem_of_mem_take member)
  · intro feed
    rw [feed, List.mem_cons] at member
    exact member.elim (by decide) before

section Shifted

variable {front : Char}
  (dropped : old.drop (landing old start) = front :: (withoutMark old).drop start)
  (noReturn : front ≠ '\r') (ordered : start ≤ stop) (inside : stop ≤ (parsedText old).length)
  (first : (parsedPosition old start).line = 1)

include dropped noReturn ordered inside first

/-- A piece that ends on the first line is the parsed one, moved to the character in front of it. -/
theorem landedRegion_firstLine (firstStop : (parsedPosition old stop).line = 1) :
    unifyLineBreaks (landedRegion old start stop) =
      (front :: ((parsedText old).drop start).take (stop - start)).take
        (((parsedText old).drop start).take (stop - start)).length := by
  obtain ⟨-, keptStop⟩ := take_first_line inside ((first_line_parsed_iff inside).mp firstStop)
  rw [landedRegion, dropped, landing_eq_self (Nat.le_trans ordered inside) first,
    landing_eq_self inside firstStop]
  generalize whole : ((parsedText old).drop start).take (stop - start) = piece
  have length : piece.length = stop - start := by
    rw [← whole, List.length_take, List.length_drop]
    omega
  have raw : ((withoutMark old).drop start).take (stop - start) = piece := by
    rw [← whole, ← List.drop_take, ← List.drop_take, keptStop]
    rfl
  have shifted : (front :: (withoutMark old).drop start).take (stop - start) =
      (front :: piece).take piece.length := by
    rw [length, ← raw]
    cases stop - start with
    | zero => rfl
    | succ count => simp [List.take_take]
  have plain : '\r' ∉ (front :: piece).take piece.length := by
    intro member
    rcases List.mem_cons.mp (List.mem_of_mem_take member) with same | member
    · exact noReturn same.symm
    · rw [← whole] at member
      exact return_not_mem _ (List.mem_of_mem_drop (List.mem_of_mem_take member))
  rw [shifted, unifyLineBreaks_plain plain]

/-- A piece that ends on a later line is the parsed one with the character in front of it, and it
holds a line break. -/
theorem landedRegion_laterLine (marked : old.head? = some orderMark)
    (laterStop : (parsedPosition old stop).line ≠ 1) :
    unifyLineBreaks (landedRegion old start stop) =
        front :: ((parsedText old).drop start).take (stop - start) ∧
      '\n' ∈ ((parsedText old).drop start).take (stop - start) := by
  have insideStart := Nat.le_trans ordered inside
  have before := (first_line_parsed_iff insideStart).mp first
  have same : rawOffset (withoutMark old) start = start := (take_first_line insideStart before).1
  have reached := rawOffset_le_rawOffset (withoutMark old) ordered
  have between := unifyLineBreaks_between (withoutMark old) ordered
  rw [same] at reached between
  constructor
  · rw [landedRegion, dropped, landing_eq_self insideStart first, landing_later marked laterStop,
      show rawOffset (withoutMark old) stop + 1 - start =
        rawOffset (withoutMark old) stop - start + 1 by omega, List.take_succ_cons,
      unifyLineBreaks_cons fun _ return_ _ => noReturn return_, between, if_neg noReturn]
    rfl
  · have within := Classical.not_not.mp (mt (first_line_parsed_iff inside).mpr laterStop)
    rw [← Nat.add_sub_cancel' ordered, List.take_add, List.mem_append] at within
    exact within.resolve_left before

end Shifted

/-- What a mark does to a place on the first line: the piece is the parsed one only when all of
this is the character in front of it. -/
theorem landedRegion_shifted (ordered : start ≤ stop) (inside : stop ≤ (parsedText old).length)
    (marked : old.head? = some orderMark) (first : (parsedPosition old start).line = 1) :
    unifyLineBreaks (landedRegion old start stop) =
      ((parsedText old).drop start).take (stop - start) ↔
        ∀ c ∈ ((parsedText old).drop start).take (stop - start),
          old[landing old start]? = some c := by
  obtain ⟨front, dropped, noReturn, noFeed⟩ :=
    drop_landing (Nat.le_trans ordered inside) marked first
  have read : old[landing old start]? = some front := by
    rw [← List.head?_drop, dropped, List.head?_cons]
  rw [read]
  by_cases firstStop : (parsedPosition old stop).line = 1
  · rw [landedRegion_firstLine dropped noReturn ordered inside first firstStop, shifted_eq_iff]
    simp only [Option.some.injEq, eq_comm]
  · -- The piece has one character too many, so the two sides are false together.
    obtain ⟨longer, broken⟩ :=
      landedRegion_laterLine dropped noReturn ordered inside first marked firstStop
    rw [longer]
    refine iff_of_false (List.cons_ne_self _ _) fun constant => ?_
    exact noFeed (Option.some.inj (constant _ broken))

/-- Line breaks apart, the piece is the parsed one unless a mark moves it. -/
theorem landedRegion_iff (ordered : start ≤ stop) (inside : stop ≤ (parsedText old).length) :
    unifyLineBreaks (landedRegion old start stop) =
      ((parsedText old).drop start).take (stop - start) ↔
        (old.head? = some orderMark → (parsedPosition old start).line = 1 →
          ∀ c ∈ ((parsedText old).drop start).take (stop - start),
            old[landing old start]? = some c) := by
  by_cases moved : old.head? = some orderMark ∧ (parsedPosition old start).line = 1
  · rw [landedRegion_shifted ordered inside moved.1 moved.2]
    exact ⟨fun constant _ _ => constant, fun constant => constant moved.1 moved.2⟩
  · have same := landedRegion_eq old ordered fun marked onFirst => moved ⟨marked, onFirst⟩
    exact iff_of_true same fun marked onFirst => absurd ⟨marked, onFirst⟩ moved

/-- A text is what stands in front of a piece, the piece, and what stands behind it. -/
theorem landedRegion_parts (ordered : start ≤ stop) (inside : stop ≤ (parsedText old).length) :
    old = old.take (landing old start) ++ landedRegion old start stop ++
        old.drop (landing old stop) ∧
      (old.take (landing old start)).length = landing old start ∧
      (old.take (landing old start)).length + (landedRegion old start stop).length =
        landing old stop := by
  have reached := landing_le_landing old ordered
  have bounded := LineIndex.offset?_le_length (offset?_parsedPosition old inside)
  refine ⟨?_, ?_, ?_⟩
  · have behind := List.take_append_drop (landing old stop - landing old start)
      (old.drop (landing old start))
    rw [List.drop_drop, Nat.add_sub_cancel' reached] at behind
    rw [landedRegion, List.append_assoc, behind, List.take_append_drop]
  · rw [List.length_take]
    omega
  · rw [landedRegion, List.length_take, List.length_take, List.length_drop]
    omega

end ScriptAudit.Files
