import ScriptAudit.Proofs.Syntax.LiteralLexeme

namespace ScriptAudit.Syntax.Lexeme

/-! What the reading of a number depends on.

Letters in the other case and another text behind a boundary make no difference: a number is read
as far as before. -/

open Text

/-- The scanners of numbers take the two characters for the same. -/
structure Alike (c c' : Char) : Prop where
  lower : lowerChar c = lowerChar c'
  word : isWordChar c = isWordChar c'
  decimal : isDecimalDigit c = isDecimalDigit c'
  hexadecimal : isHexDigit c = isHexDigit c'
  marks : ∀ mark ∈ ['-', '+', '.', '0'], c = mark ↔ c' = mark
  exponent : c = 'e' ∨ c = 'E' ↔ c' = 'e' ∨ c' = 'E'
  radix : c = 'x' ∨ c = 'X' ↔ c' = 'x' ∨ c' = 'X'

instance : DecidableRel Alike := fun c c' =>
  decidable_of_iff ((_ = _ ∧ _ = _) ∧ (_ = _ ∧ _ = _) ∧
      (['-', '+', '.', '0'].all fun mark => c = mark ↔ c' = mark) = true ∧ (_ ↔ _) ∧ (_ ↔ _))
    ⟨fun ⟨⟨lower, word⟩, ⟨decimal, hexadecimal⟩, marks, exponent, radix⟩ =>
        ⟨lower, word, decimal, hexadecimal, forall_mem_of_all marks, exponent, radix⟩,
      fun alike => ⟨⟨alike.lower, alike.word⟩, ⟨alike.decimal, alike.hexadecimal⟩,
        List.all_eq_true.mpr fun mark member => decide_eq_true (alike.marks mark member),
        alike.exponent, alike.radix⟩⟩

theorem alike_refl (c : Char) : Alike c c :=
  ⟨rfl, rfl, rfl, rfl, fun _ _ => Iff.rfl, Iff.rfl, Iff.rfl⟩

theorem alike_toLower (c : Char) : Alike c.toLower c := by
  rcases Nat.lt_or_ge c.toNat 128 with small | beyond
  · have all : ∀ code : Fin 128, Alike (Char.ofNat code).toLower (Char.ofNat code) := by
      decide +kernel
    simpa using all ⟨c.toNat, small⟩
  · have same : c.toLower = c := by
      unfold Char.toLower
      split
      · next upper =>
          have bound : c.toNat ≤ 90 := upper.2
          omega
      · rfl
    rw [same]
    exact alike_refl c

/-- A text in another spelling, with more text behind it. -/
def respelled (spell : Char → Char) (after text : List Char) : List Char :=
  text.map spell ++ after

/-- In another spelling and with more text behind it, a text is read as far as it is alone. -/
def ReadsAsFar (spell : Char → Char) (after : List Char)
    (scan : List Char → Option (List Char)) : Prop :=
  ∀ text, scan (respelled spell after text) = (scan text).map (respelled spell after)

section
variable {spell : Char → Char} {after : List Char}

theorem respelled_cons (c : Char) (text : List Char) :
    respelled spell after (c :: text) = spell c :: respelled spell after text :=
  rfl

theorem ReadsAsFar.bind {first next : List Char → Option (List Char)}
    (reads : ReadsAsFar spell after first) (goes : ReadsAsFar spell after next) :
    ReadsAsFar spell after fun text => (first text).bind next := by
  intro text
  dsimp only
  rw [reads]
  cases first text with
  | none => rfl
  | some rest => exact goes rest

theorem ReadsAsFar.or {first second : List Char → Option (List Char)}
    (reads : ReadsAsFar spell after first) (readsToo : ReadsAsFar spell after second) :
    ReadsAsFar spell after fun text => (first text).or (second text) := by
  intro text
  dsimp only
  rw [reads, readsToo, Option.map_or]

variable (bounded : Bounded after)

include bounded

theorem dropWhile_respelled {kind : Char → Bool} (same : ∀ c, kind (spell c) = kind c)
    (other : ∀ c ∈ boundaries, kind c = false) (text : List Char) :
    (respelled spell after text).dropWhile kind = respelled spell after (text.dropWhile kind) := by
  induction text with
  | nil => exact bounded.dropWhile other
  | cons c rest ih =>
      rw [respelled_cons, List.dropWhile_cons, List.dropWhile_cons, same]
      split
      · exact ih
      · rfl

theorem afterSome_boundary {kind : Char → Bool} (other : ∀ c ∈ boundaries, kind c = false) :
    afterSome kind after = none := by
  cases after with
  | nil => rfl
  | cons c rest => exact if_neg (by simp [other c bounded.head])

theorem afterSome_respelled {kind : Char → Bool} (same : ∀ c, kind (spell c) = kind c)
    (other : ∀ c ∈ boundaries, kind c = false) : ReadsAsFar spell after (afterSome kind) := by
  intro text
  cases text with
  | nil => exact afterSome_boundary bounded other
  | cons c rest =>
      rw [respelled_cons, afterSome, afterSome, same, dropWhile_respelled bounded same other]
      split <;> rfl

variable (alike : ∀ c, Alike (spell c) c)

include alike

theorem skipTypeSuffix_respelled (text : List Char) :
    skipTypeSuffix (respelled spell after text) =
      respelled spell after (skipTypeSuffix text) := by
  cases text with
  | nil => exact skipTypeSuffix_bounded bounded
  | cons c rest =>
      rw [respelled_cons, skipTypeSuffix, skipTypeSuffix, (alike c).lower]
      split <;> rfl

theorem skipMultiplier_respelled (text : List Char) :
    skipMultiplier (respelled spell after text) =
      respelled spell after (skipMultiplier text) := by
  match text with
  | [] => exact skipMultiplier_bounded bounded
  | [c] =>
      -- A boundary is no second letter of a multiplier.
      cases after with
      | nil => rfl
      | cons b rest =>
          have noLetter : lowerChar b ≠ 'b' := by
            rw [(boundary_facts bounded.head).2.2.1]
            rintro rfl
            exact absurd bounded.head (by decide)
          exact if_neg fun both => noLetter both.2
  | c :: b :: rest =>
      rw [respelled_cons, respelled_cons, skipMultiplier, skipMultiplier, (alike c).lower,
        (alike b).lower]
      split <;> rfl

theorem afterSuffixes_respelled : ReadsAsFar spell after afterSuffixes := by
  intro text
  rw [afterSuffixes, afterSuffixes, skipTypeSuffix_respelled bounded alike,
    skipMultiplier_respelled bounded alike]
  cases skipMultiplier (skipTypeSuffix text) with
  | nil =>
      cases after with
      | nil => rfl
      | cons c rest =>
          change (if isWordChar c then none else some (c :: rest)) = some (c :: rest)
          exact if_neg (by simp [(boundary_facts bounded.head).1])
  | cons c rest =>
      simp only [respelled_cons, (alike c).word]
      split <;> rfl

theorem afterDigits_respelled : ReadsAsFar spell after (afterSome isDecimalDigit) :=
  afterSome_respelled bounded (fun c => (alike c).decimal) (forall_mem_of_all (by decide))

theorem afterHexadecimal_respelled : ReadsAsFar spell after afterHexadecimal := by
  intro text
  match text with
  | [] =>
      cases after with
      | nil => rfl
      | cons c rest =>
          have noZero : c ≠ '0' := by
            rintro rfl
            exact absurd bounded.head (by decide)
          change afterHexadecimal (c :: rest) = none
          unfold afterHexadecimal
          split
          · next same => exact absurd (List.cons.inj same).1 noZero
          · rfl
  | [c] =>
      rw [afterHexadecimal_single]
      cases after with
      | nil => exact afterHexadecimal_single _
      | cons x rest =>
          have noMark : ¬ (x = 'x' ∨ x = 'X') := by
            rintro (rfl | rfl) <;> exact absurd bounded.head (by decide)
          exact (afterHexadecimal_cons _ _ _).trans (if_neg fun both => noMark both.2)
  | c :: x :: rest =>
      have digits : ReadsAsFar spell after fun text =>
          (afterSome isHexDigit text).bind afterSuffixes :=
        (afterSome_respelled bounded (fun c => (alike c).hexadecimal)
          (forall_mem_of_all (by decide))).bind (afterSuffixes_respelled bounded alike)
      rw [respelled_cons, respelled_cons, afterHexadecimal_cons, afterHexadecimal_cons]
      simp only [(alike c).marks '0' (by simp), (alike x).radix]
      split
      · exact digits rest
      · rfl

theorem afterChar_respelled {mark : Char} (marked : mark ∈ ['-', '+', '.', '0']) :
    ReadsAsFar spell after (afterChar mark) := by
  intro text
  cases text with
  | nil =>
      refine bounded.afterChar ?_
      have all : ∀ mark ∈ ['-', '+', '.', '0'], mark ∉ boundaries :=
        forall_mem_of_all (by decide)
      exact all mark marked
  | cons c rest =>
      rw [respelled_cons, afterChar, afterChar]
      simp only [(alike c).marks mark marked]
      split <;> rfl

theorem afterFraction_respelled : ReadsAsFar spell after afterFraction :=
  (afterChar_respelled bounded alike (by simp)).bind (afterDigits_respelled bounded alike)

theorem skipExponent_respelled (text : List Char) :
    skipExponent (respelled spell after text) = respelled spell after (skipExponent text) := by
  have digits : ReadsAsFar spell after (afterSome isDecimalDigit) :=
    afterDigits_respelled bounded alike
  match text with
  | [] => exact skipExponent_ends bounded.ends
  | [c] =>
      cases after with
      | nil => rfl
      | cons sign rest =>
          have unsigned : ¬ (sign = '+' ∨ sign = '-') := by
            rintro (rfl | rfl) <;> exact absurd bounded.head (by decide)
          change skipExponent (spell c :: sign :: rest) = spell c :: sign :: rest
          rw [skipExponent]
          dsimp only
          rw [if_neg unsigned, afterSome_boundary bounded (forall_mem_of_all (by decide)),
            Option.getD_none, ite_self]
  | c :: sign :: rest =>
      have both : (if sign = '+' ∨ sign = '-' then respelled spell after rest
          else spell sign :: respelled spell after rest) = respelled spell after
            (if sign = '+' ∨ sign = '-' then rest else sign :: rest) := by
        split <;> rfl
      rw [respelled_cons, respelled_cons, skipExponent, skipExponent]
      simp only [(alike c).exponent, (alike sign).marks '+' (by simp),
        (alike sign).marks '-' (by simp), both, digits _]
      split
      · rw [← respelled_cons, ← respelled_cons, Option.getD_map]
      · rfl

theorem afterDecimal_respelled : ReadsAsFar spell after afterDecimal := by
  have whole : ReadsAsFar spell after (afterSome isDecimalDigit) :=
    afterDigits_respelled bounded alike
  have fraction : ReadsAsFar spell after afterFraction := afterFraction_respelled bounded alike
  have finish : ReadsAsFar spell after fun rest => afterSuffixes (skipExponent rest) := by
    intro rest
    dsimp only
    rw [skipExponent_respelled bounded alike]
    exact afterSuffixes_respelled bounded alike _
  exact ((whole.bind fraction).bind finish).or ((fraction.bind finish).or (whole.bind finish))

/-- Neither letter case nor what stands behind a boundary decides how far a number is read. -/
theorem afterNumeral_respelled : ReadsAsFar spell after afterNumeral := by
  have unsigned : ReadsAsFar spell after afterUnsigned :=
    (afterHexadecimal_respelled bounded alike).or (afterDecimal_respelled bounded alike)
  intro text
  cases text with
  | nil =>
      cases after with
      | nil => exact unsigned []
      | cons c rest =>
          have noMinus : c ≠ '-' := by
            rintro rfl
            exact absurd bounded.head (by decide)
          change afterNumeral (c :: rest) = none
          rw [afterNumeral_cons, if_neg noMinus]
          exact unsigned []
  | cons c rest =>
      rw [respelled_cons, afterNumeral_cons, afterNumeral_cons]
      simp only [(alike c).marks '-' (by simp)]
      split
      · exact unsigned rest
      · exact unsigned (c :: rest)

end

/-- What begins strings, tables, comments and the like begins no number. -/
theorem afterNumeral_other {c : Char} (rest : List Char)
    (mark : c ∈ ['@', '$', '(', '\x7b', '\'', '"', '[', '\x60', '<', '#', ' ', '\t', '\x0c', '\r',
      '\n', ';']) : afterNumeral (c :: rest) = none := by
  simp only [List.mem_cons, List.not_mem_nil, or_false] at mark
  rcases mark with rfl | rfl | rfl | rfl | rfl | rfl | rfl | rfl | rfl | rfl | rfl | rfl | rfl |
    rfl | rfl | rfl <;> rfl

theorem afterNumeral_append (text : List Char) {after : List Char} (bounded : Bounded after) :
    afterNumeral (text ++ after) = (afterNumeral text).map (· ++ after) := by
  have respelled_id : respelled id after = (· ++ after) := by
    funext text
    rw [respelled, List.map_id]
  rw [← respelled_id]
  exact respelled_id ▸ afterNumeral_respelled bounded alike_refl text

theorem afterNumeral_toLower (text : List Char) :
    afterNumeral (text.map Char.toLower) = (afterNumeral text).map (List.map Char.toLower) := by
  have respelled_nil : respelled Char.toLower [] = List.map Char.toLower := by
    funext text
    exact List.append_nil _
  exact respelled_nil ▸ afterNumeral_respelled goesOn_nil alike_toLower text

end ScriptAudit.Syntax.Lexeme
