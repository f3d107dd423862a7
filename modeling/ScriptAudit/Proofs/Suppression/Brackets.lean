import Mathlib.Data.List.Infix
import ScriptAudit.Suppression.Target

namespace ScriptAudit.Suppression

/-! Which targets are wildcard patterns.

The matcher of wildcards reads a pattern from the left, and a bracket that it finds no end for
stands for itself.  A pattern in which no bracket does is a wildcard pattern.  The test of targets
is more lenient: it also takes an empty pair of brackets, and a pair around a single `!`, for
classes, where the matcher takes the closing bracket for a member and looks for another one. -/

open Pattern

variable {pattern text inside members rest after : List Char} {c : Char}

/-- Every list has what goes over from the suffixes of a tail to the list. -/
theorem suffix_induction {motive : List Char → Prop} (nil : motive [])
    (cons : ∀ c rest, (∀ after, after <:+ rest → motive after) → motive (c :: rest))
    (pattern : List Char) : motive pattern := by
  have all : ∀ after, after <:+ pattern → motive after := by
    induction pattern with
    | nil =>
        intro after suffix
        exact List.suffix_nil.mp suffix ▸ nil
    | cons c rest ih =>
        intro after suffix
        rcases List.suffix_cons_iff.mp suffix with rfl | later
        · exact cons c rest ih
        · exact ih after later
  exact all pattern List.suffix_rfl

section Classes

/-- The matcher reads a class whose opening bracket stands before the text. -/
def ClassEnds (text after : List Char) : Prop :=
  ∃ members, classBody text = some (members, after)

/-- The text begins with what closes an empty pair of brackets, or a pair around a single `!`. -/
def PairEnds (text after : List Char) : Prop :=
  text = ']' :: after ∨ text = '!' :: ']' :: after

/-- The test of targets takes a class to end there. -/
def TestEnds (text after : List Char) : Prop :=
  ClassEnds text after ∨ PairEnds text after

theorem upToBracket_suffix (found : upToBracket text = some (inside, after)) : after <:+ text := by
  induction text generalizing inside with
  | nil => simp [upToBracket] at found
  | cons c rest ih =>
      by_cases close : c = ']'
      · subst close
        cases found
        exact List.suffix_cons _ _
      · simp only [upToBracket, Option.map_eq_some_iff, Prod.mk.injEq, Prod.exists] at found
        obtain ⟨_, _, found, -, rfl⟩ := found
        exact (ih found).trans (List.suffix_cons _ _)

/-- Where the text begins with no closing bracket, a class ends at the first one.  Otherwise this
one closes a pair. -/
theorem testEnds_iff :
    TestEnds text after ↔
      (∃ inside, upToBracket text = some (inside, after)) ∨ ClassEnds text after := by
  constructor
  · rintro (closed | rfl | rfl)
    · exact .inr closed
    · exact .inl ⟨_, rfl⟩
    · exact .inl ⟨_, rfl⟩
  · rintro (⟨inside, found⟩ | closed)
    · unfold TestEnds ClassEnds classBody
      split
      · cases found
        exact .inr (.inr rfl)
      · cases found
        exact .inr (.inl rfl)
      · exact .inl ⟨inside, found⟩
    · exact .inl closed

theorem TestEnds.suffix (closed : TestEnds text after) : after <:+ text := by
  rcases closed with ⟨members, found⟩ | rfl | rfl
  · unfold classBody at found
    split at found
    · simp only [Option.map_eq_some_iff, Prod.mk.injEq, Prod.exists] at found
      obtain ⟨_, _, found, -, rfl⟩ := found
      exact (upToBracket_suffix found).trans (List.suffix_append ['!', ']'] _)
    · simp only [Option.map_eq_some_iff, Prod.mk.injEq, Prod.exists] at found
      obtain ⟨_, _, found, -, rfl⟩ := found
      exact (upToBracket_suffix found).trans (List.suffix_cons _ _)
    · exact upToBracket_suffix found
  · exact List.suffix_cons _ _
  · exact List.suffix_append ['!', ']'] _

end Classes

/-- The pattern is characters that are no brackets, and classes that end as told. -/
inductive Divided (ends : List Char → List Char → Prop) : List Char → Prop where
  | nil : Divided ends []
  | other {c : Char} {rest : List Char} (notOpen : c ≠ '[') (notClose : c ≠ ']')
      (divided : Divided ends rest) : Divided ends (c :: rest)
  | set {rest after : List Char} (closed : ends rest after) (divided : Divided ends after) :
      Divided ends ('[' :: rest)

theorem Divided.imp {ends ends' : List Char → List Char → Prop} (divided : Divided ends pattern)
    (implies : ∀ text after, ends text after → ends' text after) : Divided ends' pattern := by
  induction divided with
  | nil => exact .nil
  | other notOpen notClose divided ih => exact .other notOpen notClose ih
  | set closed divided ih => exact .set (implies _ _ closed) ih

section Test

theorem bracketsClose_open : bracketsClose ('[' :: rest) = true ↔
    ∃ after, TestEnds rest after ∧ bracketsClose after = true := by
  rw [bracketsClose, Bool.or_eq_true]
  simp only [testEnds_iff, or_and_right, exists_or, ClassEnds]
  refine or_congr ?_ ?_
  · cases upToBracket rest with
    | none => simp
    | some found =>
        obtain ⟨inside, after⟩ := found
        simp
  · cases classBody rest with
    | none => simp
    | some found =>
        obtain ⟨members, after⟩ := found
        simp

theorem bracketsClose_other (notOpen : c ≠ '[') :
    bracketsClose (c :: rest) = (c != ']' && bracketsClose rest) := by
  rw [bracketsClose]
  exact notOpen

theorem bracketsClose_iff : bracketsClose pattern = true ↔ Divided TestEnds pattern := by
  constructor
  -- What follows a class is a suffix of the pattern, but not its tail.
  · induction pattern using suffix_induction with
    | nil => exact fun _ => .nil
    | cons c rest ih =>
        intro closes
        by_cases opens : c = '['
        · subst opens
          obtain ⟨after, closed, later⟩ := bracketsClose_open.mp closes
          exact .set closed (ih after closed.suffix later)
        · rw [bracketsClose_other opens, Bool.and_eq_true, bne_iff_ne] at closes
          exact .other opens closes.1 (ih rest List.suffix_rfl closes.2)
  · intro divided
    induction divided with
    | nil => rw [bracketsClose]
    | other notOpen notClose divided ih =>
        rw [bracketsClose_other notOpen, ih, bne_iff_ne.mpr notClose]
        rfl
    | set closed divided ih => exact bracketsClose_open.mpr ⟨_, closed, ih⟩

end Test

section Matcher

/-- A bracket that stands for itself. -/
def IsBracket (part : GlobPart) : Prop :=
  part = .one (.literal '[') ∨ part = .one (.literal ']')

theorem not_isBracket_class : ¬ IsBracket (.one (classOf members)) := by
  dsimp only [classOf]
  generalize dropBackwardRanges _ = pieces
  split <;> simp [IsBracket]

theorem globParts_class (found : classBody rest = some (members, after)) :
    globParts ('[' :: rest) = .one (classOf members) :: globParts after := by
  rw [globParts]
  split
  · next found' =>
      rw [found] at found'
      cases found'
      rfl
  · next absent =>
      rw [found] at absent
      cases absent

theorem globParts_unclosed (absent : classBody rest = none) :
    globParts ('[' :: rest) = .one (.literal '[') :: globParts rest := by
  rw [globParts]
  split
  · next found =>
      rw [found] at absent
      cases absent
  · rfl

theorem globParts_other (notOpen : c ≠ '[') (rest : List Char) :
    ∃ part, globParts (c :: rest) = part :: globParts rest ∧ (IsBracket part ↔ c = ']') := by
  by_cases star : c = '*'
  · subst star
    exact ⟨.star, by rw [globParts], by simp [IsBracket]⟩
  · by_cases question : c = '?'
    · subst question
      exact ⟨.one .any, by rw [globParts], by simp [IsBracket]⟩
    · refine ⟨.one (.literal c), ?_, by simp [IsBracket, notOpen]⟩
      rw [globParts]
      · exact star
      · exact question
      · exact notOpen

/-- The matcher reads each bracket of the pattern as part of a class. -/
theorem divided_iff_parts :
    Divided ClassEnds pattern ↔ ∀ part ∈ globParts pattern, ¬ IsBracket part := by
  constructor
  · intro divided
    induction divided with
    | nil => simp [globParts]
    | @other c rest notOpen notClose divided ih =>
        obtain ⟨part, same, bracket⟩ := globParts_other notOpen rest
        rw [same]
        exact List.forall_mem_cons.mpr ⟨mt bracket.mp notClose, ih⟩
    | set closed divided ih =>
        obtain ⟨members, found⟩ := closed
        rw [globParts_class found]
        exact List.forall_mem_cons.mpr ⟨not_isBracket_class, ih⟩
  · induction pattern using suffix_induction with
    | nil => exact fun _ => .nil
    | cons c rest ih =>
        intro free
        by_cases opens : c = '['
        · subst opens
          cases found : classBody rest with
          | none =>
              rw [globParts_unclosed found] at free
              exact absurd (.inl rfl) (List.forall_mem_cons.mp free).1
          | some parts =>
              have closed : ClassEnds rest parts.2 := ⟨parts.1, found⟩
              rw [globParts_class found] at free
              exact .set closed (ih _ (TestEnds.suffix (.inl closed))
                (List.forall_mem_cons.mp free).2)
        · obtain ⟨part, same, bracket⟩ := globParts_other opens rest
          rw [same] at free
          obtain ⟨here, later⟩ := List.forall_mem_cons.mp free
          exact .other opens (mt bracket.mpr here) (ih rest List.suffix_rfl later)

end Matcher

/-- An empty pair of brackets, or a pair around a single `!`, stands somewhere in the pattern. -/
def HasPair (pattern : List Char) : Prop :=
  ['[', ']'] <:+: pattern ∨ ['[', '!', ']'] <:+: pattern

theorem HasPair.mono (pair : HasPair rest) (suffix : rest <:+ pattern) : HasPair pattern :=
  pair.imp (·.trans suffix.isInfix) (·.trans suffix.isInfix)

theorem PairEnds.hasPair (ends : PairEnds rest after) : HasPair ('[' :: rest) := by
  rcases ends with rfl | rfl
  · exact .inl ⟨[], after, rfl⟩
  · exact .inr ⟨[], after, rfl⟩

theorem Divided.strict (divided : Divided TestEnds pattern) (free : ¬ HasPair pattern) :
    Divided ClassEnds pattern := by
  induction divided with
  | nil => exact .nil
  | other notOpen notClose divided ih =>
      exact .other notOpen notClose (ih fun pair => free (pair.mono (List.suffix_cons _ _)))
  | set closed divided ih =>
      have later := ih fun pair =>
        free (pair.mono (closed.suffix.trans (List.suffix_cons _ _)))
      rcases closed with closed | ends
      · exact .set closed later
      · exact absurd ends.hasPair free

theorem isGlob_iff {pattern : String} (plain : ∀ c ∈ pattern.toList, isRegexOnly c = false) :
    isGlob pattern = true ↔ Divided TestEnds pattern.toList := by
  have none : pattern.toList.any isRegexOnly = false :=
    List.any_eq_false.mpr fun c member => by simp [plain c member]
  rw [isGlob, none, Bool.not_false, Bool.true_and, bracketsClose_iff]

theorem classify_iff {pattern : String} (given : pattern ≠ "") :
    classify (some pattern) = .glob ∨ classify (some pattern) = .literal ↔
      isGlob pattern = true := by
  unfold classify
  split
  · next none => cases none
  · next empty => exact absurd (Option.some.inj empty) given
  · next name same =>
      cases same
      cases isGlob pattern <;> cases hasWildcards pattern <;> simp

/-- The test of targets and the matcher of wildcards, on patterns without the characters that mean
something in regular expressions only.  The test takes every pattern in which the matcher reads each
bracket as part of a class.  It takes more: those that fall apart into such classes and pairs of
brackets, empty or around a single `!`.  A target is read as a wildcard pattern or as it stands when
it passes the test. -/
theorem isGlob_reads_brackets {pattern : String}
    (plain : ∀ c ∈ pattern.toList, isRegexOnly c = false) :
    (Divided ClassEnds pattern.toList ↔
      ∀ part ∈ globParts pattern.toList, ¬ IsBracket part) ∧
    (Divided ClassEnds pattern.toList → isGlob pattern = true) ∧
    (isGlob pattern = true ↔ Divided TestEnds pattern.toList) ∧
    (¬ HasPair pattern.toList → (isGlob pattern = true ↔ Divided ClassEnds pattern.toList)) ∧
    (pattern ≠ "" → (classify (some pattern) = .glob ∨ classify (some pattern) = .literal ↔
      isGlob pattern = true)) := by
  have test := isGlob_iff plain
  have weaker (divided : Divided ClassEnds pattern.toList) : isGlob pattern = true :=
    test.mpr (divided.imp fun _ _ closed => .inl closed)
  exact ⟨divided_iff_parts, weaker, test,
    fun free => ⟨fun passes => (test.mp passes).strict free, weaker⟩, classify_iff⟩

/-- A pair around a single `!` is taken for a wildcard pattern, and the matcher has it stand for
itself, so that it is never tried as the class of a regular expression. -/
theorem pair_passes_for_class :
    (∀ c ∈ "[!]".toList, isRegexOnly c = false) ∧ isGlob "[!]" = true ∧
      ¬ Divided ClassEnds "[!]".toList ∧ classify (some "[!]") = .glob ∧
      targetMatches (fun _ => none) (some "[!]") "!" = .ok false ∧
      matchesRegex (fun _ => none) "[!]" "!" = .ok true := by
  have free : "[!]".toList.any isRegexOnly = false := by decide +kernel
  have plain : ∀ c ∈ "[!]".toList, isRegexOnly c = false := fun c member =>
    Bool.eq_false_iff.mpr (List.any_eq_false.mp free c member)
  obtain ⟨parts, -, test, -, -⟩ := isGlob_reads_brackets plain
  have passes : isGlob "[!]" = true := test.mpr (.set (.inr (.inr rfl)) .nil)
  have unclosed : globParts "[!]".toList =
      [.one (.literal '['), .one (.literal '!'), .one (.literal ']')] := by decide +kernel
  have glob : classify (some "[!]") = .glob := by decide +kernel
  have lower : Text.lower "[!]" = "[!]" ∧ Text.lower "!" = "!" := by decide +kernel
  have missed : globMatches (Text.lower "[!]") (Text.lower "!") = false := by
    rw [globMatches_eq, lower.1, lower.2, unclosed]
    rfl
  refine ⟨plain, passes, fun divided => ?_, glob, ?_, by decide +kernel⟩
  · exact parts.mp divided _ (unclosed ▸ List.mem_cons_self) (.inl rfl)
  · rw [targetMatches, glob]
    exact congrArg Except.ok missed

end ScriptAudit.Suppression
