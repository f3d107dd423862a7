import ScriptAudit.Proofs.Text.Case
import ScriptAudit.Proofs.Text.Split
import ScriptAudit.Rule.Basic

namespace ScriptAudit.Rule

/-! Patterns with a namespace against rules with one. -/

theorem isQualified_iff (name : String) : isQualified name = true ↔ '\\' ∈ name.toList := by
  simp [isQualified]

theorem isQualified_lower (name : String) : isQualified (Text.lower name) = isQualified name := by
  rw [Bool.eq_iff_iff, isQualified_iff, isQualified_iff, Text.sign_mem_lower (by decide)]

theorem simpleName_unqualified {name : String} (bare : isQualified name = false) :
    simpleName name = name := by
  have whole : '\\' ∉ name.toList := by
    rw [← isQualified_iff, bare]
    exact Bool.false_ne_true
  rw [simpleName, Text.afterLast_part whole, String.ofList_toList]

/-- A name as a whole against a pattern, letter case aside. -/
def fits (pattern name : String) : Bool :=
  foldedMatches (Text.lower pattern) (Text.lower name)

variable {pattern name : String}

theorem nameMatches_qualified (first : isQualified pattern) (second : isQualified name) :
    nameMatches pattern name = fits pattern name := by
  simp [nameMatches, isQualified_lower, first, second, fits]

theorem nameMatches_unqualified (bare : isQualified name = false) :
    nameMatches pattern name =
      (fits pattern name || foldedMatches (simpleName (Text.lower pattern)) (Text.lower name)) := by
  have folded : isQualified (Text.lower name) = false := by rw [isQualified_lower, bare]
  simp [nameMatches, folded, fits, simpleName_unqualified]

section Plain

open Pattern

theorem hasWildcards_iff (pattern : String) : hasWildcards pattern = true ↔
    '*' ∈ pattern.toList ∨ '?' ∈ pattern.toList ∨ '[' ∈ pattern.toList := by
  simp only [hasWildcards, List.any_eq_true, Bool.or_eq_true, beq_iff_eq]
  constructor
  · rintro ⟨c, member, (rfl | rfl) | rfl⟩
    · exact .inl member
    · exact .inr (.inl member)
    · exact .inr (.inr member)
  · rintro (member | member | member)
    · exact ⟨_, member, .inl (.inl rfl)⟩
    · exact ⟨_, member, .inl (.inr rfl)⟩
    · exact ⟨_, member, .inr rfl⟩

theorem hasWildcards_lower (name : String) :
    hasWildcards (Text.lower name) = hasWildcards name := by
  rw [Bool.eq_iff_iff, hasWildcards_iff, hasWildcards_iff, Text.sign_mem_lower (by decide),
    Text.sign_mem_lower (by decide), Text.sign_mem_lower (by decide)]

theorem mem_simpleName {c : Char} (member : c ∈ (simpleName name).toList) : c ∈ name.toList := by
  rw [simpleName, String.toList_ofList, Text.afterLast] at member
  cases last : (Text.splitAt '\\' name.toList).getLast? with
  | none => simp [last] at member
  | some part =>
      rw [last, Option.getD_some] at member
      exact Text.mem_of_mem_splitAt (List.mem_of_getLast? last) member

theorem hasWildcards_simpleName (plain : hasWildcards name = false) :
    hasWildcards (simpleName name) = false := by
  rw [Bool.eq_false_iff, Ne, hasWildcards_iff] at plain ⊢
  exact fun signs => plain (signs.imp mem_simpleName (Or.imp mem_simpleName mem_simpleName))

/-- The last part of a name, letter case aside. -/
def foldedSimpleName (name : String) : String :=
  simpleName (Text.lower name)

/-- A pattern without wildcards matches a name that is the same, and where one of the two has no
namespace a name with the same last part. -/
theorem nameMatches_plain (plain : hasWildcards pattern = false) :
    nameMatches pattern name = true ↔ Text.lower name = Text.lower pattern ∨
      (foldedSimpleName name = foldedSimpleName pattern ∧
        ¬ (isQualified pattern ∧ isQualified name)) := by
  have folded : hasWildcards (Text.lower pattern) = false := by rw [hasWildcards_lower, plain]
  have simple := hasWildcards_simpleName folded
  simp only [nameMatches, foldedMatches, folded, simple, isQualified_lower, foldedSimpleName,
    Bool.false_eq_true, if_false, Bool.or_eq_true, Bool.and_eq_true, Bool.not_eq_true',
    beq_iff_eq, ← Bool.not_eq_true]
  rw [and_comm]

/-- A source in front of a name that has no namespace leaves its last part. -/
theorem foldedSimpleName_qualify (source : String) (bare : isQualified name = false) :
    foldedSimpleName (qualify source name) = Text.lower name := by
  have whole : '\\' ∉ name.toList := by
    rw [← isQualified_iff, bare]
    exact Bool.false_ne_true
  rw [qualify, bare, Bool.false_or]
  split
  · exact simpleName_unqualified ((isQualified_lower name).trans bare)
  · have parts : (source ++ "\\" ++ name).toList = source.toList ++ '\\' :: name.toList := by simp
    rw [foldedSimpleName, simpleName, Text.lower, String.toList_ofList, parts,
      Text.afterLast_lower _ whole, Text.lower]

end Plain

namespace Descriptor

variable {descriptor : Descriptor}

theorem qualifiedName_of_qualified (written : isQualified descriptor.name) :
    descriptor.qualifiedName = descriptor.name := by
  simp [qualifiedName, qualify, written]

/-- A pattern without wildcards matches a rule of the same qualified name, and one with the same
last part where the pattern, or the name that the rule itself is given, has no namespace. -/
theorem matchesPattern_plain (plain : Pattern.hasWildcards pattern = false) :
    descriptor.matchesPattern pattern = true ↔
      Text.lower descriptor.qualifiedName = Text.lower pattern ∨
        (foldedSimpleName descriptor.qualifiedName = foldedSimpleName pattern ∧
          ¬ (isQualified pattern ∧ isQualified descriptor.name)) := by
  rw [matchesPattern, Bool.or_eq_true, nameMatches_plain plain, nameMatches_plain plain]
  by_cases written : isQualified descriptor.name = true
  · rw [qualifiedName_of_qualified written, or_self]
  · have bare := Bool.eq_false_iff.mpr written
    have last : foldedSimpleName descriptor.qualifiedName = foldedSimpleName descriptor.name := by
      rw [qualifiedName, foldedSimpleName_qualify _ bare, foldedSimpleName,
        simpleName_unqualified ((isQualified_lower _).trans bare)]
    have same (equal : Text.lower descriptor.name = Text.lower pattern) :
        foldedSimpleName descriptor.name = foldedSimpleName pattern :=
      congrArg Rule.simpleName equal
    rw [last]
    simp only [bare, Bool.false_eq_true, and_false, not_false_eq_true, and_true]
    constructor
    · rintro ((whole | simple) | whole | simple)
      · exact .inl whole
      · exact .inr simple.1
      · exact .inr (same whole)
      · exact .inr simple
    · rintro (whole | simple)
      · exact .inl (.inl whole)
      · exact .inr (.inr simple)

/-- The pattern fits the name of the rule that stands in front of no namespace, although the source
of the rule gives it one. -/
def fitsBare (descriptor : Descriptor) (pattern : String) : Bool :=
  !isQualified descriptor.name &&
    (fits pattern descriptor.name ||
      foldedMatches (Rule.simpleName (Text.lower pattern)) (Text.lower descriptor.name))

theorem matchesPattern_qualified (named : isQualified descriptor.qualifiedName)
    (qualified : isQualified pattern) :
    descriptor.matchesPattern pattern =
      (fits pattern descriptor.qualifiedName || descriptor.fitsBare pattern) := by
  rw [matchesPattern, nameMatches_qualified qualified named, fitsBare]
  by_cases written : isQualified descriptor.name = true
  · simp [nameMatches_qualified qualified written, qualifiedName_of_qualified written, written]
  · have bare := Bool.eq_false_iff.mpr written
    simp [nameMatches_unqualified bare, bare]

end Descriptor
end ScriptAudit.Rule
