import ScriptAudit.Proofs.Text.Split
import ScriptAudit.Text.Case

namespace ScriptAudit.Text

/-! Lower-casing neither makes nor loses the signs of patterns and qualified names, and it works on
each side of a backslash by itself. -/

/-- Signs without letter case: those of wildcards, and the backslash. -/
def nameSigns : List Char := ['*', '?', '[', '\\']

theorem lowerTable_targets : lowerTable.all (fun run => '\\'.toNat < run.target) = true := by
  decide +kernel

theorem lt_caseImage {runs : Array CaseRun} {bound code : Nat}
    (targets : runs.all (fun run => bound < run.target) = true) (above : bound < code) :
    bound < caseImage runs code := by
  unfold caseImage
  cases found : runs.findSome? (·.image? code) with
  | none => simpa using above
  | some image =>
      obtain ⟨run, member, mapped⟩ := Array.exists_of_findSome?_eq_some found
      have reached := Array.all_eq_true'.mp targets run member
      simp only [CaseRun.image?] at mapped
      split at mapped
      · cases mapped
        simp only [decide_eq_true_eq] at reached
        simp only [Option.getD_some]
        omega
      · cases mapped

section Sign

variable {sign : Char} (member : sign ∈ nameSigns)
include member

theorem sign_bounds : 0 < sign.toNat ∧ sign.toNat ≤ '\\'.toNat := by
  have all : nameSigns.all fun sign => 0 < sign.toNat ∧ sign.toNat ≤ '\\'.toNat := by decide
  exact of_decide_eq_true (List.all_eq_true.mp all sign member)

theorem ofNat_ne_sign {code : Nat} (beyond : '\\'.toNat < code) : Char.ofNat code ≠ sign := by
  obtain ⟨positive, low⟩ := sign_bounds member
  rintro rfl
  by_cases valid : code.isValidChar
  · rw [Char.ofNat, dif_pos valid] at low
    exact absurd (Nat.lt_of_lt_of_le beyond low) (Nat.lt_irrefl _)
  · rw [Char.ofNat, dif_neg valid] at positive
    cases positive

theorem toLower_eq_sign {c : Char} (plain : c.toNat < 128) : c.toLower = sign ↔ c = sign := by
  have all : nameSigns.all fun sign => ∀ code : Fin 128,
      (Char.ofNat code).toLower = sign ↔ Char.ofNat code = sign := by
    decide +kernel
  simpa using of_decide_eq_true (List.all_eq_true.mp all sign member) ⟨c.toNat, plain⟩

theorem lowerChar_eq_sign (c : Char) : lowerChar c = sign ↔ c = sign := by
  unfold lowerChar
  split
  · next plain => exact toLower_eq_sign member plain
  · next other =>
      have above : '\\'.toNat < c.toNat := by
        have code : '\\'.toNat = 92 := rfl
        omega
      have image := ofNat_ne_sign member (lt_caseImage lowerTable_targets above)
      constructor
      · intro same
        exact absurd same image
      · rintro rfl
        exact absurd above (Nat.not_lt.mpr (sign_bounds member).2)

theorem sign_ne_special {special : Char} (among : special ∈ ['Σ', 'σ', 'ς', 'İ', 'i', '\u0307']) :
    sign ≠ special := by
  have all : nameSigns.all fun sign =>
      ['Σ', 'σ', 'ς', 'İ', 'i', '\u0307'].all fun special => sign ≠ special := by
    decide
  exact of_decide_eq_true (List.all_eq_true.mp (List.all_eq_true.mp all sign member) special among)

theorem sign_mem_lowerChars (casedBefore : Bool) (text : List Char) :
    sign ∈ lowerChars casedBefore text ↔ sign ∈ text := by
  induction text generalizing casedBefore with
  | nil => simp [lowerChars]
  | cons c rest ih =>
      rw [lowerChars, List.mem_append, ih, List.mem_cons]
      apply or_congr_left
      by_cases sigma : c = 'Σ'
      · subst sigma
        rw [if_pos rfl]
        split <;> simp [sign_ne_special member]
      · by_cases dotted : c = 'İ'
        · subst dotted
          rw [if_neg sigma, if_pos rfl]
          simp [sign_ne_special member]
        · rw [if_neg sigma, if_neg dotted, List.mem_singleton, eq_comm,
            lowerChar_eq_sign member, eq_comm]

theorem sign_mem_lower (text : String) : sign ∈ (lower text).toList ↔ sign ∈ text.toList := by
  simp [lower, sign_mem_lowerChars member]

end Sign

theorem casedAhead_backslash (before after : List Char) :
    casedAhead (before ++ '\\' :: after) = casedAhead before := by
  induction before with
  | nil => rfl
  | cons c before ih => rw [List.cons_append, casedAhead, casedAhead, ih]

/-- A backslash belongs to no word, so that what stands before it and after it do not touch. -/
theorem lowerChars_backslash (casedBefore : Bool) (before after : List Char) :
    lowerChars casedBefore (before ++ '\\' :: after) =
      lowerChars casedBefore before ++ '\\' :: lowerChars false after := by
  induction before generalizing casedBefore with
  | nil => rfl
  | cons c before ih =>
      rw [List.cons_append, lowerChars, lowerChars, ih, casedAhead_backslash,
        List.append_assoc]

/-- The last part of a name in lower case is its last part, in lower case. -/
theorem afterLast_lower (before : List Char) {last : List Char} (whole : '\\' ∉ last) :
    afterLast '\\' (lowerChars false (before ++ '\\' :: last)) = lowerChars false last := by
  have wholeToo : '\\' ∉ lowerChars false last := by
    rwa [sign_mem_lowerChars (by decide)]
  rw [lowerChars_backslash, afterLast, splitAt_append_separator, splitAt_part wholeToo,
    List.getLast?_concat, Option.getD_some]

end ScriptAudit.Text
