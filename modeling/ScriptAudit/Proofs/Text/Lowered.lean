import ScriptAudit.Proofs.Text.Case

namespace ScriptAudit.Text

/-! Lower-casing twice is lower-casing once.

The forms that the runs of letters give lie outside of all runs, so that what is in lower case stays
as it is. -/

def plainCapitals : CaseRun := ⟨0x41, 0x5a, 1, 0x61⟩

/-- The letter whose form in lower case is longer than one character. -/
def dottedCapital : CaseRun := ⟨0x130, 0x130, 1, 0x69⟩

/-- All runs of characters that lower-casing changes. -/
def capitals : List CaseRun :=
  plainCapitals :: dottedCapital :: lowerTable.toList

/-- No run has the character. -/
def IsLow (c : Char) : Prop :=
  ∀ run ∈ capitals, run.image? c.toNat = none

namespace CaseRun

/-- The forms that the first run gives are not in the second: they lie before it or behind it, or
they are those that it leaves out. -/
def isApart (run other : CaseRun) : Bool :=
  (run.target + (run.last - run.first)).blt other.first || other.last.blt run.target ||
    ((run.step % 2 == 0 || run.first == run.last) && other.step % 2 == 0 &&
      (run.target + other.first) % 2 == 1)

variable {run other : CaseRun} {code image : Nat}

theorem even_of_mod {step distance : Nat} (even : step % 2 = 0) (whole : distance % step = 0) :
    distance % 2 = 0 :=
  Nat.mod_eq_zero_of_dvd
    (Nat.dvd_trans (Nat.dvd_of_mod_eq_zero even) (Nat.dvd_of_mod_eq_zero whole))

theorem image?_eq_none_of_apart (apart : run.isApart other)
    (mapped : run.image? code = some image) : other.image? image = none := by
  rw [image?] at mapped ⊢
  split at mapped
  · next inside =>
      cases mapped
      rw [if_neg]
      rintro ⟨low, high, whole⟩
      simp only [isApart, Bool.or_eq_true, Bool.and_eq_true, Nat.blt_eq, beq_iff_eq] at apart
      rcases apart with (before | behind) | ⟨⟨step, step'⟩, odd⟩
      · omega
      · omega
      · have distance : (code - run.first) % 2 = 0 := by
          rcases step with step | single
          · exact even_of_mod step inside.2.2
          · have same : code - run.first = 0 := by omega
            rw [same]
        have distance' := even_of_mod step' whole
        omega
  · cases mapped

theorem image?_eq_none_of_lt (below : code < run.first) : run.image? code = none :=
  if_neg fun inside => absurd below (Nat.not_lt.mpr inside.1)

end CaseRun

theorem capitals_apart :
    capitals.all (fun run => capitals.all fun other => run.isApart other) = true := by
  decide +kernel

theorem lowerTable_first : lowerTable.toList.all (fun run => 128 ≤ run.first) = true := by
  decide +kernel

variable {c : Char} {run : CaseRun}

theorem isLow_of_plain (plain : c.toNat < 128) (small : plainCapitals.image? c.toNat = none) :
    IsLow c := by
  have dotted : c.toNat < dottedCapital.first := Nat.lt_trans plain (by decide)
  refine List.forall_mem_cons.mpr ⟨small, List.forall_mem_cons.mpr
    ⟨CaseRun.image?_eq_none_of_lt dotted, fun run member => ?_⟩⟩
  have above := of_decide_eq_true (List.all_eq_true.mp lowerTable_first run member)
  exact CaseRun.image?_eq_none_of_lt (Nat.lt_of_lt_of_le plain above)

/-- What a run gives is in no run. -/
theorem isLow_image (member : run ∈ capitals) {code image : Nat}
    (mapped : run.image? code = some image) : IsLow (Char.ofNat image) := by
  by_cases valid : image.isValidChar
  · have same : (Char.ofNat image).toNat = image := by
      rw [Char.ofNat, dif_pos valid]
      rfl
    have apart := List.all_eq_true.mp (List.all_eq_true.mp capitals_apart run member)
    rw [IsLow, same]
    exact fun other member' => CaseRun.image?_eq_none_of_apart (apart other member') mapped
  · rw [Char.ofNat, dif_neg valid]
    exact isLow_of_plain (by decide) (by decide)

theorem toLower_eq (plain : c.toNat < 128) :
    c.toLower = ((plainCapitals.image? c.toNat).map Char.ofNat).getD c := by
  have all : ∀ code : Fin 128, (Char.ofNat code).toLower =
      ((plainCapitals.image? code).map Char.ofNat).getD (Char.ofNat code) := by decide
  simpa using all ⟨c.toNat, plain⟩

theorem isLow_lowerChar (undotted : c ≠ 'İ') : IsLow (lowerChar c) := by
  unfold lowerChar
  split
  · next plain =>
      rw [toLower_eq plain]
      cases mapped : plainCapitals.image? c.toNat with
      | none => exact isLow_of_plain plain mapped
      | some image => exact isLow_image List.mem_cons_self mapped
  · next other =>
      unfold caseImage
      cases found : lowerTable.findSome? (·.image? c.toNat) with
      | some image =>
          obtain ⟨run, member, mapped⟩ := Array.exists_of_findSome?_eq_some found
          exact isLow_image (by simp [capitals, member]) mapped
      | none =>
          rw [Option.getD_none, Char.ofNat_toNat]
          refine List.forall_mem_cons.mpr ⟨?_, List.forall_mem_cons.mpr ⟨?_, fun run member => ?_⟩⟩
          · exact if_neg fun inside => other (Nat.lt_of_le_of_lt inside.2.1 (by decide))
          · refine if_neg fun inside => undotted ?_
            rw [← Char.toNat_inj]
            exact Nat.le_antisymm inside.2.1 inside.1
          · exact Array.findSome?_eq_none_iff.mp found run (by simpa using member)

/-- What is in lower case already stays as it is. -/
theorem IsLow.lowerChar (low : IsLow c) : lowerChar c = c := by
  unfold Text.lowerChar
  split
  · next plain => rw [toLower_eq plain, low _ List.mem_cons_self, Option.map_none, Option.getD_none]
  · next other =>
      have absent : lowerTable.findSome? (·.image? c.toNat) = none :=
        Array.findSome?_eq_none_iff.mpr fun run member => low run (by simp [capitals, member])
      rw [caseImage, absent, Option.getD_none, Char.ofNat_toNat]

theorem not_isLow_sigma : ¬ IsLow 'Σ' := by
  intro low
  have all : capitals.any (fun run => (run.image? 'Σ'.toNat).isSome) = true := by decide +kernel
  obtain ⟨run, member, some⟩ := List.any_eq_true.mp all
  rw [low run member] at some
  cases some

theorem not_isLow_dotted : ¬ IsLow 'İ' :=
  fun low => absurd (low dottedCapital (by simp [capitals])) (by decide)

/-- The characters that stand for the special ones in lower case are in no run. -/
theorem special_low : ['σ', 'ς', 'i', '\u0307'].all (fun c =>
    capitals.all fun run => (run.image? c.toNat).isNone) = true := by
  decide +kernel

theorem isLow_of_mem {casedBefore : Bool} {text : List Char}
    (member : c ∈ lowerChars casedBefore text) : IsLow c := by
  have low : ∀ c ∈ ['σ', 'ς', 'i', '\u0307'], IsLow c := fun c member run inside =>
    Option.isNone_iff_eq_none.mp
      (List.all_eq_true.mp (List.all_eq_true.mp special_low c member) run inside)
  induction text generalizing casedBefore with
  | nil => cases member
  | cons first rest ih =>
      rw [lowerChars, List.mem_append] at member
      rcases member with here | later
      · by_cases sigma : first = 'Σ'
        · rw [if_pos sigma, List.mem_singleton] at here
          split at here <;> exact here ▸ low _ (by simp)
        · by_cases dotted : first = 'İ'
          · rw [if_neg sigma, if_pos dotted] at here
            exact low c (List.mem_append_right ['σ', 'ς'] here)
          · rw [if_neg sigma, if_neg dotted, List.mem_singleton] at here
            exact here ▸ isLow_lowerChar dotted
      · exact ih later

theorem lowerChars_eq {text : List Char} (low : ∀ c ∈ text, IsLow c) (casedBefore : Bool) :
    lowerChars casedBefore text = text := by
  induction text generalizing casedBefore with
  | nil => rfl
  | cons c rest ih =>
      obtain ⟨here, later⟩ := List.forall_mem_cons.mp low
      have sigma : c ≠ 'Σ' := fun same => not_isLow_sigma (same ▸ here)
      have dotted : c ≠ 'İ' := fun same => not_isLow_dotted (same ▸ here)
      rw [lowerChars, if_neg sigma, if_neg dotted, here.lowerChar, ih later]
      rfl

theorem lower_lower (text : String) : lower (lower text) = lower text := by
  rw [lower, lower, String.toList_ofList, lowerChars_eq fun c member => isLow_of_mem member]

end ScriptAudit.Text
