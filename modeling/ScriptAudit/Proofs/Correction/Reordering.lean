import Mathlib.Data.List.Nodup
import ScriptAudit.Proofs.Correction.Candidates

namespace ScriptAudit.Correction

/-! Diagnostics in another order.

Which edits there are does not depend on the order of the diagnostics.  Where no two of them begin
at one place, neither does the order in which they are tried. -/

open Source

namespace Subject

variable {subject : Subject} {diagnostics reordered : List Diagnostic}

/-- The corrections that fit the text begin at different places. -/
def StartsApart (subject : Subject) (diagnostics : List Diagnostic) : Prop :=
  ∀ first second, subject.Fits diagnostics first → subject.Fits diagnostics second →
    first.edit.start = second.edit.start → first.position = second.position

theorem startsApart_iff : subject.StartsApart diagnostics ↔
    ((subject.candidates diagnostics).map (·.edit.start)).Nodup := by
  constructor
  · intro apart
    rw [List.Nodup, List.pairwise_map]
    refine (subject.candidates_by_position diagnostics).imp_of_mem ?_
    intro first second here there before same
    exact absurd (apart first second (mem_candidates.mp here) (mem_candidates.mp there) same)
      (Nat.ne_of_lt before)
  · intro nodup first second fits fitsToo same
    exact congrArg Candidate.position
      (List.inj_on_of_nodup_map nodup (mem_candidates.mpr fits) (mem_candidates.mpr fitsToo) same)

/-- What is made of each entry without its position can be made of the diagnostics alone. -/
theorem map_filterMap_zipIdx {α β : Type} {make : Diagnostic × Nat → Option α} {part : α → β}
    (anywhere : ∀ entry, (make entry).map part = (make (entry.1, 0)).map part)
    (diagnostics : List Diagnostic) :
    (diagnostics.zipIdx.filterMap make).map part =
      diagnostics.filterMap fun diagnostic => (make (diagnostic, 0)).map part := by
  rw [List.map_filterMap, funext anywhere]
  conv_rhs => rw [← List.zipIdx_map_fst 0 diagnostics, List.filterMap_map]
  rfl

theorem candidate?_edit (subject : Subject) (entry : Diagnostic × Nat) :
    (subject.candidate? entry).map Candidate.edit =
      (subject.candidate? (entry.1, 0)).map Candidate.edit := by
  cases preferred : entry.1.preferredCorrection with
  | none => simp [candidate?, preferred]
  | some correction =>
      cases edited : subject.edit entry.1 correction <;> simp [candidate?, preferred, edited]

theorem refusal?_skipped (subject : Subject) (entry : Diagnostic × Nat) :
    (subject.refusal? entry).map Prod.snd = (subject.refusal? (entry.1, 0)).map Prod.snd := by
  cases preferred : entry.1.preferredCorrection with
  | none => simp [refusal?, preferred]
  | some correction =>
      cases edited : subject.edit entry.1 correction <;> simp [refusal?, preferred, edited]

theorem collect_perm (perm : reordered.Perm diagnostics) :
    (subject.collect reordered).1.Perm (subject.collect diagnostics).1 ∧
      (subject.collect reordered).2.Perm (subject.collect diagnostics).2 := by
  simp only [collect_eq, candidates, refusals, map_filterMap_zipIdx subject.candidate?_edit,
    map_filterMap_zipIdx subject.refusal?_skipped]
  exact ⟨perm.filterMap _, perm.filterMap _⟩

theorem collect_starts_nodup (apart : subject.StartsApart diagnostics) :
    ((subject.collect diagnostics).1.map Edit.start).Nodup := by
  rw [collect_eq, List.map_map]
  exact startsApart_iff.mp apart

theorem collect_sorted (subject : Subject) (diagnostics : List Diagnostic) :
    (inOrder (subject.collect diagnostics).1).Pairwise fun first second =>
      first.start ≤ second.start := by
  rw [collect_eq, Candidate.inOrder_edits]
  exact List.pairwise_map.mpr (Candidate.inOrder_starts _)

/-- Edits that begin at different places are tried in one order only. -/
theorem inOrder_collect_eq (apart : subject.StartsApart diagnostics)
    (perm : reordered.Perm diagnostics) :
    inOrder (subject.collect reordered).1 = inOrder (subject.collect diagnostics).1 := by
  have sorted (edits : List Edit) : (inOrder edits).Perm edits := List.mergeSort_perm _ _
  have together : (inOrder (subject.collect reordered).1).Perm
      (inOrder (subject.collect diagnostics).1) :=
    (sorted _).trans ((collect_perm perm).1.trans (sorted _).symm)
  refine List.Perm.eq_of_pairwise ?_ (subject.collect_sorted reordered)
    (subject.collect_sorted diagnostics) together
  intro first second here there notAfter notBefore
  exact List.inj_on_of_nodup_map (collect_starts_nodup apart)
    ((sorted _).subset (together.subset here)) ((sorted _).subset there)
    (Nat.le_antisymm notAfter notBefore)

end Subject

/-- Diagnostics in another order give the same text, by as many corrections, and the same
corrections are skipped for the same reasons. -/
theorem apply_reordered (base file text : String) {diagnostics reordered : List Diagnostic}
    (apart : Subject.StartsApart ⟨.ofText text.toList, file, base⟩ diagnostics)
    (perm : reordered.Perm diagnostics) :
    (apply base file text reordered).text = (apply base file text diagnostics).text ∧
      (apply base file text reordered).applied = (apply base file text diagnostics).applied ∧
      (apply base file text reordered).skipped.Perm
        (apply base file text diagnostics).skipped := by
  have order := Subject.inOrder_collect_eq apart perm
  unfold apply
  dsimp only
  rw [order]
  exact ⟨rfl, rfl, (Subject.collect_perm perm).2.append_right _⟩

/-- A diagnostic that proposes to replace a part of the first line. -/
def replacing (file : String) (first last : Nat) (replacement : String) : Diagnostic :=
  let extent : Extent := ⟨⟨1, first⟩, ⟨1, last⟩, file, ""⟩
  ⟨"", extent, "", .warning, "", none, [⟨extent, replacement, ""⟩]⟩

/-- The second edit begins inside the first one, and the third one is for another file. -/
theorem apply_reordered_overlap :
    let diagnostics := [replacing "a" 1 3 "x", replacing "a" 2 4 "y", replacing "b" 1 2 "z"]
    Subject.StartsApart ⟨.ofText "abcd".toList, "a", "/"⟩ diagnostics ∧
      diagnostics.reverse.Perm diagnostics ∧
      (apply "/" "a" "abcd" diagnostics.reverse).text =
        (apply "/" "a" "abcd" diagnostics).text ∧
      (apply "/" "a" "abcd" diagnostics.reverse).skipped.Perm
        (apply "/" "a" "abcd" diagnostics).skipped := by
  intro diagnostics
  have apart : Subject.StartsApart ⟨.ofText "abcd".toList, "a", "/"⟩ diagnostics :=
    Subject.startsApart_iff.mpr (by decide +kernel)
  have perm : diagnostics.reverse.Perm diagnostics := List.reverse_perm _
  obtain ⟨text, -, skipped⟩ := apply_reordered "/" "a" "abcd" apart perm
  exact ⟨apart, perm, text, skipped⟩

/-- Of two insertions at one place the first in the list comes first. -/
example : (apply "/" "" "ab" [replacing "" 2 2 "x", replacing "" 2 2 "y"]).text = "axyb" ∧
    (apply "/" "" "ab" [replacing "" 2 2 "y", replacing "" 2 2 "x"]).text = "ayxb" := by
  constructor <;> cbv

end ScriptAudit.Correction
