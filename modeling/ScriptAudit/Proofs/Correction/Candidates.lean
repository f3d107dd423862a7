import ScriptAudit.Correction.Apply
import ScriptAudit.Proofs.Source.LineIndex

namespace ScriptAudit.Correction

/-! Which corrections fit a text, and in which order they are tried.

Equal diagnostics may stand at several positions of a list, so an edit is told apart from others by
the position of its diagnostic. -/

open Source

/-- An edit and the position of its diagnostic among all diagnostics. -/
structure Candidate where
  position : Nat
  edit : Edit
deriving DecidableEq

namespace Candidate

/-- The order in which edits are tried: by where they begin, then by position. -/
def Before (first second : Candidate) : Prop :=
  first.edit.start < second.edit.start ∨
    first.edit.start = second.edit.start ∧ first.position < second.position

theorem Before.irrefl {candidate : Candidate} : ¬ candidate.Before candidate := by
  unfold Before
  omega

theorem Before.asymm {first second : Candidate} (before : first.Before second) :
    ¬ second.Before first := by
  unfold Before at *
  omega

theorem Before.start_le {first second : Candidate} (before : first.Before second) :
    first.edit.start ≤ second.edit.start := by
  unfold Before at before
  omega

end Candidate

namespace Subject

variable {subject : Subject} {diagnostic : Diagnostic} {correction : Correction}

def SameFile (subject : Subject) (correction : Correction) : Prop :=
  Files.sameFile subject.base subject.file correction.extent.file

/-- The correction replaces the text from one offset to another one that is not before it. -/
def Locates (subject : Subject) (correction : Correction) (start stop : Nat) : Prop :=
  subject.index.offset? correction.extent.start = some start ∧
    subject.index.offset? correction.extent.stop = some stop ∧ start ≤ stop

/-- The correction is for another file, or it is for this one and does not lie in the text. -/
def Refuses (subject : Subject) (correction : Correction) (reason : SkipReason) : Prop :=
  reason = .crossFile ∧ ¬ subject.SameFile correction ∨
    reason = .outOfRange ∧ subject.SameFile correction ∧
      ∀ start stop, ¬ subject.Locates correction start stop

theorem edit_cases (subject : Subject) (diagnostic : Diagnostic) (correction : Correction) :
    (∃ start stop, subject.edit diagnostic correction = .ok ⟨start, stop, diagnostic, correction⟩ ∧
      subject.SameFile correction ∧ subject.Locates correction start stop) ∨
    ∃ reason, subject.edit diagnostic correction = .error reason ∧
      subject.Refuses correction reason := by
  unfold Subject.edit
  split
  · next foreign =>
      refine .inr ⟨_, rfl, .inl ⟨rfl, fun same => ?_⟩⟩
      simp [show Files.sameFile _ _ _ = true from same] at foreign
  · next same =>
      have same : subject.SameFile correction := by simpa [SameFile] using same
      split
      · next start stop first last =>
          split
          · next crossed =>
              refine .inr ⟨_, rfl, .inr ⟨rfl, same, fun start' stop' located => ?_⟩⟩
              obtain ⟨first', last', ordered⟩ := located
              cases first.symm.trans first'
              cases last.symm.trans last'
              exact absurd ordered (Nat.not_le.mpr crossed)
          · next ordered =>
              exact .inl ⟨start, stop, rfl, same, first, last, Nat.not_lt.mp ordered⟩
      · next missing =>
          exact .inr ⟨_, rfl, .inr ⟨rfl, same, fun start stop located =>
            missing start stop located.1 located.2.1⟩⟩

theorem not_refuses {reason : SkipReason} {start stop : Nat}
    (same : subject.SameFile correction) (located : subject.Locates correction start stop) :
    ¬ subject.Refuses correction reason := by
  rintro (⟨-, foreign⟩ | ⟨-, -, nowhere⟩)
  · exact foreign same
  · exact nowhere start stop located

def candidate? (subject : Subject) (entry : Diagnostic × Nat) : Option Candidate :=
  entry.1.preferredCorrection.bind fun correction =>
    match subject.edit entry.1 correction with
    | .ok edit => some ⟨entry.2, edit⟩
    | .error _ => none

def refusal? (subject : Subject) (entry : Diagnostic × Nat) : Option (Nat × Skipped) :=
  entry.1.preferredCorrection.bind fun correction =>
    match subject.edit entry.1 correction with
    | .ok _ => none
    | .error reason => some (entry.2, ⟨entry.1, correction, reason, none⟩)

def candidates (subject : Subject) (diagnostics : List Diagnostic) : List Candidate :=
  diagnostics.zipIdx.filterMap subject.candidate?

def refusals (subject : Subject) (diagnostics : List Diagnostic) : List (Nat × Skipped) :=
  diagnostics.zipIdx.filterMap subject.refusal?

theorem collect_from (subject : Subject) (diagnostics : List Diagnostic) (first : Nat) :
    subject.collect diagnostics =
      (((diagnostics.zipIdx first).filterMap subject.candidate?).map Candidate.edit,
        ((diagnostics.zipIdx first).filterMap subject.refusal?).map Prod.snd) := by
  induction diagnostics generalizing first with
  | nil => rfl
  | cons diagnostic rest ih =>
      rw [collect, List.zipIdx_cons, ih (first + 1)]
      cases preferred : diagnostic.preferredCorrection with
      | none => simp [candidate?, refusal?, preferred]
      | some correction =>
          cases edited : subject.edit diagnostic correction <;>
            simp [candidate?, refusal?, preferred, edited]

theorem collect_eq (subject : Subject) (diagnostics : List Diagnostic) :
    subject.collect diagnostics =
      ((subject.candidates diagnostics).map Candidate.edit,
        (subject.refusals diagnostics).map Prod.snd) :=
  subject.collect_from diagnostics 0

/-- The candidate is the first correction of its diagnostic, and it fits the text. -/
def Fits (subject : Subject) (diagnostics : List Diagnostic) (candidate : Candidate) : Prop :=
  diagnostics[candidate.position]? = some candidate.edit.diagnostic ∧
    candidate.edit.diagnostic.preferredCorrection = some candidate.edit.correction ∧
    subject.SameFile candidate.edit.correction ∧
    subject.Locates candidate.edit.correction candidate.edit.start candidate.edit.stop

theorem candidate?_eq_some {position : Nat} {candidate : Candidate} :
    subject.candidate? (diagnostic, position) = some candidate ↔
      candidate.position = position ∧ candidate.edit.diagnostic = diagnostic ∧
        diagnostic.preferredCorrection = some candidate.edit.correction ∧
        subject.SameFile candidate.edit.correction ∧
        subject.Locates candidate.edit.correction candidate.edit.start candidate.edit.stop := by
  obtain ⟨position', start', stop', diagnostic', correction'⟩ := candidate
  cases preferred : diagnostic.preferredCorrection with
  | none => simp [candidate?, preferred]
  | some correction =>
      rcases subject.edit_cases diagnostic correction with
        ⟨start, stop, edited, same, located⟩ | ⟨reason, edited, refuses⟩
      · simp only [candidate?, preferred, edited, Option.bind_some, Option.some.injEq,
          Candidate.mk.injEq, Edit.mk.injEq]
        constructor
        · rintro ⟨rfl, rfl, rfl, rfl, rfl⟩
          exact ⟨rfl, rfl, rfl, same, located⟩
        · rintro ⟨rfl, rfl, rfl, _, located'⟩
          exact ⟨rfl, Option.some.inj (located.1.symm.trans located'.1),
            Option.some.inj (located.2.1.symm.trans located'.2.1), rfl, rfl⟩
      · simp only [candidate?, preferred, edited, Option.bind_some, Option.some.injEq]
        refine ⟨nofun, ?_⟩
        rintro ⟨-, -, rfl, same, located⟩
        exact absurd refuses (not_refuses same located)

theorem mem_candidates {diagnostics : List Diagnostic} {candidate : Candidate} :
    candidate ∈ subject.candidates diagnostics ↔ subject.Fits diagnostics candidate := by
  simp only [candidates, List.mem_filterMap, Prod.exists, List.mk_mem_zipIdx_iff_getElem?,
    candidate?_eq_some, Fits]
  constructor
  · rintro ⟨diagnostic, position, read, rfl, rfl, preferred, same, located⟩
    exact ⟨read, preferred, same, located⟩
  · rintro ⟨read, preferred, same, located⟩
    exact ⟨_, _, read, rfl, rfl, preferred, same, located⟩

theorem refuses_of_mem_refusals {diagnostics : List Diagnostic} {position : Nat}
    {skipped : Skipped} (member : (position, skipped) ∈ subject.refusals diagnostics) :
    diagnostics[position]? = some skipped.diagnostic ∧
      skipped.diagnostic.preferredCorrection = some skipped.correction ∧
      subject.Refuses skipped.correction skipped.reason ∧ skipped.overlapping = none := by
  simp only [refusals, List.mem_filterMap, Prod.exists, List.mk_mem_zipIdx_iff_getElem?] at member
  obtain ⟨diagnostic, position', read, refused⟩ := member
  cases preferred : diagnostic.preferredCorrection with
  | none => simp [refusal?, preferred] at refused
  | some correction =>
      rcases subject.edit_cases diagnostic correction with
        ⟨start, stop, edited, -, -⟩ | ⟨reason, edited, refuses⟩
      · simp [refusal?, preferred, edited] at refused
      · simp only [refusal?, preferred, edited, Option.bind_some, Option.some.injEq,
          Prod.mk.injEq] at refused
        obtain ⟨rfl, rfl⟩ := refused
        exact ⟨read, preferred, refuses, rfl⟩

def corrected (diagnostics : List Diagnostic) : List Nat :=
  (diagnostics.zipIdx.filter (·.1.preferredCorrection.isSome)).map Prod.snd

/-- A diagnostic with a correction gives a candidate or a refusal, and others give neither. -/
theorem positions_perm (subject : Subject) (diagnostics : List Diagnostic) :
    ((subject.candidates diagnostics).map Candidate.position ++
      (subject.refusals diagnostics).map Prod.fst).Perm (corrected diagnostics) := by
  unfold candidates refusals corrected
  induction diagnostics.zipIdx with
  | nil => rfl
  | cons entry rest ih =>
      cases preferred : entry.1.preferredCorrection with
      | none => simpa [candidate?, refusal?, preferred] using ih
      | some correction =>
          cases edited : subject.edit entry.1 correction with
          | ok edit => simpa [candidate?, refusal?, preferred, edited] using ih
          | error reason =>
              have moved := (List.perm_middle (a := entry.2)).trans (ih.cons entry.2)
              simpa [candidate?, refusal?, preferred, edited] using moved

theorem candidates_by_position (subject : Subject) (diagnostics : List Diagnostic) :
    (subject.candidates diagnostics).Pairwise fun first second =>
      first.position < second.position := by
  have numbered : diagnostics.zipIdx.Pairwise fun first second => first.2 < second.2 := by
    rw [← List.pairwise_map (f := Prod.snd) (R := fun first second => first < second),
      List.zipIdx_map_snd]
    exact List.pairwise_lt_range'
  refine numbered.filterMap _ fun first second below one found other found' => ?_
  obtain ⟨placed, -⟩ := candidate?_eq_some.mp found
  obtain ⟨placed', -⟩ := candidate?_eq_some.mp found'
  rwa [placed, placed']

end Subject

def Candidate.inOrder (candidates : List Candidate) : List Candidate :=
  candidates.mergeSort fun first second => first.edit.start ≤ second.edit.start

namespace Candidate

variable {candidates : List Candidate}

theorem inOrder_edits (candidates : List Candidate) :
    Correction.inOrder (candidates.map edit) = (inOrder candidates).map edit := by
  unfold Correction.inOrder inOrder
  rw [List.map_mergeSort]
  exact fun _ _ _ _ => rfl

theorem inOrder_perm (candidates : List Candidate) : (inOrder candidates).Perm candidates :=
  List.mergeSort_perm _ _

theorem inOrder_starts (candidates : List Candidate) :
    (inOrder candidates).Pairwise fun first second => first.edit.start ≤ second.edit.start := by
  have sorted : (inOrder candidates).Pairwise fun first second =>
      decide (first.edit.start ≤ second.edit.start) :=
    List.pairwise_mergeSort (fun _ _ _ => by simpa using Nat.le_trans)
      (fun _ _ => by simpa using Nat.le_total _ _) candidates
  exact sorted.imp of_decide_eq_true

/-- Candidates that begin at one place keep their order. -/
theorem inOrder_filter (candidates : List Candidate) (start : Nat) :
    (inOrder candidates).filter (·.edit.start = start) =
      candidates.filter (·.edit.start = start) := by
  have level : (candidates.filter (·.edit.start = start)).Pairwise fun first second =>
      decide (first.edit.start ≤ second.edit.start) := by
    refine List.pairwise_of_forall_mem_list fun first here second there => ?_
    have := of_decide_eq_true (List.mem_filter.mp here).2
    have := of_decide_eq_true (List.mem_filter.mp there).2
    exact decide_eq_true (by omega)
  have kept : (candidates.filter (·.edit.start = start)).Sublist (inOrder candidates) :=
    List.sublist_mergeSort (fun _ _ _ => by simpa using Nat.le_trans)
      (fun _ _ => by simpa using Nat.le_total _ _) level List.filter_sublist
  have shrunk := kept.filter (·.edit.start = start)
  rw [List.filter_filter] at shrunk
  simp only [Bool.and_self] at shrunk
  exact (shrunk.eq_of_length ((inOrder_perm candidates).filter _).length_eq.symm).symm

theorem inOrder_before (byPosition : candidates.Pairwise fun first second =>
    first.position < second.position) : (inOrder candidates).Pairwise Before := by
  rw [List.pairwise_iff_forall_sublist]
  intro first second both
  have starts := List.pairwise_iff_forall_sublist.mp (inOrder_starts candidates) both
  rcases Nat.lt_or_eq_of_le starts with earlier | same
  · exact .inl earlier
  · -- Both are in the part that begins at one place, and that part is as it was.
    have part := both.filter (·.edit.start = first.edit.start)
    rw [inOrder_filter] at part
    have pair : [first, second].Sublist candidates := by
      simpa [same] using part.trans List.filter_sublist
    exact .inr ⟨same, List.pairwise_iff_forall_sublist.mp byPosition pair⟩

end Candidate
end ScriptAudit.Correction
