import ScriptAudit.Proofs.Correction.Candidates

namespace ScriptAudit.Correction

/-! The sweep over the candidates.

A candidate is applied unless it begins before the end of the one applied last.  As applied regions
do not overlap, this end is the greatest of all, and replacing the regions in one go gives what
replacing them one at a time from right to left does. -/

open Source

namespace Candidate

/-- The candidate applied last when it ends after the beginning of this one. -/
def blocker? (last : Option Candidate) (candidate : Candidate) : Option Candidate :=
  last.filter fun previous => candidate.edit.start < previous.edit.stop

theorem blocker?_eq_some {last : Option Candidate} {candidate blocker : Candidate} :
    blocker? last candidate = some blocker ↔
      last = some blocker ∧ candidate.edit.start < blocker.edit.stop := by
  simp [blocker?, Option.filter_eq_some_iff]

theorem le_of_blocker?_eq_none {last : Option Candidate} {candidate previous : Candidate}
    (free : blocker? last candidate = none) (applied : last = some previous) :
    previous.edit.stop ≤ candidate.edit.start := by
  simpa [blocker?, applied, Option.filter_eq_none_iff] using free

/-- The candidates that are applied, and the others, each with the one that it conflicts with. -/
def settle (last : Option Candidate) :
    List Candidate → List Candidate × List (Candidate × Candidate)
  | [] => ([], [])
  | candidate :: rest =>
      match blocker? last candidate with
      | some blocker =>
          let later := settle last rest
          (later.1, (candidate, blocker) :: later.2)
      | none =>
          let later := settle (some candidate) rest
          (candidate :: later.1, later.2)

def conflict (pair : Candidate × Candidate) : Skipped :=
  ⟨pair.1.edit.diagnostic, pair.1.edit.correction, .conflict, some pair.2.edit.correction⟩

theorem sweep_edits (last : Option Candidate) (candidates : List Candidate) :
    sweep (last.elim 0 (·.edit.stop)) (last.map (·.edit.correction)) (candidates.map edit) =
      ((settle last candidates).1.map edit, (settle last candidates).2.map conflict) := by
  fun_induction settle last candidates with
  | case1 last => rfl
  | case2 last candidate rest blocker blocked later ih =>
      obtain ⟨rfl, overlapping⟩ := blocker?_eq_some.mp blocked
      rw [List.map_cons, sweep, Option.elim_some, if_pos overlapping]
      rw [Option.elim_some] at ih
      rw [ih]
      rfl
  | case3 last candidate rest free later ih =>
      have apart : ¬ candidate.edit.start < last.elim 0 (·.edit.stop) := by
        cases last with
        | none => exact Nat.not_lt_zero _
        | some previous => exact Nat.not_lt.mpr (le_of_blocker?_eq_none free rfl)
      rw [List.map_cons, sweep, if_neg apart]
      exact congrArg (fun later => (candidate.edit :: later.1, later.2)) ih

variable {last : Option Candidate} {candidates : List Candidate}

theorem settle_perm (last : Option Candidate) (candidates : List Candidate) :
    ((settle last candidates).1 ++ (settle last candidates).2.map Prod.fst).Perm candidates := by
  fun_induction settle last candidates with
  | case1 last => rfl
  | case2 last candidate rest blocker blocked later ih =>
      exact List.perm_middle.trans (ih.cons candidate)
  | case3 last candidate rest free later ih => exact ih.cons candidate

theorem settle_sublist (last : Option Candidate) (candidates : List Candidate) :
    (settle last candidates).1.Sublist candidates := by
  fun_induction settle last candidates with
  | case1 last => exact List.Sublist.refl []
  | case2 last candidate rest blocker blocked later ih => exact ih.cons candidate
  | case3 last candidate rest free later ih => exact ih.cons_cons candidate

def Forward (candidates : List Candidate) : Prop :=
  ∀ candidate ∈ candidates, candidate.edit.start ≤ candidate.edit.stop

theorem settle_after (forward : Forward candidates) {applied previous : Candidate}
    (member : applied ∈ (settle last candidates).1) (before : last = some previous) :
    previous.edit.stop ≤ applied.edit.start := by
  fun_induction settle last candidates generalizing previous with
  | case1 last => cases member
  | case2 last candidate rest blocker blocked later ih =>
      exact ih (List.forall_mem_cons.mp forward).2 member before
  | case3 last candidate rest free later ih =>
      have reached := le_of_blocker?_eq_none free before
      rcases List.mem_cons.mp member with rfl | member
      · exact reached
      · have ordered := (List.forall_mem_cons.mp forward).1
        have next := ih (List.forall_mem_cons.mp forward).2 member rfl
        omega

theorem settle_disjoint (forward : Forward candidates) :
    (settle last candidates).1.Pairwise fun first second =>
      first.edit.stop ≤ second.edit.start := by
  fun_induction settle last candidates with
  | case1 last => exact List.Pairwise.nil
  | case2 last candidate rest blocker blocked later ih =>
      exact ih (List.forall_mem_cons.mp forward).2
  | case3 last candidate rest free later ih =>
      have forward := (List.forall_mem_cons.mp forward).2
      exact (ih forward).cons fun applied member => settle_after forward member rfl

theorem settle_blocked (ordered : candidates.Pairwise Before)
    (earlier : ∀ previous, last = some previous →
      ∀ candidate ∈ candidates, previous.Before candidate)
    {blocked blocker : Candidate} (member : (blocked, blocker) ∈ (settle last candidates).2) :
    (last = some blocker ∨ blocker ∈ (settle last candidates).1) ∧ blocker.Before blocked ∧
      blocked.edit.start < blocker.edit.stop := by
  fun_induction settle last candidates with
  | case1 last => cases member
  | case2 last candidate rest previous found later ih =>
      rcases List.mem_cons.mp member with same | member
      · cases same
        obtain ⟨applied, overlapping⟩ := blocker?_eq_some.mp found
        exact ⟨.inl applied, earlier _ applied _ List.mem_cons_self, overlapping⟩
      · exact ih ordered.of_cons
          (fun previous applied candidate below =>
            earlier previous applied candidate (List.mem_cons_of_mem _ below)) member
  | case3 last candidate rest free later ih =>
      -- From here on the last one is the candidate itself, and it comes before all that follow.
      obtain ⟨first, ordered⟩ := List.pairwise_cons.mp ordered
      obtain ⟨applied, before, overlapping⟩ := ih ordered
        (fun previous same next below => by
          cases same
          exact first next below) member
      refine ⟨.inr ?_, before, overlapping⟩
      rcases applied with same | applied
      · cases same
        exact List.mem_cons_self
      · exact List.mem_cons_of_mem _ applied

/-- A candidate is applied exactly when no applied one before it ends after its start. -/
theorem mem_settle_iff (ordered : candidates.Pairwise Before) (forward : Forward candidates)
    {candidate : Candidate} (member : candidate ∈ candidates) :
    candidate ∈ (settle none candidates).1 ↔
      ∀ earlier ∈ (settle none candidates).1, earlier.Before candidate →
        earlier.edit.stop ≤ candidate.edit.start := by
  constructor
  · intro applied earlier appliedEarlier
    have sorted := ordered.sublist (settle_sublist none candidates)
    refine List.Pairwise.forall_of_forall_of_flip
      (R := fun first second => first.Before second → first.edit.stop ≤ second.edit.start)
      (fun _ _ before => absurd before Before.irrefl) ?_ ?_ appliedEarlier applied
    · refine (settle_disjoint forward).imp ?_
      exact fun apart _ => apart
    · exact sorted.imp fun before after => absurd after before.asymm
  · -- What is not applied conflicts with one that is, and that one comes before it.
    intro free
    have either := (settle_perm none candidates).mem_iff.mpr member
    rcases List.mem_append.mp either with applied | conflicting
    · exact applied
    · obtain ⟨⟨blocked, blocker⟩, found, rfl⟩ := List.mem_map.mp conflicting
      obtain ⟨applied, before, overlapping⟩ :=
        settle_blocked ordered (fun previous nothing => by cases nothing) found
      rcases applied with nothing | applied
      · cases nothing
      · exact absurd (free blocker applied before) (Nat.not_le.mpr overlapping)

end Candidate

/-- The text with what an edit replaces replaced. -/
def Edit.replace (edit : Edit) (text : List Char) : List Char :=
  text.take edit.start ++ edit.correction.text.toList ++ text.drop edit.stop

def replaceFromRight (text : List Char) (edits : List Edit) : List Char :=
  edits.foldr Edit.replace text

/-- Replacing changes nothing in front of the first edit, and behind it the text is spliced. -/
theorem replaceFromRight_eq {text : List Char} (reached : Nat) {edits : List Edit}
    (disjoint : edits.Pairwise fun first second => first.stop ≤ second.start)
    (after : ∀ edit ∈ edits, reached ≤ edit.start)
    (inside : ∀ edit ∈ edits, edit.start ≤ edit.stop ∧ edit.stop ≤ text.length) :
    replaceFromRight text edits = text.take reached ++ splice text reached edits := by
  induction edits generalizing reached with
  | nil => exact (List.take_append_drop reached text).symm
  | cons edit rest ih =>
      obtain ⟨apart, disjoint⟩ := List.pairwise_cons.mp disjoint
      obtain ⟨⟨ordered, bounded⟩, inside⟩ := List.forall_mem_cons.mp inside
      have begun := after edit List.mem_cons_self
      have later := ih edit.stop disjoint apart inside
      -- What was replaced so far lies behind this edit, so the text in front is as it was.
      have shorter : (text.take edit.stop).length = edit.stop := by
        rw [List.length_take]
        omega
      have before : (replaceFromRight text rest).take edit.start = text.take edit.start := by
        rw [later, List.take_append_of_le_length (by omega), List.take_take]
        congr 1
        omega
      have behind : (replaceFromRight text rest).drop edit.stop = splice text edit.stop rest := by
        rw [later, List.drop_append_of_le_length (by omega), List.drop_of_length_le (by omega)]
        rfl
      have gap : text.take edit.start =
          text.take reached ++ (text.take edit.start).drop reached := by
        have front : (text.take edit.start).take reached = text.take reached := by
          rw [List.take_take, Nat.min_eq_left begun]
        rw [← front, List.take_append_drop]
      calc replaceFromRight text (edit :: rest)
          = edit.replace (replaceFromRight text rest) := rfl
        _ = text.take edit.start ++ edit.correction.text.toList ++ splice text edit.stop rest := by
            rw [Edit.replace, before, behind]
        _ = text.take reached ++ splice text reached (edit :: rest) := by
            rw [gap, splice]
            simp only [List.append_assoc]

/-- What became of each correction: the candidates in the order in which they are tried, those of
them that are applied, the others with what they conflict with, and the refused corrections with
the positions of their diagnostics. -/
structure Account where
  candidates : List Candidate
  applied : List Candidate
  conflicting : List (Candidate × Candidate)
  refused : List (Nat × Skipped)

def Account.positions (account : Account) : List Nat :=
  account.applied.map Candidate.position ++
    account.conflicting.map (fun pair => pair.1.position) ++ account.refused.map Prod.fst

structure Account.Explains (account : Account) (subject : Subject) (diagnostics : List Diagnostic)
    (outcome : Outcome) : Prop where
  fitting : ∀ candidate, candidate ∈ account.candidates ↔ subject.Fits diagnostics candidate
  ordered : account.candidates.Pairwise Candidate.Before
  split : (account.applied ++ account.conflicting.map Prod.fst).Perm account.candidates
  subsequence : account.applied.Sublist account.candidates
  greedy : ∀ candidate ∈ account.candidates, candidate ∈ account.applied ↔
    ∀ earlier ∈ account.applied, earlier.Before candidate →
      earlier.edit.stop ≤ candidate.edit.start
  disjoint : account.applied.Pairwise fun first second => first.edit.stop ≤ second.edit.start
  replaced : outcome.text =
    String.ofList (replaceFromRight subject.index.text (account.applied.map Candidate.edit))
  counted : outcome.applied = account.applied.length
  blocked : ∀ pair ∈ account.conflicting, pair.2 ∈ account.applied ∧
    pair.2.edit.start ≤ pair.1.edit.start ∧ pair.1.edit.start < pair.2.edit.stop
  refused : ∀ entry ∈ account.refused,
    diagnostics[entry.1]? = some entry.2.diagnostic ∧
      entry.2.diagnostic.preferredCorrection = some entry.2.correction ∧
      subject.Refuses entry.2.correction entry.2.reason ∧ entry.2.overlapping = none
  skipped : outcome.skipped =
    account.refused.map Prod.snd ++ account.conflicting.map Candidate.conflict
  /-- Every diagnostic with a correction stands in the account once, and no other one does. -/
  accounted : ∀ position, account.positions.count position =
    if diagnostics[position]?.any (·.preferredCorrection.isSome) then 1 else 0

def Subject.account (subject : Subject) (diagnostics : List Diagnostic) : Account :=
  let candidates := Candidate.inOrder (subject.candidates diagnostics)
  let settled := Candidate.settle none candidates
  ⟨candidates, settled.1, settled.2, subject.refusals diagnostics⟩

theorem account_positions_perm (subject : Subject) (diagnostics : List Diagnostic) :
    (subject.account diagnostics).positions.Perm (Subject.corrected diagnostics) := by
  have settled := Candidate.settle_perm none (Candidate.inOrder (subject.candidates diagnostics))
  have sorted := settled.trans (Candidate.inOrder_perm (subject.candidates diagnostics))
  have moved := (sorted.map Candidate.position).append_right
    ((subject.refusals diagnostics).map Prod.fst)
  rw [List.map_append, List.map_map] at moved
  exact moved.trans (subject.positions_perm diagnostics)

theorem count_corrected (diagnostics : List Diagnostic) (position : Nat) :
    (Subject.corrected diagnostics).count position =
      if diagnostics[position]?.any (·.preferredCorrection.isSome) then 1 else 0 := by
  have numbered : (Subject.corrected diagnostics).Nodup := by
    refine (List.filter_sublist.map Prod.snd).nodup ?_
    rw [List.zipIdx_map_snd]
    exact List.nodup_range'
  have member : position ∈ Subject.corrected diagnostics ↔
      diagnostics[position]?.any (·.preferredCorrection.isSome) := by
    simp only [Subject.corrected, List.mem_map, List.mem_filter, Prod.exists, exists_eq_right,
      List.mk_mem_zipIdx_iff_getElem?, Option.any_eq_true]
  rw [numbered.count]
  simp only [member]

theorem sweep_account (subject : Subject) (diagnostics : List Diagnostic) :
    sweep 0 none (inOrder (subject.collect diagnostics).1) =
      ((subject.account diagnostics).applied.map Candidate.edit,
        (subject.account diagnostics).conflicting.map Candidate.conflict) := by
  rw [Subject.collect_eq, Candidate.inOrder_edits]
  exact Candidate.sweep_edits none (subject.account diagnostics).candidates

theorem apply_eq (base file text : String) (diagnostics : List Diagnostic) :
    let account := Subject.account ⟨.ofText text.toList, file, base⟩ diagnostics
    apply base file text diagnostics =
      { text := String.ofList (splice text.toList 0 (account.applied.map Candidate.edit))
        applied := account.applied.length
        skipped :=
          account.refused.map Prod.snd ++ account.conflicting.map Candidate.conflict } := by
  unfold apply
  dsimp only
  rw [sweep_account, Subject.collect_eq, List.length_map]
  rfl

/-- Applying corrections does to each of them what the account says. -/
theorem apply_explained (base file text : String) (diagnostics : List Diagnostic) :
    ∃ account : Account,
      account.Explains ⟨.ofText text.toList, file, base⟩ diagnostics
        (apply base file text diagnostics) := by
  let subject : Subject := ⟨.ofText text.toList, file, base⟩
  let account := subject.account diagnostics
  have fitting : ∀ candidate, candidate ∈ account.candidates ↔
      subject.Fits diagnostics candidate := fun candidate =>
    (Candidate.inOrder_perm _).mem_iff.trans Subject.mem_candidates
  have ordered : account.candidates.Pairwise Candidate.Before :=
    Candidate.inOrder_before (subject.candidates_by_position diagnostics)
  have located : ∀ candidate ∈ account.candidates,
      candidate.edit.start ≤ candidate.edit.stop ∧ candidate.edit.stop ≤ text.toList.length := by
    intro candidate member
    obtain ⟨-, -, -, -, last, forward⟩ := (fitting candidate).mp member
    exact ⟨forward, LineIndex.offset?_le_length last⟩
  have forward : Candidate.Forward account.candidates := fun candidate member =>
    (located candidate member).1
  have subsequence : account.applied.Sublist account.candidates :=
    Candidate.settle_sublist none account.candidates
  have disjoint : account.applied.Pairwise fun first second =>
      first.edit.stop ≤ second.edit.start := Candidate.settle_disjoint forward
  rw [apply_eq]
  refine ⟨account, fitting, ordered, Candidate.settle_perm none _, subsequence,
    fun candidate member => Candidate.mem_settle_iff ordered forward member, disjoint, ?_, rfl, ?_,
    fun entry member => Subject.refuses_of_mem_refusals member, rfl, fun position => ?_⟩
  · have inside : ∀ edit ∈ account.applied.map Candidate.edit,
        edit.start ≤ edit.stop ∧ edit.stop ≤ text.toList.length := by
      intro edit member
      obtain ⟨candidate, applied, rfl⟩ := List.mem_map.mp member
      exact located candidate (subsequence.subset applied)
    have spliced := replaceFromRight_eq 0 (List.pairwise_map.mpr disjoint)
      (fun _ _ => Nat.zero_le _) inside
    exact congrArg String.ofList spliced.symm
  · intro pair conflicting
    obtain ⟨applied, before, overlapping⟩ :=
      Candidate.settle_blocked ordered (fun previous nothing => by cases nothing) conflicting
    rcases applied with nothing | applied
    · cases nothing
    · exact ⟨applied, before.start_le, overlapping⟩
  · rw [(account_positions_perm subject diagnostics).count_eq, count_corrected]

end ScriptAudit.Correction
