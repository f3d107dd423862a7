import Mathlib.Data.List.Perm.Subperm
import ScriptAudit.Proofs.Analysis.Pool

namespace ScriptAudit.Analysis

/-! A run can always be brought to its end.

As long as not all is done some move other than the cancellation does something, and there is a
bound on how many of them can. -/

namespace Ledger

variable {Piece Outcome : Type} {run : Piece → Outcome} {pooled : Bool} {pieces : List Piece}
  {ledger next : Ledger Outcome}

/-- How far a run has come. -/
def rank (ledger : Ledger Outcome) : Nat :=
  2 * ledger.submitted + ledger.cleared.toNat + ledger.closed.toNat + ledger.started.length +
    ledger.results.length

/-- No piece is started twice, and none comes back twice. -/
structure Once (ledger : Ledger Outcome) : Prop where
  started : ledger.started.Nodup
  results : (ledger.results.map Prod.fst).Nodup

theorem Once.step (once : ledger.Once) (sound : ledger.Sound run pooled pieces) {move : Move}
    (step : Step run pooled pieces ledger move next) : next.Once := by
  cases step with
  | start number _ _ idle _ _ =>
      exact { once with started := List.nodup_cons.mpr ⟨idle, once.started⟩ }
  | startTurn =>
      have idle : ledger.submitted ∉ ledger.started :=
        fun member => Nat.lt_irrefl _ (sound.started _ member)
      exact { once with started := List.nodup_cons.mpr ⟨idle, once.started⟩ }
  | refuse number _ _ _ away _ | finish number _ _ _ away =>
      have new := not_mem_keys (isBack_eq_false.mp away)
      exact { once with results := List.nodup_cons.mpr ⟨new, once.results⟩ }
  | _ => exact { once with }

theorem once_after (cancelled : Bool) (moves : List Move) :
    Once (after run pooled pieces cancelled moves) :=
  (foldl_step (motive := fun ledger => Sound run pooled pieces ledger ∧ Once ledger)
    ⟨sound_start cancelled, .nil, .nil⟩
    fun _ _ _ _ both step => ⟨both.1.step step, both.2.step both.1 step⟩).2

theorem length_le_of_below {numbers : List Nat} {limit : Nat} (once : numbers.Nodup)
    (below : ∀ number ∈ numbers, number < limit) : numbers.length ≤ limit := by
  have inside : numbers ⊆ List.range limit := fun number member =>
    List.mem_range.mpr (below number member)
  simpa using (once.subperm inside).length_le

theorem Sound.rank_le (sound : ledger.Sound run pooled pieces) (once : ledger.Once) :
    ledger.rank ≤ 4 * pieces.length + 2 := by
  have bounded := sound.bounded
  have started := length_le_of_below once.started sound.started
  have results : ledger.results.length ≤ ledger.submitted := by
    have back : ∀ number ∈ ledger.results.map Prod.fst, number < ledger.submitted := by
      intro number member
      cases found : ledger.results.lookup number with
      | none => exact absurd member (not_mem_keys found)
      | some result => exact sound.handed number result found
    simpa using length_le_of_below once.results back
  have cleared := ledger.cleared.toNat_le
  have closed := ledger.closed.toNat_le
  unfold rank
  omega

theorem rank_after_le (cancelled : Bool) (moves : List Move) :
    (after run pooled pieces cancelled moves).rank ≤ 4 * pieces.length + 2 :=
  (sound_after cancelled moves).rank_le (once_after cancelled moves)

/-- While pieces are away, one of them can be taken or finished. -/
theorem Sound.progress_away (sound : ledger.Sound run pooled pieces) {number : Nat}
    (handed : number < ledger.submitted) (away : ledger.isBack number = false) :
    ∃ move, move ≠ .cancel ∧ ledger.rank < (ledger.step run pooled pieces move).rank := by
  by_cases started : number ∈ ledger.started
  · refine ⟨.finish number, by simp, ?_⟩
    have own := List.getElem?_eq_getElem (Nat.lt_of_lt_of_le handed sound.bounded)
    have possible : (ledger.started.contains number && !ledger.isBack number) = true := by
      simp [started, away]
    rw [Ledger.step, own]
    dsimp only
    rw [if_pos possible]
    simp only [rank, List.length_cons]
    omega
  · have inPool : pooled = true := by
      cases pooled with
      | true => rfl
      | false => exact absurd ((sound.inTurn rfl).2 number handed) started
    refine ⟨.start number, by simp, ?_⟩
    have possible : (number < ledger.submitted && !ledger.isTaken number) = true := by
      simp [handed, isTaken, started, away]
    rw [Ledger.step, if_pos inPool, take, if_pos possible]
    split <;> simp only [rank, List.length_cons] <;> omega

/-- As long as not all is done, some move other than the cancellation takes the run further. -/
theorem Sound.progress (sound : ledger.Sound run pooled pieces)
    (undone : ledger.isDone pieces.length = false) :
    ∃ move, move ≠ .cancel ∧ ledger.rank < (ledger.step run pooled pieces move).rank := by
  cases back : ledger.allBack with
  | false =>
      rw [allBack, List.all_eq_false] at back
      obtain ⟨number, member, away⟩ := back
      exact sound.progress_away (List.mem_range.mp member) (Bool.eq_false_iff.mpr away)
  | true =>
      -- All that were handed over are back, so it is the next piece that can go on.
      rw [isDone, back, Bool.and_true, Bool.or_eq_false_iff, beq_eq_false_iff_ne] at undone
      obtain ⟨opened, short⟩ := undone
      have room : ledger.submitted < pieces.length := Nat.lt_of_le_of_ne sound.bounded short
      cases pooled with
      | false =>
          refine ⟨.start ledger.submitted, by simp, ?_⟩
          have possible : (ledger.submitted = ledger.submitted &&
              ledger.submitted < pieces.length && !ledger.closed && ledger.allBack) = true := by
            simp [room, opened, back]
          rw [Ledger.step, if_neg Bool.false_ne_true, takeTurn, if_pos possible]
          split <;>
            simp only [rank, opened, List.length_cons, Bool.toNat_true, Bool.toNat_false] <;> omega
      | true =>
          cases cleared : ledger.cleared with
          | true =>
              refine ⟨.submit, by simp, ?_⟩
              rw [Ledger.step, if_pos cleared]
              simp only [rank, cleared, Bool.toNat_true, Bool.toNat_false]
              omega
          | false =>
              refine ⟨.check, by simp, ?_⟩
              have possible : (true && ledger.submitted < pieces.length && !ledger.cleared &&
                  !ledger.closed) = true := by
                simp [room, opened, cleared]
              rw [Ledger.step, if_pos possible]
              split <;>
                simp only [rank, opened, cleared, Bool.toNat_true, Bool.toNat_false] <;> omega

/-- Whatever its moves were so far, a run can be brought to its end without being cancelled. -/
theorem exists_completion (cancelled : Bool) (moves : List Move) :
    ∃ more, .cancel ∉ more ∧
      (after run pooled pieces cancelled (moves ++ more)).isDone pieces.length = true := by
  -- Each move that is added raises the rank, which has a bound.
  generalize left : 4 * pieces.length + 2 - (after run pooled pieces cancelled moves).rank = room
  induction room using Nat.strongRecOn generalizing moves with
  | ind room ih =>
      cases done : (after run pooled pieces cancelled moves).isDone pieces.length with
      | true => exact ⟨[], nofun, by rwa [List.append_nil]⟩
      | false =>
          obtain ⟨move, other, further⟩ := (sound_after cancelled moves).progress done
          have bounded : (after run pooled pieces cancelled (moves ++ [move])).rank ≤
            4 * pieces.length + 2 := rank_after_le cancelled _
          have nearer : (after run pooled pieces cancelled moves).rank <
              (after run pooled pieces cancelled (moves ++ [move])).rank := by
            rwa [after_append]
          obtain ⟨more, quiet, ends⟩ := ih _ (by omega) (moves ++ [move]) rfl
          rw [List.append_assoc] at ends
          exact ⟨move :: more, by simp [quiet, Ne.symm other], ends⟩

end Ledger
end ScriptAudit.Analysis
