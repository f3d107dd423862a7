import ScriptAudit.Proofs.Analysis.Pool

namespace ScriptAudit.Analysis

/-! Runs in which each piece is run to its end before the next one.

In a pool and in turn, they are the runs one after the other. -/

namespace Ledger

variable {Piece Outcome : Type} {run : Piece → Outcome} {cancels : Outcome → Bool} {pooled : Bool}
  {pieces : List Piece} {ledger : Ledger Outcome} {count : Nat}

/-- The first pieces have come back with outcomes, and nothing is known of the others. -/
structure Ready (count : Nat) (ledger : Ledger Outcome) : Prop where
  submitted : ledger.submitted = count
  uncleared : ledger.cleared = false
  opened : ledger.closed = false
  idle : ∀ number ∈ ledger.started, number < count
  away : ∀ number, count ≤ number → ledger.results.lookup number = none
  back : ∀ number < count, (ledger.results.lookup number).join.isSome = true

theorem Ready.allBack (ready : ledger.Ready count) : ledger.allBack = true := by
  rw [Ledger.allBack, ready.submitted, List.all_eq_true]
  intro number member
  have back := ready.back number (List.mem_range.mp member)
  rw [isBack]
  cases found : ledger.results.lookup number with
  | none =>
      rw [found] at back
      cases back
  | some result => rfl

/-- The moves of the next piece, the cancellation by its outcome left out. -/
theorem Ready.startNext (ready : ledger.Ready count) (going : ledger.cancelled = false)
    (room : count < pieces.length) :
    [Move.check, .submit, .start count].foldl (step run pooled pieces) ledger =
      { ledger with submitted := count + 1, started := count :: ledger.started } := by
  have unstarted : count ∉ ledger.started := fun member => Nat.lt_irrefl _ (ready.idle _ member)
  have unback : ledger.isBack count = false := isBack_eq_false.mpr (ready.away _ (Nat.le_refl _))
  have allBack := ready.allBack
  obtain ⟨submitted, uncleared, opened, -⟩ := ready
  obtain ⟨cleared, submitted, closed, cancelled, started, results⟩ := ledger
  dsimp only at *
  subst submitted uncleared opened going
  cases pooled with
  | true =>
      have unback' : isBack { started, results, submitted := submitted + 1 } submitted = false :=
        unback
      simp [step, room, take, isTaken, unback', unstarted]
  | false => simp [step, takeTurn, room, allBack]

/-- The ledger when the next piece has come back as well. -/
def withNext (ledger : Ledger Outcome) (count : Nat) (outcome : Outcome) (cancelled : Bool) :
    Ledger Outcome :=
  { ledger with
    submitted := count + 1
    cancelled := cancelled
    started := count :: ledger.started
    results := (count, some outcome) :: ledger.results }

theorem Ready.finishNext (ready : ledger.Ready count) {piece : Piece}
    (own : pieces[count]? = some piece) (cancelled : Bool) :
    step run pooled pieces
        { ledger with
          submitted := count + 1
          cancelled := cancelled
          started := count :: ledger.started } (.finish count) =
      ledger.withNext count (run piece) cancelled := by
  have unback : (ledger.results.lookup count).isSome = false := by
    rw [ready.away _ (Nat.le_refl _), Option.isSome_none]
  rw [step, own]
  simp [isBack, unback, withNext]

/-- The next piece is run to its end. -/
theorem Ready.foldl_eager_next (ready : ledger.Ready count) (going : ledger.cancelled = false)
    {piece : Piece} (own : pieces[count]? = some piece) (rest : List Piece) :
    (eagerMoves run cancels count (piece :: rest)).foldl (step run pooled pieces) ledger =
      (eagerMoves run cancels (count + 1) rest).foldl (step run pooled pieces)
        (ledger.withNext count (run piece) (cancels (run piece))) := by
  have room : count < pieces.length := (List.getElem?_eq_some_iff.mp own).1
  rw [eagerMoves, List.foldl_append, List.foldl_append, ready.startNext going room,
    List.foldl_cons]
  cases cancels (run piece) with
  | true =>
      rw [if_pos rfl, ← ready.finishNext own]
      rfl
  | false =>
      rw [if_neg Bool.false_ne_true, List.foldl_nil, ← ready.finishNext own, ← going]

theorem Ready.next (ready : ledger.Ready count) (outcome : Outcome) (cancelled : Bool) :
    Ready (count + 1) (ledger.withNext count outcome cancelled) where
  submitted := rfl
  uncleared := ready.uncleared
  opened := ready.opened
  idle := List.forall_mem_cons.mpr
    ⟨Nat.lt_succ_self _, fun number member => Nat.lt_succ_of_lt (ready.idle number member)⟩
  away := fun number behind => by
    rw [withNext, lookup_cons_eq, if_neg (by omega)]
    exact ready.away number (by omega)
  back := fun number below => by
    rw [withNext, lookup_cons_eq]
    split
    · rfl
    · exact ready.back number (by omega)

theorem Ready.outcomes_next (ready : ledger.Ready count) (outcome : Outcome) (cancelled : Bool) :
    (ledger.withNext count outcome cancelled).outcomes = ledger.outcomes ++ [outcome] := by
  have others : ∀ number ∈ List.range count,
      (List.lookup number ((count, some outcome) :: ledger.results)).join =
        (ledger.results.lookup number).join := by
    intro number member
    rw [lookup_cons_eq, if_neg (Nat.ne_of_lt (List.mem_range.mp member))]
  rw [outcomes, outcomes, ready.submitted, withNext]
  dsimp only
  rw [List.range_succ, List.filterMap_append, List.filterMap_congr others, List.filterMap_cons,
    lookup_cons_eq, if_pos rfl]
  rfl

/-- Once the cancellation was heeded, the next piece is not started. -/
theorem foldl_startNext_closed (closed : ledger.closed = true) (uncleared : ledger.cleared = false)
    (handed : ledger.submitted ≤ count) :
    [Move.check, .submit, .start count].foldl (step run pooled pieces) ledger = ledger := by
  have check : step run pooled pieces ledger .check = ledger := by simp [step, closed]
  have submit : step run pooled pieces ledger .submit = ledger := by simp [step, uncleared]
  have start : step run pooled pieces ledger (.start count) = ledger := by
    simp [step, take, takeTurn, closed, Nat.not_lt.mpr handed]
  simp only [List.foldl_cons, List.foldl_nil, check, submit, start]

theorem foldl_eager_closed {rest : List Piece} (heeds : ledger.cancelled = true)
    (closed : ledger.closed = true) (uncleared : ledger.cleared = false)
    (handed : ledger.submitted ≤ count) (idle : ∀ number ∈ ledger.started, number < count) :
    (eagerMoves run cancels count rest).foldl (step run pooled pieces) ledger = ledger := by
  induction rest generalizing count with
  | nil => rfl
  | cons piece rest ih =>
      have unstarted : count ∉ ledger.started := fun member => Nat.lt_irrefl _ (idle _ member)
      have cancel : step run pooled pieces ledger .cancel = ledger := by rw [step, ← heeds]
      have finish : step run pooled pieces ledger (.finish count) = ledger := by
        rw [step]
        split
        · rw [if_neg (by simp [unstarted])]
        · rfl
      have later := ih (Nat.le_succ_of_le handed) fun number member =>
        Nat.lt_succ_of_lt (idle number member)
      rw [eagerMoves, List.foldl_append, List.foldl_append,
        foldl_startNext_closed closed uncleared handed]
      split <;> simp only [List.foldl_cons, List.foldl_nil, cancel, finish, later]

/-- Once the run is cancelled, no later piece is started. -/
theorem Ready.foldl_eager_cancelled (ready : ledger.Ready count) (heeds : ledger.cancelled = true)
    (room : count < pieces.length) (piece : Piece) (rest : List Piece) :
    (eagerMoves run cancels count (piece :: rest)).foldl (step run pooled pieces) ledger =
      { ledger with closed := true } := by
  have heeded : [Move.check, .submit, .start count].foldl (step run pooled pieces) ledger =
      { ledger with closed := true } := by
    have allBack := ready.allBack
    obtain ⟨submitted, uncleared, opened, -⟩ := ready
    obtain ⟨cleared, submitted, closed, cancelled, started, results⟩ := ledger
    dsimp only at *
    subst submitted uncleared opened heeds
    cases pooled with
    | true => simp [step, room, take]
    | false => simp [step, takeTurn, room, allBack]
  have still : [Move.check, .submit, .start count].foldl (step run pooled pieces)
      { ledger with closed := true } = { ledger with closed := true } :=
    foldl_startNext_closed rfl ready.uncleared (Nat.le_of_eq ready.submitted)
  have same : (eagerMoves run cancels count (piece :: rest)).foldl (step run pooled pieces)
      { ledger with closed := true } = { ledger with closed := true } :=
    foldl_eager_closed heeds rfl ready.uncleared (Nat.le_of_eq ready.submitted) ready.idle
  rw [eagerMoves, List.foldl_append, List.foldl_append] at same ⊢
  rw [still] at same
  rw [heeded, same]

/-- The pieces in front have come back, so the run is stopped where others are left out. -/
theorem Ready.stopped_eq (ready : ledger.Ready count) (total : Nat) (closed : Bool) :
    stopped true total { ledger with closed := closed } = decide (count < total) := by
  have none : ((List.range count).any fun number =>
      (ledger.results.lookup number).join.isNone) = false := by
    rw [List.any_eq_false]
    intro number member
    rw [Bool.not_eq_true, Option.isNone_eq_false_iff]
    exact ready.back number (List.mem_range.mp member)
  simp [stopped, ready.submitted, none]

/-- In a pool and in turn, the moves of the pieces that are left lead to what these pieces come to
one after the other. -/
theorem Ready.foldl_eager (ready : ledger.Ready count) (before rest : List Piece)
    (whole : pieces = before ++ rest) (front : before.length = count) :
    let later := (eagerMoves run cancels count rest).foldl (step run pooled pieces) ledger
    let progress := runInTurn run cancels ledger.cancelled rest
    later.isDone pieces.length = true ∧ later.outcomes = ledger.outcomes ++ progress.outcomes ∧
      later.stopped pooled pieces.length = progress.stopped ∧
      later.cancelled = progress.cancelled := by
  -- On the pieces that are left; each of them leads from one ready ledger to the next.
  induction rest generalizing ledger count before with
  | nil =>
      intro later progress
      have all : pieces.length = count := by rw [whole, List.append_nil, front]
      refine ⟨?_, (List.append_nil _).symm, ?_, rfl⟩
      · change ledger.isDone pieces.length = true
        rw [isDone, ready.allBack, ready.submitted, all]
        simp
      · change ledger.stopped pooled pieces.length = false
        cases pooled with
        | true => simpa [all] using ready.stopped_eq pieces.length ledger.closed
        | false => exact ready.opened
  | cons piece rest ih =>
      have room : count < pieces.length := by
        rw [whole, List.length_append, List.length_cons]
        omega
      have own : pieces[count]? = some piece := by
        rw [whole, ← front, List.getElem?_append_right (Nat.le_refl _), Nat.sub_self]
        rfl
      cases going : ledger.cancelled with
      | true =>
          intro later progress
          have final : later = { ledger with closed := true } :=
            ready.foldl_eager_cancelled going room piece rest
          rw [final]
          refine ⟨?_, (List.append_nil _).symm, ?_, going⟩
          · rw [isDone, Bool.true_or, Bool.true_and]
            exact ready.allBack
          · change stopped pooled pieces.length { ledger with closed := true } = true
            cases pooled with
            | true => rw [ready.stopped_eq, decide_eq_true room]
            | false => rfl
      | false =>
          have later := ih (ready.next (run piece) (cancels (run piece)))
            (before ++ [piece]) (by simp [whole]) (by simp [front])
          rw [ready.outcomes_next] at later
          rw [ready.foldl_eager_next going own, runInTurn]
          simpa only [List.append_assoc, List.singleton_append, withNext] using later

theorem ready_start (cancelled : Bool) : Ready 0 ({ cancelled := cancelled } : Ledger Outcome) where
  submitted := rfl
  uncleared := rfl
  opened := rfl
  idle := nofun
  away := fun _ _ => rfl
  back := nofun

theorem isDone_eager (cancelled : Bool) :
    (after run pooled pieces cancelled (eagerMoves run cancels 0 pieces)).isDone pieces.length =
      true :=
  ((ready_start cancelled).foldl_eager [] pieces rfl rfl).1

end Ledger

variable {Piece Outcome : Type} {run : Piece → Outcome} {cancels : Outcome → Bool}
  {pieces : List Piece}

/-- Where each piece is run to its end before the next one, the pieces of a pool come to what they
come to in turn. -/
theorem runScheduled_eager (pooled cancelled : Bool) :
    runScheduled run pooled pieces cancelled (eagerMoves run cancels 0 pieces) =
      runInTurn run cancels cancelled pieces := by
  obtain ⟨-, outcomes, stopped, ended⟩ :=
    (Ledger.ready_start cancelled).foldl_eager [] pieces rfl rfl
  exact Progress.ext outcomes stopped ended

end ScriptAudit.Analysis
