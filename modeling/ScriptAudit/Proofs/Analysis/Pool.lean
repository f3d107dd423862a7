import ScriptAudit.Analysis.Pool
import ScriptAudit.Proofs.Value.Lookup

namespace ScriptAudit.Analysis

/-! The moves of a run, whatever their order.

What one move does is said once, by `Ledger.Step`.  Each result is that of its own piece, and a
piece comes back without one just when it was not started; so once all is done the outcomes are
those of the started pieces, in the order of the pieces. -/

namespace Ledger

variable {Piece Outcome : Type} {run : Piece → Outcome} {pooled : Bool} {pieces : List Piece}
  {ledger next : Ledger Outcome} {moves : List Move}

/-- What a move of a run can do. -/
inductive Step (run : Piece → Outcome) (pooled : Bool) (pieces : List Piece)
    (ledger : Ledger Outcome) : Move → Ledger Outcome → Prop where
  | stay {move : Move} : Step run pooled pieces ledger move ledger
  | clear (inPool : pooled = true) (room : ledger.submitted < pieces.length)
      (uncleared : ledger.cleared = false) (opened : ledger.closed = false)
      (going : ledger.cancelled = false) :
      Step run pooled pieces ledger .check { ledger with cleared := true }
  /-- The cancellation is heeded by a check, in turn by the start of the next piece. -/
  | close {move : Move} (heeding : move ≠ .cancel) (room : ledger.submitted < pieces.length)
      (uncleared : pooled = true → ledger.cleared = false) (heeds : ledger.cancelled = true) :
      Step run pooled pieces ledger move { ledger with closed := true }
  | submit (cleared : ledger.cleared = true) :
      Step run pooled pieces ledger .submit
        { ledger with cleared := false, submitted := ledger.submitted + 1 }
  | start (number : Nat) (inPool : pooled = true) (handed : number < ledger.submitted)
      (idle : number ∉ ledger.started) (away : ledger.isBack number = false)
      (going : ledger.cancelled = false) :
      Step run pooled pieces ledger (.start number)
        { ledger with started := number :: ledger.started }
  | refuse (number : Nat) (inPool : pooled = true) (handed : number < ledger.submitted)
      (idle : number ∉ ledger.started) (away : ledger.isBack number = false)
      (heeds : ledger.cancelled = true) :
      Step run pooled pieces ledger (.start number)
        { ledger with results := (number, none) :: ledger.results }
  | startTurn (inTurn : pooled = false) (room : ledger.submitted < pieces.length)
      (opened : ledger.closed = false) (back : ledger.allBack = true)
      (going : ledger.cancelled = false) :
      Step run pooled pieces ledger (.start ledger.submitted)
        { ledger with submitted := ledger.submitted + 1
                      started := ledger.submitted :: ledger.started }
  | finish (number : Nat) (piece : Piece) (own : pieces[number]? = some piece)
      (started : number ∈ ledger.started) (away : ledger.isBack number = false) :
      Step run pooled pieces ledger (.finish number)
        { ledger with results := (number, some (run piece)) :: ledger.results }
  | cancel : Step run pooled pieces ledger .cancel { ledger with cancelled := true }

theorem take_step (inPool : pooled = true) (number : Nat) :
    Step run pooled pieces ledger (.start number) (ledger.take number) := by
  unfold take
  split
  · next possible =>
      simp only [Bool.and_eq_true, decide_eq_true_eq, Bool.not_eq_true', isTaken,
        Bool.or_eq_false_iff, List.contains_eq_mem, decide_eq_false_iff_not] at possible
      obtain ⟨handed, idle, away⟩ := possible
      split
      · next heeds => exact .refuse number inPool handed idle away heeds
      · next going => exact .start number inPool handed idle away (Bool.eq_false_iff.mpr going)
  · exact .stay

theorem takeTurn_step (inTurn : pooled = false) (number : Nat) :
    Step run pooled pieces ledger (.start number) (ledger.takeTurn pieces.length number) := by
  unfold takeTurn
  split
  · next possible =>
      simp only [Bool.and_eq_true, decide_eq_true_eq, Bool.not_eq_true'] at possible
      obtain ⟨⟨⟨rfl, room⟩, opened⟩, back⟩ := possible
      split
      · next heeds => exact .close nofun room (fun inPool => nomatch inTurn.symm.trans inPool) heeds
      · next going => exact .startTurn inTurn room opened back (Bool.eq_false_iff.mpr going)
  · exact .stay

theorem step_step (move : Move) :
    Step run pooled pieces ledger move (ledger.step run pooled pieces move) := by
  cases move with
  | check =>
      rw [step]
      split
      · next possible =>
          simp only [Bool.and_eq_true, decide_eq_true_eq, Bool.not_eq_true'] at possible
          obtain ⟨⟨⟨inPool, room⟩, uncleared⟩, opened⟩ := possible
          split
          · next heeds => exact .close nofun room (fun _ => uncleared) heeds
          · next going => exact .clear inPool room uncleared opened (Bool.eq_false_iff.mpr going)
      · exact .stay
  | submit =>
      rw [step]
      split
      · next cleared => exact .submit cleared
      · exact .stay
  | start number =>
      rw [step]
      cases pooled with
      | true => exact take_step rfl number
      | false => exact takeTurn_step rfl number
  | finish number =>
      rw [step]
      split
      · next piece own =>
          split
          · next possible =>
              simp only [Bool.and_eq_true, Bool.not_eq_true', List.contains_eq_mem,
                decide_eq_true_eq] at possible
              exact .finish number piece own possible.1 possible.2
          · exact .stay
      · exact .stay
  | cancel => exact .cancel

/-- What each of these moves keeps holds after them. -/
theorem foldl_step {motive : Ledger Outcome → Prop} (begins : motive ledger)
    (keeps : ∀ move ∈ moves, ∀ before later, motive before →
      Step run pooled pieces before move later → motive later) :
    motive (moves.foldl (Ledger.step run pooled pieces) ledger) := by
  induction moves generalizing ledger with
  | nil => exact begins
  | cons move moves ih =>
      obtain ⟨first, later⟩ := List.forall_mem_cons.mp keeps
      exact ih (first ledger _ begins (step_step move)) later

/-- After the cancellation nothing is started any more. -/
theorem Step.of_cancelled {move : Move} (step : Step run pooled pieces ledger move next)
    (cancelled : ledger.cancelled = true) :
    next.cancelled = true ∧ next.started = ledger.started := by
  cases step with
  | start _ _ _ _ _ going | startTurn _ _ _ _ going => exact nomatch going.symm.trans cancelled
  | cancel => exact ⟨rfl, rfl⟩
  | _ => exact ⟨cancelled, rfl⟩

theorem foldl_of_cancelled (cancelled : ledger.cancelled = true) (moves : List Move) :
    (moves.foldl (Ledger.step run pooled pieces) ledger).cancelled = true ∧
      (moves.foldl (Ledger.step run pooled pieces) ledger).started = ledger.started := by
  refine foldl_step (motive := fun later =>
    later.cancelled = true ∧ later.started = ledger.started) ⟨cancelled, rfl⟩ ?_
  rintro move - before later ⟨cancelled, same⟩ step
  obtain ⟨still, kept⟩ := step.of_cancelled cancelled
  exact ⟨still, kept.trans same⟩

theorem after_append (cancelled : Bool) (earlier later : List Move) :
    after run pooled pieces cancelled (earlier ++ later) =
      later.foldl (Ledger.step run pooled pieces) (after run pooled pieces cancelled earlier) :=
  List.foldl_append

/-- Every piece that is started at all was started before the cancellation. -/
theorem started_after_append {cancelled : Bool} {earlier : List Move}
    (heeds : (after run pooled pieces cancelled earlier).cancelled = true) (later : List Move) :
    (after run pooled pieces cancelled (earlier ++ later)).started =
      (after run pooled pieces cancelled earlier).started := by
  rw [after_append]
  exact (foldl_of_cancelled heeds later).2

/-- Nothing was kept from starting: the run is not cancelled, and no cancellation was heeded. -/
structure Going (ledger : Ledger Outcome) : Prop where
  uncancelled : ledger.cancelled = false
  opened : ledger.closed = false
  unrefused : ∀ number, ledger.results.lookup number ≠ some none

/-- What holds of the ledger at every moment of a run. -/
structure Sound (run : Piece → Outcome) (pooled : Bool) (pieces : List Piece)
    (ledger : Ledger Outcome) : Prop where
  bounded : ledger.submitted ≤ pieces.length
  room : ledger.cleared = true ∨ ledger.closed = true → ledger.submitted < pieces.length
  uncleared : ledger.closed = true → ledger.cleared = false
  started : ∀ number ∈ ledger.started, number < ledger.submitted
  handed : ∀ number result, ledger.results.lookup number = some result → number < ledger.submitted
  /-- A result is that of the piece that came back with it. -/
  own : ∀ number outcome, ledger.results.lookup number = some (some outcome) →
    number ∈ ledger.started ∧ pieces[number]?.map run = some outcome
  refused : ∀ number, ledger.results.lookup number = some none → number ∉ ledger.started
  inTurn : pooled = false → ledger.cleared = false ∧ ∀ number < ledger.submitted,
    number ∈ ledger.started

theorem isBack_eq_false {number : Nat} :
    ledger.isBack number = false ↔ ledger.results.lookup number = none := by
  rw [isBack, Option.isSome_eq_false_iff, Option.isNone_iff_eq_none]

theorem Sound.comeBack (sound : ledger.Sound run pooled pieces) {number : Nat}
    {result : Option Outcome} (handed : number < ledger.submitted)
    (kept : ∀ outcome, result = some outcome →
      number ∈ ledger.started ∧ pieces[number]?.map run = some outcome)
    (refused : result = none → number ∉ ledger.started) :
    Sound run pooled pieces { ledger with results := (number, result) :: ledger.results } := by
  have looked : ∀ other found, List.lookup other ((number, result) :: ledger.results) = some found →
      other = number ∧ result = found ∨ ledger.results.lookup other = some found := by
    intro other found back
    rw [lookup_cons_eq] at back
    split at back
    · next same => exact .inl ⟨same, Option.some.inj back⟩
    · exact .inr back
  refine { sound with
    handed := fun other found back => ?_
    own := fun other outcome back => ?_
    refused := fun other back => ?_ }
  · rcases looked other found back with ⟨rfl, -⟩ | back
    · exact handed
    · exact sound.handed other found back
  · rcases looked other _ back with ⟨rfl, same⟩ | back
    · exact kept outcome same
    · exact sound.own other outcome back
  · rcases looked other _ back with ⟨rfl, same⟩ | back
    · exact refused same
    · exact sound.refused other back

/-- A piece that was not handed over has not come back. -/
theorem Sound.lookup_beyond (sound : ledger.Sound run pooled pieces) {number : Nat}
    (beyond : ledger.submitted ≤ number) : ledger.results.lookup number = none := by
  cases found : ledger.results.lookup number with
  | none => rfl
  | some result => exact absurd (sound.handed number result found) (Nat.not_lt.mpr beyond)

/-- A piece is started that is not back.  In a pool it was handed over before, and in turn it is the
next one. -/
theorem Sound.begin (sound : ledger.Sound run pooled pieces) {number count : Nat}
    (grows : ledger.submitted ≤ count) (bounded : count ≤ pieces.length)
    (room : ledger.cleared = true ∨ ledger.closed = true → count < pieces.length)
    (handed : number < count) (away : ledger.results.lookup number = none)
    (next : pooled = false → ∀ other < count, other < ledger.submitted ∨ other = number) :
    Sound run pooled pieces
      { ledger with submitted := count, started := number :: ledger.started } where
  bounded := bounded
  room := room
  uncleared := sound.uncleared
  started := List.forall_mem_cons.mpr
    ⟨handed, fun other member => Nat.lt_of_lt_of_le (sound.started other member) grows⟩
  handed := fun other result back => Nat.lt_of_lt_of_le (sound.handed other result back) grows
  own := fun other outcome back =>
    (sound.own other outcome back).imp_left (List.mem_cons_of_mem _)
  refused := fun other back member => by
    rcases List.mem_cons.mp member with rfl | member
    · exact nomatch away.symm.trans back
    · exact sound.refused other back member
  inTurn := fun inTurn => by
    obtain ⟨uncleared, all⟩ := sound.inTurn inTurn
    refine ⟨uncleared, fun other below => ?_⟩
    rcases next inTurn other below with below | rfl
    · exact List.mem_cons_of_mem _ (all other below)
    · exact List.mem_cons_self

/-- A move keeps what holds of the ledger. -/
theorem Sound.step (sound : ledger.Sound run pooled pieces)
    {move : Move} (step : Step run pooled pieces ledger move next) :
    next.Sound run pooled pieces := by
  cases step with
  | stay => exact sound
  | clear inPool room uncleared opened going =>
      exact { sound with
        room := fun _ => room
        uncleared := fun closed => nomatch opened.symm.trans closed
        inTurn := fun inTurn => nomatch inPool.symm.trans inTurn }
  | close heeding room uncleared heeds =>
      refine { sound with room := fun _ => room, uncleared := fun _ => ?_ }
      cases pooled with
      | true => exact uncleared rfl
      | false => exact (sound.inTurn rfl).1
  | submit cleared =>
      have opened : ledger.closed ≠ true := fun closed =>
        nomatch (sound.uncleared closed).symm.trans cleared
      exact { sound with
        bounded := sound.room (.inl cleared)
        room := fun left => left.elim nofun fun closed => absurd closed opened
        uncleared := fun _ => rfl
        started := fun number member => Nat.lt_succ_of_lt (sound.started number member)
        handed := fun number result back => Nat.lt_succ_of_lt (sound.handed number result back)
        inTurn := fun inTurn => nomatch (sound.inTurn inTurn).1.symm.trans cleared }
  | start number inPool handed idle away going =>
      exact sound.begin (Nat.le_refl _) sound.bounded sound.room handed (isBack_eq_false.mp away)
        fun inTurn => nomatch inPool.symm.trans inTurn
  | refuse number inPool handed idle away heeds =>
      exact sound.comeBack handed nofun fun _ => idle
  | startTurn inTurn room opened back going =>
      refine sound.begin (Nat.le_succ _) room (fun left => ?_) (Nat.lt_succ_self _)
        (sound.lookup_beyond (Nat.le_refl _)) fun _ _ below => Nat.lt_succ_iff_lt_or_eq.mp below
      rcases left with cleared | closed
      · exact nomatch (sound.inTurn inTurn).1.symm.trans cleared
      · exact nomatch opened.symm.trans closed
  | finish number piece own started away =>
      refine sound.comeBack (sound.started number started) (fun outcome same => ?_) nofun
      rw [own, ← same]
      exact ⟨started, rfl⟩
  | cancel => exact { sound with }

theorem sound_start (cancelled : Bool) :
    Sound run pooled pieces ({ cancelled := cancelled } : Ledger Outcome) where
  bounded := Nat.zero_le _
  room := by simp
  uncleared := nofun
  started := nofun
  handed := nofun
  own := nofun
  refused := nofun
  inTurn := fun _ => ⟨rfl, nofun⟩

theorem sound_after (cancelled : Bool) (moves : List Move) :
    Sound run pooled pieces (after run pooled pieces cancelled moves) :=
  foldl_step (sound_start cancelled) fun _ _ _ _ sound => sound.step

/-- The pieces that were started, in the order of the pieces. -/
def startedAmong (ledger : Ledger Outcome) (pieces : List Piece) : List Piece :=
  (pieces.zipIdx.filter fun piece => ledger.started.contains piece.2).map Prod.fst

theorem startedAmong_sublist (ledger : Ledger Outcome) (pieces : List Piece) :
    (ledger.startedAmong pieces).Sublist pieces := by
  have all := (List.filter_sublist (p := fun piece : Piece × Nat =>
    ledger.started.contains piece.2) (l := pieces.zipIdx)).map Prod.fst
  rwa [List.zipIdx_map_fst] at all

theorem startedAmong_of_all (all : ∀ number < pieces.length, number ∈ ledger.started) :
    ledger.startedAmong pieces = pieces := by
  have kept : ∀ piece ∈ pieces.zipIdx, ledger.started.contains piece.2 = true := by
    intro piece member
    simpa using all piece.2 (List.snd_lt_of_mem_zipIdx member)
  rw [startedAmong, List.filter_eq_self.mpr kept, List.zipIdx_map_fst]

theorem startedAmong_of_none (idle : ledger.started = []) :
    ledger.startedAmong pieces = [] := by
  rw [startedAmong, idle]
  simp

/-- Once all is done, just the started pieces have come back with an outcome. -/
theorem Sound.join_lookup (sound : ledger.Sound run pooled pieces)
    (done : ledger.isDone pieces.length = true) (number : Nat) :
    (ledger.results.lookup number).join =
      if ledger.started.contains number then pieces[number]?.map run else none := by
  rw [isDone, Bool.and_eq_true, allBack, List.all_eq_true] at done
  cases found : ledger.results.lookup number with
  | none =>
      have idle : number ∉ ledger.started := fun member => by
        have back := done.2 number (List.mem_range.mpr (sound.started number member))
        rw [isBack_eq_false.mpr found] at back
        cases back
      rw [List.contains_eq_mem, if_neg (by simpa using idle)]
      rfl
  | some result =>
      cases result with
      | none =>
          rw [List.contains_eq_mem, if_neg (by simpa using sound.refused number found)]
          rfl
      | some outcome =>
          obtain ⟨member, own⟩ := sound.own number outcome found
          rw [List.contains_eq_mem, if_pos (by simpa using member), own]
          rfl

/-- What was started has come back with its result, once all is done. -/
theorem Sound.finished (sound : ledger.Sound run pooled pieces)
    (done : ledger.isDone pieces.length = true) {number : Nat} (started : number ∈ ledger.started) :
    ∃ piece, pieces[number]? = some piece ∧
      ledger.results.lookup number = some (some (run piece)) := by
  have below : number < pieces.length :=
    Nat.lt_of_lt_of_le (sound.started number started) sound.bounded
  have joined := sound.join_lookup done number
  rw [List.contains_eq_mem, if_pos (by simpa using started), List.getElem?_eq_getElem below,
    Option.map_some, Option.join_eq_some_iff] at joined
  exact ⟨_, List.getElem?_eq_getElem below, joined⟩

theorem filterMap_range_le {first last : Nat} {α : Type} {g : Nat → Option α}
    (ordered : first ≤ last) (beyond : ∀ number, first ≤ number → g number = none) :
    (List.range first).filterMap g = (List.range last).filterMap g := by
  obtain ⟨more, rfl⟩ := Nat.exists_eq_add_of_le ordered
  have nothing : ((List.range more).map (first + ·)).filterMap g = [] := by
    rw [List.filterMap_map, List.filterMap_eq_nil_iff]
    exact fun number _ => beyond _ (Nat.le_add_right _ _)
  rw [List.range_add, List.filterMap_append, nothing, List.append_nil]

theorem Sound.outcomes_eq (sound : ledger.Sound run pooled pieces)
    (done : ledger.isDone pieces.length = true) :
    ledger.outcomes = (ledger.startedAmong pieces).map run := by
  have beyond : ∀ number, ledger.submitted ≤ number →
      (ledger.results.lookup number).join = none := fun number behind => by
    rw [sound.lookup_beyond behind, Option.join_none]
  have numbers : List.range pieces.length = pieces.zipIdx.map Prod.snd := by
    rw [List.zipIdx_map_snd, List.range_eq_range']
  rw [outcomes, filterMap_range_le sound.bounded beyond, numbers, List.filterMap_map, startedAmong,
    List.map_map, ← List.filterMap_eq_map, List.filterMap_filter]
  refine List.filterMap_congr fun piece member => ?_
  have own : pieces[piece.2]? = some piece.1 := List.mem_zipIdx_iff_getElem?.mp member
  rw [Function.comp_apply, sound.join_lookup done, own]
  rfl

theorem Going.step (going : ledger.Going) {move : Move} (other : move ≠ .cancel)
    (step : Step run pooled pieces ledger move next) : next.Going := by
  cases step with
  | close _ _ _ heeds | refuse _ _ _ _ _ heeds =>
      exact nomatch going.uncancelled.symm.trans heeds
  | finish number piece own started away =>
      refine { going with unrefused := fun other back => ?_ }
      rw [lookup_cons_eq] at back
      split at back
      · cases back
      · exact going.unrefused other back
  | cancel => exact absurd rfl other
  | _ => exact { going with }

theorem going_after (quiet : .cancel ∉ moves) : Going (after run pooled pieces false moves) :=
  foldl_step ⟨rfl, rfl, nofun⟩ fun _ member _ _ going =>
    going.step fun same => quiet (same ▸ member)

/-- Where nothing was kept from starting and all is done, every piece was started. -/
theorem Sound.all_started (sound : ledger.Sound run pooled pieces) (going : ledger.Going)
    (done : ledger.isDone pieces.length = true) {number : Nat} (below : number < pieces.length) :
    number ∈ ledger.started := by
  have joined := sound.join_lookup done number
  rw [isDone, Bool.and_eq_true, going.opened, Bool.false_or, beq_iff_eq, allBack,
    List.all_eq_true] at done
  have back := done.2 number (List.mem_range.mpr (done.1 ▸ below))
  rw [isBack, Option.isSome_iff_exists] at back
  obtain ⟨result, found⟩ := back
  cases result with
  | none => exact absurd found (going.unrefused number)
  | some outcome => exact (sound.own number outcome found).1

theorem Sound.stopped_iff (sound : ledger.Sound run pooled pieces)
    (done : ledger.isDone pieces.length = true) :
    ledger.stopped pooled pieces.length = true ↔
      ∃ number < pieces.length, number ∉ ledger.started := by
  have unstarted : ledger.submitted ∉ ledger.started :=
    fun member => Nat.lt_irrefl _ (sound.started _ member)
  cases pooled with
  | true =>
      have joined := sound.join_lookup done
      simp only [stopped, if_true, Bool.or_eq_true, decide_eq_true_eq, List.any_eq_true,
        List.mem_range]
      constructor
      · rintro (short | ⟨number, handed, missing⟩)
        · exact ⟨_, short, unstarted⟩
        · have below := Nat.lt_of_lt_of_le handed sound.bounded
          refine ⟨number, below, fun member => ?_⟩
          rw [joined, List.contains_eq_mem, if_pos (by simpa using member),
            List.getElem?_eq_getElem below] at missing
          cases missing
      · rintro ⟨number, below, idle⟩
        by_cases handed : number < ledger.submitted
        · refine .inr ⟨number, handed, ?_⟩
          rw [joined, List.contains_eq_mem, if_neg (by simpa using idle)]
          rfl
        · exact .inl (Nat.lt_of_le_of_lt (Nat.not_lt.mp handed) below)
  | false =>
      change ledger.closed = true ↔ _
      constructor
      · exact fun closed => ⟨_, sound.room (.inr closed), unstarted⟩
      · rintro ⟨number, below, idle⟩
        have behind : ledger.submitted ≤ number :=
          Nat.not_lt.mp fun handed => idle ((sound.inTurn rfl).2 number handed)
        rw [isDone, Bool.and_eq_true, Bool.or_eq_true, beq_iff_eq] at done
        exact done.1.resolve_right (by omega)

/-- In turn, the pieces that were started are those in front. -/
theorem Sound.startedAmong_eq_take (sound : ledger.Sound run false pieces) :
    ledger.startedAmong pieces = pieces.take ledger.submitted := by
  have bounded := sound.bounded
  have front : ∀ piece ∈ (pieces.take ledger.submitted).zipIdx,
      ledger.started.contains piece.2 = true := by
    intro piece member
    have below := List.snd_lt_of_mem_zipIdx member
    rw [List.length_take] at below
    simpa using (sound.inTurn rfl).2 piece.2 (by omega)
  have back : ∀ piece ∈ (pieces.drop ledger.submitted).zipIdx ledger.submitted,
      ¬ ledger.started.contains piece.2 = true := by
    intro piece member started
    have behind := List.le_snd_of_mem_zipIdx member
    have handed := sound.started piece.2 (by simpa using started)
    omega
  rw [startedAmong]
  conv_lhs => rw [← List.take_append_drop ledger.submitted pieces]
  rw [List.zipIdx_append, List.filter_append, List.length_take, Nat.min_eq_left bounded,
    Nat.zero_add, List.filter_eq_self.mpr front, List.filter_eq_nil_iff.mpr back, List.append_nil,
    List.zipIdx_map_fst]

end Ledger
end ScriptAudit.Analysis
