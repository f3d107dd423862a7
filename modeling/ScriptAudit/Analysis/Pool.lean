namespace ScriptAudit.Analysis

/-! Runs of several pieces of work that can be cancelled.

In turn, each piece is started unless the run has been cancelled before it.  In a pool, the pieces
are handed over one after the other while workers start and finish them in any order; a piece that
is taken after the cancellation never starts, and no piece is handed over that is checked after
it. -/

/-- The pieces that were started, in their order, with what they came to; whether some piece was
never started; and whether the run is cancelled in the end. -/
@[ext]
structure Progress (Outcome : Type) where
  outcomes : List Outcome
  stopped : Bool
  cancelled : Bool

/-- Runs the pieces one after the other.  `cancels` says which outcomes cancel the run. -/
def runInTurn {Piece Outcome : Type} (run : Piece → Outcome) (cancels : Outcome → Bool) :
    (cancelled : Bool) → List Piece → Progress Outcome
  | cancelled, [] => ⟨[], false, cancelled⟩
  | true, _ :: _ => ⟨[], true, true⟩
  | false, piece :: rest =>
      let outcome := run piece
      let later := runInTurn run cancels (cancels outcome) rest
      ⟨outcome :: later.outcomes, later.stopped, later.cancelled⟩

/-- A move of a run.  In a pool, the cancellation is checked before the next piece is handed over,
the piece is handed over, and a worker starts it when it is not cancelled by then.  In turn, the
next piece is started in one move.  A piece that has been started finishes, and the run may be
cancelled at any moment. -/
inductive Move where
  | check
  | submit
  | start (number : Nat)
  | finish (number : Nat)
  | cancel
deriving DecidableEq

/-- What has become of the pieces of a run.  The next piece may have been cleared for being handed
over; how many have been handed over; no more are once the run is closed.  Pieces come back with
an outcome, or with none when they were not started. -/
structure Ledger (Outcome : Type) where
  cleared : Bool := false
  submitted : Nat := 0
  closed : Bool := false
  cancelled : Bool := false
  started : List Nat := []
  results : List (Nat × Option Outcome) := []

namespace Ledger

section
variable {Piece Outcome : Type}

def isBack (ledger : Ledger Outcome) (number : Nat) : Bool :=
  (ledger.results.lookup number).isSome

/-- All pieces that were handed over have come back. -/
def allBack (ledger : Ledger Outcome) : Bool :=
  (List.range ledger.submitted).all ledger.isBack

/-- A worker has taken the piece. -/
def isTaken (ledger : Ledger Outcome) (number : Nat) : Bool :=
  ledger.started.contains number || ledger.isBack number

/-- A worker of a pool takes a piece; after the cancellation it comes back without being started. -/
def take (ledger : Ledger Outcome) (number : Nat) : Ledger Outcome :=
  if number < ledger.submitted && !ledger.isTaken number then
    if ledger.cancelled then { ledger with results := (number, none) :: ledger.results }
    else { ledger with started := number :: ledger.started }
  else ledger

/-- The next of `total` pieces is started in turn, unless the run has been cancelled. -/
def takeTurn (total : Nat) (ledger : Ledger Outcome) (number : Nat) : Ledger Outcome :=
  if number = ledger.submitted && number < total && !ledger.closed && ledger.allBack then
    if ledger.cancelled then { ledger with closed := true }
    else { ledger with submitted := number + 1, started := number :: ledger.started }
  else ledger

/-- A move that is not possible changes nothing. -/
def step (run : Piece → Outcome) (pooled : Bool) (pieces : List Piece) (ledger : Ledger Outcome) :
    Move → Ledger Outcome
  | .check =>
      if pooled && ledger.submitted < pieces.length && !ledger.cleared && !ledger.closed then
        if ledger.cancelled then { ledger with closed := true }
        else { ledger with cleared := true }
      else ledger
  | .submit =>
      if ledger.cleared then { ledger with cleared := false, submitted := ledger.submitted + 1 }
      else ledger
  | .start number =>
      if pooled then ledger.take number else ledger.takeTurn pieces.length number
  | .finish number =>
      match pieces[number]? with
      | some piece =>
          if ledger.started.contains number && !ledger.isBack number then
            { ledger with results := (number, some (run piece)) :: ledger.results }
          else ledger
      | none => ledger
  | .cancel => { ledger with cancelled := true }

/-- The ledger after these moves of a run that is or is not cancelled already. -/
def after (run : Piece → Outcome) (pooled : Bool) (pieces : List Piece) (cancelled : Bool)
    (moves : List Move) : Ledger Outcome :=
  moves.foldl (step run pooled pieces) { cancelled := cancelled }

/-- Of `total` pieces, all that are going to be handed over have come back. -/
def isDone (total : Nat) (ledger : Ledger Outcome) : Bool :=
  (ledger.closed || ledger.submitted == total) && ledger.allBack

/-- The outcomes, in the order in which the pieces were handed over. -/
def outcomes (ledger : Ledger Outcome) : List Outcome :=
  (List.range ledger.submitted).filterMap fun number => (ledger.results.lookup number).join

/-- Some piece was never started: in a pool it was not handed over or came back without an
outcome, and in turn the run was closed before it. -/
def stopped (pooled : Bool) (total : Nat) (ledger : Ledger Outcome) : Bool :=
  if pooled then
    ledger.submitted < total || (List.range ledger.submitted).any fun number =>
      (ledger.results.lookup number).join.isNone
  else ledger.closed

end
end Ledger

/-- What the pieces come to when these are the moves of their run. -/
def runScheduled {Piece Outcome : Type} (run : Piece → Outcome) (pooled : Bool)
    (pieces : List Piece) (cancelled : Bool) (moves : List Move) : Progress Outcome :=
  let ledger := Ledger.after run pooled pieces cancelled moves
  ⟨ledger.outcomes, ledger.stopped pooled pieces.length, ledger.cancelled⟩

/-- The moves of a run in which each piece is run to its end before the next one; the first of them
has the number `number`. -/
def eagerMoves {Piece Outcome : Type} (run : Piece → Outcome) (cancels : Outcome → Bool)
    (number : Nat) : List Piece → List Move
  | [] => []
  | piece :: rest =>
      [.check, .submit, .start number] ++ (if cancels (run piece) then [.cancel] else []) ++
        .finish number :: eagerMoves run cancels (number + 1) rest

end ScriptAudit.Analysis
