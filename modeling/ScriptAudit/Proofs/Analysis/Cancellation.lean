import ScriptAudit.Proofs.Analysis.Completion
import ScriptAudit.Proofs.Analysis.Parallel

namespace ScriptAudit.Analysis

/-! Runs that are cancelled at some moment.

The result is told by the rules that were started, and by no others; it says that the run was
cancelled just when some rule was never started.  There is no result where the failure of a rule
that was started cannot be told, or where a suppression has no answer for what these rules found. -/

open Settings

namespace Engine

variable {engine : Engine} {configuration : Configuration} {cancelled : Bool} {job : Job}
  {loaded : Rule.LoadResult} {pooled : Bool} {entries : List Rule.Entry} {moves : List Move}

/-- What the record of a run tells when these are the active rules, some of which were started. -/
structure TellsStarted (engine : Engine) (configuration : Configuration) (job : Job)
    (loaded : Rule.LoadResult) (entries : List Rule.Entry) (ledger : Ledger Outcome)
    (record : Record) : Prop where
  cancelled : record.result.cancelled = true ↔
    ∃ number < entries.length, number ∉ ledger.started
  finished : ∀ number ∈ ledger.started, ∃ entry, entries[number]? = some entry ∧
    ledger.results.lookup number = some (some (engine.runRule configuration job entry))
  accounts : Accounts configuration job loaded
    (engine.told configuration job (ledger.startedAmong entries)) record.result
  ordered : (ledger.startedAmong entries).Sublist entries
  ruleNames : record.result.ruleNames.Sublist (entries.map (·.descriptor.name))

theorem collect_tells
    (done : (Ledger.after (engine.runRule configuration job) pooled entries cancelled
      moves).isDone entries.length = true) :
    let ledger := Ledger.after (engine.runRule configuration job) pooled entries cancelled moves
    let collected := collect configuration job loaded
      (runScheduled (engine.runRule configuration job) pooled entries cancelled moves)
    (∃ fault, collected = .error fault ∧ Unsettles configuration job
      (engine.told configuration job (ledger.startedAmong entries)) fault) ∨
    ∃ record, collected = .ok record ∧
      engine.TellsStarted configuration job loaded entries ledger record := by
  intro ledger collected
  have sound : Ledger.Sound (engine.runRule configuration job) pooled entries ledger :=
    Ledger.sound_after cancelled moves
  have scheduled := runScheduled_eq cancelled done
  simp only [collected, scheduled]
  obtain failed | ⟨-, record, ended, accounts, stopped⟩ :=
    collect_cases engine configuration job loaded (ledger.startedAmong entries)
      (ledger.stopped pooled entries.length) ledger.cancelled
  · exact .inl failed
  · have ordered := ledger.startedAmong_sublist entries
    refine .inr ⟨record, ended, ?_, fun number => sound.finished done, accounts, ordered, ?_⟩
    · rw [stopped]
      exact sound.stopped_iff done
    · rw [accounts.ruleNames]
      have names : (engine.told configuration job (ledger.startedAmong entries)).map Prod.fst =
          (ledger.startedAmong entries).map (·.descriptor.name) := by
        rw [told, List.map_map]
        rfl
      have reported := List.filter_sublist (p := fun rule : String × Conduct => rule.2.entered)
        (l := engine.told configuration job (ledger.startedAmong entries))
      exact (names ▸ reported.map Prod.fst).trans (ordered.map _)

/-- Whenever a run is cancelled, it can be brought to its end, no rule is started any more, and the
result tells of the rules that were started what it tells of them otherwise, and of no others.  It
says that the run was cancelled just when some rule was never started.  Without a result, either
there are no workers, or what these rules came to has none. -/
theorem runBy_tells_started (discovered : engine.discover configuration = .ok loaded)
    (cancelled : Bool) :
    let entries := engine.registry.select configuration loaded.entries
    let pooled := engine.isPooled entries
    let after := Ledger.after (engine.runRule configuration job) pooled entries cancelled
    (∃ moves, (after moves).isDone entries.length = true ∧
      engine.run configuration cancelled job = engine.runBy moves configuration cancelled job) ∧
    (∀ moves, ∃ more, .cancel ∉ more ∧ (after (moves ++ more)).isDone entries.length = true) ∧
    (∀ earlier later, (after earlier).cancelled = true →
      (after (earlier ++ later)).started = (after earlier).started) ∧
    ∀ moves, (after moves).isDone entries.length = true →
      (pooled = true ∧ engine.hasWorkers = false ∧
        engine.runBy moves configuration cancelled job = .error .noWorkers) ∨
      (∃ fault, engine.runBy moves configuration cancelled job = .error fault ∧
        Unsettles configuration job
          (engine.told configuration job ((after moves).startedAmong entries)) fault) ∨
      ∃ record, engine.runBy moves configuration cancelled job = .ok record ∧
        engine.TellsStarted configuration job loaded entries (after moves) record ∧
        (pooled = false → (after moves).startedAmong entries <+: entries) ∧
        (cancelled = false → .cancel ∉ moves → (after moves).startedAmong entries = entries) := by
  intro entries pooled after
  refine ⟨⟨_, Ledger.isDone_eager cancelled, run_eq_runBy _ _ _ _ discovered⟩,
    Ledger.exists_completion cancelled,
    fun _ later heeds => Ledger.started_after_append heeds later, fun moves done => ?_⟩
  have sound : Ledger.Sound (engine.runRule configuration job) pooled entries (after moves) :=
    Ledger.sound_after cancelled moves
  by_cases fails : (pooled && !engine.hasWorkers) = true
  · left
    obtain ⟨inPool, none⟩ := Bool.and_eq_true_iff.mp fails
    exact ⟨inPool, by simpa using none, (runBy_discovered discovered).trans (if_pos fails)⟩
  · have ran : engine.runBy moves configuration cancelled job = collect configuration job loaded
        (runScheduled (engine.runRule configuration job) pooled entries cancelled moves) :=
      (runBy_discovered discovered).trans (if_neg fails)
    right
    rw [ran]
    refine (collect_tells done).imp_right ?_
    rintro ⟨record, ended, tells⟩
    refine ⟨record, ended, tells, fun unpooled => ?_, fun fresh quiet => ?_⟩
    · rw [unpooled] at sound
      rw [sound.startedAmong_eq_take]
      exact List.take_prefix _ _
    · subst fresh
      have going : Ledger.Going (after moves) := Ledger.going_after quiet
      exact Ledger.startedAmong_of_all fun _ below => sound.all_started going done below

/-- The run is cancelled while the second of two pieces is being run, and the first one has not
been started yet. -/
def cutMoves : List Move :=
  [.check, .submit, .check, .submit, .start 1, .cancel, .start 0, .finish 1]

theorem after_cutMoves {Piece Outcome : Type} (run : Piece → Outcome) (first second : Piece) :
    Ledger.after run true [first, second] false cutMoves =
      ⟨false, 2, false, true, [1], [(1, some (run second)), (0, none)]⟩ := by
  simp [Ledger.after, cutMoves, Ledger.step, Ledger.take, Ledger.isTaken, Ledger.isBack]

theorem sharingEngine_cut : ∃ record,
    sharingEngine.runBy cutMoves {} false emptyJob = .ok record ∧
    record.result.cancelled = true ∧ record.result.ruleNames = ["Talking"] ∧
    record.result.warnings.filter (·.kind = .ruleFailure) =
      [.ofFailure "Talking" "a.ps1" "ValueError: no"] := by
  obtain ⟨-, -, -, tells⟩ := @runBy_tells_started sharingEngine {} emptyJob {} rfl false
  rw [show ({} : Rule.LoadResult).entries = [] from rfl, sharingEngine_active] at tells
  have pooled : sharingEngine.isPooled [reentrant loudEntry, reentrant talkingEntry] = true := rfl
  have ended := tells cutMoves
  rw [pooled, after_cutMoves] at ended
  obtain ⟨-, workerless, -⟩ | ⟨fault, -, unsettles⟩ | ⟨record, ran, told, -⟩ := ended rfl
  · cases workerless
  · exact absurd ⟨rfl, fun _ _ _ given => nomatch given⟩ unsettles.not_settled
  · exact ⟨record, ran, told.cancelled.mpr ⟨0, by decide, by decide⟩, told.accounts.ruleNames,
      told.accounts.failures⟩

end Engine
end ScriptAudit.Analysis
