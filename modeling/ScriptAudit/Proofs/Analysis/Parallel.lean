import ScriptAudit.Proofs.Analysis.Accounting
import ScriptAudit.Proofs.Analysis.Eager
import ScriptAudit.Proofs.Fault.Ends
import ScriptAudit.Proofs.Rule.Loading

namespace ScriptAudit.Analysis

/-! Runs in a pool tell what runs in turn tell.

Where nothing cancels a run on its way, it comes to the same with every order in which workers
start and finish its pieces.  So the rules of one file may share a pool, and files may too. -/

open Settings

section
variable {Piece Outcome : Type} {run : Piece → Outcome} {cancels : Outcome → Bool} {pooled : Bool}
  {pieces : List Piece} {moves : List Move}

theorem runInTurn_cancelled :
    runInTurn run cancels true pieces = ⟨[], !pieces.isEmpty, true⟩ := by
  cases pieces <;> rfl

/-- What a whole run comes to, told by the pieces that were started. -/
theorem runScheduled_eq (cancelled : Bool)
    (done : (Ledger.after run pooled pieces cancelled moves).isDone pieces.length = true) :
    let ledger := Ledger.after run pooled pieces cancelled moves
    runScheduled run pooled pieces cancelled moves =
      ⟨(ledger.startedAmong pieces).map run, ledger.stopped pooled pieces.length,
        ledger.cancelled⟩ := by
  intro ledger
  rw [runScheduled, (Ledger.sound_after cancelled moves).outcomes_eq done]

/-- A whole run that is not cancelled on its way comes to what it comes to in turn. -/
theorem runScheduled_eq_runInTurn (quiet : .cancel ∉ moves)
    (never : ∀ piece ∈ pieces, cancels (run piece) = false) (cancelled : Bool)
    (done : (Ledger.after run pooled pieces cancelled moves).isDone pieces.length = true) :
    runScheduled run pooled pieces cancelled moves = runInTurn run cancels cancelled pieces := by
  have sound : Ledger.Sound run pooled pieces (.after run pooled pieces cancelled moves) :=
    Ledger.sound_after cancelled moves
  have stopped := sound.stopped_iff done
  rw [runScheduled_eq cancelled done]
  -- Either nothing is kept from starting, or the run was cancelled before it and nothing starts.
  cases cancelled with
  | false =>
      have going : Ledger.Going (.after run pooled pieces false moves) := Ledger.going_after quiet
      have all : ∀ number < pieces.length,
          number ∈ (Ledger.after run pooled pieces false moves).started :=
        fun _ below => sound.all_started going done below
      have unstopped := mt stopped.mp fun ⟨number, below, idle⟩ => idle (all number below)
      rw [runInTurn_uncancelled never, Ledger.startedAmong_of_all all, going.uncancelled,
        Bool.eq_false_iff.mpr unstopped]
  | true =>
      obtain ⟨ended, idle⟩ : (Ledger.after run pooled pieces true moves).cancelled = true ∧
          (Ledger.after run pooled pieces true moves).started = [] :=
        Ledger.foldl_of_cancelled rfl moves
      rw [runInTurn_cancelled, Ledger.startedAmong_of_none idle]
      refine Progress.ext rfl ?_ ended
      change Ledger.stopped _ _ _ = !pieces.isEmpty
      rw [Bool.eq_iff_iff, stopped, idle]
      cases pieces with
      | nil => simp
      | cons piece rest => exact ⟨fun _ => rfl, fun _ => ⟨0, Nat.succ_pos _, List.not_mem_nil⟩⟩

end

namespace Engine

variable {engine : Engine} {configuration : Configuration} {cancelled : Bool} {job : Job}
  {moves : List Move}

/-- The engine with the rules of each file run one after the other. -/
def inTurn (engine : Engine) : Engine :=
  { engine with options := { engine.options with parallelRules := false } }

/-- No active rule cancels the run. -/
def LeavesRunning (engine : Engine) (configuration : Configuration) (job : Job) : Prop :=
  ∀ loaded, engine.discover configuration = .ok loaded →
    ∀ entry ∈ engine.registry.select configuration loaded.entries,
      (engine.runRule configuration job entry).cancels = false

/-- These are the moves of a whole run over a file, and none of them cancels it. -/
structure WholeRun (engine : Engine) (configuration : Configuration) (cancelled : Bool) (job : Job)
    (moves : List Move) : Prop where
  quiet : .cancel ∉ moves
  done : ∀ loaded, engine.discover configuration = .ok loaded →
    let entries := engine.registry.select configuration loaded.entries
    (Ledger.after (engine.runRule configuration job) (engine.isPooled entries) entries cancelled
      moves).isDone entries.length = true

/-- Runs every active rule in turn, be they fit to share a pool or not. -/
def runUnpooled (engine : Engine) (configuration : Configuration) (cancelled : Bool) (job : Job) :
    Except RunFault Record := do
  let loaded ← engine.discover configuration
  collect configuration job loaded (runInTurn (engine.runRule configuration job)
    Outcome.cancels cancelled (engine.registry.select configuration loaded.entries))

theorem runBy_discovered {loaded : Rule.LoadResult}
    (discovered : engine.discover configuration = .ok loaded) :
    let entries := engine.registry.select configuration loaded.entries
    engine.runBy moves configuration cancelled job =
      if engine.isPooled entries && !engine.hasWorkers then .error .noWorkers
      else collect configuration job loaded (runScheduled (engine.runRule configuration job)
        (engine.isPooled entries) entries cancelled moves) := by
  unfold runBy
  rw [discovered]
  rfl

theorem run_discovered {loaded : Rule.LoadResult}
    (discovered : engine.discover configuration = .ok loaded) :
    let entries := engine.registry.select configuration loaded.entries
    engine.run configuration cancelled job =
      if engine.isPooled entries && !engine.hasWorkers then .error .noWorkers
      else collect configuration job loaded
        (runInTurn (engine.runRule configuration job) Outcome.cancels cancelled entries) := by
  intro entries
  unfold run
  rw [discovered]
  dsimp only [bind, Except.bind]
  rw [runScheduled_eager]
  cases engine.isPooled entries <;> cases engine.hasWorkers <;> rfl

/-- The run is one whose moves run each rule to its end before the next one. -/
theorem run_eq_runBy (engine : Engine) (configuration : Configuration) (cancelled : Bool)
    (job : Job) {loaded : Rule.LoadResult}
    (discovered : engine.discover configuration = .ok loaded) :
    let entries := engine.registry.select configuration loaded.entries
    engine.run configuration cancelled job =
      engine.runBy (eagerMoves (engine.runRule configuration job) Outcome.cancels 0 entries)
        configuration cancelled job := by
  intro entries
  rw [run_discovered discovered, runBy_discovered discovered, runScheduled_eager]

theorem run_eq_runUnpooled (workers : engine.hasWorkers = true) :
    engine.run configuration cancelled job = engine.runUnpooled configuration cancelled job := by
  unfold runUnpooled
  cases discovered : engine.discover configuration with
  | error fault =>
      unfold run
      rw [discovered]
      rfl
  | ok loaded =>
      rw [run_discovered discovered, workers, Bool.not_true, Bool.and_false]
      rfl

theorem runBy_eq_runUnpooled (workers : engine.hasWorkers = true)
    (leaves : engine.LeavesRunning configuration job)
    (whole : engine.WholeRun configuration cancelled job moves) :
    engine.runBy moves configuration cancelled job =
      engine.runUnpooled configuration cancelled job := by
  unfold runUnpooled
  cases discovered : engine.discover configuration with
  | error fault =>
      unfold runBy
      rw [discovered]
      rfl
  | ok loaded =>
      have same := runScheduled_eq_runInTurn whole.quiet (leaves loaded discovered) cancelled
        (whole.done loaded discovered)
      rw [runBy_discovered discovered, workers, Bool.not_true, Bool.and_false, same]
      rfl

/-- Whether the rules would share a pool does not matter to a run of them in turn. -/
theorem inTurn_run (engine : Engine) (configuration : Configuration) (cancelled : Bool)
    (job : Job) :
    engine.inTurn.run configuration cancelled job =
      engine.runUnpooled configuration cancelled job := by
  have alike : engine.inTurn.runRule configuration job = engine.runRule configuration job :=
    funext fun entry => runRule_aliases rfl entry
  have loads : engine.inTurn.discover configuration = engine.discover configuration := rfl
  unfold runUnpooled
  cases discovered : engine.discover configuration with
  | error fault =>
      unfold run
      rw [loads, discovered]
      rfl
  | ok loaded =>
      rw [run_discovered (loads.trans discovered), alike, if_neg (by simp [isPooled, inTurn])]
      rfl

/-- A run that no rule cancels is as much cancelled after it as before. -/
theorem runUnpooled_cancelled (leaves : engine.LeavesRunning configuration job) {record : Record}
    (ran : engine.runUnpooled configuration cancelled job = .ok record) :
    record.cancelled = cancelled := by
  unfold runUnpooled at ran
  obtain ⟨loaded, discovered, collected⟩ := bind_eq_ok ran
  have ended := collect_cancelled collected
  cases cancelled with
  | false => rwa [runInTurn_uncancelled (leaves loaded discovered)] at ended
  | true => rwa [runInTurn_cancelled] at ended

theorem runJobs_eq_mapM (workers : engine.hasWorkers = true) {jobs : List Job}
    (leaves : ∀ job ∈ jobs, engine.LeavesRunning configuration job) :
    engine.runJobs configuration cancelled jobs =
      jobs.mapM (engine.run configuration cancelled) := by
  induction jobs with
  | nil => rfl
  | cons job rest ih =>
      obtain ⟨first, others⟩ := List.forall_mem_cons.mp leaves
      rw [runJobs, List.mapM_cons, run_eq_runUnpooled workers]
      cases ran : engine.runUnpooled configuration cancelled job with
      | error fault => rfl
      | ok record =>
          dsimp only [bind, Except.bind]
          rw [runUnpooled_cancelled first ran, ih others]

/-- These are the moves of a whole run over several files, and none of them cancels anything. -/
structure WholeRuns (engine : Engine) (configuration : Configuration) (cancelled : Bool)
    (jobs : List Job) (moves : List Move) (inner : Nat → List Move) : Prop where
  quiet : .cancel ∉ moves
  done : (Ledger.after (fun job : Job × Nat =>
      engine.runBy (inner job.2) configuration cancelled job.1) true jobs.zipIdx false
    moves).isDone jobs.zipIdx.length = true
  each : ∀ job ∈ jobs.zipIdx, engine.WholeRun configuration cancelled job.1 (inner job.2)

theorem runManyBy_eq_mapM (workers : engine.hasWorkers = true) {jobs : List Job}
    {inner : Nat → List Move} (leaves : ∀ job ∈ jobs, engine.LeavesRunning configuration job)
    (whole : engine.WholeRuns configuration cancelled jobs moves inner)
    {loaded : Rule.LoadResult} (discovered : engine.discover configuration = .ok loaded) :
    engine.runManyBy moves inner configuration cancelled jobs =
      jobs.mapM (engine.run configuration cancelled) := by
  have same : ∀ job ∈ jobs.zipIdx, engine.runBy (inner job.2) configuration cancelled job.1 =
      engine.run configuration cancelled job.1 := by
    intro job member
    have inside : job.1 ∈ jobs := List.fst_mem_of_mem_zipIdx member
    rw [run_eq_runUnpooled workers,
      runBy_eq_runUnpooled workers (leaves _ inside) (whole.each _ member)]
  have scheduled : runScheduled (fun job : Job × Nat =>
        engine.runBy (inner job.2) configuration cancelled job.1) true jobs.zipIdx false moves =
      runInTurn _ (fun _ => false) false jobs.zipIdx :=
    runScheduled_eq_runInTurn whole.quiet (fun _ _ => rfl) false whole.done
  unfold runManyBy
  rw [discovered]
  dsimp only [bind, Except.bind]
  rw [if_pos workers, scheduled, runInTurn_uncancelled fun _ _ => rfl, List.map_congr_left same,
    List.mapM_map]
  conv_rhs => rw [← List.zipIdx_map_fst 0 jobs, List.mapM_map]
  rfl

/-- Where a pool has workers and no rule cancels the run, neither a pool for the rules of one file
nor one for several files shows: whatever the order in which the workers start and finish their
pieces, the rules tell what they tell in turn, and the files what each of them tells by itself.
Where there are no files it has to be known that the rules can be loaded. -/
theorem runs_hide_schedules (engine : Engine) (configuration : Configuration) (cancelled : Bool)
    (workers : engine.hasWorkers = true) :
    (∀ job moves, engine.LeavesRunning configuration job →
      engine.WholeRun configuration cancelled job moves →
      engine.runBy moves configuration cancelled job =
        engine.inTurn.run configuration cancelled job) ∧
    ∀ jobs moves inner, (∀ job ∈ jobs, engine.LeavesRunning configuration job) →
      engine.WholeRuns configuration cancelled jobs moves inner →
      (jobs = [] → ∃ loaded, engine.discover configuration = .ok loaded) →
      engine.runManyBy moves inner configuration cancelled jobs =
        jobs.mapM (engine.run configuration cancelled) ∧
      engine.runMany configuration cancelled jobs =
        jobs.mapM (engine.run configuration cancelled) := by
  refine ⟨fun job moves leaves whole => ?_, fun jobs moves inner leaves whole loads => ?_⟩
  · rw [runBy_eq_runUnpooled workers leaves whole, inTurn_run]
  · cases discovered : engine.discover configuration with
    | ok loaded =>
        refine ⟨runManyBy_eq_mapM workers leaves whole discovered, ?_⟩
        unfold runMany
        rw [discovered]
        dsimp only [bind, Except.bind]
        rw [if_pos workers, runJobs_eq_mapM workers leaves]
    | error fault =>
        cases jobs with
        | nil =>
            obtain ⟨loaded, found⟩ := loads rfl
            exact nomatch discovered.symm.trans found
        | cons job rest =>
            -- One run for all fails at once, and file by file it is the first one that fails.
            have failed : engine.run configuration cancelled job = .error fault := by
              unfold run
              rw [discovered]
              rfl
            unfold runManyBy runMany
            rw [discovered, List.mapM_cons, failed]
            exact ⟨rfl, rfl⟩

/-- The rule may share a pool. -/
def reentrant (entry : Rule.Entry) : Rule.Entry :=
  { entry with descriptor := { entry.descriptor with reentrant := true } }

def sharingEngine : Engine :=
  { talkingEngine with
    registry := ⟨[reentrant loudEntry, reentrant talkingEntry]⟩
    options := { parallelRules := true } }

theorem sharingEngine_active (options : Options) :
    ({ sharingEngine with options := options } : Engine).registry.select {} [] =
      [reentrant loudEntry, reentrant talkingEntry] := by
  have apart : (reentrant talkingEntry).key ≠ (reentrant loudEntry).key := by decide +kernel
  simp [Rule.Registry.select, Rule.Registry.candidates, Rule.Registry.builtin,
    Rule.Registry.custom, Rule.Registry.firstOfEach, Rule.Entry.matchesAny, Configuration.allows,
    sharingEngine, Rule.Descriptor.isBuiltin, reentrant, loudEntry, talkingEntry,
    plainEntry] at apart ⊢
  exact apart

/-- The second of two pieces is run to its end before the first one is started. -/
def crossedMoves : List Move :=
  [.check, .submit, .check, .submit, .start 1, .finish 1, .start 0, .finish 0]

theorem crossedMoves_done {Piece Outcome : Type} (run : Piece → Outcome) (first second : Piece) :
    (Ledger.after run true [first, second] false crossedMoves).isDone 2 = true := by
  simp [Ledger.after, crossedMoves, Ledger.step, Ledger.take, Ledger.isTaken, Ledger.isBack,
    Ledger.isDone, Ledger.allBack, List.range_succ]

theorem sharingEngine_leaves : sharingEngine.LeavesRunning {} emptyJob := by
  intro loaded discovered entry member
  cases discovered
  rw [show ({} : Rule.LoadResult).entries = [] from rfl, sharingEngine_active] at member
  rcases List.mem_cons.mp member with rfl | member
  · rfl
  · rw [List.mem_singleton.mp member]
    rfl

theorem sharingEngine_whole : sharingEngine.WholeRun {} false emptyJob crossedMoves := by
  refine ⟨by decide, fun loaded discovered => ?_⟩
  cases discovered
  rw [show ({} : Rule.LoadResult).entries = [] from rfl, sharingEngine_active]
  exact crossedMoves_done _ _ _

theorem sharingEngine_wholes :
    sharingEngine.WholeRuns {} false [emptyJob, emptyJob] crossedMoves fun _ => crossedMoves := by
  refine ⟨by decide, crossedMoves_done _ _ _, fun job member => ?_⟩
  have same : job.1 = emptyJob := by simpa using List.fst_mem_of_mem_zipIdx member
  rw [same]
  exact sharingEngine_whole

theorem sharingEngine_turns : sharingEngine.inTurn.RunsInTurn {} emptyJob {} := by
  refine ⟨rfl, by simp [isPooled, inTurn], ?_⟩
  exact sharingEngine_leaves {} rfl

theorem sharingEngine_settled : Settled {} emptyJob (sharingEngine.inTurn.told {} emptyJob
    (sharingEngine.inTurn.registry.select {} ({} : Rule.LoadResult).entries)) := by
  refine ⟨?_, fun _ _ _ given => nomatch given⟩
  rw [inTurn, sharingEngine_active]
  rfl

theorem crossedMoves_hidden : ∃ record,
    sharingEngine.runBy crossedMoves {} false emptyJob = .ok record ∧
    sharingEngine.inTurn.run {} false emptyJob = .ok record ∧
    record.result.ruleNames = ["Loud", "Talking"] ∧
    sharingEngine.runManyBy crossedMoves (fun _ => crossedMoves) {} false [emptyJob, emptyJob] =
      .ok [record, record] := by
  obtain ⟨one, many⟩ := runs_hide_schedules sharingEngine {} false rfl
  have hidden := one emptyJob crossedMoves sharingEngine_leaves sharingEngine_whole
  obtain ⟨record, ran, accounts⟩ := run_settled sharingEngine_turns sharingEngine_settled
  have names := accounts.ruleNames
  rw [inTurn, sharingEngine_active] at names
  have alone : sharingEngine.run {} false emptyJob = .ok record := by
    rw [run_eq_runUnpooled rfl, ← inTurn_run, ran]
  have files := (many [emptyJob, emptyJob] crossedMoves (fun _ => crossedMoves)
    (by simp [sharingEngine_leaves]) sharingEngine_wholes nofun).1
  refine ⟨record, hidden.trans ran, ran, names, files.trans ?_⟩
  rw [List.mapM_cons, List.mapM_cons, alone]
  rfl

def workerless : Engine :=
  { sharingEngine with options := { maxWorkers := some 0, parallelRules := true } }

def homeless : Configuration :=
  { customRulePaths := ["~nobody"] }

/-- A pool that may have no worker fails where the same rules, none of which cancels, have a result
in turn.  A run over no files fails where the rules cannot be loaded. -/
theorem workerless_fails :
    (workerless.LeavesRunning {} emptyJob ∧
      (∃ record, workerless.inTurn.run {} false emptyJob = .ok record) ∧
      workerless.run {} false emptyJob = .error .noWorkers ∧
      ∀ moves, workerless.runBy moves {} false emptyJob = .error .noWorkers) ∧
    sharingEngine.runMany homeless false [] = .error (.load .noHome) ∧
      ([] : List Job).mapM (sharingEngine.run homeless false) = .ok [] := by
  have active : workerless.registry.select {} ({} : Rule.LoadResult).entries = _ :=
    sharingEngine_active _
  have pooled : workerless.isPooled [reentrant loudEntry, reentrant talkingEntry] = true := rfl
  have discovered : workerless.discover {} = .ok {} := rfl
  have missing : sharingEngine.discover homeless = .error (.load .noHome) := by
    have part : Files.IsPart "~nobody" := by unfold Files.IsPart; decide +kernel
    have foreign := Rule.expandModulePath_foreign sharingEngine.tree part (by decide +kernel)
      (by decide)
    simp [discover, homeless, Rule.load, Rule.loadEach, Rule.loadPath, Rule.moduleFiles, foreign,
      bind, Except.bind, Except.mapError]
  refine ⟨⟨sharingEngine_leaves, ?_, ?_, fun moves => ?_⟩, ?_, rfl⟩
  · obtain ⟨record, ran, -⟩ := run_settled sharingEngine_turns sharingEngine_settled
    exact ⟨record, ran⟩
  · rw [run_discovered discovered, active, pooled]
    rfl
  · rw [runBy_discovered discovered, active, pooled]
    rfl
  · unfold runMany
    rw [missing]
    rfl

end Engine
end ScriptAudit.Analysis
