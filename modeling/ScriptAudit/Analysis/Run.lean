import ScriptAudit.Analysis.Pool
import ScriptAudit.Analysis.Result
import ScriptAudit.Rule.Loader
import ScriptAudit.Rule.Registry
import ScriptAudit.Suppression.Matcher
import ScriptAudit.Syntax.File

namespace ScriptAudit.Analysis

/-! Running the active rules over syntax trees.

A rule that fails leaves a warning, and the other rules still run.  A failure that cannot be told
leaves none, and the run has no result then. -/

open Files Settings

/-- `maxWorkers` is the size of a pool when it is given; rules of one file share a pool when
`parallelRules` holds and all of them are reentrant. -/
structure Options where
  maxWorkers : Option Int := none
  parallelRules : Bool := false

/-- What the analysis of every file needs.  `parseModule` reads the content of a rule module. -/
structure Engine where
  registry : Rule.Registry
  tree : FileTree
  parseModule : ByteArray → Rule.Module
  modulePattern : String := "*.py"
  options : Options := {}
  aliases : List (String × String) := []

/-- One file to analyze. -/
structure Job where
  tree : Syntax.Node
  path : String
  suppressions : Option Suppression.Matcher := none
  tokens : List Syntax.Token := []

/-- What one rule did.  A rule that failed while it ran did run; `untold` is a failure of which
there is no warning. -/
structure Outcome where
  rule : String
  diagnostics : List Diagnostic := []
  warnings : List Warning
  ran : Bool
  observations : List Rule.Observation := []
  cancels : Bool := false
  untold : Option Fault.Failure := none

/-- Why a run has no result. -/
inductive RunFault where
  | problem (problem : Problem)
  | load (fault : Rule.LoadFault)
  | noWorkers
  | untold (failure : Fault.Failure)
  | refused (refusal : Pattern.Refusal)

def noWorkersMessage : String := "max_workers must be greater than 0"

/-- The result of one file, what its rules observed, and whether the run is cancelled. -/
structure Record where
  result : Result
  observations : List Rule.Observation
  cancelled : Bool

namespace Engine

def discover (engine : Engine) (configuration : Configuration) :
    Except RunFault Rule.LoadResult :=
  (Rule.load engine.tree engine.parseModule engine.modulePattern
    configuration.recurseCustomRulePath configuration.customRulePaths).mapError .load

def activeRules (engine : Engine) (configuration : Configuration) :
    Except RunFault (List Rule.Entry) := do
  let loaded ← engine.discover configuration
  return engine.registry.select configuration loaded.entries

/-- The warning of a rule that fails, when the failure can be told. -/
def failureWarnings (name path : String) (failure : Option Fault.Failure) : List Warning :=
  (failure.bind Fault.Failure.told?).toList.map (Warning.ofFailure name path)

/-- A failure that cannot be told. -/
def untold? (failure : Option Fault.Failure) : Option Fault.Failure :=
  failure.filter (·.told?.isNone)

/-- Runs a rule that has been made. -/
def runMade (engine : Engine) (configuration : Configuration) (job : Job) (name : String)
    (given : List (String × Value)) (rule : Rule) : Outcome :=
  let configured := rule.configure rule.defaults given
  let unknown := configured.2.map (Warning.ofUnknownArgument name job.path)
  if rule.isEnabled configured.1 then
    let report := rule.analyze ⟨job.tree, job.path, configuration, given, configured.1,
      engine.aliases, job.tokens⟩
    let failure := match report.diagnostics with
      | .ok _ => none
      | .error failure => some failure
    { rule := name
      diagnostics := match report.diagnostics with
        | .ok found => found
        | .error _ => []
      warnings := unknown ++ failureWarnings name job.path failure ++
        report.warnings.map (Warning.ofRule name job.path)
      ran := true
      observations := report.observations
      cancels := report.cancels
      untold := untold? failure }
  else { rule := name, warnings := unknown, ran := false }

def runRule (engine : Engine) (configuration : Configuration) (job : Job) (entry : Rule.Entry) :
    Outcome :=
  let name := entry.descriptor.name
  match entry.factory.make with
  | .error failure =>
      { rule := name
        warnings := failureWarnings name job.path (some failure)
        ran := false
        untold := untold? (some failure) }
  | .ok rule =>
      engine.runMade configuration job name
        (configuration.argumentsFor name entry.descriptor.qualifiedName) rule

/-- The rules of one file share a pool. -/
def isPooled (engine : Engine) (entries : List Rule.Entry) : Bool :=
  engine.options.parallelRules && 1 < entries.length &&
    entries.all fun entry => entry.descriptor.reentrant

def hasWorkers (engine : Engine) : Bool :=
  engine.options.maxWorkers.all (0 < ·)

def loadWarnings (loaded : Rule.LoadResult) : List Warning :=
  loaded.failures.map fun failure =>
    ⟨.loadFailure, "Cannot load custom rules: " ++ failure.describe, "", failure.path⟩

/-- The names without those that came before. -/
def distinctNames (names : List String) : List String :=
  names.foldl (fun kept name => if kept.contains name then kept else kept ++ [name]) []

/-- The diagnostics that the suppressions of a file leave, and those that they take away. -/
def split (job : Job) (found : List Diagnostic) :
    Except RunFault (List Diagnostic × List Diagnostic) :=
  match job.suppressions with
  | some matcher => (matcher.filter found).mapError .refused
  | none => .ok (found, [])

/-- What rules found that has a severity which is allowed. -/
def allowedFrom (configuration : Configuration) (outcomes : List Outcome) : List Diagnostic :=
  (outcomes.flatMap Outcome.diagnostics).filter fun diagnostic =>
    configuration.allows diagnostic.severity

/-- The record of a run whose diagnostics are kept or suppressed as the lists have them. -/
def recordOf (job : Job) (loaded : Rule.LoadResult) (progress : Progress Outcome)
    (lists : List Diagnostic × List Diagnostic) : Record :=
  let ran := (progress.outcomes.filter Outcome.ran).map Outcome.rule
  { result := {
      path := job.path
      diagnostics := lists.1
      suppressed := lists.2
      warnings := loadWarnings loaded ++ progress.outcomes.flatMap Outcome.warnings
      ruleNames := ran
      times := (distinctNames ran).map fun name =>
        (name, .finite false 0 Number.Binary64.leastExponent)
      cancelled := progress.stopped }
    observations := progress.outcomes.flatMap Outcome.observations
    cancelled := progress.cancelled }

/-- Puts together what the rules of one file did.  The first failure that cannot be told ends the
run; in turn the rules behind it do not run, which nothing shows. -/
def collect (configuration : Configuration) (job : Job) (loaded : Rule.LoadResult)
    (progress : Progress Outcome) : Except RunFault Record :=
  match progress.outcomes.findSome? Outcome.untold with
  | some failure => .error (.untold failure)
  | none =>
      (split job (allowedFrom configuration progress.outcomes)).map (recordOf job loaded progress)

/-- Runs every active rule over one file when these are the moves of the run, with rules that share
a pool or are run in turn; `cancelled` says whether the run is cancelled already. -/
def runBy (engine : Engine) (moves : List Move) (configuration : Configuration) (cancelled : Bool)
    (job : Job) : Except RunFault Record := do
  let loaded ← engine.discover configuration
  let entries := engine.registry.select configuration loaded.entries
  let pooled := engine.isPooled entries
  if pooled && !engine.hasWorkers then .error .noWorkers
  else
    collect configuration job loaded
      (runScheduled (engine.runRule configuration job) pooled entries cancelled moves)

/-- Runs every active rule over one file, one after the other. -/
def run (engine : Engine) (configuration : Configuration) (cancelled : Bool) (job : Job) :
    Except RunFault Record := do
  let loaded ← engine.discover configuration
  let entries := engine.registry.select configuration loaded.entries
  let runRule := engine.runRule configuration job
  if engine.isPooled entries then
    if engine.hasWorkers then
      let moves := eagerMoves runRule Outcome.cancels 0 entries
      collect configuration job loaded (runScheduled runRule true entries cancelled moves)
    else .error .noWorkers
  else
    collect configuration job loaded (runInTurn runRule Outcome.cancels cancelled entries)

/-- Runs the files one after the other. -/
def runJobs (engine : Engine) (configuration : Configuration) :
    (cancelled : Bool) → List Job → Except RunFault (List Record)
  | _, [] => .ok []
  | cancelled, job :: rest => do
      let record ← engine.run configuration cancelled job
      let later ← engine.runJobs configuration record.cancelled rest
      return record :: later

/-- Runs several files in a pool; the results keep the order of the files. -/
def runMany (engine : Engine) (configuration : Configuration) (cancelled : Bool)
    (jobs : List Job) : Except RunFault (List Record) := do
  let _ ← engine.discover configuration
  if engine.hasWorkers then engine.runJobs configuration cancelled jobs else .error .noWorkers

/-- Runs several files in a pool whose moves are these; the rules of each file have moves of their
own.  The pool is not cancelled, only the runs of the files are. -/
def runManyBy (engine : Engine) (moves : List Move) (inner : Nat → List Move)
    (configuration : Configuration) (cancelled : Bool) (jobs : List Job) :
    Except RunFault (List Record) := do
  let _ ← engine.discover configuration
  if engine.hasWorkers then
    let runJob (job : Job × Nat) := engine.runBy (inner job.2) configuration cancelled job.1
    (runScheduled runJob true jobs.zipIdx false moves).outcomes.mapM id
  else .error .noWorkers

/-- Runs over what has been parsed; syntax errors stop the analysis. -/
def runParsed (engine : Engine) (configuration : Configuration) (cancelled : Bool)
    (suppressions : Option Suppression.Matcher) (path : String) (parsed : Syntax.ParseResult) :
    Except RunFault Record :=
  match parsed.issues with
  | first :: others => .error (.problem (.fault (Fault.ofIssues path first others)))
  | [] => engine.run configuration cancelled ⟨parsed.tree, path, suppressions, parsed.tokens⟩

def analyzeText (engine : Engine) (configuration : Configuration) (cancelled : Bool)
    (suppressions : Option Suppression.Matcher) (text : String) : Except RunFault Record := do
  let parsed ← (Syntax.parseText text "").mapError fun fault => .problem (.fault fault)
  engine.runParsed configuration cancelled suppressions "" parsed

def analyzeFile (engine : Engine) (configuration : Configuration) (cancelled : Bool)
    (suppressions : Option Suppression.Matcher) (path : String) : Except RunFault Record := do
  let parsed ← (Syntax.parseFile engine.tree path).mapError .problem
  engine.runParsed configuration cancelled suppressions path parsed

end Engine
end ScriptAudit.Analysis
