import ScriptAudit.Analysis.Run
import ScriptAudit.Proofs.Fault.Ends
import ScriptAudit.Proofs.Rule.Selection
import ScriptAudit.Proofs.Suppression.Filter

namespace ScriptAudit.Analysis

/-! What a run in turn tells of each rule.

The result of a run is put together from what each active rule came to.  A rule that fails leaves no
mark on what is told of the others.  There is no result where a failure cannot be told, and none
where a suppression that is tried has no answer. -/

open Settings

/-- What a rule comes to.  It may fail before it is made or while it looks at the tree, and then
what it found is lost but not what it said. -/
inductive Conduct where
  | notMade (failure : Fault.Failure)
  | disabled (unknown : List String)
  | finished (unknown : List String) (found : List Diagnostic) (said : List String)
  | failed (unknown : List String) (failure : Fault.Failure) (said : List String)

namespace Conduct

def found : Conduct → List Diagnostic
  | finished _ found _ => found
  | notMade _ | disabled _ | failed .. => []

def unknown : Conduct → List String
  | notMade _ => []
  | disabled unknown | finished unknown _ _ | failed unknown _ _ => unknown

def failure? : Conduct → Option Fault.Failure
  | notMade failure | failed _ failure _ => some failure
  | disabled _ | finished .. => none

def said : Conduct → List String
  | finished _ _ said | failed _ _ said => said
  | notMade _ | disabled _ => []

/-- The rule began to look at the tree. -/
def entered : Conduct → Bool
  | finished .. | failed .. => true
  | notMade _ | disabled _ => false

/-- The failure of the rule, if it cannot be told. -/
def untold? (conduct : Conduct) : Option Fault.Failure :=
  Engine.untold? conduct.failure?

def warnings (rule path : String) (conduct : Conduct) : List Warning :=
  conduct.unknown.map (Warning.ofUnknownArgument rule path) ++
    Engine.failureWarnings rule path conduct.failure? ++
    conduct.said.map (Warning.ofRule rule path)

/-- Among the warnings of a rule the failures are told by their kind. -/
theorem warnings_failures (rule path : String) (conduct : Conduct) :
    (conduct.warnings rule path).filter (·.kind = .ruleFailure) =
      Engine.failureWarnings rule path conduct.failure? := by
  have unknown : (conduct.unknown.map (Warning.ofUnknownArgument rule path)).filter
      (·.kind = .ruleFailure) = [] := by
    simp [List.filter_map, Function.comp_def, Warning.ofUnknownArgument]
  have said : (conduct.said.map (Warning.ofRule rule path)).filter
      (·.kind = .ruleFailure) = [] := by
    simp [List.filter_map, Function.comp_def, Warning.ofRule]
  have failures : (Engine.failureWarnings rule path conduct.failure?).filter
      (·.kind = .ruleFailure) = Engine.failureWarnings rule path conduct.failure? := by
    apply List.filter_eq_self.mpr
    intro warning member
    obtain ⟨failure, -, rfl⟩ := List.mem_map.mp member
    rfl
  rw [warnings, List.filter_append, List.filter_append, unknown, said, failures, List.nil_append,
    List.append_nil]

theorem untold?_eq_none {conduct : Conduct} {failure : Fault.Failure}
    (failed : conduct.failure? = some failure) (tells : failure.told?.isSome) :
    conduct.untold? = none := by
  obtain ⟨text, tells⟩ := Option.isSome_iff_exists.mp tells
  simp [untold?, Engine.untold?, failed, tells]

/-- A rule whose failure can be told has one warning of it. -/
theorem failureWarnings_of_told {conduct : Conduct} (told : conduct.untold? = none)
    {failure : Fault.Failure} (failed : conduct.failure? = some failure) (rule path : String) :
    ∃ text, failure.told? = some text ∧
      Engine.failureWarnings rule path conduct.failure? = [.ofFailure rule path text] := by
  rw [untold?, Engine.untold?, failed, Option.filter_some_eq_none] at told
  cases tells : failure.told? with
  | none => exact absurd (by rw [tells]; rfl) told
  | some text => exact ⟨text, rfl, by simp [Engine.failureWarnings, failed, tells]⟩

end Conduct

namespace Engine

variable {engine : Engine} {configuration : Configuration} {job : Job} {entry : Rule.Entry}

def conductOf (engine : Engine) (configuration : Configuration) (job : Job) (entry : Rule.Entry) :
    Conduct :=
  match entry.factory.make with
  | .error failure => .notMade failure
  | .ok rule =>
      let given := configuration.argumentsFor entry.descriptor.name entry.descriptor.qualifiedName
      let configured := rule.configure rule.defaults given
      if rule.isEnabled configured.1 then
        let report := rule.analyze ⟨job.tree, job.path, configuration, given, configured.1,
          engine.aliases, job.tokens⟩
        match report.diagnostics with
        | .ok found => .finished configured.2 found report.warnings
        | .error failure => .failed configured.2 failure report.warnings
      else .disabled configured.2

theorem runRule_conduct (engine : Engine) (configuration : Configuration) (job : Job)
    (entry : Rule.Entry) :
    let outcome := engine.runRule configuration job entry
    let conduct := engine.conductOf configuration job entry
    outcome.rule = entry.descriptor.name ∧ outcome.diagnostics = conduct.found ∧
      outcome.warnings = conduct.warnings entry.descriptor.name job.path ∧
      outcome.ran = conduct.entered ∧ outcome.untold = conduct.untold? := by
  unfold runRule conductOf
  dsimp only
  cases entry.factory.make with
  | error failure => exact ⟨rfl, rfl, (List.append_nil _).symm, rfl, rfl⟩
  | ok rule =>
      dsimp only
      unfold runMade
      dsimp only
      split
      · generalize rule.analyze _ = report
        cases found : report.diagnostics <;>
          simp [Conduct.found, Conduct.warnings, Conduct.unknown, Conduct.failure?,
            Conduct.said, Conduct.entered, Conduct.untold?]
      · simp [Conduct.found, Conduct.warnings, Conduct.unknown, Conduct.failure?, Conduct.said,
          Conduct.entered, Conduct.untold?, failureWarnings, untold?]

end Engine

theorem runInTurn_uncancelled {Piece Outcome : Type} {run : Piece → Outcome}
    {cancels : Outcome → Bool} {pieces : List Piece}
    (never : ∀ piece ∈ pieces, cancels (run piece) = false) :
    runInTurn run cancels false pieces = ⟨pieces.map run, false, false⟩ := by
  induction pieces with
  | nil => rfl
  | cons piece rest ih =>
      obtain ⟨first, later⟩ := List.forall_mem_cons.mp never
      rw [runInTurn, first, ih later, List.map_cons]

/-- The diagnostic is suppressed. -/
def Job.hides (job : Job) (diagnostic : Diagnostic) : Bool :=
  job.suppressions.any (·.suppresses diagnostic = .ok true)

/-- Every suppression of the file that is tried for the diagnostic has an answer. -/
def Job.Answers (job : Job) (diagnostic : Diagnostic) : Prop :=
  ∀ matcher ∈ job.suppressions, matcher.Answers diagnostic

theorem Engine.split_eq_ok_iff {job : Job} {found : List Diagnostic}
    {lists : List Diagnostic × List Diagnostic} : Engine.split job found = .ok lists ↔
      (∀ diagnostic ∈ found, job.Answers diagnostic) ∧
        lists = (found.filter (!job.hides ·), found.filter job.hides) := by
  unfold Engine.split Job.hides Job.Answers
  cases job.suppressions with
  | none => simp [eq_comm]
  | some matcher =>
      have mapped : (matcher.filter found).mapError RunFault.refused = .ok lists ↔
          matcher.filter found = .ok lists := by
        cases matcher.filter found <;> simp [Except.mapError]
      dsimp only
      rw [mapped, Suppression.Matcher.filter_eq_ok_iff, Prod.ext_iff]
      simp only [Option.mem_some_iff, forall_eq', Option.any_some, decide_not]

theorem Engine.split_error {job : Job} {found : List Diagnostic} {fault : RunFault}
    (divided : Engine.split job found = .error fault) : ∃ refusal, fault = .refused refusal := by
  unfold Engine.split at divided
  cases given : job.suppressions with
  | none =>
      rw [given] at divided
      cases divided
  | some matcher =>
      rw [given] at divided
      obtain ⟨refusal, -, rfl⟩ := mapError_eq_error divided
      exact ⟨refusal, rfl⟩

/-- What rules found that has a severity which is allowed. -/
def allowedAmong (configuration : Configuration) (told : List (String × Conduct)) :
    List Diagnostic :=
  (told.flatMap (·.2.found)).filter (configuration.allows ·.severity)

def shown (configuration : Configuration) (job : Job) (told : List (String × Conduct)) :
    List Diagnostic :=
  (allowedAmong configuration told).filter (!job.hides ·)

def hidden (configuration : Configuration) (job : Job) (told : List (String × Conduct)) :
    List Diagnostic :=
  (allowedAmong configuration told).filter job.hides

def warningsAmong (job : Job) (told : List (String × Conduct)) : List Warning :=
  told.flatMap fun rule => rule.2.warnings rule.1 job.path

/-- The first failure among these rules that cannot be told. -/
def firstUntold? (told : List (String × Conduct)) : Option Fault.Failure :=
  told.findSome? (·.2.untold?)

/-- The failures of these rules can be told, and the suppressions that are tried for what the rules
found have an answer. -/
structure Settled (configuration : Configuration) (job : Job) (told : List (String × Conduct)) :
    Prop where
  tells : firstUntold? told = none
  answered : ∀ diagnostic ∈ allowedAmong configuration told, job.Answers diagnostic

/-- What keeps a run from having a result when its rules came to this. -/
inductive Unsettles (configuration : Configuration) (job : Job) (told : List (String × Conduct)) :
    RunFault → Prop where
  | untold {failure : Fault.Failure} (first : firstUntold? told = some failure) :
      Unsettles configuration job told (.untold failure)
  | refused {refusal : Pattern.Refusal} (tells : firstUntold? told = none)
      (unanswered : ∃ diagnostic ∈ allowedAmong configuration told, ¬ job.Answers diagnostic) :
      Unsettles configuration job told (.refused refusal)

theorem mem_allowedAmong {configuration : Configuration} {told : List (String × Conduct)}
    {diagnostic : Diagnostic} : diagnostic ∈ allowedAmong configuration told ↔
      (∃ rule ∈ told, diagnostic ∈ rule.2.found) ∧
        configuration.allows diagnostic.severity = true := by
  rw [allowedAmong, List.mem_filter, List.mem_flatMap]

/-- A rule that fails in the place of another one, and whose failure can be told, leaves things
settled. -/
theorem Settled.replace {configuration : Configuration} {job : Job}
    {before after : List (String × Conduct)} {rule failing : String × Conduct}
    (settled : Settled configuration job (before ++ rule :: after))
    (tells : failing.2.untold? = none) (lost : failing.2.found = []) :
    Settled configuration job (before ++ failing :: after) := by
  constructor
  · rw [firstUntold?, List.findSome?_eq_none_iff, List.forall_mem_append, List.forall_mem_cons]
    have others := List.findSome?_eq_none_iff.mp settled.tells
    rw [List.forall_mem_append, List.forall_mem_cons] at others
    exact ⟨others.1, tells, others.2.2⟩
  · intro diagnostic member
    obtain ⟨⟨source, place, found⟩, allowed⟩ := mem_allowedAmong.mp member
    refine settled.answered diagnostic (mem_allowedAmong.mpr ⟨⟨source, ?_, found⟩, allowed⟩)
    rcases List.mem_append.mp place with early | late
    · exact List.mem_append_left _ early
    · rcases List.mem_cons.mp late with rfl | late
      · rw [lost] at found
        cases found
      · exact List.mem_append_right _ (List.mem_cons_of_mem _ late)

theorem Unsettles.not_settled {configuration : Configuration} {job : Job}
    {told : List (String × Conduct)} {fault : RunFault}
    (unsettles : Unsettles configuration job told fault) : ¬ Settled configuration job told := by
  rintro ⟨tells, answered⟩
  cases unsettles with
  | untold first => cases tells.symm.trans first
  | refused _ unanswered =>
      obtain ⟨diagnostic, member, none⟩ := unanswered
      exact none (answered diagnostic member)

/-- The result of a run, told by what each active rule came to. -/
structure Accounts (configuration : Configuration) (job : Job) (loaded : Rule.LoadResult)
    (told : List (String × Conduct)) (result : Result) : Prop where
  diagnostics : result.diagnostics = shown configuration job told
  suppressed : result.suppressed = hidden configuration job told
  warnings : result.warnings = Engine.loadWarnings loaded ++ warningsAmong job told
  failures : result.warnings.filter (·.kind = .ruleFailure) = told.flatMap fun rule =>
    Engine.failureWarnings rule.1 job.path rule.2.failure?
  failed : ∀ rule ∈ told, ∀ failure, rule.2.failure? = some failure →
    ∃ text, failure.told? = some text ∧
      Engine.failureWarnings rule.1 job.path rule.2.failure? = [.ofFailure rule.1 job.path text]
  ruleNames : result.ruleNames = (told.filter (·.2.entered)).map Prod.fst

namespace Engine

variable {engine : Engine} {configuration : Configuration} {job : Job}
variable {loaded : Rule.LoadResult}

/-- The rules are run one after the other, and none of them cancels the run. -/
structure RunsInTurn (engine : Engine) (configuration : Configuration) (job : Job)
    (loaded : Rule.LoadResult) : Prop where
  discovered : engine.discover configuration = .ok loaded
  unpooled : engine.isPooled (engine.registry.select configuration loaded.entries) = false
  uncancelled : ∀ entry ∈ engine.registry.select configuration loaded.entries,
    (engine.runRule configuration job entry).cancels = false

/-- The names of rules with what they came to. -/
def told (engine : Engine) (configuration : Configuration) (job : Job)
    (entries : List Rule.Entry) : List (String × Conduct) :=
  entries.map fun entry => (entry.descriptor.name, engine.conductOf configuration job entry)

theorem run_eq_collect (turns : engine.RunsInTurn configuration job loaded) :
    engine.run configuration false job = collect configuration job loaded
      ⟨(engine.registry.select configuration loaded.entries).map
        (engine.runRule configuration job), false, false⟩ := by
  unfold run
  rw [turns.discovered]
  dsimp only [bind, Except.bind]
  rw [if_neg (by rw [turns.unpooled]; exact Bool.false_ne_true),
    runInTurn_uncancelled turns.uncancelled]

theorem loadWarnings_failures (loaded : Rule.LoadResult) :
    (loadWarnings loaded).filter (·.kind = .ruleFailure) = [] := by
  simp [loadWarnings, List.filter_map, Function.comp_def]

/-- The record of a run tells what the rules came to. -/
theorem recordOf_accounts {entries : List Rule.Entry} (stopped cancelled : Bool)
    (settled : Settled configuration job (engine.told configuration job entries)) :
    let told := engine.told configuration job entries
    Accounts configuration job loaded told
      (recordOf job loaded ⟨entries.map (engine.runRule configuration job), stopped, cancelled⟩
        (shown configuration job told, hidden configuration job told)).result := by
  intro told
  have warned : (entries.map (engine.runRule configuration job)).flatMap Outcome.warnings =
      warningsAmong job told := by
    simp only [warningsAmong, told, Engine.told, List.flatMap_map,
      (engine.runRule_conduct configuration job _).2.2.1]
  have ran : ((entries.map (engine.runRule configuration job)).filter Outcome.ran).map
        Outcome.rule = (told.filter (·.2.entered)).map Prod.fst := by
    simp only [told, Engine.told, List.filter_map, List.map_map, Function.comp_def,
      (engine.runRule_conduct configuration job _).1,
      (engine.runRule_conduct configuration job _).2.2.2.1]
  have failures : (warningsAmong job told).filter (·.kind = .ruleFailure) =
      told.flatMap fun rule => failureWarnings rule.1 job.path rule.2.failure? := by
    simp only [warningsAmong, List.filter_flatMap, Conduct.warnings_failures]
  constructor
  · rfl
  · rfl
  · exact congrArg (loadWarnings loaded ++ ·) warned
  · simp only [recordOf, warned, List.filter_append, loadWarnings_failures, List.nil_append,
      failures]
  · intro rule member failure failed
    have tells : rule.2.untold? = none := List.findSome?_eq_none_iff.mp settled.tells rule member
    exact Conduct.failureWarnings_of_told tells failed rule.1 job.path
  · exact ran

/-- Putting together what rules came to. -/
theorem collect_told (entries : List Rule.Entry) (stopped cancelled : Bool) :
    let progress : Progress Outcome :=
      ⟨entries.map (engine.runRule configuration job), stopped, cancelled⟩
    let told := engine.told configuration job entries
    collect configuration job loaded progress =
      match firstUntold? told with
      | some failure => .error (.untold failure)
      | none => (split job (allowedAmong configuration told)).map
          (recordOf job loaded progress) := by
  intro progress told
  have untold : progress.outcomes.findSome? Outcome.untold = firstUntold? told := by
    simp only [progress, firstUntold?, told, Engine.told, List.findSome?_map, Function.comp_def,
      (engine.runRule_conduct configuration job _).2.2.2.2]
  have found : allowedFrom configuration progress.outcomes = allowedAmong configuration told := by
    simp only [progress, allowedFrom, allowedAmong, told, Engine.told, List.flatMap_map,
      (engine.runRule_conduct configuration job _).2.1]
  rewrite [collect, untold, found]
  rfl

/-- Putting together ends without a result, or with a record of what the rules came to. -/
theorem collect_cases (engine : Engine) (configuration : Configuration) (job : Job)
    (loaded : Rule.LoadResult) (entries : List Rule.Entry) (stopped cancelled : Bool) :
    let told := engine.told configuration job entries
    let collected := collect configuration job loaded
      ⟨entries.map (engine.runRule configuration job), stopped, cancelled⟩
    (∃ fault, collected = .error fault ∧ Unsettles configuration job told fault) ∨
    (Settled configuration job told ∧ ∃ record, collected = .ok record ∧
      Accounts configuration job loaded told record.result ∧
      record.result.cancelled = stopped) := by
  intro told collected
  have collected_eq : collected = _ := collect_told entries stopped cancelled
  rw [collected_eq]
  cases first : firstUntold? told with
  | some failure => exact .inl ⟨_, rfl, .untold first⟩
  | none =>
      dsimp only
      cases divided : split job (allowedAmong configuration told) with
      | error fault =>
          left
          obtain ⟨refusal, rfl⟩ := split_error divided
          refine ⟨_, rfl, .refused first ?_⟩
          by_contra answered
          push Not at answered
          cases divided.symm.trans (split_eq_ok_iff.mpr ⟨answered, rfl⟩)
      | ok lists =>
          right
          obtain ⟨answered, rfl⟩ := split_eq_ok_iff.mp divided
          exact ⟨⟨first, answered⟩, _, rfl, recordOf_accounts _ _ ⟨first, answered⟩, rfl⟩

theorem collect_cancelled {progress : Progress Outcome} {record : Record}
    (collected : collect configuration job loaded progress = .ok record) :
    record.cancelled = progress.cancelled := by
  unfold collect at collected
  split at collected
  · cases collected
  · cases divided : split job (allowedFrom configuration progress.outcomes) with
    | error fault =>
        rw [divided] at collected
        cases collected
    | ok lists =>
        rw [divided] at collected
        cases collected
        rfl

/-- Only the aliases of an engine reach its rules. -/
theorem conductOf_aliases {other : Engine} (aliases : other.aliases = engine.aliases)
    (entry : Rule.Entry) :
    other.conductOf configuration job entry = engine.conductOf configuration job entry := by
  unfold conductOf
  rw [aliases]

/-- What is told of one rule among others stands apart from what is told of them. -/
theorem runRule_aliases {other : Engine} (aliases : other.aliases = engine.aliases)
    (entry : Rule.Entry) :
    other.runRule configuration job entry = engine.runRule configuration job entry := by
  unfold runRule runMade
  rw [aliases]

theorem told_aliases {other : Engine} (aliases : other.aliases = engine.aliases)
    (entries : List Rule.Entry) :
    other.told configuration job entries = engine.told configuration job entries := by
  simp only [told, conductOf_aliases aliases]

theorem told_insert (before after : List Rule.Entry) (entry : Rule.Entry) :
    engine.told configuration job (before ++ entry :: after) =
      engine.told configuration job before ++
        (entry.descriptor.name, engine.conductOf configuration job entry) ::
          engine.told configuration job after := by
  simp [told]

end Engine

section
variable {configuration : Configuration} {job : Job} {loaded : Rule.LoadResult}
variable {before after : List (String × Conduct)} {rule : String × Conduct} {result : Result}

/-- What a result tells of one rule among others. -/
theorem Accounts.parts (accounts : Accounts configuration job loaded (before ++ rule :: after)
    result) :
    result.diagnostics = shown configuration job before ++ shown configuration job [rule] ++
      shown configuration job after ∧
    result.suppressed = hidden configuration job before ++ hidden configuration job [rule] ++
      hidden configuration job after ∧
    result.warnings = Engine.loadWarnings loaded ++ (warningsAmong job before ++
      rule.2.warnings rule.1 job.path ++ warningsAmong job after) := by
  refine ⟨?_, ?_, ?_⟩
  · rw [accounts.diagnostics]
    simp [shown, allowedAmong, List.filter_append]
  · rw [accounts.suppressed]
    simp [hidden, allowedAmong, List.filter_append]
  · rw [accounts.warnings]
    simp [warningsAmong]

theorem Accounts.parts_of_lost (accounts : Accounts configuration job loaded
    (before ++ rule :: after) result) (lost : rule.2.found = []) :
    result.diagnostics = shown configuration job before ++ shown configuration job after ∧
    result.suppressed = hidden configuration job before ++ hidden configuration job after := by
  have none : allowedAmong configuration [rule] = [] := by
    simp [allowedAmong, lost]
  obtain ⟨diagnostics, suppressed, -⟩ := accounts.parts
  rw [shown, shown, none, List.filter_nil, List.append_nil] at diagnostics
  rw [hidden, hidden, none, List.filter_nil, List.append_nil] at suppressed
  exact ⟨diagnostics, suppressed⟩

end

theorem Conduct.found_of_failure {conduct : Conduct} (failed : conduct.failure?.isSome) :
    conduct.found = [] := by
  cases conduct with
  | finished => cases failed
  | _ => rfl

/-- A rule of this name is made in another way; other rules stay as they are. -/
def remade (name : String) (factory : Rule.Factory) (entry : Rule.Entry) : Rule.Entry :=
  if entry.key = name then { entry with factory := factory } else entry

theorem remade_descriptor (name : String) (factory : Rule.Factory) (entry : Rule.Entry) :
    (remade name factory entry).descriptor = entry.descriptor := by
  unfold remade
  split <;> rfl

theorem map_remade {entries : List Rule.Entry} {entry : Rule.Entry}
    (once : (entries.map Rule.Entry.key).Nodup) (member : entry ∈ entries)
    (factory : Rule.Factory) :
    ∃ before after, entries = before ++ entry :: after ∧
      entries.map (remade entry.key factory) =
        before ++ ⟨entry.descriptor, factory⟩ :: after := by
  obtain ⟨before, after, rfl⟩ := List.append_of_mem member
  rw [List.map_append, List.map_cons, List.nodup_append, List.nodup_cons] at once
  obtain ⟨-, ⟨apartAfter, -⟩, apartBefore⟩ := once
  have unchanged (others : List Rule.Entry) (apart : ∀ other ∈ others, other.key ≠ entry.key) :
      others.map (remade entry.key factory) = others := by
    have same : ∀ other ∈ others, remade entry.key factory other = id other :=
      fun other member => if_neg (apart other member)
    rw [List.map_congr_left same, List.map_id]
  have first := unchanged before fun other member =>
    apartBefore _ (List.mem_map_of_mem member) _ List.mem_cons_self
  have last := unchanged after fun other member same =>
    apartAfter (same ▸ List.mem_map_of_mem member)
  refine ⟨before, after, rfl, ?_⟩
  rw [List.map_append, List.map_cons, first, last, remade, if_pos rfl]

namespace Engine

variable {engine : Engine} {configuration : Configuration} {job : Job}
variable {loaded : Rule.LoadResult}

/-- The engine with the rule of this name made in another way, be it registered or loaded. -/
structure Remade (engine other : Engine) (configuration : Configuration)
    (loaded : Rule.LoadResult) (name : String) (factory : Rule.Factory) : Prop where
  registry : other.registry = ⟨engine.registry.entries.map (remade name factory)⟩
  discovered : other.discover configuration =
    .ok { loaded with entries := loaded.entries.map (remade name factory) }
  options : other.options = engine.options
  aliases : other.aliases = engine.aliases

namespace Remade

variable {other : Engine} {name : String} {factory : Rule.Factory}

theorem active (swapped : engine.Remade other configuration loaded name factory) :
    other.registry.select configuration (loaded.entries.map (remade name factory)) =
      (engine.registry.select configuration loaded.entries).map (remade name factory) := by
  rw [swapped.registry]
  exact Rule.Registry.select_swapped (remade_descriptor name factory)

theorem isPooled_eq (swapped : engine.Remade other configuration loaded name factory)
    (entries : List Rule.Entry) :
    other.isPooled (entries.map (remade name factory)) = engine.isPooled entries := by
  have reentrant : ((fun entry : Rule.Entry => entry.descriptor.reentrant) ∘ remade name factory) =
      fun entry => entry.descriptor.reentrant := by
    funext entry
    rw [Function.comp_apply, remade_descriptor]
  rw [isPooled, isPooled, swapped.options, List.length_map, List.all_map, reentrant]

/-- The engine with one rule made in another way runs its rules in turn as well. -/
theorem runsInTurn {entry : Rule.Entry}
    (swapped : engine.Remade other configuration loaded entry.key factory)
    (turns : engine.RunsInTurn configuration job loaded)
    (member : entry ∈ engine.registry.select configuration loaded.entries)
    (quiet : (engine.runRule configuration job ⟨entry.descriptor, factory⟩).cancels = false) :
    other.RunsInTurn configuration job
      { loaded with entries := loaded.entries.map (remade entry.key factory) } := by
  constructor
  · exact swapped.discovered
  · rw [swapped.active, swapped.isPooled_eq]
    exact turns.unpooled
  · obtain ⟨before, after, whole, mapped⟩ :=
      map_remade (Rule.Registry.select_nodup _ _ _) member factory
    have uncancelled := turns.uncancelled
    rw [whole] at uncancelled
    rw [swapped.active, mapped]
    intro made inside
    rw [runRule_aliases swapped.aliases]
    rcases List.mem_append.mp inside with old | later
    · exact uncancelled made (List.mem_append_left _ old)
    · rcases List.mem_cons.mp later with rfl | old
      · exact quiet
      · exact uncancelled made (List.mem_append_right _ (List.mem_cons_of_mem _ old))

end Remade

theorem run_cases (turns : engine.RunsInTurn configuration job loaded) :
    let told := engine.told configuration job
      (engine.registry.select configuration loaded.entries)
    (∃ fault, engine.run configuration false job = .error fault ∧
      Unsettles configuration job told fault) ∨
    (Settled configuration job told ∧ ∃ record, engine.run configuration false job = .ok record ∧
      Accounts configuration job loaded told record.result) := by
  intro told
  rw [run_eq_collect turns]
  obtain failed | ⟨settled, record, collected, accounts, -⟩ :=
    collect_cases engine configuration job loaded
      (engine.registry.select configuration loaded.entries) false false
  · exact .inl failed
  · exact .inr ⟨settled, record, collected, accounts⟩

theorem run_settled (turns : engine.RunsInTurn configuration job loaded)
    (settled : Settled configuration job (engine.told configuration job
      (engine.registry.select configuration loaded.entries))) :
    ∃ record, engine.run configuration false job = .ok record ∧
      Accounts configuration job loaded (engine.told configuration job
        (engine.registry.select configuration loaded.entries)) record.result := by
  obtain ⟨fault, -, unsettles⟩ | ⟨-, accounted⟩ := run_cases turns
  · exact absurd settled unsettles.not_settled
  · exact accounted

/-- A run in turn that is not cancelled is told by what the active rules came to.  It has a result
where their failures can be told and the suppressions that are tried have an answer.  Where one of
the rules is then made in another way and fails, its diagnostics are gone and its own warnings are
others, and all that is told of the other rules stays. -/
theorem run_isolates_failures (turns : engine.RunsInTurn configuration job loaded) :
    let entries := engine.registry.select configuration loaded.entries
    (∀ fault, engine.run configuration false job = .error fault →
      Unsettles configuration job (engine.told configuration job entries) fault) ∧
    ((∃ record, engine.run configuration false job = .ok record) ↔
      Settled configuration job (engine.told configuration job entries)) ∧
    ∀ record, engine.run configuration false job = .ok record →
      Accounts configuration job loaded (engine.told configuration job entries) record.result ∧
      ∀ entry ∈ entries, ∀ (factory : Rule.Factory) (other : Engine),
        engine.Remade other configuration loaded entry.key factory →
        (∃ failure, (engine.conductOf configuration job ⟨entry.descriptor, factory⟩).failure? =
          some failure ∧ failure.told?.isSome) →
        (engine.runRule configuration job ⟨entry.descriptor, factory⟩).cancels = false →
        ∃ before after record',
          entries = before ++ entry :: after ∧
          other.run configuration false job = .ok record' ∧
          let told := engine.told configuration job
          let name := entry.descriptor.name
          record.result.diagnostics = shown configuration job (told before) ++
            shown configuration job (told [entry]) ++ shown configuration job (told after) ∧
          record'.result.diagnostics = shown configuration job (told before) ++
            shown configuration job (told after) ∧
          record.result.suppressed = hidden configuration job (told before) ++
            hidden configuration job (told [entry]) ++ hidden configuration job (told after) ∧
          record'.result.suppressed = hidden configuration job (told before) ++
            hidden configuration job (told after) ∧
          record.result.warnings = loadWarnings loaded ++ (warningsAmong job (told before) ++
            (engine.conductOf configuration job entry).warnings name job.path ++
              warningsAmong job (told after)) ∧
          record'.result.warnings = loadWarnings loaded ++ (warningsAmong job (told before) ++
            (engine.conductOf configuration job ⟨entry.descriptor, factory⟩).warnings name
              job.path ++ warningsAmong job (told after)) := by
  intro entries
  refine ⟨fun fault failed => ?_, ⟨?_, fun settled => ?_⟩, fun record ran => ?_⟩
  · obtain ⟨other, failed', unsettles⟩ | ⟨-, record, ran, -⟩ := run_cases turns
    · cases failed.symm.trans failed'
      exact unsettles
    · cases failed.symm.trans ran
  · rintro ⟨record, ran⟩
    obtain ⟨fault, failed, -⟩ | ⟨settled, -⟩ := run_cases turns
    · cases failed.symm.trans ran
    · exact settled
  · obtain ⟨record, ran, -⟩ := run_settled turns settled
    exact ⟨record, ran⟩
  obtain ⟨fault, failed, -⟩ | ⟨settled, record', ran', accounts⟩ := run_cases turns
  · cases failed.symm.trans ran
  cases ran.symm.trans ran'
  refine ⟨accounts, fun entry member factory other swapped fails quiet => ?_⟩
  obtain ⟨failure, failed, tells⟩ := fails
  have turns' := swapped.runsInTurn turns member quiet
  obtain ⟨before, after, whole, mapped⟩ :=
    map_remade (Rule.Registry.select_nodup _ _ _) member factory
  have lost : (engine.conductOf configuration job ⟨entry.descriptor, factory⟩).found = [] :=
    Conduct.found_of_failure (by rw [failed]; rfl)
  have told : (engine.conductOf configuration job ⟨entry.descriptor, factory⟩).untold? = none :=
    Conduct.untold?_eq_none failed tells
  rw [whole, told_insert] at settled accounts
  have changed : other.told configuration job
      (other.registry.select configuration (loaded.entries.map (remade entry.key factory))) =
        engine.told configuration job before ++ (entry.descriptor.name,
          engine.conductOf configuration job ⟨entry.descriptor, factory⟩) ::
            engine.told configuration job after := by
    rw [swapped.active, mapped, told_aliases swapped.aliases, told_insert]
  obtain ⟨record', ran', accounts'⟩ := run_settled turns' (changed ▸ settled.replace told lost)
  rw [changed] at accounts'
  obtain ⟨diagnostics, suppressed, warnings⟩ := accounts.parts
  obtain ⟨diagnostics', suppressed'⟩ := accounts'.parts_of_lost lost
  exact ⟨before, after, record', whole, ran', diagnostics, diagnostics', suppressed, suppressed',
    warnings, accounts'.parts.2.2⟩

def plainEntry (name : String) (report : Rule.Report) : Rule.Entry :=
  ⟨{ name := name }, ⟨none, .ok ⟨{ name := name }, [], false, fun _ => report⟩⟩⟩

def loudEntry : Rule.Entry :=
  plainEntry "Loud" { diagnostics := .ok [⟨"m", {}, "Loud", .warning, "", none, []⟩] }

def talkingEntry : Rule.Entry :=
  plainEntry "Talking" { diagnostics := .error ⟨"ValueError", some "no"⟩, warnings := ["well"] }

/-- What this rule fails with cannot be told. -/
def silentEntry : Rule.Entry :=
  plainEntry "Silent" { diagnostics := .error ⟨"ValueError", none⟩ }

def talkingEngine : Engine where
  registry := ⟨[loudEntry, talkingEntry]⟩
  tree := ⟨"/work", "/work/home", []⟩
  parseModule := fun _ => .withoutRules

theorem talkingEngine_active : talkingEngine.registry.select {} [] = [loudEntry, talkingEntry] := by
  have apart : talkingEntry.key ≠ loudEntry.key := by decide +kernel
  simp [Rule.Registry.select, Rule.Registry.candidates, Rule.Registry.builtin,
    Rule.Registry.custom, Rule.Registry.firstOfEach, Rule.Entry.matchesAny, Configuration.allows,
    talkingEngine, Rule.Descriptor.isBuiltin, loudEntry, talkingEntry, plainEntry] at apart ⊢
  exact apart

def emptyJob : Job :=
  { tree := .scriptBlock {} [], path := "a.ps1" }

theorem talkingEngine_turns : talkingEngine.RunsInTurn {} emptyJob {} := by
  refine ⟨rfl, rfl, ?_⟩
  intro entry member
  rw [show ({} : Rule.LoadResult).entries = [] from rfl, talkingEngine_active] at member
  rcases List.mem_cons.mp member with rfl | member
  · rfl
  · rw [List.mem_singleton.mp member]
    rfl

theorem emptyJob_settled : Settled {} emptyJob
    (talkingEngine.told {} emptyJob [loudEntry, talkingEntry]) :=
  ⟨rfl, fun _ _ _ given => nomatch given⟩

def brokenFactory : Rule.Factory :=
  ⟨none, .error ⟨"RuntimeError", some "gone"⟩⟩

/-- A failure that can be told is kept from the other rules, and one that cannot is not. -/
theorem run_isolates_loud : (∃ record before after record',
    talkingEngine.run {} false emptyJob = .ok record ∧
    record.result.ruleNames = ["Loud", "Talking"] ∧
    record.result.warnings.filter (·.kind = .ruleFailure) =
      [.ofFailure "Talking" "a.ps1" "ValueError: no"] ∧
    [loudEntry, talkingEntry] = before ++ loudEntry :: after ∧
    ({ talkingEngine with registry :=
        ⟨[⟨loudEntry.descriptor, brokenFactory⟩, talkingEntry]⟩ } : Engine).run {} false emptyJob =
      .ok record' ∧
    record'.result.diagnostics = shown {} emptyJob (talkingEngine.told {} emptyJob before) ++
      shown {} emptyJob (talkingEngine.told {} emptyJob after)) ∧
    ¬ ∃ record, ({ talkingEngine with registry := ⟨[silentEntry]⟩ } : Engine).run {} false
      emptyJob = .ok record := by
  have apart : talkingEntry.key ≠ loudEntry.key := by decide +kernel
  have member : loudEntry ∈ talkingEngine.registry.select {} [] := by
    rw [talkingEngine_active]
    exact List.mem_cons_self
  have swapped : talkingEngine.Remade { talkingEngine with registry :=
      ⟨[⟨loudEntry.descriptor, brokenFactory⟩, talkingEntry]⟩ } {} {} loudEntry.key
        brokenFactory := by
    refine ⟨?_, rfl, rfl, rfl⟩
    simp [talkingEngine, remade, apart]
  constructor
  · obtain ⟨-, exists_iff, isolates⟩ := run_isolates_failures talkingEngine_turns
    rw [show ({} : Rule.LoadResult).entries = [] from rfl, talkingEngine_active] at exists_iff
    obtain ⟨record, ran⟩ := exists_iff.mpr emptyJob_settled
    obtain ⟨accounts, isolates⟩ := isolates record ran
    obtain ⟨before, after, record', active, ran', -, left, -⟩ :=
      isolates loudEntry member brokenFactory _ swapped ⟨_, rfl, rfl⟩ rfl
    rw [show ({} : Rule.LoadResult).entries = [] from rfl, talkingEngine_active] at active accounts
    exact ⟨record, before, after, record', ran, accounts.ruleNames, accounts.failures, active,
      ran', left⟩
  · have active : ({ talkingEngine with registry := ⟨[silentEntry]⟩ } : Engine).registry.select {}
        [] = [silentEntry] := rfl
    have turns : ({ talkingEngine with registry := ⟨[silentEntry]⟩ } : Engine).RunsInTurn {}
        emptyJob {} := by
      refine ⟨rfl, rfl, fun entry member => ?_⟩
      rw [show ({} : Rule.LoadResult).entries = [] from rfl, active] at member
      rw [List.mem_singleton.mp member]
      rfl
    obtain ⟨-, exists_iff, -⟩ := run_isolates_failures turns
    rw [show ({} : Rule.LoadResult).entries = [] from rfl, active] at exists_iff
    intro ran
    cases (exists_iff.mp ran).tells

end Engine
end ScriptAudit.Analysis
