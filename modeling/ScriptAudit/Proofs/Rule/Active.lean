import Mathlib.Data.List.Forall2
import ScriptAudit.Proofs.Rule.Selection

namespace ScriptAudit.Rule

/-! The active rules, told of the rules that are known.

Each known rule passes or not by itself.  Of the rules of one name that pass the first one is
active, and the active rules stay in the order of the known ones. -/

open Settings

/-- How a rule became known. -/
inductive Standing where
  | builtin
  | custom
  | discovered
deriving DecidableEq

structure Known where
  standing : Standing
  entry : Entry

namespace Known

/-- Patterns of rules to include decide alone.  Without such patterns a builtin rule is wanted with
the default rules, and any other rule always. -/
def isWanted (configuration : Configuration) (known : Known) : Bool :=
  if configuration.includeRules.isEmpty then
    known.standing != .builtin || configuration.includeDefaultRules
  else known.entry.matchesAny configuration.includeRules

/-- The rule is wanted, not excluded, and of a severity that is allowed. -/
def passes (configuration : Configuration) (known : Known) : Bool :=
  known.isWanted configuration && !known.entry.matchesAny configuration.excludeRules &&
    configuration.allows known.entry.descriptor.severity

/-- At this place of a list stands the first rule of its name that passes. -/
def FirstAt (configuration : Configuration) (known : List Known) (place : Nat) (entry : Entry) :
    Prop :=
  ∃ found, known[place]? = some found ∧ found.entry = entry ∧ found.passes configuration ∧
    ∀ earlier < place, ∀ other, known[earlier]? = some other → other.entry.key = entry.key →
      other.passes configuration = false

end Known

/-- The known rules: those that come with the program in the order of their registration, then the
other registered ones, then those that were discovered. -/
def Registry.known (registry : Registry) (discovered : List Entry) : List Known :=
  registry.builtin.map (⟨.builtin, ·⟩) ++
    (registry.custom.map (⟨.custom, ·⟩) ++ discovered.map (⟨.discovered, ·⟩))

/-- What the active rules are among the known ones. -/
structure ActiveAmong (configuration : Configuration) (known : List Known) (active : List Entry) :
    Prop where
  nodup : (active.map Entry.key).Nodup
  named : ∀ name, name ∈ active.map Entry.key ↔
    ∃ found ∈ known, found.entry.key = name ∧ found.passes configuration
  firsts : ∃ places : List Nat, places.Pairwise (· < ·) ∧
    List.Forall₂ (Known.FirstAt configuration known) places active

variable {configuration : Configuration} {discovered : List Entry}

namespace Known

theorem FirstAt.later {head : Known} {rest : List Known} {place : Nat} {entry : Entry}
    (first : FirstAt configuration rest place entry)
    (blocked : head.entry.key = entry.key → head.passes configuration = false) :
    FirstAt configuration (head :: rest) (place + 1) entry := by
  obtain ⟨found, here, same, passes, none⟩ := first
  refine ⟨found, here, same, passes, fun earlier before other stands named => ?_⟩
  cases earlier with
  | zero =>
      cases stands
      exact blocked named
  | succ earlier => exact none earlier (Nat.lt_of_succ_lt_succ before) other stands named

/-- At these places stand the entries, in their order, each the first of its name that passes, and
their names were not seen before. -/
structure Placed (configuration : Configuration) (known : List Known) (seen : List String)
    (entries : List Entry) (places : List Nat) : Prop where
  ordered : places.Pairwise (· < ·)
  firsts : List.Forall₂
    (fun place entry => entry.key ∉ seen ∧ FirstAt configuration known place entry) places entries

/-- The places move by one when a rule is put in front, if it does not pass or has a name that was
seen before. -/
theorem Placed.later {head : Known} {rest : List Known} {seen seen' : List String}
    {entries : List Entry} {places : List Nat}
    (placed : Placed configuration rest seen' entries places) (included : seen ⊆ seen')
    (blocked : head.passes configuration → head.entry.key ∈ seen') :
    Placed configuration (head :: rest) seen entries (places.map (· + 1)) := by
  refine ⟨placed.ordered.map _ fun _ _ => Nat.succ_lt_succ, ?_⟩
  rw [List.forall₂_map_left_iff]
  refine placed.firsts.imp fun place entry => ?_
  rintro ⟨new, first⟩
  refine ⟨fun known => new (included known), first.later fun named => ?_⟩
  rw [Bool.eq_false_iff]
  intro passes
  rw [← named] at new
  exact new (blocked passes)

end Known

namespace Registry

open Known

theorem candidates_eq (registry : Registry) :
    registry.candidates configuration discovered =
      ((registry.known discovered).filter (isWanted configuration)).map entry := by
  unfold candidates known
  simp only [List.filter_append, List.filter_map, List.map_append, List.map_map,
    Function.comp_def, isWanted]
  have others : (Standing.custom != .builtin) = true ∧
      (Standing.discovered != .builtin) = true := by
    decide
  cases configuration.includeRules.isEmpty with
  | true => cases configuration.includeDefaultRules <;> simp [others]
  | false => simp

theorem select_eq (registry : Registry) :
    registry.select configuration discovered =
      firstOfEach [] (((registry.known discovered).filter (Known.passes configuration)).map
        entry) := by
  rw [select, candidates_eq, List.filter_map, List.filter_filter]
  refine congrArg (fun kept => firstOfEach [] (kept.map entry)) (List.filter_congr ?_)
  intro found _
  rw [Known.passes, Bool.and_assoc, Bool.and_comm, Function.comp_apply]

theorem key_mem_firstOfEach (seen : List String) (entries : List Entry) (key : String) :
    key ∈ (firstOfEach seen entries).map Entry.key ↔ key ∉ seen ∧ key ∈ entries.map Entry.key := by
  constructor
  · intro member
    obtain ⟨entry, kept, rfl⟩ := List.mem_map.mp member
    obtain ⟨among, new⟩ := mem_firstOfEach kept
    exact ⟨new, List.mem_map_of_mem among⟩
  · rintro ⟨new, member⟩
    obtain ⟨entry, among, rfl⟩ := List.mem_map.mp member
    -- The rules of this name that are kept are not none, since there are such rules at all.
    have kept := firstOfEach_filter entry.key seen entries
    rw [if_neg (by simpa using new)] at kept
    cases named : entries.filter (·.key == entry.key) with
    | nil => simpa using List.filter_eq_nil_iff.mp named entry among
    | cons first others =>
        have here : first ∈ (firstOfEach seen entries).filter (·.key == entry.key) := by
          rw [kept, named]
          exact List.mem_cons_self
        obtain ⟨among, same⟩ := List.mem_filter.mp here
        exact List.mem_map.mpr ⟨first, among, eq_of_beq same⟩

theorem firstOfEach_places (configuration : Configuration) (seen : List String)
    (known : List Known) :
    ∃ places, Placed configuration known seen
      (firstOfEach seen ((known.filter (Known.passes configuration)).map entry)) places := by
  induction known generalizing seen with
  | nil => exact ⟨[], .nil, .nil⟩
  | cons head rest ih =>
      rw [List.filter_cons]
      split
      · next passes =>
          rw [List.map_cons, firstOfEach]
          split
          · next known =>
              obtain ⟨places, placed⟩ := ih seen
              exact ⟨_, placed.later (List.Subset.refl seen) fun _ => by simpa using known⟩
          · next new =>
              obtain ⟨places, placed⟩ := ih (head.entry.key :: seen)
              obtain ⟨ordered, firsts⟩ :=
                placed.later (List.subset_cons_self head.entry.key seen) fun _ =>
                  List.mem_cons_self
              refine ⟨0 :: places.map (· + 1), .cons (by simp) ordered,
                .cons ⟨by simpa using new, ?_⟩ firsts⟩
              exact ⟨head, rfl, rfl, passes, by simp⟩
      · next fails =>
          obtain ⟨places, placed⟩ := ih seen
          exact ⟨_, placed.later (List.Subset.refl seen) fun passes => absurd passes fails⟩

theorem select_activeAmong (registry : Registry) (configuration : Configuration)
    (discovered : List Entry) :
    ActiveAmong configuration (registry.known discovered)
      (registry.select configuration discovered) := by
  refine ⟨select_nodup registry configuration discovered, fun name => ?_, ?_⟩
  · rw [select_eq, key_mem_firstOfEach]
    simp [and_comm, and_assoc]
  · obtain ⟨places, ordered, firsts⟩ :=
      firstOfEach_places configuration [] (registry.known discovered)
    rw [select_eq]
    exact ⟨places, ordered, firsts.imp fun _ _ => And.right⟩

end Registry

theorem matchesAny_mono {entry : Entry} {patterns more : List String} (added : patterns ⊆ more)
    (matched : entry.matchesAny patterns) : entry.matchesAny more := by
  obtain ⟨pattern, member, fits⟩ := List.any_eq_true.mp matched
  exact List.any_eq_true.mpr ⟨pattern, added member, fits⟩

namespace Known

variable {known : Known} {more : List String}

theorem passes_of_more_excluded (added : configuration.excludeRules ⊆ more)
    (passes : known.passes { configuration with excludeRules := more }) :
    known.passes configuration := by
  simp only [Known.passes, Bool.and_eq_true, Bool.not_eq_true', ← Bool.not_eq_true] at passes ⊢
  obtain ⟨⟨wanted, kept⟩, allowed⟩ := passes
  exact ⟨⟨wanted, fun excluded => kept (matchesAny_mono added excluded)⟩, allowed⟩

theorem passes_more_included (some : configuration.includeRules ≠ [])
    (added : configuration.includeRules ⊆ more) (passes : known.passes configuration) :
    known.passes { configuration with includeRules := more } := by
  have someToo : more ≠ [] := fun none => some (List.subset_nil.mp (none ▸ added))
  simp only [Known.passes, Bool.and_eq_true] at passes ⊢
  obtain ⟨⟨wanted, kept⟩, allowed⟩ := passes
  refine ⟨⟨?_, kept⟩, allowed⟩
  rw [isWanted, if_neg (by simpa using some)] at wanted
  rw [isWanted, if_neg (by simpa using someToo)]
  exact matchesAny_mono added wanted

end Known

/-- The active rules are, in the order of the known ones, the first of each name that passes.  With
more patterns of rules to exclude no name becomes active, and with more patterns beside some of
rules to include no name becomes inactive. -/
theorem select_firsts (registry : Registry) (configuration : Configuration)
    (discovered : List Entry) :
    let names := fun configuration : Configuration =>
      (registry.select configuration discovered).map Entry.key
    ActiveAmong configuration (registry.known discovered)
      (registry.select configuration discovered) ∧
    (∀ more, configuration.excludeRules ⊆ more →
      names { configuration with excludeRules := more } ⊆ names configuration) ∧
    ∀ more, configuration.includeRules ≠ [] → configuration.includeRules ⊆ more →
      names configuration ⊆ names { configuration with includeRules := more } := by
  intro names
  have named (configuration : Configuration) :=
    (registry.select_activeAmong configuration discovered).named
  refine ⟨registry.select_activeAmong configuration discovered, fun more added name active => ?_,
    fun more some added name active => ?_⟩
  · obtain ⟨found, member, same, passes⟩ := (named _ name).mp active
    exact (named _ name).mpr
      ⟨found, member, same, Known.passes_of_more_excluded added passes⟩
  · obtain ⟨found, member, same, passes⟩ := (named _ name).mp active
    exact (named _ name).mpr
      ⟨found, member, same, Known.passes_more_included some added passes⟩

end ScriptAudit.Rule
