import ScriptAudit.Proofs.Rule.Name
import ScriptAudit.Rule.Registry

namespace ScriptAudit.Rule

/-! What is active under a name depends on the rules of this name only. -/

open Settings

namespace Registry

variable {registry : Registry} {configuration : Configuration} {discovered : List Entry}

theorem firstOfEach_filter (key : String) (seen : List String) (entries : List Entry) :
    (firstOfEach seen entries).filter (·.key == key) =
      if seen.contains key then [] else (entries.filter (·.key == key)).take 1 := by
  induction entries generalizing seen with
  | nil => simp [firstOfEach]
  | cons entry rest ih =>
      rw [firstOfEach, List.filter_cons]
      by_cases named : entry.key = key
      · by_cases known : seen.contains key = true
        · have again : seen.contains entry.key = true := by rw [named, known]
          rw [if_pos again, ih, if_pos known, if_pos known]
        · have first : ¬ seen.contains entry.key = true := by rwa [named]
          have taken : (entry.key :: seen).contains key = true := by simp [named]
          rw [if_neg first, List.filter_cons, ih, if_pos taken, if_neg known]
          simp [named]
      · have apart : (entry.key == key) = false := beq_false_of_ne named
        have same : (entry.key :: seen).contains key = seen.contains key := by
          simp [Ne.symm named]
        split
        · rw [ih, apart, if_neg Bool.false_ne_true]
        · rw [List.filter_cons, apart, if_neg Bool.false_ne_true, if_neg Bool.false_ne_true,
            ih, same]

/-- An entry may be active as far as patterns to exclude and severities go. -/
def passes (configuration : Configuration) (entry : Entry) : Bool :=
  !entry.matchesAny configuration.excludeRules && configuration.allows entry.descriptor.severity

theorem select_filter (key : String) :
    (registry.select configuration discovered).filter (·.key == key) =
      (((registry.candidates configuration discovered).filter (·.key == key)).filter
        (passes configuration)).take 1 := by
  have commute (entries : List Entry) :
      (entries.filter (passes configuration)).filter (·.key == key) =
        (entries.filter (·.key == key)).filter (passes configuration) := by
    simp only [List.filter_filter, Bool.and_comm]
  rw [← commute, select, firstOfEach_filter, List.contains_nil, if_neg Bool.false_ne_true]
  rfl

theorem mem_of_mem_known {entry : Entry}
    (member : entry ∈ registry.builtin ++ (registry.custom ++ discovered)) :
    entry ∈ registry.entries ++ discovered := by
  simp only [builtin, custom, List.mem_append, List.mem_filter] at member ⊢
  rcases member with known | known | known
  · exact .inl known.1
  · exact .inl known.1
  · exact .inr known

theorem mem_of_mem_candidates {entry : Entry}
    (member : entry ∈ registry.candidates configuration discovered) :
    entry ∈ registry.entries ++ discovered := by
  apply mem_of_mem_known
  unfold candidates at member
  dsimp only at member
  split at member
  · split at member
    · exact member
    · exact List.mem_append_right _ member
  · exact (List.mem_filter.mp member).1

theorem mem_firstOfEach {seen : List String} {entries : List Entry} {entry : Entry}
    (member : entry ∈ firstOfEach seen entries) : entry ∈ entries ∧ entry.key ∉ seen := by
  induction entries generalizing seen with
  | nil => cases member
  | cons head rest ih =>
      rw [firstOfEach] at member
      split at member
      · have later := ih member
        exact ⟨List.mem_cons_of_mem _ later.1, later.2⟩
      · next new =>
          rcases List.mem_cons.mp member with rfl | member
          · exact ⟨List.mem_cons_self, by simpa using new⟩
          · have later := ih member
            rw [List.mem_cons, not_or] at later
            exact ⟨List.mem_cons_of_mem _ later.1, later.2.2⟩

theorem firstOfEach_nodup (seen : List String) (entries : List Entry) :
    ((firstOfEach seen entries).map Entry.key).Nodup := by
  induction entries generalizing seen with
  | nil => exact List.nodup_nil
  | cons head rest ih =>
      rw [firstOfEach]
      split
      · exact ih seen
      · rw [List.map_cons, List.nodup_cons]
        refine ⟨fun again => ?_, ih _⟩
        obtain ⟨entry, member, same⟩ := List.mem_map.mp again
        have apart := (mem_firstOfEach member).2
        rw [same] at apart
        exact apart List.mem_cons_self

/-- No name is active twice. -/
theorem select_nodup (registry : Registry) (configuration : Configuration)
    (discovered : List Entry) :
    ((registry.select configuration discovered).map Entry.key).Nodup :=
  firstOfEach_nodup _ _

section Replaced

variable {swap : Entry → Entry} (kept : ∀ entry, (swap entry).descriptor = entry.descriptor)
include kept

theorem filter_swapped (wanted : Descriptor → Bool) (entries : List Entry) :
    (entries.map swap).filter (fun entry => wanted entry.descriptor) =
      (entries.filter fun entry => wanted entry.descriptor).map swap := by
  rw [List.filter_map]
  congr 1
  apply List.filter_congr
  intro entry _
  rw [Function.comp_apply, kept]

theorem firstOfEach_swapped (seen : List String) (entries : List Entry) :
    firstOfEach seen (entries.map swap) = (firstOfEach seen entries).map swap := by
  induction entries generalizing seen with
  | nil => rfl
  | cons entry rest ih =>
      have same : (swap entry).key = entry.key := by rw [Entry.key, kept, Entry.key]
      rw [List.map_cons, firstOfEach, firstOfEach, same]
      split
      · exact ih seen
      · rw [ih, List.map_cons]

/-- Which rules are active depends on their descriptors only. -/
theorem select_swapped :
    (Registry.mk (registry.entries.map swap)).select configuration (discovered.map swap) =
      (registry.select configuration discovered).map swap := by
  have candidates_swapped :
      (Registry.mk (registry.entries.map swap)).candidates configuration (discovered.map swap) =
        (registry.candidates configuration discovered).map swap := by
    unfold candidates builtin custom
    dsimp only
    rw [filter_swapped kept Descriptor.isBuiltin, filter_swapped kept (!·.isBuiltin)]
    split
    · split <;> simp
    · rw [← List.map_append, ← List.map_append]
      exact filter_swapped kept (fun descriptor =>
        configuration.includeRules.any descriptor.matchesPattern) _
  have passing := filter_swapped kept (fun descriptor =>
    !configuration.excludeRules.any descriptor.matchesPattern &&
      configuration.allows descriptor.severity) (registry.candidates configuration discovered)
  rw [select, select, candidates_swapped, ← firstOfEach_swapped kept]
  exact congrArg (firstOfEach []) passing

end Replaced

variable {pattern key : String}

theorem matchesAny_insert {entry : Entry} (misses : entry.descriptor.matchesPattern pattern = false)
    (before after : List String) :
    entry.matchesAny (before ++ pattern :: after) = entry.matchesAny (before ++ after) := by
  simp [Entry.matchesAny, misses]

/-- A pattern that fits no rule of a name removes none of them. -/
theorem select_exclude_insert
    (misses : ∀ entry ∈ registry.entries ++ discovered, entry.key = key →
      entry.descriptor.matchesPattern pattern = false) (before after : List String) :
    (registry.select { configuration with excludeRules := before ++ pattern :: after }
      discovered).filter (·.key == key) =
    (registry.select { configuration with excludeRules := before ++ after }
      discovered).filter (·.key == key) := by
  rw [select_filter, select_filter]
  congr 1
  apply List.filter_congr
  intro entry member
  obtain ⟨candidate, named⟩ := List.mem_filter.mp member
  have missed := misses entry (mem_of_mem_candidates candidate) (eq_of_beq named)
  rw [passes, passes, matchesAny_insert missed]
  rfl

/-- A pattern that fits no rule of a name selects none of them: with other patterns it changes
nothing, and alone it leaves the name out. -/
theorem select_include_insert
    (misses : ∀ entry ∈ registry.entries ++ discovered, entry.key = key →
      entry.descriptor.matchesPattern pattern = false) (before after : List String) :
    (registry.select { configuration with includeRules := before ++ pattern :: after }
      discovered).filter (·.key == key) =
    if (before ++ after).isEmpty then []
    else (registry.select { configuration with includeRules := before ++ after }
      discovered).filter (·.key == key) := by
  have candidates_insert :
      (registry.candidates { configuration with includeRules := before ++ pattern :: after }
        discovered).filter (·.key == key) =
      ((registry.builtin ++ (registry.custom ++ discovered)).filter
        (·.matchesAny (before ++ after))).filter (·.key == key) := by
    have some : (before ++ pattern :: after).isEmpty = false := by simp
    rw [candidates, some, if_neg Bool.false_ne_true, List.filter_filter, List.filter_filter]
    apply List.filter_congr
    intro entry member
    by_cases named : entry.key = key
    · rw [matchesAny_insert (misses entry (mem_of_mem_known member) named)]
    · simp [beq_false_of_ne named]
  rw [select_filter, candidates_insert]
  by_cases none : (before ++ after).isEmpty = true
  · rw [if_pos none, List.isEmpty_iff.mp none]
    simp [Entry.matchesAny]
  · rw [if_neg none, select_filter, candidates, if_neg none]
    rfl

theorem matchesPattern_other {descriptor : Descriptor} {entry : Entry}
    (named : isQualified descriptor.qualifiedName) (qualified : isQualified pattern)
    (other : fits pattern descriptor.qualifiedName = false)
    (same : entry.key = Text.lower descriptor.qualifiedName)
    (bare : entry.descriptor.fitsBare pattern = false) :
    entry.descriptor.matchesPattern pattern = false := by
  have namedToo : isQualified entry.descriptor.qualifiedName = true := by
    rw [← isQualified_lower, show Text.lower entry.descriptor.qualifiedName = _ from same,
      isQualified_lower, named]
  have otherToo : fits pattern entry.descriptor.qualifiedName = false := by
    rw [fits, show Text.lower entry.descriptor.qualifiedName = _ from same]
    exact other
  rw [Descriptor.matchesPattern_qualified namedToo qualified, otherToo, bare, Bool.false_or]

/-- A pattern with a namespace names a rule with one exactly when it fits the qualified name of the
rule or, where the namespace comes from the source of the rule, the name without it.  A pattern that
does neither selects and removes no rule of this name. -/
theorem matches_qualified_pattern {descriptor : Descriptor}
    (named : isQualified descriptor.qualifiedName) :
    (∀ pattern, isQualified pattern →
      (descriptor.matchesPattern pattern ↔
        fits pattern descriptor.qualifiedName ∨ descriptor.fitsBare pattern)) ∧
    ∀ (registry : Registry) (configuration : Configuration) (discovered : List Entry)
      (pattern : String) (before after : List String), isQualified pattern →
      fits pattern descriptor.qualifiedName = false →
      (∀ entry ∈ registry.entries ++ discovered,
        entry.key = Text.lower descriptor.qualifiedName →
          entry.descriptor.fitsBare pattern = false) →
      let ofName := fun entries : List Entry =>
        entries.filter (·.key == Text.lower descriptor.qualifiedName)
      ofName (registry.select { configuration with excludeRules := before ++ pattern :: after }
          discovered) =
        ofName (registry.select { configuration with excludeRules := before ++ after }
          discovered) ∧
      ofName (registry.select { configuration with includeRules := before ++ pattern :: after }
          discovered) =
        if (before ++ after).isEmpty then []
        else ofName (registry.select { configuration with includeRules := before ++ after }
          discovered) := by
  constructor
  · intro pattern qualified
    rw [Descriptor.matchesPattern_qualified named qualified, Bool.or_eq_true]
  · intro registry configuration discovered pattern before after qualified other bare ofName
    have misses : ∀ entry ∈ registry.entries ++ discovered,
        entry.key = Text.lower descriptor.qualifiedName →
          entry.descriptor.matchesPattern pattern = false := fun entry member same =>
      matchesPattern_other named qualified other same (bare entry member same)
    exact ⟨select_exclude_insert misses before after, select_include_insert misses before after⟩

def tabRule : Descriptor := { name := "NoTabs", source := "MyRules" }

/-- The pattern with another namespace fits the name without its namespace, so it is matched.  One
with another simple name excludes nothing. -/
theorem other_namespace_matches :
    isQualified tabRule.qualifiedName ∧ isQualified "Other\\NoTabs" ∧
      fits "Other\\NoTabs" tabRule.qualifiedName = false ∧
      tabRule.matchesPattern "Other\\NoTabs" ∧
      ∀ factory, (select ⟨[⟨tabRule, factory⟩]⟩ { excludeRules := ["Other\\Tab*"] } []).filter
          (·.key == Text.lower tabRule.qualifiedName) =
        (select ⟨[⟨tabRule, factory⟩]⟩ {} []).filter
          (·.key == Text.lower tabRule.qualifiedName) := by
  have named : isQualified tabRule.qualifiedName := by decide +kernel
  have apart : fits "Other\\NoTabs" tabRule.qualifiedName = false := by decide +kernel
  have bare : tabRule.fitsBare "Other\\NoTabs" = true := by decide +kernel
  have apartToo : fits "Other\\Tab*" tabRule.qualifiedName = false := by decide +kernel
  have bareToo : tabRule.fitsBare "Other\\Tab*" = false := by decide +kernel
  obtain ⟨matched, selects⟩ := matches_qualified_pattern named
  refine ⟨named, by decide, apart, (matched _ (by decide)).mpr (.inr bare), fun factory => ?_⟩
  have misses : ∀ entry ∈ [(⟨tabRule, factory⟩ : Entry)] ++ [],
      entry.key = Text.lower tabRule.qualifiedName →
        entry.descriptor.fitsBare "Other\\Tab*" = false := by
    intro entry member _
    rw [List.append_nil, List.mem_singleton] at member
    rw [member]
    exact bareToo
  exact (selects ⟨[⟨tabRule, factory⟩]⟩ {} [] "Other\\Tab*" [] [] (by decide) apartToo misses).1

end Registry
end ScriptAudit.Rule
