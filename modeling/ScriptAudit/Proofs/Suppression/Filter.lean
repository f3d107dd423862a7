import Mathlib.Data.List.Basic
import ScriptAudit.Suppression.Matcher

namespace ScriptAudit.Suppression

/-! Filtering deals the diagnostics out to two lists.

Which list a diagnostic comes to depends on the regions and on the set of the suppressions: neither
their order nor repeating one makes a difference, and more of them only suppress more.  There are no
lists when a suppression that is tried has no answer, and which ones are tried does depend on the
order. -/

/-- A call that builds a matcher up. -/
inductive Call where
  | add (entry : Entry)
  | addRegion (region : Region)

namespace Call

def entry? : Call → Option Entry
  | add entry => some entry
  | addRegion _ => none

def region? : Call → Option Region
  | add _ => none
  | addRegion region => some region

end Call

def entriesOf (calls : List Call) : List Entry :=
  calls.filterMap Call.entry?

def regionsOf (calls : List Call) : List Region :=
  calls.filterMap Call.region?

theorem entriesOf_add (entries : List Entry) : entriesOf (entries.map .add) = entries := by
  simp [entriesOf, List.filterMap_map, Function.comp_def, Call.entry?]

theorem regionsOf_add (entries : List Entry) : regionsOf (entries.map .add) = [] := by
  simp [regionsOf, List.filterMap_map, Function.comp_def, Call.region?]

namespace Matcher

def call (matcher : Matcher) : Call → Matcher
  | .add entry => matcher.add entry
  | .addRegion region => matcher.addRegion region

def after (matcher : Matcher) (calls : List Call) : Matcher :=
  calls.foldl call matcher

theorem after_eq (matcher : Matcher) (calls : List Call) :
    matcher.after calls = ⟨matcher.base, matcher.named, matcher.entries ++ entriesOf calls,
      matcher.regions ++ regionsOf calls⟩ := by
  induction calls generalizing matcher with
  | nil => simp [after, entriesOf, regionsOf]
  | cons first rest ih =>
      rw [after, List.foldl_cons, ← after, ih]
      cases first with
      | add entry =>
          have added : entriesOf (.add entry :: rest) = entry :: entriesOf rest := rfl
          have kept : regionsOf (.add entry :: rest) = regionsOf rest := rfl
          simp [call, add, added, kept]
      | addRegion region =>
          have kept : entriesOf (.addRegion region :: rest) = entriesOf rest := rfl
          have added : regionsOf (.addRegion region :: rest) = region :: regionsOf rest := rfl
          simp [call, addRegion, added, kept]

variable {matcher other : Matcher} {entry head : Entry} {entries : List Entry}
variable {diagnostic : Diagnostic} {diagnostics kept suppressed : List Diagnostic}

/-- The suppression of the list is tried: none of those before it applies. -/
def Tries (matcher : Matcher) (diagnostic : Diagnostic) (entries : List Entry) (entry : Entry) :
    Prop :=
  ∃ before after, entries = before ++ entry :: after ∧
    ∀ earlier ∈ before, matcher.applies earlier diagnostic = .ok false

theorem Tries.mem (tried : matcher.Tries diagnostic entries entry) : entry ∈ entries := by
  obtain ⟨before, after, rfl, -⟩ := tried
  simp

theorem tries_cons_iff : matcher.Tries diagnostic (head :: entries) entry ↔
    entry = head ∨
      (matcher.applies head diagnostic = .ok false ∧ matcher.Tries diagnostic entries entry) := by
  constructor
  · rintro ⟨before, after, split, failed⟩
    cases before with
    | nil => exact .inl (List.cons_eq_cons.mp split).1.symm
    | cons first rest =>
        obtain ⟨rfl, rfl⟩ := List.cons_eq_cons.mp split
        obtain ⟨fails, others⟩ := List.forall_mem_cons.mp failed
        exact .inr ⟨fails, rest, after, rfl, others⟩
  · rintro (rfl | ⟨fails, before, after, rfl, failed⟩)
    · exact ⟨[], entries, rfl, List.forall_mem_nil _⟩
    · exact ⟨head :: before, after, rfl, List.forall_mem_cons.mpr ⟨fails, failed⟩⟩

theorem firstApplying?_cons (fails : matcher.applies head diagnostic = .ok false) :
    matcher.firstApplying? diagnostic (head :: entries) =
      (matcher.firstApplying? diagnostic entries).map (Option.map (· + 1)) := by
  rw [firstApplying?, fails]
  dsimp only [bind, Except.bind]
  cases matcher.firstApplying? diagnostic entries <;> rfl

/-- The list has no answer where one that is tried has none. -/
theorem firstApplying?_error {refusal : Pattern.Refusal}
    (refused : matcher.firstApplying? diagnostic entries = .error refusal) :
    ∃ entry, matcher.Tries diagnostic entries entry ∧
      matcher.applies entry diagnostic = .error refusal := by
  induction entries with
  | nil => cases refused
  | cons head rest ih =>
      cases tested : matcher.applies head diagnostic with
      | error other =>
          rw [firstApplying?, tested] at refused
          cases refused
          exact ⟨head, tries_cons_iff.mpr (.inl rfl), tested⟩
      | ok verdict =>
          cases verdict with
          | true =>
              rw [firstApplying?, tested] at refused
              cases refused
          | false =>
              rw [firstApplying?_cons tested] at refused
              cases later : matcher.firstApplying? diagnostic rest with
              | ok found =>
                  rw [later] at refused
                  cases refused
              | error other =>
                  rw [later] at refused
                  cases refused
                  obtain ⟨entry, tried, untested⟩ := ih later
                  exact ⟨entry, tries_cons_iff.mpr (.inr ⟨tested, tried⟩), untested⟩

/-- Where the list has an answer all that are tried have one, and it names one just when some member
applies. -/
theorem firstApplying?_ok {found : Option Nat}
    (answered : matcher.firstApplying? diagnostic entries = .ok found) :
    (∀ entry, matcher.Tries diagnostic entries entry →
      ∃ verdict, matcher.applies entry diagnostic = .ok verdict) ∧
    (found.isSome ↔ ∃ entry ∈ entries, matcher.applies entry diagnostic = .ok true) := by
  induction entries generalizing found with
  | nil =>
      cases answered
      exact ⟨fun entry tried => absurd tried.mem List.not_mem_nil, by simp⟩
  | cons head rest ih =>
      cases tested : matcher.applies head diagnostic with
      | error other =>
          rw [firstApplying?, tested] at answered
          cases answered
      | ok verdict =>
          cases verdict with
          | true =>
              rw [firstApplying?, tested] at answered
              cases answered
              refine ⟨fun entry tried => ?_, by simp [tested]⟩
              rcases tries_cons_iff.mp tried with rfl | ⟨fails, -⟩
              · exact ⟨true, tested⟩
              · cases tested.symm.trans fails
          | false =>
              rw [firstApplying?_cons tested] at answered
              cases later : matcher.firstApplying? diagnostic rest with
              | error other =>
                  rw [later] at answered
                  cases answered
              | ok place =>
                  rw [later] at answered
                  cases answered
                  obtain ⟨tries, names⟩ := ih later
                  refine ⟨fun entry tried => ?_, by simp [tested, names]⟩
                  rcases tries_cons_iff.mp tried with rfl | ⟨-, tried⟩
                  · exact ⟨false, tested⟩
                  · exact tries entry tried

/-- Every suppression that is tried for the diagnostic has an answer. -/
def Answers (matcher : Matcher) (diagnostic : Diagnostic) : Prop :=
  ∀ entry, matcher.Tries diagnostic matcher.entries entry →
    ∃ verdict, matcher.applies entry diagnostic = .ok verdict

theorem suppresses_eq : matcher.suppresses diagnostic =
    (matcher.matchingEntry? diagnostic).map Option.isSome := by
  rw [suppresses]
  cases matcher.matchingEntry? diagnostic <;> rfl

theorem answers_iff :
    matcher.Answers diagnostic ↔ ∃ verdict, matcher.suppresses diagnostic = .ok verdict := by
  rw [suppresses_eq]
  cases searched : matcher.matchingEntry? diagnostic with
  | error refusal =>
      obtain ⟨entry, tried, untested⟩ := firstApplying?_error searched
      refine iff_of_false (fun answers => ?_) nofun
      obtain ⟨verdict, tested⟩ := answers entry tried
      cases untested.symm.trans tested
  | ok found => exact iff_of_true (firstApplying?_ok searched).1 ⟨_, rfl⟩

theorem suppresses_iff {verdict : Bool} (told : matcher.suppresses diagnostic = .ok verdict) :
    verdict = true ↔ ∃ entry ∈ matcher.entries, matcher.applies entry diagnostic = .ok true := by
  rw [suppresses_eq] at told
  cases searched : matcher.matchingEntry? diagnostic with
  | error refusal =>
      rw [searched] at told
      cases told
  | ok found =>
      rw [searched] at told
      cases told
      exact (firstApplying?_ok searched).2

/-- Two matchers that tell alike whether a suppression applies. -/
structure SamePlaces (matcher other : Matcher) : Prop where
  base : other.base = matcher.base
  named : other.named = matcher.named
  regions : other.regions = matcher.regions

theorem SamePlaces.symm (same : matcher.SamePlaces other) : other.SamePlaces matcher :=
  ⟨same.base.symm, same.named.symm, same.regions.symm⟩

/-- Whether a suppression applies is told without the other ones. -/
theorem SamePlaces.applies_eq (same : matcher.SamePlaces other) (entry : Entry)
    (diagnostic : Diagnostic) :
    other.applies entry diagnostic = matcher.applies entry diagnostic := by
  obtain ⟨base, named, entries, regions⟩ := matcher
  obtain ⟨base', named', entries', regions'⟩ := other
  obtain ⟨rfl, rfl, rfl⟩ := same
  rfl

/-- What is suppressed stays so with more suppressions, as long as there is an answer. -/
theorem SamePlaces.suppresses_mono (same : matcher.SamePlaces other)
    (more : matcher.entries ⊆ other.entries) (answers : other.Answers diagnostic)
    (suppressed : matcher.suppresses diagnostic = .ok true) :
    other.suppresses diagnostic = .ok true := by
  obtain ⟨verdict, told⟩ := answers_iff.mp answers
  obtain ⟨entry, member, applied⟩ := (suppresses_iff suppressed).mp rfl
  have applies := (same.applies_eq entry diagnostic).trans applied
  rw [told, (suppresses_iff told).mpr ⟨entry, more member, applies⟩]

/-- There are lists just when each diagnostic has an answer, and then they hold those that are not
suppressed and those that are. -/
theorem filter_eq_ok_iff : matcher.filter diagnostics = .ok (kept, suppressed) ↔
    (∀ diagnostic ∈ diagnostics, matcher.Answers diagnostic) ∧
      kept = diagnostics.filter (¬ matcher.suppresses · = .ok true) ∧
      suppressed = diagnostics.filter (matcher.suppresses · = .ok true) := by
  induction diagnostics generalizing kept suppressed with
  | nil => simp [filter, eq_comm]
  | cons first rest ih =>
      rw [List.forall_mem_cons, answers_iff, filter]
      cases told : matcher.suppresses first with
      | error refusal => exact iff_of_false nofun nofun
      | ok verdict =>
          dsimp only [bind, Except.bind]
          cases later : matcher.filter rest with
          | error refusal =>
              refine iff_of_false nofun ?_
              rintro ⟨⟨-, answers⟩, -⟩
              cases later.symm.trans (ih.mpr ⟨answers, rfl, rfl⟩)
          | ok lists =>
              obtain ⟨answers, left, right⟩ := ih.mp later
              rw [and_iff_right ⟨⟨verdict, rfl⟩, answers⟩, List.filter_cons, List.filter_cons,
                ← left, ← right]
              cases verdict <;> simp [told, pure, Except.pure, eq_comm]

theorem exists_filter_iff : (∃ lists, matcher.filter diagnostics = .ok lists) ↔
    ∀ diagnostic ∈ diagnostics, matcher.Answers diagnostic :=
  ⟨fun ⟨_, divided⟩ => (filter_eq_ok_iff.mp divided).1,
    fun answers => ⟨_, filter_eq_ok_iff.mpr ⟨answers, rfl, rfl⟩⟩⟩

/-- The diagnostics dealt out to those that are kept and those that are suppressed. -/
structure Divides (matcher : Matcher) (diagnostics kept suppressed : List Diagnostic) : Prop where
  kept_sublist : kept.Sublist diagnostics
  suppressed_sublist : suppressed.Sublist diagnostics
  whole : (kept ++ suppressed).Perm diagnostics
  kept_iff : ∀ diagnostic ∈ diagnostics, diagnostic ∈ kept ↔
    ¬ ∃ entry ∈ matcher.entries, matcher.applies entry diagnostic = .ok true
  suppressed_iff : ∀ diagnostic ∈ diagnostics, diagnostic ∈ suppressed ↔
    ∃ entry ∈ matcher.entries, matcher.applies entry diagnostic = .ok true
  named : ∀ diagnostic ∈ diagnostics,
    diagnostic ∈ suppressed ↔ ∃ place, matcher.matchingEntry? diagnostic = .ok (some place)

/-- The first suppression that applies is there where the diagnostic is suppressed at all. -/
theorem exists_matching_iff :
    (∃ place, matcher.matchingEntry? diagnostic = .ok (some place)) ↔
      matcher.suppresses diagnostic = .ok true := by
  rw [suppresses_eq]
  cases matcher.matchingEntry? diagnostic with
  | error refusal => exact iff_of_false nofun nofun
  | ok found => cases found <;> simp [Except.map]

theorem filter_divides (divided : matcher.filter diagnostics = .ok (kept, suppressed)) :
    matcher.Divides diagnostics kept suppressed := by
  obtain ⟨answers, rfl, rfl⟩ := filter_eq_ok_iff.mp divided
  have hides : ∀ diagnostic ∈ diagnostics, matcher.suppresses diagnostic = .ok true ↔
      ∃ entry ∈ matcher.entries, matcher.applies entry diagnostic = .ok true := by
    intro diagnostic member
    obtain ⟨verdict, told⟩ := answers_iff.mp (answers diagnostic member)
    rw [← suppresses_iff told, told, Except.ok.injEq]
  refine ⟨List.filter_sublist, List.filter_sublist, ?_, fun diagnostic member => ?_,
    fun diagnostic member => ?_, fun diagnostic member => ?_⟩
  · have dealt := List.filter_append_perm (matcher.suppresses · = .ok true) diagnostics
    simpa using List.perm_append_comm.trans dealt
  · rw [← hides diagnostic member]
    simp [member]
  · rw [← hides diagnostic member]
    simp [member]
  · rw [exists_matching_iff]
    simp [member]

theorem filter_sublist_filter {first second : Diagnostic → Bool}
    (only : ∀ diagnostic ∈ diagnostics, first diagnostic → second diagnostic) :
    (diagnostics.filter first).Sublist (diagnostics.filter second) := by
  have both : diagnostics.filter first = (diagnostics.filter second).filter first := by
    rw [List.filter_filter]
    refine List.filter_congr fun diagnostic member => ?_
    cases passes : first diagnostic with
    | false => rfl
    | true => rw [only diagnostic member passes, Bool.and_self]
  exact both ▸ List.filter_sublist

/-- With more suppressions some of the diagnostics that were kept are suppressed, and nothing else
changes. -/
theorem filter_mono (same : matcher.SamePlaces other) (more : matcher.entries ⊆ other.entries)
    {lists lists' : List Diagnostic × List Diagnostic}
    (divided : matcher.filter diagnostics = .ok lists)
    (later : other.filter diagnostics = .ok lists') :
    lists'.1.Sublist lists.1 ∧ lists.2.Sublist lists'.2 := by
  obtain ⟨-, kept, suppressed⟩ := filter_eq_ok_iff.mp divided
  obtain ⟨answers, kept', suppressed'⟩ := filter_eq_ok_iff.mp later
  have grows : ∀ diagnostic ∈ diagnostics, matcher.suppresses diagnostic = .ok true →
      other.suppresses diagnostic = .ok true :=
    fun diagnostic member => same.suppresses_mono more (answers diagnostic member)
  constructor
  · rw [kept, kept']
    refine filter_sublist_filter fun diagnostic member => ?_
    simpa using mt (grows diagnostic member)
  · rw [suppressed, suppressed']
    refine filter_sublist_filter fun diagnostic member => ?_
    simpa using grows diagnostic member

/-- The order of the suppressions, and whether some are repeated, makes no difference to lists that
both matchers have. -/
theorem filter_congr (same : matcher.SamePlaces other)
    (alike : ∀ entry, entry ∈ other.entries ↔ entry ∈ matcher.entries)
    {lists lists' : List Diagnostic × List Diagnostic}
    (divided : matcher.filter diagnostics = .ok lists)
    (again : other.filter diagnostics = .ok lists') : lists' = lists := by
  have more := filter_mono same (fun entry => (alike entry).mpr) divided again
  have less := filter_mono same.symm (fun entry => (alike entry).mp) again divided
  exact Prod.ext (more.1.antisymm less.1) (less.2.antisymm more.2)

/-- Every suppression has an answer for the diagnostic, tried or not. -/
def Undisputed (matcher : Matcher) (diagnostic : Diagnostic) : Prop :=
  ∀ entry ∈ matcher.entries, ∃ verdict, matcher.applies entry diagnostic = .ok verdict

theorem Undisputed.answers (undisputed : matcher.Undisputed diagnostic) :
    matcher.Answers diagnostic :=
  fun entry tried => undisputed entry tried.mem

theorem SamePlaces.undisputed (same : matcher.SamePlaces other)
    (fewer : other.entries ⊆ matcher.entries) (undisputed : matcher.Undisputed diagnostic) :
    other.Undisputed diagnostic := by
  intro entry member
  rw [same.applies_eq]
  exact undisputed entry (fewer member)

/-- A matcher holds what calls have added to it, and its filter deals the diagnostics out in their
order, provided that each suppression that is tried for one of them has an answer.  The same
suppressions in another order, or some of them repeated, leave both lists as they are, and adding
more of them only moves diagnostics from the first list to the second one, as long as there are
lists; and there are where every suppression has an answer. -/
theorem filter_after (start : Matcher) (calls : List Call) (diagnostics : List Diagnostic) :
    let built := start.after calls
    built.entries = start.entries ++ entriesOf calls ∧
      built.regions = start.regions ++ regionsOf calls ∧
      ((∃ lists, built.filter diagnostics = .ok lists) ↔
        ∀ diagnostic ∈ diagnostics, built.Answers diagnostic) ∧
      ((∀ diagnostic ∈ diagnostics, built.Undisputed diagnostic) →
        ∀ other, built.SamePlaces other → other.entries ⊆ built.entries →
          ∃ lists, other.filter diagnostics = .ok lists) ∧
      ∀ lists, built.filter diagnostics = .ok lists →
        built.Divides diagnostics lists.1 lists.2 ∧
        (∀ other lists', built.SamePlaces other →
          (∀ entry, entry ∈ other.entries ↔ entry ∈ built.entries) →
            other.filter diagnostics = .ok lists' → lists' = lists) ∧
        ∀ (more : List Entry) (lists' : List Diagnostic × List Diagnostic),
          (built.after (more.map .add)).filter diagnostics = .ok lists' →
            lists'.1.Sublist lists.1 ∧ lists.2.Sublist lists'.2 := by
  intro built
  have held := start.after_eq calls
  refine ⟨congrArg entries held, congrArg regions held, exists_filter_iff,
    fun undisputed other same fewer => ?_, fun lists divided => ⟨filter_divides divided,
      fun other lists' same alike => filter_congr same alike divided, fun more lists' later => ?_⟩⟩
  · exact exists_filter_iff.mpr fun diagnostic member =>
      (same.undisputed fewer (undisputed diagnostic member)).answers
  · have added : built.after (more.map .add) =
        ⟨built.base, built.named, built.entries ++ more, built.regions⟩ := by
      simp only [after_eq, entriesOf_add, regionsOf_add, List.append_nil]
    have same : built.SamePlaces (built.after (more.map .add)) := by
      rw [added]
      exact ⟨rfl, rfl, rfl⟩
    have larger : built.entries ⊆ (built.after (more.map .add)).entries := by
      rw [added]
      exact List.subset_append_left ..
    exact filter_mono same larger divided later

def outerFunction : Region :=
  ⟨"Outer", .function, { start := ⟨1, 1⟩, stop := ⟨10, 2⟩ }⟩

def everywhere (target : Option String) : Entry :=
  { rule := "*", extent := { start := ⟨1, 1⟩, stop := ⟨20, 1⟩ }, target := target }

def foundInside : Diagnostic :=
  { message := "m", extent := { start := ⟨5, 1⟩, stop := ⟨5, 4⟩ }, rule := "R" }

/-- A number of repetitions that is too large. -/
def overrunning : String := "a\x7b4294967295\x7d"

/-- A suppression whose target is refused leaves a diagnostic without an answer, unless one that was
added before it applies. -/
theorem filter_after_refused :
    let start : Matcher := { base := "/work" }
    let refused := start.after [.addRegion outerFunction, .add (everywhere overrunning)]
    let answered := start.after
      [.addRegion outerFunction, .add (everywhere none), .add (everywhere overrunning)]
    refused.filter [foundInside] = .error .countTooLarge ∧ ¬ refused.Answers foundInside ∧
      answered.filter [foundInside] = .ok ([], [foundInside]) ∧
      answered.Divides [foundInside] [] [foundInside] := by
  intro start refused answered
  have none : refused.filter [foundInside] = .error .countTooLarge := by decide +kernel
  have divided : answered.filter [foundInside] = .ok ([], [foundInside]) := by decide +kernel
  obtain ⟨-, -, exists_iff, -⟩ := filter_after start
    [.addRegion outerFunction, .add (everywhere overrunning)] [foundInside]
  obtain ⟨-, -, -, -, divides⟩ := filter_after start
    [.addRegion outerFunction, .add (everywhere .none), .add (everywhere overrunning)] [foundInside]
  refine ⟨none, fun answers => ?_, divided, (divides _ divided).1⟩
  obtain ⟨lists, some⟩ := exists_iff.mpr (List.forall_mem_singleton.mpr answers)
  cases none.symm.trans some

end Matcher
end ScriptAudit.Suppression
