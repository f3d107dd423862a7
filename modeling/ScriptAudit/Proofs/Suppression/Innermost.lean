import Mathlib.Control.Monad.Basic
import ScriptAudit.Proofs.Files.Path
import ScriptAudit.Proofs.Source.Extent
import ScriptAudit.Suppression.Matcher

namespace ScriptAudit.Suppression

/-! Suppressions that ask for a region are decided by the innermost one. -/

open Source

namespace Region

def Nested (first second : Region) : Prop :=
  first.extent.Contains second.extent ∨ second.extent.Contains first.extent

instance : DecidableRel Nested := fun first second =>
  inferInstanceAs (Decidable (first.extent.Contains second.extent ∨
    second.extent.Contains first.extent))

variable {first second third : Region}

theorem inside_iff : first.inside second = true ↔
    second.extent.start < first.extent.start ∨
      (first.extent.start = second.extent.start ∧ first.extent.stop < second.extent.stop) := by
  simp [inside]

/-- Comparing with `inside` puts regions into levels: what lies deeper than a region lies deeper
than all that are not deeper than it. -/
theorem inside_of_not_inside (deeper : first.inside second) (outer : ¬ third.inside second) :
    first.inside third := by
  rw [inside_iff, Position.lt_iff, Position.lt_iff, Position.eq_iff] at *
  omega

theorem inside_irrefl : ¬ first.inside first := by
  rw [inside_iff, Position.lt_iff, Position.lt_iff]
  omega

theorem inside_trans (deeper : first.inside second) (deep : second.inside third) :
    first.inside third := by
  rw [inside_iff, Position.lt_iff, Position.lt_iff, Position.eq_iff] at *
  omega

theorem not_contains_of_inside (deeper : first.inside second) :
    ¬ first.extent.Contains second.extent := by
  rw [inside_iff] at deeper
  rw [Extent.Contains, Position.le_iff, Position.le_iff]
  rw [Position.lt_iff, Position.lt_iff, Position.eq_iff] at deeper
  omega

/-- Of nested regions the one that does not lie deeper is around the other. -/
theorem Nested.contains (nested : first.Nested second) (outer : ¬ first.inside second) :
    first.extent.Contains second.extent := by
  rw [inside_iff, Position.lt_iff, Position.lt_iff, Position.eq_iff] at outer
  rw [Nested, Extent.Contains, Extent.Contains] at nested
  rw [Extent.Contains]
  simp only [Position.le_iff] at *
  omega

end Region

/-- One comparison on the way to the innermost region. -/
def keepDeeper (best : Option Region) (region : Region) : Option Region :=
  match best with
  | none => some region
  | some other => if region.inside other then some region else some other

theorem innermost?_eq_foldl (regions : List Region) :
    innermost? regions = regions.foldl keepDeeper none :=
  rfl

variable {region : Region} {regions before after : List Region}

theorem mem_of_foldl_keepDeeper {best : Option Region}
    (kept : regions.foldl keepDeeper best = some region) :
    region ∈ regions ∨ best = some region := by
  induction regions generalizing best with
  | nil => exact .inr kept
  | cons head rest ih =>
      rcases ih kept with member | same
      · exact .inl (List.mem_cons_of_mem _ member)
      · cases best with
        | none =>
            cases same
            exact .inl List.mem_cons_self
        | some other =>
            rw [keepDeeper] at same
            split at same
            · cases same
              exact .inl List.mem_cons_self
            · exact .inr same

theorem foldl_keepDeeper_outer (outer : ∀ other ∈ regions, ¬ other.inside region) :
    regions.foldl keepDeeper (some region) = some region := by
  induction regions with
  | nil => rfl
  | cons head rest ih =>
      obtain ⟨first, later⟩ := List.forall_mem_cons.mp outer
      rw [List.foldl_cons, keepDeeper, if_neg first]
      exact ih later

/-- A region that lies deeper than those before it, and no less deep than those after it, is the
innermost one. -/
theorem innermost?_split (deeper : ∀ other ∈ before, region.inside other)
    (outer : ∀ other ∈ after, ¬ other.inside region) :
    innermost? (before ++ region :: after) = some region := by
  have taken : keepDeeper (before.foldl keepDeeper none) region = some region := by
    cases best : before.foldl keepDeeper none with
    | none => rfl
    | some other =>
        rcases mem_of_foldl_keepDeeper best with member | none
        · exact if_pos (deeper other member)
        · cases none
  rw [innermost?_eq_foldl, List.foldl_append, List.foldl_cons, taken]
  exact foldl_keepDeeper_outer outer

theorem exists_split (some : regions ≠ []) : ∃ before region after,
    regions = before ++ region :: after ∧ (∀ other ∈ before, region.inside other) ∧
      ∀ other ∈ after, ¬ other.inside region := by
  induction regions with
  | nil => exact absurd rfl some
  | cons head rest ih =>
      by_cases none : rest = []
      · exact ⟨[], head, [], by rw [none]; rfl, by simp, by simp⟩
      · obtain ⟨before, region, after, split, deeper, outer⟩ := ih none
        by_cases deepest : region.inside head
        · refine ⟨head :: before, region, after, by rw [split]; rfl, ?_, outer⟩
          exact List.forall_mem_cons.mpr ⟨deepest, deeper⟩
        · refine ⟨[], head, rest, rfl, by simp, fun other member inner => ?_⟩
          -- Whatever lay deeper than the head would make the region of the rest do so as well.
          rw [split, List.mem_append, List.mem_cons] at member
          rcases member with early | rfl | late
          · exact deepest (Region.inside_trans (deeper other early) inner)
          · exact deepest inner
          · exact outer other late (Region.inside_of_not_inside inner deepest)

/-- Of the regions of the list for which a condition holds, the first one that all of them
contain. -/
def IsInnermost (regions : List Region) (counts : Region → Prop) (region : Region) : Prop :=
  counts region ∧ (∀ other ∈ regions, counts other → other.extent.Contains region.extent) ∧
    ∃ before after, regions = before ++ region :: after ∧
      ∀ earlier ∈ before, counts earlier →
        ∃ other ∈ regions, counts other ∧ ¬ other.extent.Contains earlier.extent

theorem IsInnermost.mem {counts : Region → Prop} (innermost : IsInnermost regions counts region) :
    region ∈ regions := by
  obtain ⟨-, -, before, after, rfl, -⟩ := innermost
  exact List.mem_append_right _ List.mem_cons_self

section Filtered

variable {counts : Region → Prop} [DecidablePred counts]

theorem innermost?_eq_of_isInnermost (innermost : IsInnermost regions counts region) :
    innermost? (regions.filter counts) = some region := by
  obtain ⟨counted, within, before, after, rfl, first⟩ := innermost
  rw [List.filter_append, List.filter_cons_of_pos (by simpa using counted)]
  refine innermost?_split (fun other member => ?_) fun other member => ?_
  · obtain ⟨early, countedToo⟩ := List.mem_filter.mp member
    obtain ⟨third, among, countedThird, apart⟩ := first other early (by simpa using countedToo)
    refine Decidable.byContradiction fun level => apart ?_
    have around := within third among countedThird
    have around' := within other (by simp [early]) (by simpa using countedToo)
    exact around.trans (Region.Nested.contains (.inr around') level)
  · obtain ⟨late, countedToo⟩ := List.mem_filter.mp member
    have around := within other (by simp [late]) (by simpa using countedToo)
    exact fun deeper => Region.not_contains_of_inside deeper around

theorem filter_ne_nil (some : ∃ region ∈ regions, counts region) : regions.filter counts ≠ [] := by
  obtain ⟨region, member, counted⟩ := some
  exact List.ne_nil_of_mem (List.mem_filter.mpr ⟨member, decide_eq_true counted⟩)

theorem exists_innermost? (some : ∃ region ∈ regions, counts region) :
    ∃ region, innermost? (regions.filter counts) = .some region := by
  obtain ⟨before, region, after, split, deeper, outer⟩ := exists_split (filter_ne_nil some)
  exact ⟨region, by rw [split, innermost?_split deeper outer]⟩

theorem exists_isInnermost (some : ∃ region ∈ regions, counts region)
    (nested : ∀ first ∈ regions, ∀ second ∈ regions, counts first → counts second →
      first.Nested second) : ∃ region, IsInnermost regions counts region := by
  obtain ⟨early, region, late, split, deeper, outer⟩ := exists_split (filter_ne_nil some)
  have among {other : Region} : other ∈ regions ∧ counts other ↔
      other ∈ early ∨ other = region ∨ other ∈ late := by
    rw [← List.mem_cons, ← List.mem_append, ← split]
    simp
  obtain ⟨here, counted⟩ := among.mpr (.inr (.inl rfl))
  have level {other : Region} (place : other ∈ early ∨ other = region ∨ other ∈ late) :
      ¬ other.inside region := by
    rcases place with place | rfl | place
    · exact fun deep => Region.inside_irrefl (Region.inside_trans (deeper other place) deep)
    · exact Region.inside_irrefl
    · exact outer other place
  obtain ⟨before, rest, rfl, rfl, afterwards⟩ := List.filter_eq_append_iff.mp split
  obtain ⟨between, after, rfl, skipped, -, -⟩ := List.filter_eq_cons_iff.mp afterwards
  refine ⟨region, counted, fun other member countedToo => ?_, before ++ between, after,
    (List.append_assoc ..).symm, fun earlier place countedToo => ⟨region, here, counted, ?_⟩⟩
  · exact (nested other member region here countedToo counted).contains
      (level (among.mp ⟨member, countedToo⟩))
  · rcases List.mem_append.mp place with place | place
    · exact Region.not_contains_of_inside
        (deeper earlier (List.mem_filter.mpr ⟨place, decide_eq_true countedToo⟩))
    · exact absurd (decide_eq_true countedToo) (skipped earlier place)

end Filtered

theorem targetMatches_of_none {target : Option String} (none : classify target = .none)
    (named : String → Option Nat) (name : String) : targetMatches named target name = .ok true := by
  rw [targetMatches, none]

/-- The suppression is for this rule and rule id, and the diagnostic lies inside it. -/
structure Entry.Concerns (base : String) (entry : Entry) (diagnostic : Diagnostic) : Prop where
  around : entry.extent.Contains diagnostic.extent
  file : Files.sameFile base entry.extent.file diagnostic.shownPath
  rule : entry.rule = "*" ∨ Rule.nameMatches entry.rule diagnostic.rule
  id : ∀ id ∈ entry.id, id = "" ∨ Text.lower (diagnostic.id.getD "") = Text.lower id

namespace Matcher

variable {matcher : Matcher} {entry : Entry} {diagnostic : Diagnostic}

/-- Of two regions of one file that contain a common extent, one contains the other. -/
def IsNested (matcher : Matcher) : Prop :=
  ∀ first ∈ matcher.regions, ∀ second ∈ matcher.regions,
    Files.sameFile matcher.base first.extent.file second.extent.file →
      ∀ common : Extent, first.extent.Contains common → second.extent.Contains common →
        first.Nested second

/-- The region is of a kind that the suppression admits, and it lies around the diagnostic in its
file. -/
def Surrounds (matcher : Matcher) (entry : Entry) (diagnostic : Diagnostic) (region : Region) :
    Prop :=
  region.kind ∈ entry.scope.regionKinds ∧
    Files.sameFile matcher.base region.extent.file diagnostic.shownPath ∧
    region.extent.Contains diagnostic.extent

instance : DecidablePred (matcher.Surrounds entry diagnostic) := fun region =>
  inferInstanceAs (Decidable (region.kind ∈ entry.scope.regionKinds ∧
    Files.sameFile matcher.base region.extent.file diagnostic.shownPath ∧
    region.extent.Contains diagnostic.extent))

theorem covers_iff :
    matcher.covers entry diagnostic = true ↔ entry.Concerns matcher.base diagnostic := by
  simp only [covers, Bool.and_eq_true, Bool.or_eq_true, decide_eq_true_eq, beq_iff_eq,
    Option.all_eq_true, Text.sameFolded]
  constructor
  · rintro ⟨⟨⟨around, file⟩, rule⟩, id⟩
    exact ⟨around, file, rule, id⟩
  · rintro ⟨around, file, rule, id⟩
    exact ⟨⟨⟨around, file⟩, rule⟩, id⟩

theorem enclosing_eq :
    matcher.enclosing diagnostic entry.scope.regionKinds =
      matcher.regions.filter (matcher.Surrounds entry diagnostic) := by
  refine List.filter_congr fun region _ => ?_
  rw [Bool.eq_iff_iff, decide_eq_true_iff]
  simp [Surrounds, and_assoc]

theorem surrounds_nested (nested : matcher.IsNested) (placed : diagnostic.shownPath ≠ "")
    {first second : Region} (member : first ∈ matcher.regions) (member' : second ∈ matcher.regions)
    (around : matcher.Surrounds entry diagnostic first)
    (around' : matcher.Surrounds entry diagnostic second) : first.Nested second :=
  nested first member second member' (Files.sameFile_of_known placed around.2.1 around'.2.1)
    diagnostic.extent around.2.2 around'.2.2

/-- What the regions around a diagnostic have to say to a suppression with a target or a scope: one
of the right kind is there, and the target fits the name of the innermost one. -/
structure NearestAllows (matcher : Matcher) (entry : Entry) (diagnostic : Diagnostic) : Prop where
  concerns : entry.Concerns matcher.base diagnostic
  around : ∃ region ∈ matcher.regions, matcher.Surrounds entry diagnostic region
  target : entry.targetKind ≠ .none → ∃ region,
    IsInnermost matcher.regions (matcher.Surrounds entry diagnostic) region ∧
      targetMatches matcher.named entry.target region.name = .ok true

/-- A suppression that is asked has an answer where its target has one for the name of the innermost
region. -/
def NearestAnswers (matcher : Matcher) (entry : Entry) (diagnostic : Diagnostic) : Prop :=
  entry.Concerns matcher.base diagnostic → ∀ region,
    IsInnermost matcher.regions (matcher.Surrounds entry diagnostic) region →
      ∃ verdict, targetMatches matcher.named entry.target region.name = .ok verdict

theorem applies_outside (outside : ¬ entry.Concerns matcher.base diagnostic) :
    matcher.applies entry diagnostic = .ok false := by
  have uncovered : (!matcher.covers entry diagnostic) = true := by
    rw [Bool.not_eq_true', Bool.eq_false_iff]
    exact mt covers_iff.mp outside
  rw [applies, if_pos uncovered]

/-- A suppression with a target or a scope asks the innermost region. -/
theorem applies_inside (concerns : entry.Concerns matcher.base diagnostic)
    (asks : entry.targetKind ≠ .none ∨ entry.scope ≠ .none) :
    matcher.applies entry diagnostic =
      match innermost? (matcher.regions.filter (matcher.Surrounds entry diagnostic)) with
      | none => .ok false
      | some region => targetMatches matcher.named entry.target region.name := by
  have covered : ¬ (!matcher.covers entry diagnostic) = true := by
    rw [covers_iff.mpr concerns]
    exact Bool.false_ne_true
  have asked : ¬ (entry.scope = .none && entry.targetKind = .none) = true := by
    rw [← Bool.decide_and, decide_eq_true_iff]
    exact fun ⟨scope, target⟩ => asks.elim (· target) (· scope)
  rewrite [applies, if_neg covered, if_neg asked, enclosing_eq]
  rfl

/-- A suppression with a target or a scope is decided by the innermost region around the diagnostic.
A diagnostic without a file lies in regions of every file, so these have to be nested then. -/
theorem applies_nearest (nested : matcher.IsNested)
    (asks : entry.targetKind ≠ .none ∨ entry.scope ≠ .none)
    (placed : entry.targetKind ≠ .none → diagnostic.shownPath = "" →
      ∀ first ∈ matcher.regions, ∀ second ∈ matcher.regions,
        matcher.Surrounds entry diagnostic first → matcher.Surrounds entry diagnostic second →
          first.Nested second) :
    (matcher.applies entry diagnostic = .ok true ↔ matcher.NearestAllows entry diagnostic) ∧
      ((∃ verdict, matcher.applies entry diagnostic = .ok verdict) ↔
        matcher.NearestAnswers entry diagnostic) := by
  by_cases concerns : entry.Concerns matcher.base diagnostic
  case neg =>
    rw [applies_outside concerns]
    exact ⟨iff_of_false nofun fun allowed => concerns allowed.concerns,
      iff_of_true ⟨_, rfl⟩ fun concerned => absurd concerned concerns⟩
  rw [applies_inside concerns asks]
  by_cases some : ∃ region ∈ matcher.regions, matcher.Surrounds entry diagnostic region
  case neg =>
    have nothing : matcher.regions.filter (matcher.Surrounds entry diagnostic) = [] :=
      List.filter_eq_nil_iff.mpr fun region member around =>
        some ⟨region, member, of_decide_eq_true around⟩
    rw [nothing]
    refine ⟨iff_of_false nofun fun allowed => some allowed.around,
      iff_of_true ⟨_, rfl⟩ fun _ region innermost => ?_⟩
    exact absurd ⟨region, innermost.mem, innermost.1⟩ some
  obtain ⟨region, deepest⟩ := exists_innermost? some
  rw [deepest]
  -- Without a target any region around the diagnostic serves, and nesting is not needed.
  by_cases target : entry.targetKind = .none
  · have fits := targetMatches_of_none target matcher.named
    exact ⟨iff_of_true (fits region.name) ⟨concerns, some, fun given => absurd target given⟩,
      iff_of_true ⟨true, fits region.name⟩ fun _ other _ => ⟨true, fits other.name⟩⟩
  · have nestedAround : ∀ first ∈ matcher.regions, ∀ second ∈ matcher.regions,
        matcher.Surrounds entry diagnostic first → matcher.Surrounds entry diagnostic second →
          first.Nested second := by
      by_cases fileless : diagnostic.shownPath = ""
      · exact placed target fileless
      · exact fun first member second member' => surrounds_nested nested fileless member member'
    have only {other : Region} (innermost : IsInnermost matcher.regions
        (matcher.Surrounds entry diagnostic) other) : other = region :=
      Option.some.inj ((innermost?_eq_of_isInnermost innermost).symm.trans deepest)
    obtain ⟨other, innermost⟩ := exists_isInnermost some nestedAround
    obtain rfl := only innermost
    constructor
    · refine ⟨fun fits => ⟨concerns, some, fun _ => ⟨other, innermost, fits⟩⟩, fun allowed => ?_⟩
      obtain ⟨nearest, found, fits⟩ := allowed.target target
      rwa [only found] at fits
    · refine ⟨fun answered _ nearest found => ?_, fun answers => answers concerns other innermost⟩
      rwa [only found]

def functionRegion (name file : String) (start stop : Int) : Region :=
  ⟨name, .function, { start := ⟨start, 1⟩, stop := ⟨stop, 2⟩, file := file }⟩

/-- Functions of two files; those of one file are nested. -/
def twoFiles : Matcher where
  base := "/work"
  regions := [functionRegion "Outer" "a.ps1" 1 10, functionRegion "Inner" "a.ps1" 3 6,
    functionRegion "Twin" "./a.ps1" 3 6, functionRegion "Elsewhere" "b.ps1" 4 12]

def targeting (target : String) : Entry :=
  { rule := "*", extent := { start := ⟨1, 1⟩, stop := ⟨20, 1⟩ }, target := some target }

def diagnosticIn (file : String) : Diagnostic :=
  { message := "m", extent := { start := ⟨5, 1⟩, stop := ⟨5, 4⟩, file := file }, rule := "R" }

theorem twoFiles_nested : twoFiles.IsNested := by
  have pairs : ∀ first ∈ twoFiles.regions, ∀ second ∈ twoFiles.regions,
      Files.sameFile twoFiles.base first.extent.file second.extent.file →
        first.Nested second := by
    decide +kernel
  exact fun first member second member' same _ _ _ => pairs first member second member' same

/-- Of two functions with one extent the one that came first names the target. -/
theorem applies_nearest_inner :
    twoFiles.IsNested ∧ (targeting "Inner").targetKind ≠ .none ∧
      (diagnosticIn "a.ps1").shownPath ≠ "" ∧
      twoFiles.applies (targeting "Inner") (diagnosticIn "a.ps1") = .ok true ∧
      twoFiles.NearestAllows (targeting "Inner") (diagnosticIn "a.ps1") := by
  have target : (targeting "Inner").targetKind ≠ .none := by decide +kernel
  have known : (diagnosticIn "a.ps1").shownPath ≠ "" := by decide
  have applied : twoFiles.applies (targeting "Inner") (diagnosticIn "a.ps1") = .ok true := by
    decide +kernel
  obtain ⟨decides, -⟩ := applies_nearest twoFiles_nested (.inl target)
    fun _ fileless => absurd fileless known
  exact ⟨twoFiles_nested, target, known, applied, decides.mp applied⟩

/-- A diagnostic without a file lies in functions of two files.  None of them is inside all the
others, and still the target is compared with the name of the one that begins last. -/
theorem fileless_not_nearest :
    twoFiles.IsNested ∧ (targeting "Elsewhere").targetKind ≠ .none ∧
      twoFiles.applies (targeting "Elsewhere") (diagnosticIn "") = .ok true ∧
      ¬ twoFiles.NearestAllows (targeting "Elsewhere") (diagnosticIn "") := by
  have target : (targeting "Elsewhere").targetKind ≠ .none := by decide +kernel
  have crossing : ∀ region ∈ twoFiles.regions, ¬ ∀ other ∈ twoFiles.regions,
      twoFiles.Surrounds (targeting "Elsewhere") (diagnosticIn "") other →
        other.extent.Contains region.extent := by
    decide +kernel
  refine ⟨twoFiles_nested, target, by decide +kernel, fun allowed => ?_⟩
  obtain ⟨region, ⟨-, within, before, after, split, -⟩, -⟩ := allowed.target target
  exact crossing region (by rw [split]; simp) within

end Matcher
end ScriptAudit.Suppression
