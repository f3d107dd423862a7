import ScriptAudit.Proofs.Fault.Ends
import ScriptAudit.Proofs.Files.Path
import ScriptAudit.Settings.Resolve

namespace ScriptAudit.Settings

/-! What the path of a settings file stands for. -/

open Files

variable {tree : FileTree} {path : String}

/-- The path goes through a folder of another user, or below a folder whose entries are matched with
wildcards, and the name of either has a character that no name can have. -/
def IsRefused (tree : FileTree) (path : String) : Prop :=
  let expanded := Files.expandHome tree.home path
  (∃ owner, homeOwner? path = some owner ∧ '\x00' ∈ owner.toList) ∨
    Pattern.hasWildcards expanded ∧
      ∃ part ∈ ((Text.parts '/' expanded).filter (· != "")).takeWhile (!Pattern.hasWildcards ·),
        '\x00' ∈ part.toList

theorem expandHome_ends (tree : FileTree) (path : String) :
    Ends (fun expanded => expanded = Files.expandHome tree.home path)
      (fun trouble => trouble = .nullCharacter ∧ IsRefused tree path) (tree.expandHome path) := by
  unfold FileTree.expandHome
  split
  · next null =>
      rw [List.contains_iff_mem] at null
      cases owned : homeOwner? path with
      | none => simp [owned] at null
      | some owner =>
          rw [owned] at null
          exact ⟨rfl, .inl ⟨owner, owned, null⟩⟩
  · rfl

theorem expand_ends (tree : FileTree) {path : String}
    (wild : Pattern.hasWildcards (Files.expandHome tree.home path)) :
    Ends (fun _ => True) (fun trouble => trouble = .nullCharacter ∧ IsRefused tree path)
      (tree.expand (Files.expandHome tree.home path)) := by
  unfold FileTree.expand
  dsimp only
  split
  · next null =>
      rw [List.any_eq_true] at null
      obtain ⟨part, member, null⟩ := null
      exact ⟨rfl, .inr ⟨wild, part, member, List.contains_iff_mem.mp null⟩⟩
  · trivial

/-- A path stays as it is or becomes an absolute one, unless a name in it is refused. -/
theorem resolvePath_ends (tree : FileTree) (path : String) :
    Ends (fun found => found = path ∨ ∃ expanded, found = absolute tree.current expanded)
      (fun trouble => trouble = .nullCharacter ∧ IsRefused tree path) (resolvePath tree path) := by
  unfold resolvePath
  refine (expandHome_ends tree path).bind ?_
  rintro _ rfl
  split
  · next wild =>
      refine (expand_ends tree wild).bind fun found _ => ?_
      split
      · exact .inr ⟨_, rfl⟩
      · exact .inl rfl
  · split
    · exact .inr ⟨_, rfl⟩
    · exact .inl rfl

/-- The path is the path of a file and nothing else: no preset, nothing to expand, no blank. -/
structure IsPlainPath (path : String) : Prop where
  worded : Text.strip path ≠ ""
  unnamed : presetPath? path = none
  homeless : homeOwner? path = none
  tame : Pattern.hasWildcards path = false

/-- The path in full, where something is known under it. -/
def pathInFull (tree : FileTree) (path : String) : String :=
  if tree.exists? path then absolute tree.current path else path

theorem resolvePath_eq (plain : IsPlainPath path) :
    resolvePath tree path = .ok (pathInFull tree path) := by
  have home : tree.expandHome path = .ok path := by
    unfold FileTree.expandHome Files.expandHome
    rw [plain.homeless]
    rfl
  unfold resolvePath
  rw [home]
  dsimp only [bind, Except.bind]
  rw [plain.tame, if_neg Bool.false_ne_true]
  unfold pathInFull
  split <;> rfl

theorem resolvePath_refused (refused : IsRefused tree path) :
    resolvePath tree path = .error .nullCharacter := by
  unfold resolvePath FileTree.expandHome
  rcases refused with ⟨owner, owned, null⟩ | ⟨wild, part, member, null⟩
  · rw [if_pos (by rw [owned]; exact List.contains_iff_mem.mpr null)]
    rfl
  · split
    · rfl
    · have found : (((Text.parts '/' (Files.expandHome tree.home path)).filter (· != "")).takeWhile
          (!Pattern.hasWildcards ·)).any (·.toList.contains '\x00') = true :=
        List.any_eq_true.mpr ⟨part, member, List.contains_iff_mem.mpr null⟩
      have broken : tree.expand (Files.expandHome tree.home path) = .error .nullCharacter :=
        if_pos found
      change (if Pattern.hasWildcards (Files.expandHome tree.home path) then _ else _) = _
      rw [if_pos wild, broken]
      rfl

theorem resolvePath_ne_empty {found : String} (named : path ≠ "")
    (resolved : resolvePath tree path = .ok found) : found ≠ "" := by
  have ends := resolvePath_ends tree path
  rw [resolved] at ends
  rcases ends with rfl | ⟨expanded, rfl⟩
  · exact named
  · exact withParts_ne_empty _ _

theorem preset_not_refused {name : String} (preset : presetPath? name = some path) :
    path ≠ "" ∧ ¬ IsRefused tree path := by
  have plain : ∀ preset ∈ Preset.all,
      homeOwner? (join presetFolder (preset.name ++ fileEnding)) = none ∧
        Pattern.hasWildcards (join presetFolder (preset.name ++ fileEnding)) = false := by
    decide +kernel
  rw [presetPath?, Option.map_eq_some_iff] at preset
  obtain ⟨preset, found, rfl⟩ := preset
  obtain ⟨owned, tame⟩ := plain preset (List.mem_of_find?_eq_some found)
  have same : Files.expandHome tree.home (join presetFolder (preset.name ++ fileEnding)) =
      join presetFolder (preset.name ++ fileEnding) := by
    rw [Files.expandHome, owned]
    rfl
  refine ⟨join_ne_empty (by simp [fileEnding]), ?_⟩
  rw [IsRefused, same, owned, tame]
  simp

end ScriptAudit.Settings
