import ScriptAudit.Proofs.Literal.Values
import ScriptAudit.Proofs.Settings.Build
import ScriptAudit.Proofs.Syntax.File
import ScriptAudit.Settings.Resolve

namespace ScriptAudit.Settings

/-! What the use of a settings file ends with: a configuration, or a problem with the file or the
settings in it. -/

open Files Syntax

variable {tree : FileTree} {path : String} {trouble : Trouble}

def IsReported (fault : Fault) : Prop :=
  fault.kind.isSettings ∨ fault.kind = .parserFailure ∨ fault.kind = .settingsFileNotFound

/-- The trouble with a settings file that no fault tells of. -/
inductive Unreported (tree : FileTree) (path : String) : Trouble → Prop where
  | nameTooLong (unknown : tree.isFile path = .error .nameTooLong) :
      Unreported tree path .nameTooLong
  | undecodable {content : ByteArray} (read : tree.read path = .ok content)
      (noText : dataFileText? content = none) : Unreported tree path .undecodable

theorem isFile_read (found : tree.isFile path = .ok true) :
    ∃ content, tree.read path = .ok content := by
  unfold FileTree.isFile at found
  unfold FileTree.read
  split at found
  · next entry looked =>
      rw [looked]
      cases entry with
      | file content => exact ⟨content, rfl⟩
      | folder entries => cases found
  · cases found
  · cases found

theorem isFile_error (unknown : tree.isFile path = .error trouble) : trouble = .nameTooLong := by
  unfold FileTree.isFile at unknown
  split at unknown
  · cases unknown
  · cases unknown
    rfl
  · cases unknown

theorem isFile_of_read {content : ByteArray} (read : tree.read path = .ok content) :
    tree.isFile path = .ok true := by
  unfold FileTree.read at read
  unfold FileTree.isFile
  split at read
  · next looked =>
      rw [looked]
      rfl
  · cases read
  · cases read

def IsLoadProblem (tree : FileTree) (path : String) : Problem → Prop
  | .fault found => IsReported found
  | .file trouble => Unreported tree path trouble
  | _ => False

theorem ofIssues_kind (path : String) (first : Issue) (others : List Issue) :
    (Fault.ofIssues path first others).kind = .parserFailure := by
  unfold Fault.ofIssues
  dsimp only
  split <;> rfl

theorem evaluated_ends (tree : FileTree) (path : String) (hashtable : Node) :
    Ends (fun entries => Value.IsLiteral (.table entries)) (IsLoadProblem tree path)
      ((Literal.pairEntries true [] (pairsOf hashtable)).mapError .fault) := by
  refine Ends.mapError ((Literal.pairEntries_ends true _ Table.distinct_nil
    (List.forall_mem_nil _)).imp (fun _ => id) fun fault unsupported => ?_)
  have kind : fault.kind = .unsupportedLiteral := unsupported
  exact .inl (kind ▸ rfl)

theorem parseFile_ends (found : tree.isFile path = .ok true) :
    Ends (fun _ => True) (IsLoadProblem tree path) (parseFile tree path) := by
  obtain ⟨content, read⟩ := isFile_read found
  rw [parseFile_read read]
  split
  · next text decoded =>
      exact ((parseText_ends text path).imp (fun _ => id)
        fun _ failed => .inr (.inl failed)).mapError
  · next undecoded => exact .undecodable read undecoded

theorem loadTable_ends (tree : FileTree) (path : String) :
    Ends (fun loaded => IsMade (Fault.areShownEntries loaded.1) (.table loaded.1))
      (IsLoadProblem tree path) (loadTable tree path) := by
  unfold loadTable
  cases known : tree.isFile path with
  | error trouble =>
      cases isFile_error known
      exact .nameTooLong known
  | ok found =>
      cases found with
      | false => exact .inr (.inr rfl)
      | true =>
          refine (parseFile_ends known).bind fun parsed _ => ?_
          split
          · exact .inr (.inl (ofIssues_kind path _ _))
          · split
            · exact .inl rfl
            · next hashtable _ =>
                exact (evaluated_ends tree path hashtable).bind fun entries literal => ⟨literal, id⟩

/-- The table of a file is read from its first hashtable. -/
theorem loadTable_of_parsed {result : ParseResult} {hashtable : Node}
    {entries : List (String × Value)} (parsed : parseFile tree path = .ok result)
    (clean : result.issues = []) (first : result.tree.firstHashtable = some hashtable)
    (evaluated : Literal.pairEntries true [] (pairsOf hashtable) = .ok entries) :
    loadTable tree path = .ok (entries, locate "" hashtable) := by
  obtain ⟨content, text, read, -⟩ := exists_read_of_parseFile parsed
  unfold loadTable
  rw [isFile_of_read read, parsed]
  dsimp only [Except.mapError, bind, Except.bind]
  rw [clean, first]
  dsimp only
  rw [evaluated]
  rfl

/-- A settings file holds an integer that is too long for a message. -/
def HoldsLongInteger (tree : FileTree) (path : String) : Prop :=
  ∃ loaded, loadTable tree path = .ok loaded ∧ Fault.areShownEntries loaded.1 = false

def IsFileProblem (tree : FileTree) (path : String) : Problem → Prop
  | .fault found => IsReported found ∧ (path ≠ "" → found.file ≠ "")
  | .file trouble => Unreported tree path trouble
  | .integerNotShown => HoldsLongInteger tree path
  | _ => False

theorem withFile_file (fault : Fault) (named : path ≠ "") : (fault.withFile path).file ≠ "" := by
  change ((fault.extent.getD {}).withFile path).file ≠ ""
  unfold Source.Extent.withFile
  split
  · exact named
  · next labelled => exact labelled

/-- With the path of the settings file known, what stops its use is known as well. -/
theorem inFile_problem {problem : Problem}
    (stopped : IsLoadProblem tree path problem ∨
      IsSettingsProblem (¬ HoldsLongInteger tree path) problem) :
    IsFileProblem tree path (problem.inFile path) := by
  cases problem with
  | fault found => exact ⟨stopped.elim id .inl, withFile_file found⟩
  | file trouble => exact stopped.elim id False.elim
  | integerNotShown => exact stopped.elim False.elim Classical.not_not.mp
  | table | keyWithoutCase | notOneSource => exact stopped.elim id id

theorem resolveFile_ends (tree : FileTree) (mode : Mode) (path : String) :
    Ends (fun _ => True) (IsFileProblem tree path) (resolveFile tree mode path) := by
  unfold resolveFile
  refine Ends.mapError (Ends.imp ?_ (fun _ => id) fun problem => inFile_problem)
  have loads := loadTable_ends tree path
  cases loaded : loadTable tree path with
  | error problem =>
      rw [loaded] at loads
      exact .inl loads
  | ok found =>
      rw [loaded] at loads
      have made : IsMade (¬ HoldsLongInteger tree path) (.table found.1) := by
        refine ⟨loads.literal, fun short => loads.shows ?_⟩
        cases shows : Fault.areShownEntries found.1 with
        | true => rfl
        | false => exact absurd ⟨found, loaded, shows⟩ short
      exact (build_ends mode (some path) found.2 made).imp (fun _ => id) fun problem => .inr

theorem loadTable_unreported (unreported : Unreported tree path trouble) :
    loadTable tree path = .error (.file trouble) := by
  unfold loadTable
  cases unreported with
  | nameTooLong unknown =>
      rw [unknown]
      rfl
  | undecodable read noText =>
      rw [isFile_of_read read, parseFile_read read, noText]
      rfl

end ScriptAudit.Settings
