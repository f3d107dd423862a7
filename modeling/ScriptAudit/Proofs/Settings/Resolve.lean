import ScriptAudit.Proofs.Files.Tree
import ScriptAudit.Proofs.Settings.Load
import ScriptAudit.Proofs.Settings.Path

namespace ScriptAudit.Settings

/-! What stops the resolution of settings.

It is a fault of the settings or of the reading of their file, but for three kinds of trouble that
no fault tells of: names that the system refuses, bytes that are no text, and numbers that no
message can show. -/

open Files

variable {tree : FileTree} {path workingFolder : String} {given : Value} {trouble : Trouble}

def IsNamed (tree : FileTree) : Origin → Prop
  | .preset path => path ≠ "" ∧ ¬ IsRefused tree path
  | .file path | .discovered path => path ≠ ""
  | .handedIn _ | .nowhere => True

def IsSearchProblem : Problem → Prop
  | .fault found => IsReported found
  | .file trouble => trouble = .nameTooLong
  | _ => False

theorem discover_ends (tree : FileTree) (workingFolder : String) :
    Ends (IsNamed tree) (fun trouble => trouble = .nameTooLong)
      (discover tree workingFolder) := by
  have named : settingsFileName ≠ "" := by decide +kernel
  unfold discover
  split
  · trivial
  · dsimp only
    cases first : tree.isFile (tidy workingFolder) with
    | error trouble => exact isFile_error first
    | ok isFile =>
        dsimp only [bind, Except.bind]
        generalize (if isFile then parent (tidy workingFolder) else tidy workingFolder) = folder
        cases second : tree.isFile (below folder settingsFileName) with
        | error trouble => exact isFile_error second
        | ok found =>
            cases found with
            | true => exact below_ne_empty named
            | false => trivial

theorem originOf_ends (tree : FileTree) (given : Value) (workingFolder : String) :
    Ends (IsNamed tree) IsSearchProblem (originOf tree given workingFolder) := by
  have discovers : Ends (IsNamed tree) IsSearchProblem
      ((discover tree workingFolder).mapError .file) :=
    (discover_ends tree workingFolder).mapError
  have texts : ∀ text, Ends (IsNamed tree) IsSearchProblem
      (originOfText tree workingFolder text) := by
    intro text
    unfold originOfText
    split
    · exact discovers
    · next worded =>
        split
        · next path preset => exact preset_not_refused preset
        · rintro rfl
          exact worded (by decide +kernel)
  unfold originOf
  split
  · trivial
  · trivial
  · exact texts _
  · exact texts _
  · exact discovers
  · exact .inl rfl

/-- The settings file that is used. -/
inductive Chosen (tree : FileTree) (given : Value) (workingFolder : String) :
    Mode → String → Prop where
  | discovered {path : String}
      (origin : originOf tree given workingFolder = .ok (.discovered path)) :
      Chosen tree given workingFolder .file path
  | preset {path found : String} (origin : originOf tree given workingFolder = .ok (.preset path))
      (resolved : resolvePath tree path = .ok found) :
      Chosen tree given workingFolder .preset found
  | file {path found : String} (origin : originOf tree given workingFolder = .ok (.file path))
      (resolved : resolvePath tree path = .ok found) :
      Chosen tree given workingFolder .file found

variable {mode : Mode}

theorem resolve_chosen (chosen : Chosen tree given workingFolder mode path) :
    resolve tree given workingFolder = resolveFile tree mode path := by
  unfold resolve
  cases chosen with
  | discovered origin => rw [origin]; rfl
  | preset origin resolved => rw [origin]; dsimp only [bind, Except.bind]; rw [resolved]; rfl
  | file origin resolved => rw [origin]; dsimp only [bind, Except.bind]; rw [resolved]; rfl

theorem resolve_stops {problem : Problem}
    (origin : originOf tree given workingFolder = .error problem) :
    resolve tree given workingFolder = .error problem := by
  unfold resolve
  rw [origin]
  rfl

theorem resolve_nowhere (origin : originOf tree given workingFolder = .ok .nowhere) :
    resolve tree given workingFolder = .ok .standard := by
  unfold resolve
  rw [origin]
  rfl

theorem resolve_handedIn {value : Value}
    (origin : originOf tree given workingFolder = .ok (.handedIn value)) :
    resolve tree given workingFolder = ((normalize ⟨""⟩ value).mapError .ofFault >>=
      fun literal => build .hashtable none [] literal.pairs) := by
  unfold resolve
  rw [origin]
  rfl

theorem chosen_ne_empty (chosen : Chosen tree given workingFolder mode path) : path ≠ "" := by
  have ends := originOf_ends tree given workingFolder
  cases chosen with
  | discovered origin => rw [origin] at ends; exact ends
  | preset origin resolved =>
      rw [origin] at ends
      exact resolvePath_ne_empty ends.1 resolved
  | file origin resolved =>
      rw [origin] at ends
      exact resolvePath_ne_empty ends resolved

/-- The trouble that no fault tells of: with a name that is too long, with one that has a character
no name can have, or with bytes that are no text. -/
inductive Escapes (tree : FileTree) (given : Value) (workingFolder : String) : Trouble → Prop where
  | search (unknown : originOf tree given workingFolder = .error (.file .nameTooLong)) :
      Escapes tree given workingFolder .nameTooLong
  | refused {path : String} (origin : originOf tree given workingFolder = .ok (.file path))
      (refused : IsRefused tree path) : Escapes tree given workingFolder .nullCharacter
  | file {mode : Mode} {path : String} {trouble : Trouble}
      (chosen : Chosen tree given workingFolder mode path)
      (unreported : Unreported tree path trouble) : Escapes tree given workingFolder trouble

/-- The settings hold an integer that is too long for a message. -/
inductive HoldsLong (tree : FileTree) (given : Value) (workingFolder : String) : Prop where
  | handedIn {value : Value} (origin : originOf tree given workingFolder = .ok (.handedIn value))
      (long : Fault.isShown value = false)
  | file {mode : Mode} {path : String} (chosen : Chosen tree given workingFolder mode path)
      (long : HoldsLongInteger tree path)

def IsFaultOf (tree : FileTree) (given : Value) (workingFolder : String) (fault : Fault) : Prop :=
  IsReported fault ∧ ∀ mode path, Chosen tree given workingFolder mode path → fault.file ≠ ""

def IsProblemOf (tree : FileTree) (given : Value) (workingFolder : String) : Problem → Prop
  | .fault found => IsFaultOf tree given workingFolder found
  | .file trouble => Escapes tree given workingFolder trouble
  | .integerNotShown => HoldsLong tree given workingFolder
  | _ => False

theorem chosen_ends (chosen : Chosen tree given workingFolder mode path) :
    Ends (fun _ => True) (IsProblemOf tree given workingFolder) (resolveFile tree mode path) := by
  refine (resolveFile_ends tree mode path).imp (fun _ => id) fun problem stopped => ?_
  cases problem with
  | fault found =>
      obtain ⟨reported, named⟩ := stopped
      exact ⟨reported, fun _ _ _ => named (chosen_ne_empty chosen)⟩
  | file trouble => exact .file chosen stopped
  | integerNotShown => exact .file chosen stopped
  | table | keyWithoutCase | notOneSource => exact stopped

theorem chosen_origin (chosen : Chosen tree given workingFolder mode path) :
    ∃ origin text, originOf tree given workingFolder = .ok origin ∧ origin.path? = some text := by
  cases chosen with
  | discovered origin => exact ⟨_, path, origin, rfl⟩
  | preset origin resolved | file origin resolved => exact ⟨_, _, origin, rfl⟩

theorem stopped_before_file {fault : Fault} (reported : IsReported fault)
    (pathless : ∀ origin, originOf tree given workingFolder = .ok origin → origin.path? = none) :
    IsFaultOf tree given workingFolder fault := by
  refine ⟨reported, fun mode path chosen => ?_⟩
  obtain ⟨origin, text, found, named⟩ := chosen_origin chosen
  rw [pathless origin found] at named
  cases named

theorem handedIn_ends {value : Value}
    (origin : originOf tree given workingFolder = .ok (.handedIn value)) :
    Ends (fun _ => True) (IsProblemOf tree given workingFolder)
      (resolve tree given workingFolder) := by
  have shows : ¬ HoldsLong tree given workingFolder → Fault.isShown value := by
    intro short
    cases shown : Fault.isShown value with
    | true => rfl
    | false => exact absurd (.handedIn origin shown) short
  have normal : Ends (IsMade (¬ HoldsLong tree given workingFolder))
      (IsSettingsProblem (¬ HoldsLong tree given workingFolder))
      ((normalize ⟨""⟩ value).mapError .ofFault) := by
    refine Ends.mapError ((normalize_ends ⟨""⟩ value shows).imp (fun _ => id)
      fun fault misshapen => ?_)
    have kind : fault.cause.kind = .invalidValueShape := misshapen.kind
    exact ofFault_isSettings fault.extent (kind ▸ rfl) misshapen.shows
  have built := normal.bind fun literal made => build_ends .hashtable none [] made
  unfold resolve
  rw [origin]
  refine built.imp (fun _ => id) fun problem stopped => ?_
  cases problem with
  | fault found =>
      refine stopped_before_file (.inl stopped) fun other found => ?_
      cases origin.symm.trans found
      rfl
  | integerNotShown => exact Classical.not_not.mp stopped
  | file | table | keyWithoutCase | notOneSource => exact stopped.elim

theorem path_ends {origin : Origin} (found : originOf tree given workingFolder = .ok origin)
    (refuses : IsRefused tree path → origin = .file path)
    (chooses : ∀ found, resolvePath tree path = .ok found →
      Chosen tree given workingFolder mode found) :
    Ends (fun _ => True) (IsProblemOf tree given workingFolder) (do
      let found ← (resolvePath tree path).mapError .file
      resolveFile tree mode found) := by
  have ends := resolvePath_ends tree path
  cases resolved : resolvePath tree path with
  | error trouble =>
      rw [resolved] at ends
      obtain ⟨rfl, refused⟩ := ends
      exact .refused (refuses refused ▸ found) refused
  | ok file => exact chosen_ends (chooses file resolved)

theorem resolve_ends (tree : FileTree) (given : Value) (workingFolder : String) :
    Ends (fun _ => True) (IsProblemOf tree given workingFolder)
      (resolve tree given workingFolder) := by
  have ends := originOf_ends tree given workingFolder
  cases origin : originOf tree given workingFolder with
  | error problem =>
      unfold resolve
      rw [origin] at ends ⊢
      cases problem with
      | fault found =>
          exact stopped_before_file ends fun other found => nomatch origin.symm.trans found
      | file trouble =>
          cases ends
          exact .search origin
      | table | keyWithoutCase | integerNotShown | notOneSource => exact ends.elim
  | ok found =>
      rw [origin] at ends
      cases found with
      | nowhere =>
          unfold resolve
          rw [origin]
          trivial
      | handedIn value => exact handedIn_ends origin
      | discovered path =>
          have chosen : Chosen tree given workingFolder .file path := .discovered origin
          rw [resolve_chosen chosen]
          exact chosen_ends chosen
      | preset path =>
          unfold resolve
          rw [origin]
          exact path_ends origin (fun refused => absurd refused ends.2)
            fun found resolved => .preset origin resolved
      | file path =>
          unfold resolve
          rw [origin]
          exact path_ends origin (fun _ => rfl) fun found => .file origin

theorem resolve_escapes (escapes : Escapes tree given workingFolder trouble) :
    resolve tree given workingFolder = .error (.file trouble) := by
  cases escapes with
  | search unknown =>
      unfold resolve
      rw [unknown]
      rfl
  | @refused path origin refused =>
      unfold resolve
      rw [origin]
      change ((resolvePath tree path).mapError Problem.file >>= resolveFile tree .file) = _
      rw [resolvePath_refused refused]
      rfl
  | file chosen unreported =>
      rw [resolve_chosen chosen, resolveFile, loadTable_unreported unreported]
      rfl

/-- What stops the resolution of settings is a fault of the settings or of the reading of their
file, and it names the file when there is one.  But a name that is too long or that no file can
have, bytes that are no text and an integer that no message can show are not reported as faults. -/
theorem resolve_reports (tree : FileTree) (given : Value) (workingFolder : String) :
    (∀ problem, resolve tree given workingFolder = .error problem →
      (∃ fault, problem = .fault fault ∧
        (fault.kind.isSettings ∨ fault.kind = .parserFailure ∨ fault.kind = .settingsFileNotFound) ∧
        ∀ mode path, Chosen tree given workingFolder mode path → fault.file ≠ "") ∨
      (∃ trouble, problem = .file trouble ∧ Escapes tree given workingFolder trouble) ∨
      problem = .integerNotShown ∧ HoldsLong tree given workingFolder) ∧
    ∀ trouble, Escapes tree given workingFolder trouble →
      resolve tree given workingFolder = .error (.file trouble) := by
  refine ⟨fun problem stopped => ?_, fun trouble => resolve_escapes⟩
  have ends := resolve_ends tree given workingFolder
  rw [stopped] at ends
  cases problem with
  | fault found => exact .inl ⟨found, rfl, ends⟩
  | file trouble => exact .inr (.inl ⟨trouble, rfl, ends⟩)
  | integerNotShown => exact .inr (.inr ⟨rfl, ends⟩)
  | table | keyWithoutCase | notOneSource => exact ends.elim

/-- An at sign and a byte that is no text. -/
def brokenFile : FileTree :=
  ⟨"/work", "/work/home", [("/work", .folder [("s.psd1", .file ⟨#[0x40, 0xff]⟩)])]⟩

theorem brokenFile_wellFormed : brokenFile.WellFormed :=
  FileTree.loneFile_wellFormed _ (by decide +kernel) (by decide +kernel) (by decide +kernel)

theorem fileName_plain : FileTree.IsFileName "s.psd1" ∧ IsPlainPath "s.psd1" := by
  refine ⟨⟨⟨?_, ?_, ?_⟩, ?_, ?_, ?_⟩, ⟨?_, ?_, ?_, ?_⟩⟩ <;> decide +kernel

theorem look_brokenFile : brokenFile.look "s.psd1" = .ok (.file ⟨#[0x40, 0xff]⟩) :=
  FileTree.look_loneFile brokenFile_wellFormed fileName_plain.1

theorem absolute_brokenFile : absolute brokenFile.current "s.psd1" = "/work/s.psd1" := by
  decide +kernel

theorem read_brokenFile : brokenFile.read "/work/s.psd1" = .ok ⟨#[0x40, 0xff]⟩ := by
  have short : (tidy (absolute brokenFile.current "s.psd1")).utf8ByteSize ≤ greatestPath := by
    decide +kernel
  have read : brokenFile.read "s.psd1" = .ok ⟨#[0x40, 0xff]⟩ :=
    FileTree.read_loneFile brokenFile_wellFormed fileName_plain.1
  rw [← absolute_brokenFile, FileTree.read_absolute brokenFile_wellFormed short read]

theorem resolvePath_brokenFile : resolvePath brokenFile "s.psd1" = .ok "/work/s.psd1" := by
  rw [resolvePath_eq fileName_plain.2, pathInFull, FileTree.exists?, look_brokenFile,
    ← absolute_brokenFile]
  rfl

theorem resolve_misses_bytes :
    resolve brokenFile (.text "s.psd1") "" = .error (.file .undecodable) := by
  obtain ⟨worded, unnamed, -, -⟩ := fileName_plain.2
  have origin : originOf brokenFile (.text "s.psd1") "" = .ok (.file "s.psd1") := by
    rw [originOf, originOfText, if_neg worded, unnamed]
  have noText : dataFileText? ⟨#[0x40, 0xff]⟩ = none := by decide +kernel
  refine (resolve_reports brokenFile (.text "s.psd1") "").2 _ ?_
  exact .file (.file origin resolvePath_brokenFile) (.undecodable read_brokenFile noText)

end ScriptAudit.Settings
