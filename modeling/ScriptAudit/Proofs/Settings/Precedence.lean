import ScriptAudit.Proofs.Settings.Resolve

namespace ScriptAudit.Settings

/-! Which of its inputs the resolution of settings depends on.

Each source of settings shuts out those after it: what is handed in, what is named, and the settings
file of the working folder.  The last one is found with two looks at the file tree, and they tell
all that the outcome depends on; but a look that fails because a name is too long tells whether the
folder in front of that name is there. -/

open Files Syntax

variable {first second tree : FileTree} {given : Value} {workingFolder path : String}

/-- The settings themselves are handed in. -/
def IsMapping : Value → Prop
  | .table _ | .mapping _ => True
  | _ => False

/-- A preset or a file is named. -/
def IsNaming : Value → Prop
  | .text text | .path text => Text.strip text ≠ ""
  | _ => False

def IsNothing : Value → Prop
  | .null => True
  | .text text | .path text => Text.strip text = ""
  | _ => False

/-- Where a settings file is looked for: in the working folder, or beside the file that is named
instead of it. -/
def settingsPath (tree : FileTree) (workingFolder : String) : String :=
  below (if (tree.read workingFolder).isOk then parent (tidy workingFolder) else tidy workingFolder)
    settingsFileName

/-- The two trees agree on whether the working folder is a file, and on the settings file. -/
structure SearchedAlike (first second : FileTree) (workingFolder : String) : Prop where
  file : (first.read workingFolder).isOk = (second.read workingFolder).isOk
  settings : ∀ content, first.read (settingsPath first workingFolder) = .ok content ↔
    second.read (settingsPath second workingFolder) = .ok content

/-- Nobody can tell whether there is a settings file. -/
def Blocked (tree : FileTree) (workingFolder : String) : Prop :=
  discover tree workingFolder = .error .nameTooLong

/-- A name on the way to the working folder is too long. -/
def HasLongName (tree : FileTree) (workingFolder : String) : Prop :=
  ∃ name ∈ tree.placed workingFolder, greatestName < name.utf8ByteSize

theorem isOk_read {isFile : Bool} (found : tree.isFile path = .ok isFile) :
    (tree.read path).isOk = isFile := by
  unfold FileTree.isFile at found
  unfold FileTree.read
  split at found
  · next entry looked =>
      cases found
      rw [looked]
      cases entry <;> rfl
  · cases found
  · next trouble _ looked =>
      cases found
      rw [looked]
      rfl

/-- Two trees that agree on whether a file can be read tell alike whether it is one, but for a name
that one of them stumbles over. -/
theorem isFile_alike (same : (first.read path).isOk = (second.read path).isOk) :
    first.isFile path = second.isFile path ∨ ∃ tree, (tree = first ∨ tree = second) ∧
      tree.isFile path = .error .nameTooLong ∧ HasLongName tree path := by
  have stops {tree : FileTree} {trouble : Trouble} (unknown : tree.isFile path = .error trouble) :
      tree.isFile path = .error .nameTooLong ∧
        ((∀ other : FileTree, other.isFile path = .error .nameTooLong) ∨
          HasLongName tree path) := by
    cases isFile_error unknown
    refine ⟨unknown, ?_⟩
    unfold FileTree.isFile at unknown
    split at unknown
    · cases unknown
    · next looked =>
        refine (FileTree.look_too_long looked).imp_left fun everywhere other => ?_
        rw [FileTree.isFile, everywhere other]
    · cases unknown
  cases here : first.isFile path with
  | error trouble =>
      obtain ⟨unknown, everywhere | long⟩ := stops here
      · exact .inl ((here.symm.trans unknown).trans (everywhere second).symm)
      · exact .inr ⟨first, .inl rfl, unknown, long⟩
  | ok isFile =>
      cases there : second.isFile path with
      | error trouble =>
          obtain ⟨unknown, everywhere | long⟩ := stops there
          · cases here.symm.trans (everywhere first)
          · exact .inr ⟨second, .inr rfl, unknown, long⟩
      | ok isFileToo => exact .inl (by rw [← isOk_read here, same, isOk_read there])

theorem settingsFileName_parts : pathParts settingsFileName = [settingsFileName] ∧
    anchor settingsFileName = "" :=
  pathParts_part ⟨by decide, by decide, by decide⟩

theorem settingsFileName_size : settingsFileName.utf8ByteSize = 29 := by decide

/-- The way to the settings file adds the name of that file to the way to the working folder. -/
theorem placed_settingsPath (tree : FileTree) (workingFolder : String) :
    tree.placed (settingsPath tree workingFolder) ⊆
      tree.placed workingFolder ++ pathParts settingsFileName := by
  unfold settingsPath
  rw [FileTree.placed_below settingsFileName_parts.2]
  refine List.append_subset.mpr
    ⟨List.subset_append_of_subset_left _ ?_, List.subset_append_right _ _⟩
  rw [← FileTree.placed_tidy tree workingFolder]
  split
  · exact FileTree.placed_parent
  · exact List.Subset.refl _

theorem discover_eq (named : workingFolder ≠ "") :
    discover tree workingFolder = do
      let _ ← tree.isFile (tidy workingFolder)
      let found ← tree.isFile (settingsPath tree workingFolder)
      return if found then .discovered (settingsPath tree workingFolder) else .nowhere := by
  unfold discover
  rw [if_neg named]
  dsimp only [bind, Except.bind]
  cases known : tree.isFile (tidy workingFolder) with
  | error trouble => rfl
  | ok isFile =>
      have same : (tree.read workingFolder).isOk = isFile := by
        rw [← isOk_read known, FileTree.read_tidy]
      rw [settingsPath, same]

/-- The search finds nothing, or a settings file that can be read. -/
theorem discover_found {origin : Origin} (found : discover tree workingFolder = .ok origin) :
    origin = .nowhere ∨ origin = .discovered (settingsPath tree workingFolder) ∧
      ∃ content, tree.read (settingsPath tree workingFolder) = .ok content := by
  by_cases named : workingFolder = ""
  · cases (if_pos named).symm.trans found
    exact .inl rfl
  · rw [discover_eq named] at found
    obtain ⟨_, -, found⟩ := bind_eq_ok found
    obtain ⟨isFile, known, chosen⟩ := bind_eq_ok found
    cases isFile with
    | false =>
        cases chosen
        exact .inl rfl
    | true =>
        cases chosen
        exact .inr ⟨rfl, isFile_read known⟩

theorem blocked_of_unknown {trouble : Trouble} (named : workingFolder ≠ "")
    (unknown : tree.isFile (tidy workingFolder) = .error trouble ∨
      tree.isFile (settingsPath tree workingFolder) = .error trouble) :
    Blocked tree workingFolder := by
  rw [Blocked, discover_eq named]
  cases known : tree.isFile (tidy workingFolder) with
  | error other =>
      cases isFile_error known
      rfl
  | ok isFile =>
      rw [known] at unknown
      rcases unknown with impossible | unknown
      · cases impossible
      · cases isFile_error unknown
        rw [unknown]
        rfl

/-- The search takes the same course in two trees that are alike in what it looks at, but for a name
that one of them stumbles over. -/
theorem discover_alike (alike : SearchedAlike first second workingFolder) :
    discover first workingFolder = discover second workingFolder ∨
      ∃ tree, (tree = first ∨ tree = second) ∧ Blocked tree workingFolder ∧
        HasLongName tree workingFolder := by
  by_cases named : workingFolder = ""
  · have nowhere (tree : FileTree) : discover tree workingFolder = .ok .nowhere := if_pos named
    exact .inl (by rw [nowhere, nowhere])
  have path : settingsPath first workingFolder = settingsPath second workingFolder := by
    rw [settingsPath, alike.file, settingsPath]
  have settings := alike.settings
  rw [← path] at settings
  have existence : (first.read (settingsPath first workingFolder)).isOk =
      (second.read (settingsPath first workingFolder)).isOk := by
    cases here : first.read (settingsPath first workingFolder) with
    | ok content => rw [(settings content).mp here]
    | error trouble =>
        cases there : second.read (settingsPath first workingFolder) with
        | ok content => cases here.symm.trans ((settings content).mpr there)
        | error other => rfl
  have folders : (first.read (tidy workingFolder)).isOk =
      (second.read (tidy workingFolder)).isOk := by
    rw [FileTree.read_tidy, FileTree.read_tidy, alike.file]
  rcases isFile_alike folders with folder | ⟨tree, either, unknown, name, member, long⟩
  · rcases isFile_alike existence with file | ⟨tree, either, unknown, name, member, long⟩
    · refine .inl ?_
      rw [discover_eq named, discover_eq named, folder, ← path, file]
    · have way : settingsPath tree workingFolder = settingsPath first workingFolder := by
        rcases either with rfl | rfl
        · rfl
        · exact path.symm
      rw [← way] at unknown member
      -- The name of the settings file is short, so the long one is on the way to the folder.
      refine .inr ⟨tree, either, blocked_of_unknown named (.inr unknown), name, ?_, long⟩
      rcases List.mem_append.mp (placed_settingsPath tree workingFolder member) with known | own
      · exact known
      · rw [settingsFileName_parts.1] at own
        rw [List.mem_singleton.mp own, settingsFileName_size] at long
        exact absurd long (by decide)
  · rw [FileTree.placed_tidy] at member
    exact .inr ⟨tree, either, blocked_of_unknown named (.inl unknown), name, member, long⟩

theorem resolveFile_alike {content : ByteArray} (mode : Mode) (here : first.read path = .ok content)
    (there : second.read path = .ok content) :
    resolveFile first mode path = resolveFile second mode path := by
  have loaded : loadTable first path = loadTable second path := by
    rw [loadTable, loadTable, isFile_of_read here, isFile_of_read there, parseFile_read here,
      parseFile_read there]
  rw [resolveFile, loaded, ← resolveFile]

/-- A file that can be read has no name that is too long. -/
theorem resolveFile_read {content : ByteArray} (mode : Mode) (read : tree.read path = .ok content) :
    resolveFile tree mode path ≠ .error (.file .nameTooLong) := by
  intro stopped
  have ends := resolveFile_ends tree mode path
  rw [stopped] at ends
  have unreported : Unreported tree path .nameTooLong := ends
  cases unreported with
  | nameTooLong unknown => cases unknown.symm.trans (isFile_of_read read)

theorem originOf_nothing (nothing : IsNothing given) (tree : FileTree) (workingFolder : String) :
    originOf tree given workingFolder = (discover tree workingFolder).mapError .file := by
  cases given with
  | null => rfl
  | text text | path text => exact if_pos nothing
  | _ => cases nothing

/-- Without anything handed in or named, only the search can stumble over a name. -/
theorem resolve_blocked_iff (nothing : IsNothing given) :
    resolve tree given workingFolder = .error (.file .nameTooLong) ↔
      Blocked tree workingFolder := by
  have origin := originOf_nothing nothing tree workingFolder
  constructor
  · intro stopped
    cases found : discover tree workingFolder with
    | error trouble =>
        have ends := discover_ends tree workingFolder
        rw [found] at ends
        exact found.trans (congrArg Except.error ends)
    | ok chosen =>
        rw [found] at origin
        rcases discover_found found with nowhere | ⟨discovered, content, read⟩
        · rw [nowhere] at origin
          cases (resolve_nowhere origin).symm.trans stopped
        · rw [discovered] at origin
          rw [resolve_chosen (.discovered origin)] at stopped
          exact absurd stopped (resolveFile_read .file read)
  · intro blocked
    rw [blocked] at origin
    exact resolve_stops origin

theorem resolve_alike (nothing : IsNothing given) (alike : SearchedAlike first second workingFolder)
    (same : discover first workingFolder = discover second workingFolder) :
    resolve first given workingFolder = resolve second given workingFolder := by
  have here := originOf_nothing nothing first workingFolder
  have there := originOf_nothing nothing second workingFolder
  rw [← same] at there
  cases found : discover first workingFolder with
  | error trouble =>
      rw [found] at here there
      rw [resolve_stops here, resolve_stops there]
  | ok origin =>
      rw [found] at here there
      rcases discover_found found with nowhere | ⟨discovered, content, read⟩
      · rw [nowhere] at here there
        rw [resolve_nowhere here, resolve_nowhere there]
      · rw [discovered] at here there
        have path : settingsPath second workingFolder = settingsPath first workingFolder := by
          rw [settingsPath, ← alike.file, settingsPath]
        have readToo := (alike.settings content).mp read
        rw [path] at readToo
        rw [resolve_chosen (.discovered here), resolve_chosen (.discovered there)]
        exact resolveFile_alike .file read readToo

theorem originOf_mapping (mapping : IsMapping given) (tree : FileTree) (folder : String) :
    originOf tree given folder = .ok (.handedIn given) := by
  cases given with
  | table | mapping => rfl
  | _ => cases mapping

theorem originOf_naming (naming : IsNaming given) (tree : FileTree) (folder other : String) :
    originOf tree given folder = originOf tree given other := by
  cases given with
  | text text | path text =>
      have worded : Text.strip text ≠ "" := naming
      unfold originOf originOfText
      simp only [if_neg worded]
  | _ => cases naming

theorem resolve_alike_iff (nothing : IsNothing given)
    (alike : SearchedAlike first second workingFolder) :
    resolve first given workingFolder = resolve second given workingFolder ↔
      (Blocked first workingFolder ↔ Blocked second workingFolder) := by
  constructor
  · intro same
    rw [← resolve_blocked_iff nothing, ← resolve_blocked_iff nothing, same]
  · intro both
    rcases discover_alike alike with same | ⟨tree, either, blocked, -⟩
    · exact resolve_alike nothing alike same
    · have blockedFirst : Blocked first workingFolder := by
        rcases either with rfl | rfl
        · exact blocked
        · exact both.mpr blocked
      rw [(resolve_blocked_iff nothing).mpr blockedFirst,
        (resolve_blocked_iff nothing).mpr (both.mp blockedFirst)]

theorem blocked_alike (alike : SearchedAlike first second workingFolder)
    (blocked : Blocked first workingFolder) :
    Blocked second workingFolder ∨ HasLongName first workingFolder := by
  rcases discover_alike alike with same | ⟨tree, rfl | rfl, blockedToo, long⟩
  · exact .inl (same.symm.trans blocked)
  · exact .inr long
  · exact .inl blockedToo

/-- A name that is too long stops the search where the folder in front of it is there. -/
theorem blocked_behind (wellFormed : tree.WellFormed)
    (there : tree.isFolder (tidy (parent workingFolder)))
    (plain : '\x00' ∉ (fileName workingFolder).toList)
    (long : greatestName < (fileName workingFolder).utf8ByteSize) :
    Blocked tree workingFolder := by
  have named : workingFolder ≠ "" := by
    rintro rfl
    exact absurd long (by decide)
  have looked := FileTree.look_behind wellFormed there plain long
  have unknown : tree.isFile (tidy workingFolder) = .error .nameTooLong := by
    rw [FileTree.isFile, tidy_tidy, looked]
  exact blocked_of_unknown named (.inl unknown)

/-- What is handed in is all that counts, and what is named counts whatever the working folder is.
Without either, two trees that agree on whether the working folder is a file and on the settings
file there have one outcome, unless just one of them stops the search.  It does so at a name that is
too long, where the folder in front of that name is there. -/
theorem resolve_precedence (given : Value) (first second : FileTree) (folder other : String) :
    (IsMapping given → resolve first given folder = resolve second given other) ∧
    (IsNaming given → resolve first given folder = resolve first given other) ∧
    (IsNothing given → SearchedAlike first second folder →
      (resolve first given folder = resolve second given folder ↔
        (Blocked first folder ↔ Blocked second folder)) ∧
      (Blocked first folder → Blocked second folder ∨ HasLongName first folder)) ∧
    (first.WellFormed → first.isFolder (tidy (parent folder)) →
      '\x00' ∉ (fileName folder).toList → greatestName < (fileName folder).utf8ByteSize →
      Blocked first folder) := by
  refine ⟨fun mapping => ?_, fun naming => ?_,
    fun nothing alike => ⟨resolve_alike_iff nothing alike, blocked_alike alike⟩, blocked_behind⟩
  · rw [resolve_handedIn (originOf_mapping mapping first folder),
      resolve_handedIn (originOf_mapping mapping second other)]
  · unfold resolve
    rw [originOf_naming naming first folder other]

/-- Nothing but these entries, in the folder where relative paths begin. -/
def workFolder (entries : List (String × Entry)) : FileTree :=
  ⟨"/work", "/work/home", [("/work", .folder entries)]⟩

theorem workFolder_wellFormed (entries : List (String × Entry)) :
    (workFolder entries).WellFormed where
  rooted := (anchor_ne_empty.mpr ⟨_, rfl⟩ : anchor "/work" ≠ "")
  plain := (by decide : '\x00' ∉ "/work".toList)
  proper := List.forall_mem_singleton.mpr (by decide : ".." ∉ pathParts "/work")
  apart := List.forall_mem_singleton.mpr (List.forall_mem_singleton.mpr fun _ => rfl)

theorem look_workFolder (entries : List (String × Entry)) (relative : anchor path = "")
    (named : pathParts path ≠ []) (plain : '\x00' ∉ (tidy path).toList)
    (short : (tidy path).utf8ByteSize ≤ greatestPath) :
    (workFolder entries).look (tidy path) = (Entry.folder entries).follow [] (pathParts path) := by
  refine FileTree.look_placed (.inr named) plain short ?_
  rw [FileTree.placed, if_pos relative]
  exact FileTree.rootOf?_append (workFolder_wellFormed entries) List.mem_cons_self (pathParts path)

/-- A name that is one letter too long. -/
def overlong : String := String.ofList (List.replicate (greatestName + 1) 'x')

theorem overlong_isPart : IsPart overlong :=
  isPart_replicate (by decide) greatestName

theorem overlong_plain : '\x00' ∉ overlong.toList := by
  rw [overlong, String.toList_ofList]
  exact fun null => absurd (List.eq_of_mem_replicate null) (by decide)

theorem overlong_size : overlong.utf8ByteSize = greatestName + 1 := by decide +kernel

/-- A folder with such a name. -/
def overlongFolder : String := String.intercalate "/" ["a", overlong]

theorem overlongFolder_parts : pathParts overlongFolder = ["a", overlong] ∧
    anchor overlongFolder = "" := by
  have letter : IsPart "a" := by
    refine ⟨?_, ?_, ?_⟩ <;> decide
  have proper : ∀ part ∈ ["a", overlong], IsPart part :=
    List.forall_mem_cons.mpr ⟨letter, List.forall_mem_singleton.mpr overlong_isPart⟩
  exact ⟨pathParts_intercalate proper, anchor_intercalate proper⟩

/-- The folder and the settings file in it are looked up by their names. -/
theorem look_overlong (entries : List (String × Entry)) {rest : List String}
    (relative : anchor path = "") (parts : pathParts path = "a" :: overlong :: rest)
    (last : rest = [] ∨ rest = [settingsFileName]) :
    (workFolder entries).look (tidy path) =
      (Entry.folder entries).follow [] ("a" :: overlong :: rest) := by
  have named : pathParts path ≠ [] := by
    rw [parts]
    exact List.cons_ne_nil _ _
  have plain : '\x00' ∉ (tidy path).toList := by
    intro null
    obtain ⟨part, member, inside⟩ := mem_withParts (by decide) null
    rw [parts] at member
    have others : ∀ part ∈ ["a", settingsFileName], '\x00' ∉ part.toList := by decide
    rcases last with rfl | rfl <;> grind [overlong_plain]
  have short : (tidy path).utf8ByteSize ≤ greatestPath := by
    have letter : "a".utf8ByteSize = 1 := rfl
    have slash : "/".utf8ByteSize = 1 := rfl
    rw [tidy_relative relative named, parts]
    rcases last with rfl | rfl <;>
      · simp only [String.intercalate_cons_cons, String.intercalate_singleton,
          String.utf8ByteSize_append, letter, slash, overlong_size, settingsFileName_size]
        decide
  rw [look_workFolder entries relative named plain short, parts]

theorem below_overlongFolder :
    anchor (below (tidy overlongFolder) settingsFileName) = "" ∧
      pathParts (below (tidy overlongFolder) settingsFileName) =
        ["a", overlong, settingsFileName] := by
  obtain ⟨parts, relative⟩ := overlongFolder_parts
  rw [anchor_below settingsFileName_parts.2, pathParts_below settingsFileName_parts.2, anchor_tidy,
    pathParts_tidy, parts, settingsFileName_parts.1]
  exact ⟨relative, rfl⟩

theorem follow_inside {name : String} (long : greatestName < name.utf8ByteSize)
    (rest : List String) : (Entry.folder [("a", .folder [])]).follow [] ("a" :: name :: rest) =
      .error .nameTooLong := by
  have entered : Entry.enter [] (.folder [("a", .folder [])]) "a" =
      .ok ([.folder [("a", .folder [])]], .folder []) := rfl
  rw [Entry.follow_cons, entered]
  dsimp only [bind, Except.bind]
  rw [Entry.follow.eq_def]
  exact if_pos long

/-- Where the folder in front is there, the search stumbles over the name. -/
def withFolder : FileTree := workFolder [("a", .folder [])]

/-- Where it is not, there is nothing to stumble over. -/
def withoutFolder : FileTree := workFolder []

theorem look_overlongFolder :
    ∀ path ∈ [overlongFolder, below (tidy overlongFolder) settingsFileName],
      withFolder.look (tidy path) = .error .nameTooLong ∧
        withoutFolder.look (tidy path) = .error .missing := by
  have long : greatestName < overlong.utf8ByteSize := by
    rw [overlong_size]
    exact Nat.lt_succ_self _
  have looked {path : String} {rest : List String} (relative : anchor path = "")
      (parts : pathParts path = "a" :: overlong :: rest)
      (last : rest = [] ∨ rest = [settingsFileName]) :
      withFolder.look (tidy path) = .error .nameTooLong ∧
        withoutFolder.look (tidy path) = .error .missing := by
    constructor
    · exact (look_overlong _ relative parts last).trans (follow_inside long rest)
    · exact look_overlong _ relative parts last
  obtain ⟨parts, relative⟩ := overlongFolder_parts
  obtain ⟨relativeFile, partsFile⟩ := below_overlongFolder
  exact List.forall_mem_cons.mpr ⟨looked relative parts (.inl rfl),
    List.forall_mem_singleton.mpr (looked relativeFile partsFile (.inr rfl))⟩

theorem overlongFolder_front :
    parent overlongFolder = "a" ∧ fileName overlongFolder = overlong := by
  obtain ⟨parts, relative⟩ := overlongFolder_parts
  rw [parent, withParts, fileName, parts, relative]
  exact ⟨rfl, rfl⟩

theorem read_error {trouble : Trouble} (looked : tree.look (tidy path) = .error trouble) :
    tree.read path = .error trouble := by
  rw [FileTree.read, looked]

theorem settingsPath_inside {trouble : Trouble}
    (looked : tree.look (tidy workingFolder) = .error trouble) :
    settingsPath tree workingFolder = below (tidy workingFolder) settingsFileName := by
  rw [settingsPath, read_error looked, if_neg (by simp [Except.isOk, Except.toBool])]

theorem searchedAlike_overlongFolder :
    SearchedAlike withFolder withoutFolder overlongFolder := by
  obtain ⟨within, without⟩ := look_overlongFolder _ List.mem_cons_self
  obtain ⟨withinFile, withoutFile⟩ :=
    look_overlongFolder _ (List.mem_cons_of_mem _ List.mem_cons_self)
  refine ⟨by rw [read_error within, read_error without]; rfl, fun content => ?_⟩
  rw [settingsPath_inside within, settingsPath_inside without, read_error withinFile,
    read_error withoutFile]
  exact ⟨nofun, nofun⟩

theorem not_blocked_withoutFolder : ¬ Blocked withoutFolder overlongFolder := by
  have named : overlongFolder ≠ "" := by
    intro empty
    have parts := overlongFolder_parts.1
    rw [empty] at parts
    exact absurd parts (by decide)
  have noFile {path : String} (looked : withoutFolder.look (tidy path) = .error .missing) :
      withoutFolder.isFile path = .ok false := by
    rw [FileTree.isFile, looked]
  have without := (look_overlongFolder _ List.mem_cons_self).2
  have withoutFile := (look_overlongFolder _ (List.mem_cons_of_mem _ List.mem_cons_self)).2
  rw [Blocked, discover_eq named, settingsPath_inside without,
    noFile (by rw [tidy_tidy, without]), noFile withoutFile]
  exact nofun

/-- The two trees have no settings file in this folder, and still the outcome is not the same. -/
theorem resolve_overlong_differs :
    SearchedAlike withFolder withoutFolder overlongFolder ∧
      resolve withFolder .null overlongFolder ≠ resolve withoutFolder .null overlongFolder := by
  obtain ⟨front, name⟩ := overlongFolder_front
  obtain ⟨-, -, precedence, stumbles⟩ :=
    resolve_precedence .null withFolder withoutFolder overlongFolder ""
  have blocked : Blocked withFolder overlongFolder := by
    refine stumbles (workFolder_wellFormed _) ?_ ?_ ?_
    · rw [front]
      decide +kernel
    · rw [name]
      exact overlong_plain
    · rw [name, overlong_size]
      exact Nat.lt_succ_self _
  have differs := (precedence trivial searchedAlike_overlongFolder).1
  exact ⟨searchedAlike_overlongFolder,
    fun same => not_blocked_withoutFolder ((differs.mp same).mp blocked)⟩

end ScriptAudit.Settings
