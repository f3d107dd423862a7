import ScriptAudit.Files.Tree
import ScriptAudit.Proofs.Files.Path

namespace ScriptAudit.Files

/-! A file that is found under a path is found under the absolute path as well. -/

namespace Entry

/-- Follows one part of a path: the folders above the next entry, and that entry. -/
def enter (above : List Entry) (here : Entry) (part : String) :
    Except Trouble (List Entry × Entry) :=
  if here.isFile then .error .notFolder
  else if greatestName < part.utf8ByteSize then .error .nameTooLong
  else if part = "" ∨ part = "." then .ok (above, here)
  else if part = ".." then
    match above with
    | [] => .error .missing
    | up :: higher => .ok (higher, up)
  else match here.entries.lookup part with
    | some entry => .ok (here :: above, entry)
    | none => .error .missing

variable {above : List Entry} {here found : Entry} {part : String} {parts rest : List String}

theorem follow_cons (above : List Entry) (here : Entry) (part : String) (rest : List String) :
    follow above here (part :: rest) =
      enter above here part >>= fun next => follow next.1 next.2 rest := by
  rw [follow.eq_def]
  dsimp only
  unfold enter
  split
  · rfl
  · split
    · rfl
    · split
      · rfl
      · split
        · cases above <;> rfl
        · cases here.entries.lookup part <;> rfl

theorem follow_cons_eq_ok : follow above here (part :: rest) = .ok found ↔
    ∃ next, enter above here part = .ok next ∧ follow next.1 next.2 rest = .ok found := by
  rw [follow_cons]
  cases enter above here part with
  | error trouble => exact ⟨nofun, fun ⟨_, entered, _⟩ => nomatch entered⟩
  | ok next => exact ⟨fun followed => ⟨next, rfl, followed⟩, fun ⟨_, rfl, followed⟩ => followed⟩

/-- What is found from every place that some parts lead to is found behind these parts. -/
theorem follow_append {before after : List String}
    (goes : ∀ above here, follow above here before = .ok found →
      follow above here after = .ok found) (parts : List String)
    (followed : follow above here (parts ++ before) = .ok found) :
    follow above here (parts ++ after) = .ok found := by
  induction parts generalizing above here with
  | nil => exact goes above here followed
  | cons part parts ih =>
      obtain ⟨next, entered, followed⟩ := follow_cons_eq_ok.mp followed
      exact follow_cons_eq_ok.mpr ⟨next, entered, ih followed⟩

/-- A name leads from a folder into one of its entries. -/
theorem enter_name {next : List Entry × Entry}
    (named : part ≠ ".." ∧ part ≠ "" ∧ part ≠ ".") (entered : enter above here part = .ok next) :
    next.1 = here :: above := by
  unfold enter at entered
  split at entered
  · cases entered
  · split at entered
    · cases entered
    · rw [if_neg (by simp [named]), if_neg named.1] at entered
      split at entered
      · cases entered
        rfl
      · cases entered

theorem enter_up {up : Entry} {higher : List Entry} {next : List Entry × Entry}
    (entered : enter (up :: higher) here ".." = .ok next) : next = (higher, up) := by
  unfold enter at entered
  split at entered
  · cases entered
  · split at entered
    · cases entered
    · exact (Except.ok.inj entered).symm

/-- Into a folder and out again. -/
theorem follow_out (named : part ≠ ".." ∧ part ≠ "" ∧ part ≠ ".")
    (followed : follow above here (part :: ".." :: rest) = .ok found) :
    follow above here rest = .ok found := by
  obtain ⟨⟨folders, next⟩, entered, followed⟩ := follow_cons_eq_ok.mp followed
  obtain ⟨back, left, followed⟩ := follow_cons_eq_ok.mp followed
  cases enter_name named entered
  cases enter_up left
  exact followed

theorem follow_dot (followed : follow above here ["."] = .ok found) :
    follow above here [] = .ok found := by
  obtain ⟨next, entered, followed⟩ := follow_cons_eq_ok.mp followed
  unfold enter at entered
  split at entered
  · cases entered
  · split at entered
    · cases entered
    · cases entered
      exact followed

theorem follow_above_root (rest : List String) (found : Entry) :
    follow [] here (".." :: rest) ≠ .ok found := by
  intro followed
  obtain ⟨next, entered, -⟩ := follow_cons_eq_ok.mp followed
  unfold enter at entered
  split at entered
  · cases entered
  · split at entered <;> cases entered

/-- What follows some parts of a path is followed from where these parts lead. -/
theorem follow_through {before : List String} (followed : follow above here before = .ok found) :
    ∃ folders, ∀ after, follow above here (before ++ after) = follow folders found after := by
  induction before generalizing above here with
  | nil =>
      cases followed
      exact ⟨above, fun after => rfl⟩
  | cons part before ih =>
      obtain ⟨next, entered, followed⟩ := follow_cons_eq_ok.mp followed
      obtain ⟨folders, goes⟩ := ih followed
      refine ⟨folders, fun after => ?_⟩
      rw [List.cons_append, follow_cons, entered, ← goes]
      rfl

/-- Only a name of the way can be too long. -/
theorem follow_long {above : List Entry} {here : Entry} {parts : List String}
    (followed : here.follow above parts = .error .nameTooLong) :
    ∃ part ∈ parts, greatestName < part.utf8ByteSize := by
  induction parts generalizing above here with
  | nil => cases followed
  | cons part parts ih =>
      by_cases long : greatestName < part.utf8ByteSize
      · exact ⟨part, List.mem_cons_self, long⟩
      · rw [follow_cons] at followed
        cases entered : enter above here part with
        | error trouble =>
            rw [entered] at followed
            cases followed
            unfold enter at entered
            rw [if_neg long] at entered
            grind
        | ok next =>
            rw [entered] at followed
            obtain ⟨name, member, longer⟩ := ih followed
            exact ⟨name, List.mem_cons_of_mem _ member, longer⟩

end Entry

section
variable {rooted : Bool} {part last : String} {kept before rest : List String}

theorem cancel_name (named : part ≠ "..") :
    cancel rooted kept (part :: rest) = cancel rooted (part :: kept) rest := by
  rw [cancel.eq_def]
  exact if_neg named

theorem cancel_up (named : last ≠ "..") :
    cancel rooted (last :: before) (".." :: rest) = cancel rooted before rest := by
  rw [cancel.eq_def]
  exact (if_pos rfl).trans (if_neg named)

theorem cancel_up_again :
    cancel rooted (".." :: before) (".." :: rest) =
      cancel rooted (".." :: ".." :: before) rest := by
  rw [cancel.eq_def]
  exact (if_pos rfl).trans (if_pos rfl)

theorem cancel_names {front : List String} (proper : ".." ∉ front) :
    cancel rooted kept (front ++ rest) = cancel rooted (front.reverse ++ kept) rest := by
  induction front generalizing kept with
  | nil => rfl
  | cons part front ih =>
      rw [List.mem_cons, not_or] at proper
      rw [List.cons_append, cancel_name (Ne.symm proper.1), ih proper.2]
      simp

end

/-- What is found in a folder is found when the names that are taken back are left out: a search
never gets above the folder, so that nothing of the way to it is taken back. -/
theorem follow_cancel {here found : Entry} {front kept parts : List String}
    (named : ∀ part ∈ kept, IsPart part) (namedLater : ∀ part ∈ parts, IsPart part)
    (followed : here.follow [] (kept.reverse ++ parts) = .ok found) :
    ∃ inside, cancel true (kept ++ front.reverse) parts = front ++ inside ∧
      here.follow [] inside = .ok found := by
  induction parts generalizing kept with
  | nil =>
      rw [List.append_nil] at followed
      refine ⟨kept.reverse, ?_, followed⟩
      simp [cancel]
  | cons part parts ih =>
      obtain ⟨namedPart, namedRest⟩ := List.forall_mem_cons.mp namedLater
      have pushed : here.follow [] ((part :: kept).reverse ++ parts) = .ok found := by
        rwa [List.reverse_cons, List.append_assoc]
      have push := ih (List.forall_mem_cons.mpr ⟨namedPart, named⟩) namedRest pushed
      by_cases up : part = ".."
      · subst up
        cases kept with
        | nil => exact absurd followed (Entry.follow_above_root _ _)
        | cons last before =>
            obtain ⟨namedLast, named⟩ := List.forall_mem_cons.mp named
            by_cases again : last = ".."
            · subst again
              rw [List.cons_append, cancel_up_again]
              exact push
            · rw [List.cons_append, cancel_up again]
              rw [List.reverse_cons, List.append_assoc] at followed
              exact ih named namedRest (Entry.follow_append
                (fun above here => Entry.follow_out ⟨again, namedLast.2⟩) before.reverse followed)
      · rw [cancel_name up]
        exact push

/-- The folders are known under absolute paths, none of them inside another one, and relative paths
begin in an absolute one. -/
structure FileTree.WellFormed (tree : FileTree) : Prop where
  rooted : anchor tree.current ≠ ""
  plain : '\x00' ∉ tree.current.toList
  proper : ∀ folder ∈ tree.folders, ".." ∉ pathParts folder.1
  apart : ∀ outer ∈ tree.folders, ∀ inner ∈ tree.folders,
    pathParts outer.1 <+: pathParts inner.1 → outer = inner

namespace FileTree

variable {tree : FileTree} {path : String} {found : Entry}

/-- These parts lead to the entry from the folder that they begin with. -/
def Finds (tree : FileTree) (parts : List String) (found : Entry) : Prop :=
  ∃ folder ∈ tree.folders, ∃ rest, parts = pathParts folder.1 ++ rest ∧
    folder.2.follow [] rest = .ok found

theorem rootOf?_eq_some {parts rest : List String} {root : Entry}
    (known : tree.rootOf? parts = some (root, rest)) :
    ∃ folder ∈ tree.folders, folder.2 = root ∧ parts = pathParts folder.1 ++ rest := by
  obtain ⟨folder, member, matched⟩ := List.exists_of_findSome?_eq_some known
  dsimp only at matched
  split at matched
  · next front =>
      cases matched
      obtain ⟨rest, rfl⟩ := List.isPrefixOf_iff_prefix.mp front
      exact ⟨folder, member, rfl, by rw [List.drop_left]⟩
  · cases matched

theorem rootOf?_append (wellFormed : tree.WellFormed) {folder : String × Entry}
    (member : folder ∈ tree.folders) (rest : List String) :
    tree.rootOf? (pathParts folder.1 ++ rest) = some (folder.2, rest) := by
  cases known : tree.rootOf? (pathParts folder.1 ++ rest) with
  | none =>
      have front : (pathParts folder.1).isPrefixOf (pathParts folder.1 ++ rest) = true :=
        List.isPrefixOf_iff_prefix.mpr (List.prefix_append _ _)
      have missed := List.findSome?_eq_none_iff.mp known folder member
      simp [front] at missed
  | some place =>
      obtain ⟨root, inside⟩ := place
      obtain ⟨other, memberToo, rfl, same⟩ := rootOf?_eq_some known
      have one : folder = other := by
        rcases List.prefix_or_prefix_of_prefix (List.prefix_append _ rest)
          ⟨inside, same.symm⟩ with outer | inner
        · exact wellFormed.apart folder member other memberToo outer
        · exact (wellFormed.apart other memberToo folder member inner).symm
      rw [← one] at same ⊢
      rw [List.append_cancel_left same]

/-- The names on the way from the root of all folders to what a path names. -/
def placed (tree : FileTree) (path : String) : List String :=
  (if anchor path = "" then pathParts tree.current else []) ++ pathParts path

theorem tidy_nameless (relative : anchor path = "") (nameless : pathParts path = []) :
    tidy path = "." := by
  rw [tidy, withParts, relative, nameless]
  rfl

theorem finds_dot {parts : List String} (finds : tree.Finds (parts ++ ["."]) found) :
    tree.Finds parts found := by
  obtain ⟨folder, member, rest, same, followed⟩ := finds
  rcases List.append_eq_append_iff.mp same with ⟨between, front, dot⟩ | ⟨between, whole, rfl⟩
  · cases between with
    | nil =>
        rw [List.nil_append] at dot
        rw [← dot] at followed
        rw [List.append_nil] at front
        exact ⟨folder, member, [], by rw [front, List.append_nil], Entry.follow_dot followed⟩
    | cons part others =>
        have named : IsPart part := isPart_of_mem (by rw [front]; simp)
        exact absurd (List.cons.inj dot).1.symm named.2.2
  · refine ⟨folder, member, between, whole, ?_⟩
    have kept := Entry.follow_append (fun above here => Entry.follow_dot) between followed
    rwa [List.append_nil] at kept

/-- The parts that a tidy path is looked up by: its names on the way, and a dot without any. -/
def way (tree : FileTree) (path : String) : List String :=
  tree.placed path ++ if anchor path = "" ∧ pathParts path = [] then ["."] else []

theorem way_eq_placed (named : anchor path ≠ "" ∨ pathParts path ≠ []) :
    tree.way path = tree.placed path := by
  have other : ¬ (anchor path = "" ∧ pathParts path = []) := by
    rintro ⟨relative, nameless⟩
    exact named.elim (absurd relative) (absurd nameless)
  rw [way, if_neg other, List.append_nil]

theorem way_eq (tree : FileTree) (path : String) : tree.way path =
    if anchor path = "" then pathParts tree.current ++ Text.parts '/' (tidy path)
    else (Text.parts '/' (tidy path)).dropWhile (· == "") := by
  unfold way placed
  by_cases relative : anchor path = ""
  · rw [if_pos relative, if_pos relative]
    by_cases nameless : pathParts path = []
    · rw [if_pos ⟨relative, nameless⟩, nameless, List.append_nil, tidy_nameless relative nameless]
      rfl
    · rw [if_neg fun empty => nameless empty.2, List.append_nil,
        parts_tidy_relative relative nameless]
  · rw [if_neg relative, if_neg relative, if_neg fun empty => relative empty.1, List.nil_append,
      List.append_nil, parts_tidy_anchored relative]

/-- A tidy path is looked up by its names. -/
theorem look_tidy_eq (tree : FileTree) (path : String) : tree.look (tidy path) =
    if '\x00' ∈ (tidy path).toList then .error .nullCharacter
    else if greatestPath < (tidy path).utf8ByteSize then .error .nameTooLong
    else (tree.rootOf? (tree.way path)).elim (.error .missing)
      fun place => place.1.follow [] place.2 := by
  have some : tidy path ≠ "" := withParts_ne_empty _ _
  unfold look
  simp only [List.contains_iff_mem]
  rw [if_neg some, anchor_tidy, ← way_eq]
  cases tree.rootOf? (tree.way path) <;> rfl

theorem look_tidy (looked : tree.look (tidy path) = .ok found) :
    tree.Finds (tree.placed path) found ∧ '\x00' ∉ (tidy path).toList := by
  rw [look_tidy_eq] at looked
  split at looked
  · cases looked
  · next plain =>
      refine ⟨?_, plain⟩
      split at looked
      · cases looked
      · cases known : tree.rootOf? (tree.way path) with
        | none =>
            rw [known] at looked
            cases looked
        | some place =>
            rw [known] at looked
            obtain ⟨folder, member, root, same⟩ := rootOf?_eq_some known
            have finds : tree.Finds (tree.way path) found :=
              ⟨folder, member, place.2, same, by rw [root]; exact looked⟩
            unfold way at finds
            split at finds
            · exact finds_dot finds
            · rwa [List.append_nil] at finds

/-- The folder that the names on the way begin with is left by the names that remain. -/
theorem look_placed (named : anchor path ≠ "" ∨ pathParts path ≠ [])
    (plain : '\x00' ∉ (tidy path).toList) (short : (tidy path).utf8ByteSize ≤ greatestPath)
    {root : Entry} {rest : List String}
    (known : tree.rootOf? (tree.placed path) = some (root, rest)) :
    tree.look (tidy path) = root.follow [] rest := by
  rw [look_tidy_eq, if_neg plain, if_neg (Nat.not_lt.mpr short), way_eq_placed named, known]
  rfl

theorem look_anchored (wellFormed : tree.WellFormed) (anchored : anchor path ≠ "")
    (finds : tree.Finds (pathParts path) found) (plain : '\x00' ∉ (tidy path).toList)
    (short : (tidy path).utf8ByteSize ≤ greatestPath) : tree.look (tidy path) = .ok found := by
  obtain ⟨folder, member, rest, same, followed⟩ := finds
  have known : tree.rootOf? (tree.placed path) = some (folder.2, rest) := by
    rw [placed, if_neg anchored, List.nil_append, same, rootOf?_append wellFormed member]
  exact (look_placed (.inl anchored) plain short known).trans followed

theorem placed_eq (tree : FileTree) (path : String) :
    tree.placed path = pathParts (join tree.current path) := by
  unfold placed
  split
  · next relative => exact (pathParts_join relative).symm
  · next anchored => rw [join_anchored anchored, List.nil_append]

/-- The absolute path takes nothing of the way to a folder back. -/
theorem pathParts_absolute_placed (wellFormed : tree.WellFormed) (path : String) :
    pathParts (absolute tree.current path) = cancel true [] (tree.placed path) := by
  rw [pathParts_absolute, placed_eq, bne_iff_ne.mpr (join_stays_anchored wellFormed.rooted)]

/-- What is found under a path is found under the absolute path. -/
theorem finds_absolute (wellFormed : tree.WellFormed)
    (finds : tree.Finds (tree.placed path) found) :
    tree.Finds (pathParts (absolute tree.current path)) found := by
  obtain ⟨folder, member, rest, same, followed⟩ := finds
  have named : ∀ part ∈ rest, IsPart part := by
    intro part later
    have onWay : part ∈ tree.placed path := same ▸ List.mem_append_right _ later
    rw [placed_eq] at onWay
    exact isPart_of_mem onWay
  obtain ⟨inside, cancelled, followed⟩ :=
    follow_cancel (List.forall_mem_nil _) named followed
  refine ⟨folder, member, inside, ?_, followed⟩
  rw [pathParts_absolute_placed wellFormed, same, cancel_names (wellFormed.proper folder member)]
  exact (congrArg (cancel true · rest) (List.append_nil _)).trans cancelled

theorem plain_absolute (wellFormed : tree.WellFormed) (plain : '\x00' ∉ (tidy path).toList) :
    '\x00' ∉ (tidy (absolute tree.current path)).toList := by
  intro null
  obtain ⟨part, member, null⟩ := mem_withParts (by decide) null
  rw [pathParts_absolute_placed wellFormed] at member
  rcases mem_cancel member with none | onWay | rfl
  · cases none
  · rcases List.mem_append.mp onWay with base | own
    · split at base
      · exact wellFormed.plain (mem_of_mem_pathParts base null)
      · cases base
    · rw [← pathParts_tidy] at own
      exact plain (mem_of_mem_pathParts own null)
  · exact absurd null (by decide)

/-- A file that can be read under a path can be read under the absolute path. -/
theorem read_absolute (wellFormed : tree.WellFormed) {content : ByteArray}
    (short : (tidy (absolute tree.current path)).utf8ByteSize ≤ greatestPath)
    (read : tree.read path = .ok content) :
    tree.read (absolute tree.current path) = .ok content := by
  have looked : tree.look (tidy path) = .ok (.file content) := by
    unfold FileTree.read at read
    split at read
    · next looked =>
        cases read
        exact looked
    · cases read
    · cases read
  obtain ⟨finds, plain⟩ := look_tidy looked
  rw [FileTree.read, look_anchored wellFormed (anchor_absolute wellFormed.rooted)
    (finds_absolute wellFormed finds) (plain_absolute wellFormed plain) short]

theorem look_long (plain : '\x00' ∉ path.toList) (long : greatestPath < path.utf8ByteSize) :
    tree.look path = .error .nameTooLong := by
  have some : path ≠ "" := by
    rintro rfl
    exact absurd long (by decide)
  rw [look, if_neg (by simpa using plain), if_neg some, if_pos long]

/-- A path is too long as a whole, in every tree, or one of the names on its way is. -/
theorem look_too_long (looked : tree.look (tidy path) = .error .nameTooLong) :
    (∀ other : FileTree, other.look (tidy path) = .error .nameTooLong) ∨
      ∃ name ∈ tree.placed path, greatestName < name.utf8ByteSize := by
  rw [look_tidy_eq] at looked
  split at looked
  · cases looked
  · next plain =>
      split at looked
      · next long => exact .inl fun other => look_long plain long
      · right
        cases known : tree.rootOf? (tree.way path) with
        | none =>
            rw [known] at looked
            cases looked
        | some place =>
            rw [known] at looked
            obtain ⟨folder, -, -, same⟩ := rootOf?_eq_some known
            obtain ⟨name, member, longer⟩ := Entry.follow_long looked
            have onWay : name ∈ tree.way path := by
              rw [same]
              exact List.mem_append_right _ member
            rcases List.mem_append.mp onWay with placed | dot
            · exact ⟨name, placed, longer⟩
            · split at dot
              · rw [List.mem_singleton.mp dot] at longer
                exact absurd longer (by decide)
              · cases dot

theorem read_tidy (tree : FileTree) (path : String) : tree.read (tidy path) = tree.read path := by
  rw [read, tidy_tidy, ← read]

theorem placed_tidy (tree : FileTree) (path : String) :
    tree.placed (tidy path) = tree.placed path := by
  rw [placed, pathParts_tidy, anchor_tidy, placed]

theorem placed_below {folder name : String} (relative : anchor name = "") :
    tree.placed (below folder name) = tree.placed folder ++ pathParts name := by
  rw [placed, anchor_below relative, pathParts_below relative, ← List.append_assoc, ← placed]

theorem placed_parent : tree.placed (parent path) ⊆ tree.placed path := by
  rw [placed, placed, anchor_parent, pathParts_parent]
  exact List.append_subset.mpr ⟨List.subset_append_left _ _,
    List.subset_append_of_subset_right _ (List.dropLast_subset _)⟩

theorem placed_fileName (named : pathParts path ≠ []) :
    tree.placed path = tree.placed (parent path) ++ [fileName path] := by
  rw [placed, placed, anchor_parent, List.append_assoc, ← pathParts_fileName named]

/-- A name that is too long is refused where the folder in front of it is there. -/
theorem look_behind (wellFormed : tree.WellFormed) (there : tree.isFolder (tidy (parent path)))
    (plain : '\x00' ∉ (fileName path).toList)
    (long : greatestName < (fileName path).utf8ByteSize) :
    tree.look (tidy path) = .error .nameTooLong := by
  obtain ⟨front, looked, isFolder⟩ : ∃ front, tree.look (tidy (parent path)) = .ok front ∧
      front.isFile = false := by
    unfold FileTree.isFolder Entry.isFolder at there
    split at there
    · next front looked => exact ⟨front, looked, Bool.not_eq_true' _ ▸ there⟩
    · cases there
  obtain ⟨⟨folder, member, rest, same, followed⟩, plainFront⟩ := look_tidy looked
  have named : pathParts path ≠ [] := by
    intro nameless
    rw [fileName, nameless] at long
    exact absurd long (by decide)
  have plainPath : '\x00' ∉ (tidy path).toList := by
    intro null
    obtain ⟨part, known, inside⟩ := mem_withParts (by decide) null
    rw [pathParts_fileName named, ← pathParts_tidy] at known
    rcases List.mem_append.mp known with front | last
    · exact plainFront (mem_of_mem_pathParts front inside)
    · exact plain (List.mem_singleton.mp last ▸ inside)
  by_cases short : (tidy path).utf8ByteSize ≤ greatestPath
  · obtain ⟨folders, goes⟩ := Entry.follow_through followed
    have known : tree.rootOf? (tree.placed path) = some (folder.2, rest ++ [fileName path]) := by
      rw [placed_fileName named, same, List.append_assoc, rootOf?_append wellFormed member]
    rw [look_placed (.inr named) plainPath short known, goes, Entry.follow.eq_def]
    dsimp only
    rw [isFolder, if_neg Bool.false_ne_true, if_pos long]
  · exact look_long plainPath (Nat.lt_of_not_le short)

/-- A tree with nothing in it but one file, in the folder where relative paths begin. -/
def loneFile (home folder name : String) (content : ByteArray) : FileTree :=
  ⟨folder, home, [(folder, .folder [(name, .file content)])]⟩

variable {home folder name : String}

theorem loneFile_wellFormed (content : ByteArray) (rooted : anchor folder ≠ "")
    (plain : '\x00' ∉ folder.toList) (proper : ".." ∉ pathParts folder) :
    (loneFile home folder name content).WellFormed where
  rooted := rooted
  plain := plain
  proper := List.forall_mem_singleton.mpr proper
  apart := List.forall_mem_singleton.mpr (List.forall_mem_singleton.mpr fun _ => rfl)

/-- A name that a file can have. -/
structure IsFileName (name : String) : Prop where
  part : IsPart name
  down : name ≠ ".."
  plain : '\x00' ∉ name.toList
  short : name.utf8ByteSize ≤ greatestName

theorem IsFileName.relative (named : IsFileName name) :
    pathParts name = [name] ∧ anchor name = "" :=
  pathParts_part named.part

theorem look_loneFile {content : ByteArray}
    (wellFormed : (loneFile home folder name content).WellFormed) (named : IsFileName name) :
    (loneFile home folder name content).look name = .ok (.file content) := by
  obtain ⟨names, relative⟩ := named.relative
  have parts : Text.parts '/' name = [name] := by
    have whole := parts_tidy_relative relative (by rw [names]; exact List.cons_ne_nil _ _)
    rwa [tidy_part named.part, names] at whole
  have short : ¬ greatestPath < name.utf8ByteSize :=
    Nat.not_lt.mpr (Nat.le_trans named.short (by decide))
  unfold look
  rw [if_neg (by simpa using named.plain), if_neg named.part.2.1, if_neg short]
  dsimp only
  rw [if_pos relative, parts]
  rw [show pathParts (loneFile home folder name content).current = pathParts folder from rfl,
    rootOf?_append wellFormed List.mem_cons_self]
  dsimp only
  rw [Entry.follow, Entry.isFile, if_neg Bool.false_ne_true, if_neg (Nat.not_lt.mpr named.short),
    if_neg (by simp [named.part.2]), if_neg named.down]
  simp [Entry.entries, Entry.follow]

theorem read_loneFile {content : ByteArray}
    (wellFormed : (loneFile home folder name content).WellFormed) (named : IsFileName name) :
    (loneFile home folder name content).read name = .ok content := by
  rw [FileTree.read, tidy_part named.part, look_loneFile wellFormed named]

end FileTree
end ScriptAudit.Files
