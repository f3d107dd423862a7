import ScriptAudit.Files.Path
import ScriptAudit.Proofs.Text.Split

namespace ScriptAudit.Files

/-! Tidy paths name what the paths they come from name. -/

def isName (part : List Char) : Bool :=
  part != [] && part != ['.']

def names (path : List Char) : List (List Char) :=
  (Text.splitAt '/' path).filter isName

theorem pathParts_eq (path : String) :
    pathParts path = (names path.toList).map String.ofList := by
  unfold pathParts Text.parts names
  rw [List.filter_map]
  congr 1
  refine List.filter_congr fun part _ => ?_
  rw [Bool.eq_iff_iff]
  simp [isName, String.ext_iff]

theorem names_slash (path : List Char) : names ('/' :: path) = names path := by
  simp [names, Text.splitAt, isName]

theorem names_intercalate {parts : List (List Char)}
    (proper : ∀ part ∈ parts, '/' ∉ part ∧ isName part) :
    names (['/'].intercalate parts) = parts := by
  cases parts with
  | nil => rfl
  | cons part rest =>
      rw [names, Text.splitAt_intercalate (List.cons_ne_nil _ _) fun part member =>
        (proper part member).1]
      exact List.filter_eq_self.mpr fun part member => (proper part member).2

theorem proper_of_mem_names {path part : List Char} (member : part ∈ names path) :
    '/' ∉ part ∧ isName part :=
  ⟨Text.separator_not_mem (List.mem_filter.mp member).1, (List.mem_filter.mp member).2⟩

/-- What stands between slashes and names something. -/
def IsPart (part : String) : Prop :=
  '/' ∉ part.toList ∧ part ≠ "" ∧ part ≠ "."

theorem isPart_iff {part : String} : IsPart part ↔ '/' ∉ part.toList ∧ isName part.toList := by
  have empty : part.toList = [] ↔ part = "" := String.toList_eq_nil_iff
  have dot : part.toList = ['.'] ↔ part = "." := by
    rw [← String.toList_inj]
    rfl
  simp only [IsPart, isName, Bool.and_eq_true, bne_iff_ne, ne_eq, empty, dot]

theorem isPart_of_mem {path part : String} (member : part ∈ pathParts path) : IsPart part := by
  rw [pathParts_eq, List.mem_map] at member
  obtain ⟨name, member, rfl⟩ := member
  rw [isPart_iff, String.toList_ofList]
  exact proper_of_mem_names member

theorem proper_toList {parts : List String} (proper : ∀ part ∈ parts, IsPart part) :
    ∀ name ∈ parts.map String.toList, '/' ∉ name ∧ isName name := by
  intro name member
  obtain ⟨part, known, rfl⟩ := List.mem_map.mp member
  exact isPart_iff.mp (proper part known)

/-- The slashes in front of a path that count. -/
def slashes : List Char → List Char
  | '/' :: '/' :: '/' :: _ => ['/']
  | '/' :: '/' :: _ => ['/', '/']
  | '/' :: _ => ['/']
  | _ => []

theorem anchor_eq (path : String) : anchor path = String.ofList (slashes path.toList) := by
  unfold anchor
  simp only [Bool.and_eq_true, Bool.not_eq_eq_eq_not, Bool.not_true, ← Bool.not_eq_true,
    String.startsWith_string_iff]
  generalize path.toList = text
  fun_cases slashes text <;> simp_all [List.cons_prefix_iff]

theorem anchor_ne_empty {path : String} :
    anchor path ≠ "" ↔ ∃ rest, path.toList = '/' :: rest := by
  rw [anchor_eq, ne_eq, String.ofList_eq_empty_iff]
  generalize path.toList = text
  fun_cases slashes text <;> simp_all

theorem startsWith_slash {path : String} : path.startsWith "/" ↔ anchor path ≠ "" := by
  rw [anchor_ne_empty, String.startsWith_string_iff]
  exact ⟨fun ⟨rest, same⟩ => ⟨rest, same.symm⟩, fun ⟨rest, same⟩ => ⟨rest, same.symm⟩⟩

/-- A text that does not go on with a slash. -/
def Named (text : List Char) : Prop :=
  ∀ later, text ≠ '/' :: later

theorem anchor_eq_empty {path : String} : anchor path = "" ↔ Named path.toList := by
  rw [anchor_eq, String.ofList_eq_empty_iff]
  generalize path.toList = text
  fun_cases slashes text <;> simp_all [Named]

theorem Named.append {text rest : List Char} (front : Named text) (named : Named rest) :
    Named (text ++ rest) := by
  cases text with
  | nil => exact named
  | cons c others =>
      intro later same
      exact front others (by rw [(List.cons.inj same).1])

theorem named_intercalate {parts : List (List Char)}
    (proper : ∀ part ∈ parts, '/' ∉ part ∧ isName part) :
    Named (['/'].intercalate parts) := by
  intro later same
  cases parts with
  | nil => simp at same
  | cons part rest =>
      obtain ⟨whole, name⟩ := proper part List.mem_cons_self
      cases part with
      | nil => simp [isName] at name
      | cons c others =>
          have first : c = '/' := by
            cases rest with
            | nil =>
                rw [List.intercalate_singleton] at same
                exact (List.cons.inj same).1
            | cons next others =>
                rw [List.intercalate_cons_cons] at same
                exact (List.cons.inj same).1
          exact whole (first ▸ List.mem_cons_self)

theorem slashes_append {path rest : List Char} (named : Named rest) :
    slashes (path ++ rest) = slashes path := by
  fun_cases slashes path with
  | case1 => rfl
  | case2 later other => exact slashes.eq_2 _ (Named.append other named)
  | case3 later _ other =>
      have further : Named (later ++ rest) := Named.append other named
      exact slashes.eq_3 _ (fun _ => further _) further
  | case4 _ _ _ other =>
      have further : Named (path ++ rest) := Named.append other named
      exact slashes.eq_4 _ (fun _ => further _) (fun _ => further _) further

theorem slashes_slashes (path : List Char) : slashes (slashes path) = slashes path := by
  fun_cases slashes path <;> rfl

theorem names_slashes_append (path rest : List Char) :
    names (slashes path ++ rest) = names rest := by
  fun_cases slashes path <;> simp [names_slash]

theorem mem_intercalate {parts : List (List Char)} {c : Char} (other : c ≠ '/')
    (member : c ∈ ['/'].intercalate parts) : ∃ part ∈ parts, c ∈ part := by
  induction parts with
  | nil => simp at member
  | cons part rest ih =>
      cases rest with
      | nil => exact ⟨part, List.mem_cons_self, by simpa using member⟩
      | cons next others =>
          rw [List.intercalate_cons_cons, List.append_assoc, List.mem_append,
            List.singleton_append, List.mem_cons] at member
          rcases member with inside | slash | later
          · exact ⟨part, List.mem_cons_self, inside⟩
          · exact absurd slash other
          · obtain ⟨found, known, inside⟩ := ih later
            exact ⟨found, List.mem_cons_of_mem _ known, inside⟩

theorem withParts_toList (path : String) (parts : List String) : (withParts path parts).toList =
    let text := slashes path.toList ++ ['/'].intercalate (parts.map String.toList)
    if text = [] then ['.'] else text := by
  have written : (anchor path ++ String.intercalate "/" parts).toList =
      slashes path.toList ++ ['/'].intercalate (parts.map String.toList) := by
    rw [anchor_eq]
    simp [String.toList_intercalate]
  unfold withParts
  dsimp only
  rw [← written]
  by_cases empty : anchor path ++ String.intercalate "/" parts = ""
  · rw [if_pos empty, if_pos (by rw [empty]; rfl)]
    rfl
  · rw [if_neg empty, if_neg (mt String.toList_eq_nil_iff.mp empty)]

theorem tidy_toList (path : String) : (tidy path).toList =
    let text := slashes path.toList ++ ['/'].intercalate (names path.toList)
    if text = [] then ['.'] else text := by
  rw [tidy, withParts_toList, pathParts_eq, List.map_map]
  simp

theorem withParts_ne_empty (path : String) (parts : List String) : withParts path parts ≠ "" := by
  unfold withParts
  dsimp only
  split
  · decide
  · assumption

section
variable {path : String} {parts : List String}

/-- The path has these parts, and it is anchored as before. -/
theorem withParts_same (proper : ∀ part ∈ parts, IsPart part) :
    pathParts (withParts path parts) = parts ∧ anchor (withParts path parts) = anchor path := by
  have properNames := proper_toList proper
  have same : names (withParts path parts).toList = parts.map String.toList ∧
      slashes (withParts path parts).toList = slashes path.toList := by
    rw [withParts_toList]
    dsimp only
    split
    · next empty =>
        obtain ⟨unanchored, joined⟩ := List.append_eq_nil_iff.mp empty
        have nameless := names_intercalate properNames
        rw [joined] at nameless
        rw [unanchored, ← nameless]
        exact ⟨rfl, rfl⟩
    · rw [names_slashes_append, names_intercalate properNames,
        slashes_append (named_intercalate properNames), slashes_slashes]
      exact ⟨rfl, rfl⟩
  rw [pathParts_eq, anchor_eq, same.1, same.2, ← anchor_eq]
  exact ⟨by simp, rfl⟩

/-- Slashes and dots apart, the characters of the path are those of its parts. -/
theorem mem_withParts {c : Char} (other : c ≠ '/' ∧ c ≠ '.')
    (member : c ∈ (withParts path parts).toList) : ∃ part ∈ parts, c ∈ part.toList := by
  have slash : ∀ c ∈ slashes path.toList, c = '/' := by
    fun_cases slashes path.toList <;> simp
  rw [withParts_toList] at member
  dsimp only at member
  split at member
  · exact absurd (List.mem_singleton.mp member) other.2
  · rcases List.mem_append.mp member with front | inside
    · exact absurd (slash c front) other.1
    · obtain ⟨name, known, within⟩ := mem_intercalate other.1 inside
      obtain ⟨part, member, rfl⟩ := List.mem_map.mp known
      exact ⟨part, member, within⟩

end

theorem pathParts_tidy (path : String) : pathParts (tidy path) = pathParts path :=
  (withParts_same fun _ => isPart_of_mem).1

theorem anchor_tidy (path : String) : anchor (tidy path) = anchor path :=
  (withParts_same fun _ => isPart_of_mem).2

/-- What is the same file as a known one can be told from it. -/
theorem sameFile_of_known {base first second path : String} (known : path ≠ "")
    (left : sameFile base first path) (right : sameFile base second path) :
    sameFile base first second := by
  simp only [sameFile, Bool.or_eq_true, beq_iff_eq] at *
  grind

theorem splitAt_slashes (path rest : List Char) :
    ((Text.splitAt '/' (slashes path ++ rest)).map String.ofList).dropWhile (· == "") =
      ((Text.splitAt '/' rest).map String.ofList).dropWhile (· == "") := by
  fun_cases slashes path <;> simp [Text.splitAt]

theorem pathParts_dropWhile (path : String) :
    (pathParts path).dropWhile (· == "") = pathParts path := by
  cases parts : pathParts path with
  | nil => rfl
  | cons part rest =>
      have named := (isPart_of_mem (parts ▸ List.mem_cons_self : part ∈ pathParts path)).2.1
      simp [named]

theorem parts_tidy_anchored {path : String} (anchored : anchor path ≠ "") :
    (Text.parts '/' (tidy path)).dropWhile (· == "") = pathParts path := by
  have some : slashes path.toList ≠ [] := by
    rwa [anchor_eq, ne_eq, String.ofList_eq_empty_iff] at anchored
  have proper : ∀ part ∈ names path.toList, '/' ∉ part := fun part member =>
    (proper_of_mem_names member).1
  rw [Text.parts, tidy_toList]
  dsimp only
  rw [if_neg (by simp [some]), splitAt_slashes]
  by_cases named : names path.toList = []
  · rw [pathParts_eq, named]
    rfl
  · rw [Text.splitAt_intercalate named proper, ← pathParts_eq, pathParts_dropWhile]

theorem parts_tidy_relative {path : String} (relative : anchor path = "")
    (named : pathParts path ≠ []) : Text.parts '/' (tidy path) = pathParts path := by
  have proper : ∀ part ∈ names path.toList, '/' ∉ part ∧ isName part := fun part member =>
    proper_of_mem_names member
  have some : names path.toList ≠ [] := by
    intro none
    rw [pathParts_eq, none] at named
    exact named rfl
  have written : ['/'].intercalate (names path.toList) ≠ [] := by
    intro none
    have nothing := names_intercalate proper
    rw [none] at nothing
    exact some nothing.symm
  rw [anchor_eq, String.ofList_eq_empty_iff] at relative
  rw [Text.parts, tidy_toList]
  dsimp only
  rw [relative, List.nil_append, if_neg written,
    Text.splitAt_intercalate some fun part member => (proper part member).1, ← pathParts_eq]

theorem join_ne_empty {folder name : String} (named : name ≠ "") : join folder name ≠ "" := by
  unfold join
  split
  · exact named
  · split <;> simp [named]

theorem below_ne_empty {folder name : String} (named : name ≠ "") : below folder name ≠ "" := by
  unfold below
  split
  · exact named
  · exact join_ne_empty named

theorem mem_of_mem_pathParts {path part : String} {c : Char} (member : part ∈ pathParts path)
    (inside : c ∈ part.toList) : c ∈ path.toList := by
  rw [pathParts_eq, List.mem_map] at member
  obtain ⟨name, known, rfl⟩ := member
  rw [String.toList_ofList] at inside
  exact Text.mem_of_mem_splitAt (List.mem_filter.mp known).1 inside

theorem pathParts_intercalate {parts : List String} (proper : ∀ part ∈ parts, IsPart part) :
    pathParts (String.intercalate "/" parts) = parts := by
  rw [pathParts_eq, String.toList_intercalate]
  change (names (['/'].intercalate (parts.map String.toList))).map String.ofList = parts
  rw [names_intercalate (proper_toList proper)]
  simp

theorem names_append_slash (before after : List Char) :
    names (before ++ '/' :: after) = names before ++ names after := by
  unfold names
  rw [Text.splitAt_append_separator, List.filter_append]

section
variable {folder name : String}

theorem join_anchored (anchored : anchor name ≠ "") : join folder name = name :=
  if_pos (startsWith_slash.mpr anchored)

/-- A name is put behind a folder after one slash. -/
theorem join_relative (relative : anchor name = "") :
    join folder name =
      if folder = "" ∨ ['/'] <:+ folder.toList then folder ++ name else folder ++ "/" ++ name := by
  have own : ¬ name.startsWith "/" := fun begins => startsWith_slash.mp begins relative
  rw [join, if_neg own]
  simp only [Bool.or_eq_true, decide_eq_true_eq, String.endsWith_eq_endsWith_toSlice,
    String.Slice.endsWith_string_iff, String.copy_toSlice]
  rfl

theorem pathParts_join (relative : anchor name = "") :
    pathParts (join folder name) = pathParts folder ++ pathParts name := by
  have joined (before after : List Char) : (names (before ++ '/' :: after)).map String.ofList =
      (names before).map String.ofList ++ (names after).map String.ofList := by
    rw [names_append_slash, List.map_append]
  rw [join_relative relative]
  simp only [pathParts_eq]
  split
  · next ends =>
      rcases ends with rfl | ⟨before, same⟩
      · rfl
      · have whole : (names folder.toList).map String.ofList =
            (names before).map String.ofList := by
          rw [← same]
          exact (joined before []).trans (List.append_nil _)
        rw [whole, String.toList_append, ← same, List.append_assoc]
        exact joined before name.toList
  · rw [String.toList_append, String.toList_append, List.append_assoc]
    exact joined folder.toList name.toList

theorem anchor_join (relative : anchor name = "") : anchor (join folder name) = anchor folder := by
  rw [join_relative relative, anchor_eq, anchor_eq]
  split
  · rw [String.toList_append, slashes_append (anchor_eq_empty.mp relative)]
  · next ends =>
      obtain ⟨some, unended⟩ := not_or.mp ends
      rcases List.eq_nil_or_concat folder.toList with none | ⟨front, last, whole⟩
      · exact absurd (String.toList_eq_nil_iff.mp none) some
      · have other : last ≠ '/' := by
          rintro rfl
          exact unended ⟨front, by rw [whole, List.concat_eq_append]⟩
        have named (rest : List Char) : Named (last :: rest) := fun later same =>
          other (List.cons.inj same).1
        rw [String.append_assoc, String.toList_append, whole, List.concat_eq_append,
          List.append_assoc, List.singleton_append, slashes_append (named _),
          slashes_append (named _)]

theorem join_stays_anchored (anchored : anchor folder ≠ "") : anchor (join folder name) ≠ "" := by
  by_cases relative : anchor name = ""
  · rwa [anchor_join relative]
  · rwa [join_anchored relative]

theorem pathParts_below (relative : anchor name = "") :
    pathParts (below folder name) = pathParts folder ++ pathParts name := by
  unfold below
  split
  · next here =>
      rw [here]
      rfl
  · exact pathParts_join relative

theorem anchor_below (relative : anchor name = "") :
    anchor (below folder name) = anchor folder := by
  unfold below
  split
  · next here =>
      rw [here, relative]
      decide +kernel
  · exact anchor_join relative

end

/-- The path of names below a root. -/
def rooted (parts : List String) : String :=
  "/" ++ String.intercalate "/" parts

theorem rooted_toList (parts : List String) :
    (rooted parts).toList = '/' :: (String.intercalate "/" parts).toList := by
  rw [rooted, String.toList_append]
  rfl

theorem anchor_rooted (parts : List String) : anchor (rooted parts) ≠ "" :=
  anchor_ne_empty.mpr ⟨_, rooted_toList parts⟩

theorem pathParts_rooted {parts : List String} (proper : ∀ part ∈ parts, IsPart part) :
    pathParts (rooted parts) = parts := by
  rw [pathParts_eq, rooted_toList, names_slash, ← pathParts_eq, pathParts_intercalate proper]

theorem mem_rooted {parts : List String} {c : Char} (other : c ≠ '/')
    (member : c ∈ (rooted parts).toList) : ∃ part ∈ parts, c ∈ part.toList := by
  rw [rooted_toList, String.toList_intercalate, List.mem_cons] at member
  obtain ⟨_, name, inside⟩ := mem_intercalate other (member.resolve_left other)
  obtain ⟨part, known, rfl⟩ := List.mem_map.mp name
  exact ⟨part, known, inside⟩

theorem anchor_intercalate {parts : List String} (proper : ∀ part ∈ parts, IsPart part) :
    anchor (String.intercalate "/" parts) = "" := by
  rw [anchor_eq_empty, String.toList_intercalate]
  exact named_intercalate (proper_toList proper)

theorem pathParts_part {part : String} (proper : IsPart part) :
    pathParts part = [part] ∧ anchor part = "" := by
  have single : ∀ name ∈ [part], IsPart name := List.forall_mem_singleton.mpr proper
  have parts := pathParts_intercalate single
  have relative := anchor_intercalate single
  rw [String.intercalate_singleton] at parts relative
  exact ⟨parts, relative⟩

theorem tidy_part {part : String} (proper : IsPart part) : tidy part = part := by
  obtain ⟨parts, relative⟩ := pathParts_part proper
  rw [tidy, withParts, parts, relative, String.intercalate_singleton, String.empty_append]
  exact if_neg proper.2.1

/-- A name of one letter, again and again. -/
theorem isPart_replicate {c : Char} (letter : c ≠ '/' ∧ c ≠ '.') (count : Nat) :
    IsPart (String.ofList (List.replicate (count + 1) c)) := by
  rw [isPart_iff, String.toList_ofList]
  exact ⟨fun slash => letter.1 (List.eq_of_mem_replicate slash).symm,
    by simp [isName, List.replicate_succ, letter.2]⟩

theorem mem_cancel {rooted : Bool} {kept parts : List String} {part : String}
    (member : part ∈ cancel rooted kept parts) : part ∈ kept ∨ part ∈ parts ∨ part = ".." := by
  fun_induction cancel rooted kept parts with
  | case1 => exact .inl (List.mem_reverse.mp member)
  | _ => grind

theorem isPart_of_mem_cancel {rooted : Bool} {path part : String}
    (member : part ∈ cancel rooted [] (pathParts path)) : IsPart part := by
  rcases mem_cancel member with none | known | rfl
  · cases none
  · exact isPart_of_mem known
  · exact ⟨by decide, by decide, by decide⟩

theorem pathParts_absolute (base path : String) : pathParts (absolute base path) =
    cancel (anchor (join base path) != "") [] (pathParts (join base path)) :=
  (withParts_same fun _ => isPart_of_mem_cancel).1

theorem anchor_absolute {base path : String} (anchored : anchor base ≠ "") :
    anchor (absolute base path) ≠ "" := by
  rw [absolute, (withParts_same fun _ => isPart_of_mem_cancel).2]
  exact join_stays_anchored anchored

/-- A path and its tidy form name one file. -/
theorem sameFile_tidy (base path : String) : sameFile base (tidy path) path := by
  have same : pathParts (join base (tidy path)) = pathParts (join base path) ∧
      anchor (join base (tidy path)) = anchor (join base path) := by
    by_cases relative : anchor path = ""
    · have tidied := (anchor_tidy path).trans relative
      rw [pathParts_join relative, anchor_join relative, pathParts_join tidied, anchor_join tidied,
        pathParts_tidy]
      exact ⟨rfl, rfl⟩
    · rw [join_anchored relative, join_anchored (by rwa [anchor_tidy]), pathParts_tidy, anchor_tidy]
      exact ⟨rfl, rfl⟩
  have whole : absolute base (tidy path) = absolute base path := by
    simp only [absolute, withParts, same]
  rw [sameFile, whole, beq_self_eq_true, Bool.or_true]

theorem tidy_tidy (path : String) : tidy (tidy path) = tidy path := by
  rw [tidy, withParts, pathParts_tidy, anchor_tidy, ← withParts, ← tidy]

theorem pathParts_parent (path : String) : pathParts (parent path) = (pathParts path).dropLast :=
  (withParts_same fun _ member => isPart_of_mem (List.dropLast_subset _ member)).1

theorem anchor_parent (path : String) : anchor (parent path) = anchor path :=
  (withParts_same fun _ member => isPart_of_mem (List.dropLast_subset _ member)).2

/-- A path that names something is its parent and its last name. -/
theorem pathParts_fileName {path : String} (named : pathParts path ≠ []) :
    pathParts path = pathParts (parent path) ++ [fileName path] := by
  rw [pathParts_parent, fileName, List.getLast?_eq_some_getLast named, Option.getD_some,
    List.dropLast_concat_getLast]

theorem tidy_relative {path : String} (relative : anchor path = "") (named : pathParts path ≠ []) :
    tidy path = String.intercalate "/" (pathParts path) := by
  have parts : pathParts (String.intercalate "/" (pathParts path)) = pathParts path :=
    pathParts_intercalate fun part member => isPart_of_mem member
  have some : String.intercalate "/" (pathParts path) ≠ "" := by
    intro empty
    rw [empty] at parts
    exact named (parts.symm.trans rfl)
  rw [tidy, withParts, relative, String.empty_append]
  exact if_neg some

end ScriptAudit.Files
