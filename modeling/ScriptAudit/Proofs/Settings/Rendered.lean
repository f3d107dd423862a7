import ScriptAudit.Proofs.Settings.Agreement
import ScriptAudit.Proofs.Settings.Plain
import ScriptAudit.Proofs.Settings.PlainFile

namespace ScriptAudit.Settings

/-! A settings file and the mapping that it renders are resolved alike. -/

open Files Literal Syntax Lexeme

variable {tree : FileTree} {path : String} {text : List Char} {entries : List (String × Value)}

theorem originOf_table {given : Value} (stands : given.StandsFor (.table entries))
    (workingFolder : String) : originOf tree given workingFolder = .ok (.handedIn given) := by
  cases stands <;> rfl

theorem resolve_standsFor {given : Value} (stands : given.StandsFor (.table entries))
    (valid : Value.IsLiteral (.table entries)) (workingFolder : String) :
    resolve tree given workingFolder = build .hashtable none [] (Value.table entries).pairs := by
  unfold resolve
  rw [originOf_table stands]
  dsimp only [bind, Except.bind]
  rw [normalize_standsFor stands valid]
  rfl

/-- Two resolutions end alike: with configurations that differ in where they come from and in
nothing else, or with faults of one kind that say the same. -/
inductive Alike : Except Problem Configuration → Except Problem Configuration → Prop where
  | ok (configuration : Configuration) (mode : Mode) (sourcePath : Option String) :
      Alike (.ok configuration) (.ok { configuration with mode := mode, sourcePath := sourcePath })
  | fault {first second : Fault} (kind : first.kind = second.kind)
      (message : first.message = second.message) :
      Alike (.error (.fault first)) (.error (.fault second))

/-- A problem of the settings stays as it is in the file that it is in. -/
theorem Agree.alike {first second : Except Problem Configuration} {mode : Mode}
    {sourcePath : Option String}
    (agree : Agree (fun first second => second =
      { first with mode := mode, sourcePath := sourcePath }) first second)
    (ends : Ends (fun _ => True) (IsSettingsProblem True) first) (file : String) :
    Alike first (second.mapError (.inFile file)) := by
  cases agree with
  | @ok configuration _ same => exact same ▸ .ok configuration mode sourcePath
  | fault cause extent extent' => exact .fault rfl rfl
  | problem found =>
      cases found with
      | fault found => exact .fault rfl rfl
      | integerNotShown => exact absurd trivial ends
      | file | table | keyWithoutCase | notOneSource => exact ends.elim

/-- Settings in a file are resolved as the mapping that the file renders: to the same configuration,
or to a fault that says the same.  The keys and texts hold no carriage return, which a file could
not keep, and the path is not blank and short enough in full. -/
theorem resolve_rendered {given named : Value} (stands : given.StandsFor (.table entries))
    (clean : (Value.table entries).IsClean) (rendered : Rendered (.table entries) text)
    (wellFormed : tree.WellFormed) (plain : IsPlainPath path) (names : Names path named)
    (short : (tidy (absolute tree.current path)).utf8ByteSize ≤ greatestPath)
    (read : tree.read path = .ok (String.ofList text).toUTF8) (workingFolder other : String) :
    Alike (resolve tree given workingFolder) (resolve tree named other) := by
  have made : IsMade True (.table entries) := by
    obtain ⟨opening, body, closing, -, written⟩ := rendered
    exact made_of_written written
  obtain ⟨found, locations, resolved⟩ := resolve_plain wellFormed plain names short
    (unmarked_rendered rendered) (rendered_unifies rendered clean) read other
  rw [resolved, resolve_standsFor stands made.literal]
  exact (build_agree [] locations (Value.table entries).pairs).alike
    (build_ends .hashtable none [] made) found

/-- A folder with one file, in which a text is stored. -/
def workTree (name : String) (text : List Char) : FileTree :=
  .loneFile "/home" "/work" name (String.ofList text).toUTF8

theorem workTree_wellFormed (name : String) (text : List Char) : (workTree name text).WellFormed :=
  FileTree.loneFile_wellFormed _ (by decide +kernel) (by decide +kernel) (by decide +kernel)

theorem workTree_short :
    (tidy (absolute "/work" "s.psd1")).utf8ByteSize ≤ greatestPath := by
  decide +kernel

theorem workTree_read (text : List Char) :
    (workTree "s.psd1" text).read "s.psd1" = .ok (String.ofList text).toUTF8 :=
  FileTree.read_loneFile (workTree_wellFormed _ _) fileName_plain.1

theorem resolve_rendered_severities :
    Value.StandsFor (.mapping [(.text "Severity", .list [.text "Error", .text "Warning"])])
      (.table [("Severity", .array [.text "Error", .text "Warning"])]) ∧
    Rendered (.table [("Severity", .array [.text "Error", .text "Warning"])])
      "@\x7b\r\n'Severity'=@('Error','Warning')\r\n\x7d\r\n".toList ∧
    Alike
      (resolve (workTree "s.psd1" "@\x7b\r\n'Severity'=@('Error','Warning')\r\n\x7d\r\n".toList)
        (.mapping [(.text "Severity", .list [.text "Error", .text "Warning"])]) "")
      (resolve (workTree "s.psd1" "@\x7b\r\n'Severity'=@('Error','Warning')\r\n\x7d\r\n".toList)
        (.text "s.psd1") "") := by
  have stands : Value.StandsFor
      (.mapping [(.text "Severity", .list [.text "Error", .text "Warning"])])
      (.table [("Severity", .array [.text "Error", .text "Warning"])]) :=
    .mapping (.cons (.list (.cons (.text _) (.cons (.text _) .nil))) .nil)
  have items : Written (.array [.text "Error", .text "Warning"]) _ :=
    .array [] [] (.text "Error") (.cons [] (.text "Warning") .nil) fun none => by cases none
  have distinct : (Table.folded
      [("Severity", Value.array [.text "Error", .text "Warning"])]).Nodup := by decide
  have written : Written (.table [("Severity", .array [.text "Error", .text "Warning"])]) _ :=
    .table [.returnFeed] distinct
      (.cons "Severity" [] [] [.returnFeed] rfl items .nil fun more => absurd rfl more)
  have rendered : Rendered (.table [("Severity", .array [.text "Error", .text "Warning"])])
      "@\x7b\r\n'Severity'=@('Error','Warning')\r\n\x7d\r\n".toList :=
    ⟨[], _, [.returnFeed], rfl, written⟩
  have texts : ∀ item ∈ [Value.text "Error", .text "Warning"], item.IsClean :=
    List.forall_mem_cons.mpr ⟨.text (by decide), List.forall_mem_singleton.mpr (.text (by decide))⟩
  have clean : (Value.table [("Severity", .array [.text "Error", .text "Warning"])]).IsClean :=
    .table (List.forall_mem_singleton.mpr (by decide))
      (List.forall_mem_singleton.mpr (.array texts))
  obtain ⟨-, plain⟩ := fileName_plain
  exact ⟨stands, rendered, resolve_rendered stands clean rendered (workTree_wellFormed _ _) plain
    (.inl rfl) workTree_short (workTree_read _) "" ""⟩

section
variable (key : String)

/-- Settings with one rule of this name and no arguments for it. -/
def soleRule : List (String × Value) :=
  [("Rules", .table [(key, .table [])])]

def soleRuleGiven : Value :=
  .mapping [(.text "Rules", .mapping [(.text key, .mapping [])])]

def soleRuleText : List Char :=
  '@' :: '\x7b' :: (quotedText "Rules" ++ ('=' :: '@' :: '\x7b' :: (quotedText key ++
    ['=', '@', '\x7b', '\x7d', '\x7d', '\x7d'])))

theorem soleRule_stands : (soleRuleGiven key).StandsFor (.table (soleRule key)) :=
  .mapping (.cons (.mapping (.cons (.mapping .nil) .nil)) .nil)

theorem soleRule_distinct {α : Type} (value : α) : Table.Distinct [(key, value)] :=
  List.nodup_cons.mpr ⟨List.not_mem_nil, List.nodup_nil⟩

theorem soleRule_rendered : Rendered (.table (soleRule key)) (soleRuleText key) := by
  have none : Written (.table []) ['@', '\x7b', '\x7d'] := .table [] Table.distinct_nil .nil
  have inner := Written.table [] (soleRule_distinct key _)
    (.cons key [] [] [] rfl none .nil fun more => absurd rfl more)
  have outer := Written.table [] (soleRule_distinct "Rules" _)
    (.cons "Rules" [] [] [] rfl inner .nil fun more => absurd rfl more)
  refine ⟨[], _, [], ?_, outer⟩
  simp [soleRuleText, trivia]

theorem soleRule_built (mode : Mode) (sourcePath : Option String) (locations : Locations) :
    build mode sourcePath locations (Value.table (soleRule key)).pairs =
      .ok { ruleArguments := [(key, [])], mode := mode, sourcePath := sourcePath } := by
  have known : Setting.ofKey? "Rules" = some .rules := by decide +kernel
  have made : Table.ofPairs [(Value.text key, ([] : List (String × Value)))] = .ok [(key, [])] :=
    Table.ofPairs_texts (soleRule_distinct key _)
  have rules : rulesOf locations "Rules" (.table [(key, .table [])]) = .ok [(key, [])] := by
    rw [rulesOf, if_pos (show (Value.table _).isKeyed = true from rfl)]
    exact congrArg (Except.mapError Problem.table) made
  have taken (draft : Draft) : draft.take locations (.text "Rules") (.table [(key, .table [])]) =
      .ok { draft with configuration := { draft.configuration with
        ruleArguments := [(key, [])] } } := by
    rw [Draft.take]
    dsimp only
    rw [known]
    dsimp only [Draft.set]
    rw [rules]
    rfl
  rw [build]
  dsimp only [soleRule, Value.pairs, List.map]
  rw [List.foldlM_cons, taken]
  rfl

end

theorem resolve_soleRule (tree : FileTree) (key workingFolder : String) :
    resolve tree (soleRuleGiven key) workingFolder =
      .ok { ruleArguments := [(key, [])], mode := .hashtable } := by
  obtain ⟨opening, body, closing, -, written⟩ := soleRule_rendered key
  rw [resolve_standsFor (soleRule_stands key) (made_of_written written).literal]
  exact soleRule_built key .hashtable none []

/-- The settings that are given and the file are not resolved alike. -/
structure Differs (tree : FileTree) (path : String) (text : List Char) (given : Value)
    (entries : List (String × Value)) : Prop where
  stands : given.StandsFor (.table entries)
  wellFormed : tree.WellFormed
  unnamed : presetPath? path = none
  homeless : homeOwner? path = none
  tame : Pattern.hasWildcards path = false
  read : tree.read path = .ok (String.ofList text).toUTF8
  differs : ¬ Alike (resolve tree given "") (resolve tree (.text path) "")

theorem Alike.rules {first second : Configuration} (alike : Alike (.ok first) (.ok second)) :
    second.ruleArguments = first.ruleArguments := by
  cases alike
  rfl

theorem Alike.kinds {first second : Fault}
    (alike : Alike (.error (.fault first)) (.error (.fault second))) :
    first.kind = second.kind := by
  cases alike
  assumption

theorem return_differs : Differs (workTree "s.psd1" (soleRuleText "a\rb")) "s.psd1"
    (soleRuleText "a\rb") (soleRuleGiven "a\rb") (soleRule "a\rb") := by
  obtain ⟨-, plain⟩ := fileName_plain
  -- The file holds the key with a carriage return, and is read as if it held a line feed.
  have fed : unifyLineBreaks (soleRuleText "a\rb") = soleRuleText "a\nb" := by decide +kernel
  have rendered : Rendered _ (unifyLineBreaks (soleRuleText "a\rb")) :=
    fed ▸ soleRule_rendered "a\nb"
  have read := workTree_read (soleRuleText "a\rb")
  obtain ⟨found, locations, resolved⟩ := resolve_plain (workTree_wellFormed _ _) plain (.inl rfl)
    workTree_short (by decide) rendered read ""
  refine ⟨soleRule_stands _, workTree_wellFormed _ _, plain.unnamed, plain.homeless, plain.tame,
    read, ?_⟩
  rw [resolved, resolve_soleRule, soleRule_built]
  intro alike
  have same : [("a\nb", [])] = [("a\rb", ([] : List (String × Value)))] := alike.rules
  exact absurd (Prod.mk.inj (List.cons.inj same).1).1 (by decide)

theorem blank_differs : Differs (workTree " " (soleRuleText "a")) " " (soleRuleText "a")
    (soleRuleGiven "a") (soleRule "a") := by
  have named : FileTree.IsFileName " " := by
    refine ⟨⟨?_, ?_, ?_⟩, ?_, ?_, ?_⟩ <;> decide +kernel
  have blank : Text.strip " " = "" := by decide +kernel
  refine ⟨soleRule_stands _, workTree_wellFormed _ _, by decide +kernel, by decide +kernel,
    by decide +kernel, FileTree.read_loneFile (workTree_wellFormed _ _) named, ?_⟩
  have nothing : resolve (workTree " " (soleRuleText "a")) (.text " ") "" = .ok .standard := by
    rw [resolve, originOf, originOfText, if_pos blank]
    rfl
  rw [nothing, resolve_soleRule]
  intro alike
  cases alike.rules

/-- The name of a folder that is nearly as long as a name can be. -/
def longName : String :=
  String.ofList (List.replicate 254 'a')

/-- The path of a folder that is nearly as long as a path can be. -/
def longFolder : String :=
  rooted (List.replicate 16 longName)

theorem longName_toList : longName.toList = List.replicate 254 'a' :=
  String.toList_ofList

theorem longName_ne {name : String} (other : List.replicate 254 'a' ≠ name.toList) :
    longName ≠ name := by
  rintro rfl
  exact other longName_toList.symm

theorem longName_clean {c : Char} (other : c ≠ 'a') : c ∉ longName.toList := by
  rw [longName_toList]
  exact fun member => other (List.eq_of_mem_replicate member)

theorem longName_part : IsPart longName :=
  ⟨longName_clean (by decide), longName_ne (by decide), longName_ne (by decide)⟩

theorem longName_size : longName.utf8ByteSize = 254 := by decide +kernel

theorem longFolder_parts : pathParts longFolder = List.replicate 16 longName :=
  pathParts_rooted fun _ member => List.eq_of_mem_replicate member ▸ longName_part

theorem longFolder_wellFormed (home name : String) (content : ByteArray) :
    (FileTree.loneFile home longFolder name content).WellFormed := by
  refine FileTree.loneFile_wellFormed content (anchor_rooted _) ?_ ?_
  · intro null
    obtain ⟨part, member, null⟩ := mem_rooted (by decide) null
    exact longName_clean (by decide) (List.eq_of_mem_replicate member ▸ null)
  · rw [longFolder_parts]
    exact fun member => longName_ne (by decide) (List.eq_of_mem_replicate member).symm

theorem size_intercalate_replicate (count : Nat) (part last : String) :
    (String.intercalate "/" (List.replicate count part ++ [last])).utf8ByteSize =
      count * (part.utf8ByteSize + 1) + last.utf8ByteSize := by
  have slash : "/".utf8ByteSize = 1 := rfl
  induction count with
  | zero => simp
  | succ count ih =>
      rw [List.replicate_succ, List.cons_append, String.intercalate_cons_of_ne_nil (by simp),
        String.utf8ByteSize_append, String.utf8ByteSize_append, ih, slash]
      rw [Nat.succ_mul]
      omega

theorem size_longFolder {name : String} (named : FileTree.IsFileName name) :
    16 * 255 + name.utf8ByteSize ≤ (tidy (absolute longFolder name)).utf8ByteSize := by
  obtain ⟨parts, relative⟩ := named.relative
  have plain : ".." ∉ List.replicate 16 longName ++ [name] := by
    rw [List.mem_append, List.mem_singleton]
    rintro (folder | file)
    · exact longName_ne (by decide) (List.eq_of_mem_replicate folder).symm
    · exact named.down file.symm
  have whole : pathParts (absolute longFolder name) = List.replicate 16 longName ++ [name] := by
    rw [pathParts_absolute, pathParts_join relative, parts, longFolder_parts, anchor_join relative,
      ← List.append_nil (_ ++ _), cancel_names plain]
    simp [cancel]
  have size := size_intercalate_replicate 16 longName name
  have some : anchor (absolute longFolder name) ++
      String.intercalate "/" (List.replicate 16 longName ++ [name]) ≠ "" := by
    simp [anchor_absolute (anchor_rooted _), longFolder]
  rw [longName_size] at size
  rw [tidy, withParts, whole]
  rw [if_neg some, String.utf8ByteSize_append, size]
  omega

theorem long_differs :
    Differs (.loneFile "/home" longFolder "PSScriptAnalyzerSettings.psd1"
        (String.ofList (soleRuleText "a")).toUTF8)
      "PSScriptAnalyzerSettings.psd1" (soleRuleText "a") (soleRuleGiven "a") (soleRule "a") := by
  -- The name stays closed: opened, it would carry the whole path along.
  generalize name : "PSScriptAnalyzerSettings.psd1" = file
  have named : FileTree.IsFileName file := by
    subst name
    refine ⟨⟨?_, ?_, ?_⟩, ?_, ?_, ?_⟩ <;> decide +kernel
  have plain : IsPlainPath file := by
    subst name
    refine ⟨?_, ?_, ?_, ?_⟩ <;> decide +kernel
  have size : file.utf8ByteSize = 29 := by
    subst name
    decide +kernel
  have wellFormed := longFolder_wellFormed "/home" file (String.ofList (soleRuleText "a")).toUTF8
  generalize holds : FileTree.loneFile _ longFolder file _ = tree at wellFormed ⊢
  have current : tree.current = longFolder := by rw [← holds]; rfl
  have looked : tree.look file = .ok (.file (String.ofList (soleRuleText "a")).toUTF8) := by
    rw [← holds] at wellFormed ⊢
    exact FileTree.look_loneFile wellFormed named
  have read : tree.read file = .ok (String.ofList (soleRuleText "a")).toUTF8 := by
    rw [FileTree.read, tidy_part named.part, looked]
  have resolved : resolvePath tree file = .ok (absolute tree.current file) := by
    rw [resolvePath_eq plain, pathInFull, FileTree.exists?, looked]
    rfl
  have long : greatestPath < (tidy (absolute tree.current file)).utf8ByteSize := by
    rw [current]
    exact Nat.lt_of_lt_of_le (by rw [size]; decide) (size_longFolder named)
  have unknown : tree.isFile (absolute tree.current file) = .error .nameTooLong := by
    have null : '\x00' ∉ (tidy file).toList := by
      rw [tidy_part named.part]
      exact named.plain
    rw [FileTree.isFile, FileTree.look_long (FileTree.plain_absolute wellFormed null) long]
  have escapes : resolve tree (.text file) "" = .error (.file .nameTooLong) :=
    resolve_escapes (.file (.file (originOf_plain (.inl rfl) plain "") resolved)
      (.nameTooLong unknown))
  refine ⟨soleRule_stands _, wellFormed, plain.unnamed, plain.homeless, plain.tame, read, ?_⟩
  rw [escapes, resolve_soleRule]
  intro alike
  cases alike

theorem loadTable_overlong {digits : List Char} (written : IsDigits digits)
    (long : Text.greatestIntegerDigits < digits.length)
    (read : tree.read path = .ok (String.ofList (numeralTable "Rules" digits)).toUTF8) :
    loadTable tree path = .error (.fault ⟨.integerTooLong (String.ofList digits) digits.length
      Text.greatestIntegerDigits, some (.ofFile path)⟩) := by
  have clean : '\r' ∉ numeralTable "Rules" digits := by
    simp [numeralTable, quotedText, doubled, written.not_mem]
  have unmarked : (numeralTable "Rules" digits).head? ≠ some orderMark := by
    simp [numeralTable, orderMark]
  unfold loadTable
  rw [isFile_of_read read, parseFile_read read, dataFileText?_toUTF8 unmarked,
    (Unifies.plain clean).unify]
  dsimp only [Except.mapError, bind, Except.bind]
  rw [parseText_overlong_entry written long]
  rfl

section
variable (number : Number)

def numberGiven : Value :=
  .mapping [(.text "Rules", .number number)]

theorem number_stands :
    (numberGiven number).StandsFor (.table [("Rules", .number number)]) :=
  .mapping (.cons (.number number) .nil)

/-- A number in the place of the rules is rejected. -/
theorem resolve_number (tree : FileTree) (workingFolder : String) :
    resolve tree (numberGiven number) workingFolder =
      .error (.fault ⟨.rulesNotTable "Rules", none⟩) := by
  have known : Setting.ofKey? "Rules" = some .rules := by decide +kernel
  have valid : Value.IsLiteral (.table [("Rules", .number number)]) :=
    .table (soleRule_distinct "Rules" _) (List.forall_mem_singleton.mpr (.number number))
  rw [resolve_standsFor (number_stands number) valid, build]
  dsimp only [Value.pairs, List.map]
  rw [List.foldlM_cons, Draft.take]
  dsimp only
  rw [known]
  rfl

end

theorem integer_differs {digits : List Char} (written : IsDigits digits)
    (long : Text.greatestIntegerDigits < digits.length) :
    Differs (workTree "s.psd1" (numeralTable "Rules" digits)) "s.psd1"
      (numeralTable "Rules" digits) (numberGiven (.integer (signedValue false digits)))
      [("Rules", .number (.integer (signedValue false digits)))] := by
  obtain ⟨-, plain⟩ := fileName_plain
  have read := workTree_read (numeralTable "Rules" digits)
  have loaded := loadTable_overlong written long
    (read_pathInFull (workTree_wellFormed _ _) workTree_short read)
  refine ⟨number_stands _, workTree_wellFormed _ _, plain.unnamed, plain.homeless, plain.tame,
    read, ?_⟩
  rw [resolve_number, resolve_chosen (.file (originOf_plain (.inl rfl) plain "")
    (resolvePath_eq plain)), resolveFile, loaded]
  intro alike
  have same : Fault.Kind.invalidRuleArguments = .parserFailure := alike.kinds
  cases same

/-- A key with a carriage return, a path of blanks, a path that is too long in full and an integer
with too many digits: for each of them a file and the mapping that it renders are told apart. -/
theorem resolve_differs :
    Rendered (.table (soleRule "a\rb")) (soleRuleText "a\rb") ∧
    Differs (workTree "s.psd1" (soleRuleText "a\rb")) "s.psd1" (soleRuleText "a\rb")
      (soleRuleGiven "a\rb") (soleRule "a\rb") ∧
    Rendered (.table (soleRule "a")) (soleRuleText "a") ∧
    Differs (workTree " " (soleRuleText "a")) " " (soleRuleText "a") (soleRuleGiven "a")
      (soleRule "a") ∧
    Differs (.loneFile "/home" longFolder "PSScriptAnalyzerSettings.psd1"
        (String.ofList (soleRuleText "a")).toUTF8)
      "PSScriptAnalyzerSettings.psd1" (soleRuleText "a") (soleRuleGiven "a") (soleRule "a") ∧
    IsDigits ('1' :: List.replicate 4300 '0') ∧
    Differs (workTree "s.psd1" (numeralTable "Rules" ('1' :: List.replicate 4300 '0'))) "s.psd1"
      (numeralTable "Rules" ('1' :: List.replicate 4300 '0'))
      (numberGiven (.integer (signedValue false ('1' :: List.replicate 4300 '0'))))
      [("Rules", .number (.integer (signedValue false ('1' :: List.replicate 4300 '0'))))] := by
  obtain ⟨written, long⟩ := overlong_digits
  exact ⟨soleRule_rendered _, return_differs, soleRule_rendered _, blank_differs, long_differs,
    written, integer_differs written long⟩

end ScriptAudit.Settings
