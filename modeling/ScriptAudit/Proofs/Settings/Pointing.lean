import Mathlib.Data.List.Nodup
import ScriptAudit.Proofs.Settings.Blame
import ScriptAudit.Proofs.Settings.Order
import ScriptAudit.Proofs.Settings.Rendered
import ScriptAudit.Proofs.Syntax.Parsed

namespace ScriptAudit.Settings

/-! Where the fault of a settings file points.

It points at the node to blame unless the locations were lost: because a later key is listed under
the same name, because the rules are in parentheses and not listed, or because the name of a rule
folds to another letter behind the dot. -/

open Syntax Literal Source

/-- The names under which some pairs are listed. -/
def listedNames (pairs : List (Node × Node)) : List String :=
  (pairs.flatMap listing).map Prod.fst

/-- The location of the node to blame is found by its name.  The pair is the one that offends, and
`after` are the pairs that come after it. -/
def Traced (pair : Node × Node) (after : List (Node × Node)) : Fault.Cause → Prop
  | .unknownSetting name _ => Text.lower name ∉ listedNames after
  | .argumentsNotTable rule _ =>
      (soleElement pair.2).kind = .hashtable ∧
      Text.lower (rulesKey ++ "." ++ rule) = rulesKey ++ "." ++ Text.lower rule ∧
      rulesKey ++ "." ++ Text.lower rule ∉ listedNames after
  | _ => True

theorem listedKeys_names {pairs : List (Node × Node)} {entries : List (String × Value)}
    (start : String) (makes : List.Forall₂ Makes pairs entries) :
    (listedKeys start pairs).map Prod.fst = (Table.folded entries).map (start ++ ·) := by
  induction makes with
  | nil => rfl
  | @cons pair entry pairs entries first makes ih =>
      obtain ⟨extent, quote, named, -⟩ := first
      rw [listedKeys, List.filterMap_cons, named]
      exact congrArg _ ih

theorem nodup_listedKeys {pairs : List (Node × Node)} {entries : List (String × Value)}
    (start : String) (makes : List.Forall₂ Makes pairs entries)
    (distinct : Table.Distinct entries) :
    ((listedKeys start pairs).map Prod.fst).Nodup := by
  rw [listedKeys_names start makes]
  exact List.Nodup.map (fun _ _ => (String.append_right_inj start).mp) distinct

theorem Setting.lower_ne_rule (setting : Setting) (rule : String) :
    Text.lower setting.name ≠ rulesKey ++ "." ++ rule := by
  intro same
  have dotless : '.' ∉ (Text.lower setting.name).toList := by
    cases setting <;> decide +kernel
  rw [same] at dotless
  simp at dotless

/-- A name of its own among those of the pairs that come later. -/
theorem key_not_later {name : String} {extent : Extent} {quote : Quote} {node : Node}
    {before after : List (Node × Node)} {entries : List (String × Value)}
    (makes : List.Forall₂ Makes
      (before ++ (.stringConstant extent name quote, node) :: after) entries)
    (distinct : Table.Distinct entries) (start : String) :
    start ++ Text.lower name ∉ (listedKeys start after).map Prod.fst := by
  have nodup := nodup_listedKeys start makes distinct
  rw [listedKeys, List.filterMap_append, List.filterMap_cons, List.map_append] at nodup
  obtain ⟨-, nodup, -⟩ := List.nodup_append.mp nodup
  exact (List.nodup_cons.mp nodup).1

/-- A listed name is that of a key or that of a rule. -/
theorem mem_listedNames {pairs : List (Node × Node)} {name : String}
    (member : name ∈ listedNames pairs) :
    name ∈ (listedKeys "" pairs).map Prod.fst ∨ ∃ rule, name = rulesKey ++ "." ++ rule := by
  obtain ⟨listed, found, rfl⟩ := List.mem_map.mp member
  obtain ⟨pair, within, member⟩ := List.mem_flatMap.mp found
  rcases List.mem_append.mp member with member | member
  · obtain ⟨same, constant⟩ := mem_listedKeys.mp member
    refine .inl (List.mem_map_of_mem (mem_listedKeys.mpr ⟨?_, constant⟩))
    exact List.mem_singleton.mp same ▸ within
  · obtain ⟨-, _, rule, _, -, named⟩ :=
      mem_listedKeys.mp ((listedRules_sublist pair).subset member)
    exact .inr ⟨_, named⟩

theorem listing_constant (extent : Extent) (name : String) (quote : Quote) (node : Node) :
    listing (.stringConstant extent name quote, node) =
      (Text.lower name, (.stringConstant extent name quote, node)) ::
        listedRules (.stringConstant extent name quote, node) := by
  simp [listing, listedKeys]

theorem lower_rules : Text.lower Setting.rules.name = rulesKey := by
  decide +kernel

section
variable {text : List Char} {file : String} {table : Node} {before after : List (Node × Node)}
  {extent : Extent} {name : String} {quote : Quote} {node : Node} {entries : List (String × Value)}

/-- The pairs that are listed can be told apart. -/
abbrev ToldApart (text : List Char) (file : String) (pairs : List (Node × Node)) : Prop :=
  (pairs.flatMap listing).Pairwise fun first second => Precedes text file first.2 second.2

theorem listedRules_unknown (unknown : Setting.ofKey? name = none) :
    listedRules (.stringConstant extent name quote, node) = [] := by
  have other : Text.lower name ≠ rulesKey := by
    intro same
    have missed := List.find?_eq_none.mp unknown .rules (by decide)
    rw [lower_rules, same] at missed
    exact missed (beq_self_eq_true _)
  exact if_neg other

theorem listedRules_known (known : Setting.ofKey? name = some .rules) :
    listedRules (.stringConstant extent name quote, node) =
      listedKeys (rulesKey ++ ".") (pairsOf (soleElement node)) :=
  if_pos ((Setting.lower_of_known known).trans lower_rules)

theorem keyExtent_iff (apart : ToldApart text file
      (before ++ (.stringConstant extent name quote, node) :: after))
    (same : pairsOf table = before ++ (.stringConstant extent name quote, node) :: after)
    (unknown : Setting.ofKey? name = none) :
    ((locate "" table).find? name).map Location.key = some extent ↔
      Text.lower name ∉ listedNames after := by
  rw [ToldApart, List.flatMap_append, List.flatMap_cons, listing_constant,
    listedRules_unknown unknown] at apart
  rw [find?_locate, same, List.flatMap_append, List.flatMap_cons, listing_constant,
    listedRules_unknown unknown, Option.map_map]
  exact (lastListed_iff (fun listed => listed.2.1.extent) (apart.imp Precedes.key_ne)).trans
    (and_iff_right rfl)

theorem valueExtent?_locate (name : String) (table : Node) :
    valueExtent? (locate "" table) name =
      (lastListed (Text.lower name) ((pairsOf table).flatMap listing)).map
        fun listed => listed.2.2.extent := by
  rw [valueExtent?, find?_locate, Option.map_map]
  rfl

/-- The value of a setting is always found. -/
theorem valueExtent?_setting (apart : ToldApart text file
      (before ++ (.stringConstant extent name quote, node) :: after))
    (same : pairsOf table = before ++ (.stringConstant extent name quote, node) :: after)
    (makes : List.Forall₂ Makes
      (before ++ (.stringConstant extent name quote, node) :: after) entries)
    (distinct : Table.Distinct entries) {setting : Setting}
    (known : Setting.ofKey? name = some setting) :
    valueExtent? (locate "" table) name = some node.extent := by
  have unlisted : ∀ rule, Text.lower name ≠ rulesKey ++ "." ++ rule := by
    rw [Setting.lower_of_known known]
    exact setting.lower_ne_rule
  rw [ToldApart, List.flatMap_append, List.flatMap_cons, listing_constant, List.cons_append]
    at apart
  rw [valueExtent?_locate, same, List.flatMap_append, List.flatMap_cons, listing_constant,
    List.cons_append]
  refine (lastListed_iff (fun listed => listed.2.2.extent) (apart.imp Precedes.value_ne)).mpr
    ⟨rfl, ?_⟩
  rw [List.map_append, List.mem_append]
  rintro (member | member)
  · obtain ⟨listed, member, named⟩ := List.mem_map.mp member
    obtain ⟨-, _, rule, _, -, rules⟩ :=
      mem_listedKeys.mp ((listedRules_sublist _).subset member)
    exact unlisted _ (named.symm.trans rules)
  · rcases mem_listedNames member with member | ⟨rule, named⟩
    · have absent := key_not_later makes distinct ""
      rw [String.empty_append] at absent
      exact absent member
    · exact unlisted rule named

theorem WrongRule.split {rules : List (Node × Node)} {rule : String} {value : Value}
    {arguments : Node} (wrong : WrongRule rules rule value arguments) :
    ∃ before range mark after, rules = before ++ (.stringConstant range rule mark, arguments) ::
      after := by
  induction wrong with
  | here given wrong => exact ⟨[], _, _, _, rfl⟩
  | @later pair _ _ _ _ _ given later ih =>
      obtain ⟨before, range, mark, after, rfl⟩ := ih
      exact ⟨pair :: before, range, mark, after, rfl⟩

theorem pairsOf_of_isTable {rules : List (Node × Node)} (table : IsTable rules node) :
    pairsOf (soleElement node) =
      if (soleElement node).kind = .hashtable then rules else [] := by
  cases table with
  | hashtable range => rfl
  | pipeline range table => cases table <;> rfl
  | parenthesized range table => rfl

variable {rules : List (Node × Node)} {rule : String} {value : Value} {arguments : Node}

/-- The arguments of a rule that is listed are found unless another name is listed later. -/
theorem argumentsExtent_iff (apart : ToldApart text file
      (before ++ (.stringConstant extent name quote, node) :: after))
    (same : pairsOf table = before ++ (.stringConstant extent name quote, node) :: after)
    (known : Setting.ofKey? name = some .rules) (listed : pairsOf (soleElement node) = rules)
    (wrong : WrongRule rules rule value arguments)
    (makes : List.Forall₂ Makes rules entries) (distinct : Table.Distinct entries) :
    valueExtent? (locate "" table) (rulesKey ++ "." ++ rule) = some arguments.extent ↔
      Text.lower (rulesKey ++ "." ++ rule) = rulesKey ++ "." ++ Text.lower rule ∧
        rulesKey ++ "." ++ Text.lower rule ∉ listedNames after := by
  obtain ⟨earlier, range, mark, later, rfl⟩ := wrong.split
  have own : listedKeys (rulesKey ++ ".")
      (earlier ++ (.stringConstant range rule mark, arguments) :: later) =
      listedKeys (rulesKey ++ ".") earlier ++ (rulesKey ++ "." ++ Text.lower rule,
        (.stringConstant range rule mark, arguments)) :: listedKeys (rulesKey ++ ".") later := by
    simp [listedKeys]
  have split : (before ++ (Node.stringConstant extent name quote, node) :: after).flatMap listing =
      (before.flatMap listing ++ (Text.lower name, (.stringConstant extent name quote, node)) ::
        listedKeys (rulesKey ++ ".") earlier) ++ (rulesKey ++ "." ++ Text.lower rule,
          (.stringConstant range rule mark, arguments)) ::
        (listedKeys (rulesKey ++ ".") later ++ after.flatMap listing) := by
    rw [List.flatMap_append, List.flatMap_cons, listing_constant, listedRules_known known, listed,
      own]
    simp
  rw [ToldApart, split] at apart
  rw [valueExtent?_locate, same, split]
  refine (lastListed_iff (fun listed => listed.2.2.extent) (apart.imp Precedes.value_ne)).trans ?_
  have absent := key_not_later makes distinct (rulesKey ++ ".")
  rw [List.map_append, List.mem_append, eq_comm]
  refine and_congr_right fun uniform => ?_
  rw [uniform]
  exact not_congr (or_iff_right absent)

/-- The arguments of a rule that is not listed are not found. -/
theorem argumentsExtent_ne {start stop : Nat}
    (spans : SpansPairs text file start stop
      (before ++ (.stringConstant extent name quote, node) :: after))
    (same : pairsOf table = before ++ (.stringConstant extent name quote, node) :: after)
    (known : Setting.ofKey? name = some .rules) (unlisted : pairsOf (soleElement node) = [])
    (isTable : IsTable rules node) (wrong : WrongRule rules rule value arguments)
    (asked : String) : valueExtent? (locate "" table) asked ≠ some arguments.extent := by
  obtain ⟨earlier, range, mark, later, rfl⟩ := wrong.split
  obtain ⟨middle, front, rest⟩ := spans.split
  obtain ⟨first, next, begin, stop', lower, filled, gap, filled', key, value, back⟩ := rest.cons
  obtain ⟨low, high, above, below, parts⟩ := spansPairs_of_isTable isTable value
  obtain ⟨_, place, -, begins, _, _, _⟩ := parts.liesIn
    (.stringConstant range rule mark, arguments) (by simp)
  rw [valueExtent?_locate, same, List.flatMap_append, List.flatMap_cons, listing_constant,
    listedRules_known known, unlisted]
  intro found
  obtain ⟨listed, last, equal⟩ := Option.map_eq_some_iff.mp found
  have elsewhere : ∀ {offset}, BeginsAt text file listed.2.2 offset → offset = place :=
    fun other => other.unique begins equal
  rcases List.mem_append.mp (lastListed_mem last).1 with member | member
  · obtain ⟨_, offset, -, other, _, _, _⟩ := front.listings.1 listed member
    have := elsewhere other
    omega
  · rcases List.mem_cons.mp member with rfl | member
    · have := elsewhere ⟨_, value⟩
      omega
    · obtain ⟨_, offset, -, other, _, _, _⟩ := back.listings.1 listed member
      have := elsewhere other
      omega

theorem literal_of_value {node : Node} {value : Value}
    (given : nodeValue true node = .ok value) : value.IsLiteral := by
  have literal := nodeValue_ends true node
  rw [given] at literal
  exact literal

/-- The location that is asked for is that of the node to blame just when it is traced. -/
theorem askedExtent_iff {start stop : Nat} {pairs : List (Node × Node)} {pair : Node × Node}
    {cause : Fault.Cause} (spans : SpansPairs text file start stop pairs)
    (same : pairsOf table = pairs) (makes : List.Forall₂ Makes pairs entries)
    (literal : Value.IsLiteral (.table entries))
    (blamed : IsFirstOffence pairs before pair after cause node) :
    askedExtent (locate "" table) cause = some node.extent ↔ Traced pair after cause := by
  obtain ⟨rfl, -, offends⟩ := blamed
  have apart := spans.listings.2
  have distinct : Table.Distinct entries := literal.distinct
  cases offends with
  | unknown unknown => exact keyExtent_iff apart same unknown
  | notTexts known | notTruth known | notTable known =>
      exact iff_of_true (valueExtent?_setting apart same makes distinct known) trivial
  | notArguments known isTable wrong =>
      have rules := pairsOf_of_isTable isTable
      split at rules
      · next listed =>
          obtain ⟨entry, -, _, _, _, given⟩ := forall₂_right_of_mem makes
            (List.mem_append_right before List.mem_cons_self)
          obtain ⟨inner, table, ruleMakes⟩ := makes_of_isTable isTable given
          rw [table] at given
          exact (argumentsExtent_iff apart same known rules wrong ruleMakes
            (literal_of_value given).distinct).trans (and_iff_right listed).symm
      · next unlisted =>
          exact iff_of_false (argumentsExtent_ne spans same known rules isTable wrong _)
            fun traced => unlisted traced.1

section
variable {start stop : Nat} {pairs : List (Node × Node)} {pair : Node × Node}
  {cause : Fault.Cause}

theorem Offends.begins (offends : Offends pair cause node)
    (spans : SpansPairs text file start stop pairs) (member : pair ∈ pairs) :
    ∃ offset, BeginsAt text file node offset := by
  obtain ⟨before, after, rfl⟩ := List.append_of_mem member
  obtain ⟨middle, -, rest⟩ := spans.split
  obtain ⟨_, _, _, _, -, -, -, -, key, value, -⟩ := rest.cons
  cases offends with
  | unknown => exact ⟨_, _, key⟩
  | notTexts | notTruth | notTable => exact ⟨_, _, value⟩
  | notArguments known isTable wrong =>
      obtain ⟨earlier, range, mark, later, rfl⟩ := wrong.split
      obtain ⟨_, _, -, -, parts⟩ := spansPairs_of_isTable isTable value
      obtain ⟨_, offset, -, begins, -⟩ :=
        parts.liesIn _ (List.mem_append_right earlier List.mem_cons_self)
      exact ⟨offset, begins⟩

theorem find?_locate_begins (spans : SpansPairs text file start stop (pairsOf table))
    {name : String} {location : Location}
    (found : (locate "" table).find? name = some location) :
    ∃ key value, location = ⟨key.extent, value.extent⟩ ∧
      (∃ offset, BeginsAt text file key offset) ∧ ∃ offset, BeginsAt text file value offset := by
  rw [find?_locate, Option.map_eq_some_iff] at found
  obtain ⟨listed, last, rfl⟩ := found
  obtain ⟨offset, later, begins, begins', -⟩ := spans.listings.1 listed (lastListed_mem last).1
  exact ⟨_, _, rfl, ⟨offset, begins⟩, later, begins'⟩

theorem askedExtent_file (spans : SpansPairs text file start stop (pairsOf table))
    {asked : Extent} (found : askedExtent (locate "" table) cause = some asked) :
    asked.file = file := by
  have value : ∀ name, valueExtent? (locate "" table) name = some asked → asked.file = file := by
    intro name found
    obtain ⟨location, looked, rfl⟩ := Option.map_eq_some_iff.mp found
    obtain ⟨key, value, rfl, -, offset, begins⟩ := find?_locate_begins spans looked
    exact begins.labelled
  cases cause with
  | unknownSetting name valid =>
      obtain ⟨location, looked, rfl⟩ := Option.map_eq_some_iff.mp found
      obtain ⟨key, value, rfl, ⟨offset, begins⟩, -⟩ := find?_locate_begins spans looked
      exact begins.labelled
  | notTexts name | typeMismatch name | rulesNotTable name | argumentsNotTable rule =>
      exact value _ found
  | _ => cases found

end

/-- A fault with a place in its file keeps the place; one with none has only the file. -/
theorem withFile_extent_iff {cause : Fault.Cause} {asked : Option Extent} {offset : Nat}
    (labelled : ∀ extent, asked = some extent → extent.file = file)
    (begins : BeginsAt text file node offset) :
    (Fault.withFile ⟨cause, asked⟩ file).file = file ∧
      ((Fault.withFile ⟨cause, asked⟩ file).extent = some node.extent ↔
        asked = some node.extent) := by
  cases asked with
  | none =>
      refine ⟨rfl, iff_of_false (fun same => ?_) nofun⟩
      have line : 1 ≤ node.extent.start.line := begins.line_pos
      have nowhere : ((Extent.withFile {} file).start.line : Int) = 0 := by
        rw [Extent.withFile, if_pos rfl]
      have same : Extent.withFile {} file = node.extent := Option.some.inj same
      rw [← same, nowhere] at line
      exact absurd line (by decide)
  | some extent =>
      have same : extent.withFile file = extent := by
        rw [← labelled extent rfl, Extent.withFile]
        split <;> rfl
      have kept : (Fault.withFile ⟨cause, some extent⟩ file).extent = some extent :=
        congrArg some same
      rw [Fault.file, kept]
      exact ⟨labelled extent rfl, Iff.rfl⟩

end

section
variable {tree : Files.FileTree} {given value : Value} {workingFolder path : String} {mode : Mode}
  {result : ParseResult} {table : Node} {problem : Problem}

theorem loadTable_parsed (parsed : parseFile tree path = .ok result) (clean : result.issues = [])
    (first : result.tree.firstHashtable = some table)
    (evaluated : evaluate true table = .ok value) :
    ∃ entries, loadTable tree path = .ok (entries, locate "" table) ∧
      Value.IsLiteral (.table entries) ∧ List.Forall₂ Makes (pairsOf table) entries := by
  obtain ⟨-, kind⟩ := Node.mem_walk_of_firstHashtable first
  cases table with
  | hashtable extent pairs =>
      obtain ⟨entries, made, same⟩ := map_eq_ok evaluated
      refine ⟨entries, loadTable_of_parsed parsed clean first made,
        same ▸ literal_of_value evaluated, ?_⟩
      obtain ⟨later, rfl, makes⟩ := pairEntries_makes made
      exact makes
  | _ => cases kind

theorem spansPairs_of_parseFile (parsed : parseFile tree path = .ok result)
    (clean : result.issues = []) (first : result.tree.firstHashtable = some table) :
    ∃ text start stop, SpansPairs text path start stop (pairsOf table) := by
  obtain ⟨content, text, -, parsed⟩ := exists_read_of_parseFile parsed
  obtain ⟨visited, -⟩ := Node.mem_walk_of_firstHashtable first
  obtain ⟨start, stop, -, -, spans⟩ := (parseText_parsed parsed clean).spans.of_mem_walk visited
  exact ⟨text.toList, start, stop, spansPairs_pairsOf spans⟩

/-- The problem of the file is that of the first pair that offends. -/
theorem resolveFile_error {entries : List (String × Value)}
    (loaded : loadTable tree path = .ok (entries, locate "" table))
    (literal : Value.IsLiteral (.table entries))
    (makes : List.Forall₂ Makes (pairsOf table) entries)
    (rejected : resolveFile tree mode path = .error problem) :
    ∃ before pair after cause node,
      IsFirstOffence (pairsOf table) before pair after cause node ∧
      problem = (offence (locate "" table) cause).inFile path := by
  rw [resolveFile, loaded] at rejected
  obtain ⟨stopped, stops, rfl⟩ := mapError_eq_error rejected
  have stops : build mode (some path) (locate "" table) (textPairs entries) = .error stopped :=
    stops
  rcases bind_eq_error stops with failed | ⟨draft, _, failed⟩
  · obtain ⟨before, pair, after, cause, node, blamed, rfl⟩ :=
      exists_first_offence (locate "" table) _ makes (fun _ => literal.entry) failed
    exact ⟨before, pair, after, cause, node, blamed, rfl⟩
  · cases failed

/-- A settings file whose table makes no configuration is rejected for the first pair that offends.
The fault names the file, and it points at the node to blame just when the location of this node
is traced; but there is no fault when its message would have to show an integer that is too
long. -/
theorem resolve_blames (chosen : Chosen tree given workingFolder mode path)
    (parsed : parseFile tree path = .ok result) (clean : result.issues = [])
    (first : result.tree.firstHashtable = some table)
    (evaluated : evaluate true table = .ok value)
    (rejected : resolve tree given workingFolder = .error problem) :
    ∃ before pair after cause node,
      IsFirstOffence (pairsOf table) before pair after cause node ∧
      (problem = .integerNotShown ∧ cause.isShown = false ∨
        ∃ fault, problem = .fault fault ∧ fault.cause = cause ∧ fault.file = path ∧
          (fault.extent = some node.extent ↔ Traced pair after cause)) := by
  obtain ⟨entries, loaded, literal, makes⟩ := loadTable_parsed parsed clean first evaluated
  obtain ⟨text, start, stop, spans⟩ := spansPairs_of_parseFile parsed clean first
  rw [resolve_chosen chosen] at rejected
  obtain ⟨before, pair, after, cause, node, blamed, rfl⟩ :=
    resolveFile_error loaded literal makes rejected
  refine ⟨before, pair, after, cause, node, blamed, ?_⟩
  rw [offence, Problem.ofFault]
  split
  · obtain ⟨offset, begins⟩ := blamed.offends.begins spans (by simp [blamed.split])
    obtain ⟨labelled, points⟩ :=
      withFile_extent_iff (fun extent => askedExtent_file spans) begins
    exact .inr ⟨_, rfl, rfl, labelled,
      points.trans (askedExtent_iff spans rfl makes literal blamed)⟩
  · next hidden => exact .inl ⟨rfl, Bool.eq_false_iff.mpr hidden⟩

end

/-- A settings file with the rules in parentheses. -/
def parenthesizedRules : Files.FileTree :=
  workTree "s.psd1" "@\x7bRules=(@\x7bFoo=1\x7d)\x7d".toList

/-- The first table of the file has a value, and no hashtable stands right behind a key. -/
def listsNothing : Except Problem ParseResult → Bool
  | .ok result => result.issues.isEmpty && (match result.tree.firstHashtable with
      | some table => (evaluate true table matches .ok _) &&
          (pairsOf table).all fun pair => (soleElement pair.2).kind != .hashtable
      | none => false)
  | .error _ => false

def missesTable : Except Problem Configuration → Bool
  | .error (.fault ⟨.argumentsNotTable _ _, _⟩) => true
  | _ => false

/-- The arguments of the rule are to blame, and the fault does not point at them. -/
theorem resolve_misses_arguments : ∃ result table pair node fault,
    parseFile parenthesizedRules (pathInFull parenthesizedRules "s.psd1") = .ok result ∧
    result.tree.firstHashtable = some table ∧ pair ∈ pairsOf table ∧
    Offends pair fault.cause node ∧
    resolve parenthesizedRules (.text "s.psd1") "" = .error (.fault fault) ∧
    fault.extent ≠ some node.extent := by
  obtain ⟨-, plain⟩ := fileName_plain
  have chosen : Chosen parenthesizedRules (.text "s.psd1") "" .file
      (pathInFull parenthesizedRules "s.psd1") :=
    .file (originOf_plain (.inl rfl) plain "") (resolvePath_eq plain)
  have ran : listsNothing
      (parseFile parenthesizedRules (pathInFull parenthesizedRules "s.psd1")) := by
    decide +kernel
  have stopped : missesTable (resolve parenthesizedRules (.text "s.psd1") "") := by
    decide +kernel
  unfold listsNothing at ran
  unfold missesTable at stopped
  split at ran
  · next result parsed =>
      rw [Bool.and_eq_true] at ran
      obtain ⟨clean, ran⟩ := ran
      split at ran
      · next table first =>
          rw [Bool.and_eq_true, List.all_eq_true] at ran
          obtain ⟨evaluates, unlisted⟩ := ran
          split at evaluates
          · next value evaluated =>
              split at stopped
              · next rule given extent rejected =>
                  obtain ⟨before, pair, after, cause, node, ⟨split, -, offends⟩, found⟩ :=
                    resolve_blames chosen parsed (List.isEmpty_iff.mp clean) first evaluated
                      rejected
                  have member : pair ∈ pairsOf table := by simp [split]
                  rcases found with ⟨none, -⟩ | ⟨fault, same, rfl, -, points⟩
                  · cases none
                  · cases same
                    refine ⟨result, table, pair, node, _, parsed, first, member, offends, rejected,
                      fun same => ?_⟩
                    have traced := (points.mp same).1
                    simpa [traced] using unlisted pair member
              · cases stopped
          · cases evaluates
      · cases ran
  · cases ran

end ScriptAudit.Settings
