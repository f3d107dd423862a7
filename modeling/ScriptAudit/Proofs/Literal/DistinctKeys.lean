import ScriptAudit.Proofs.Literal.Acceptance
import ScriptAudit.Proofs.Literal.RoundTrip
import ScriptAudit.Proofs.Literal.Values
import ScriptAudit.Proofs.Syntax.File

namespace ScriptAudit.Literal

/-! Keys that come twice in a table.

The parser reports each of them.  A text without syntax errors has none, so evaluation does not meet
one either, and the entries that it makes of a table have distinct keys. -/

open Syntax

/-- The fault that a key of a table was evaluated before. -/
def IsKeyFault (fault : Fault) : Prop :=
  ∃ kind name, fault.cause = .repeatedKey kind name

theorem Place.fault_not_key (place : Place) : ¬ IsKeyFault place.fault := by
  rintro ⟨kind, name, same⟩
  obtain ⟨role, node⟩ := place
  cases role <;> cases same

/-- The only statement of a script block is one of its nodes, as the block itself is. -/
theorem soleStatement_mem_walk (node : Node) : soleStatement node ∈ node.walk true := by
  unfold soleStatement
  split
  · exact Node.mem_walk.mpr (.inr ⟨_, List.mem_singleton_self _, List.mem_cons_self⟩)
  · exact List.mem_cons_self

variable {text file : String} {tree node : Node}

theorem Parsed.nodeValue_keyed (parsed : Parsed text file tree) (member : node ∈ tree.walk true)
    (wrap : Bool) : Ends (fun _ => True) (¬ IsKeyFault ·) (nodeValue wrap node) := by
  obtain ⟨start, stop, -, -, spans⟩ := parsed.spans.of_mem_walk member
  have blamed : faultOf? (nodeValue wrap node) = _ :=
    nodeValue_fault node spans (Node.unrepeated_of_mem_walk parsed.unrepeated member)
  cases outcome : nodeValue wrap node with
  | ok value => trivial
  | error fault =>
      rw [outcome] at blamed
      obtain ⟨place, -, same⟩ := Option.map_eq_some_iff.mp blamed.symm
      exact same ▸ place.fault_not_key

/-- The entries of a table have distinct keys, so they make a table as they are. -/
theorem ofPairs_pairEntries {wrap : Bool} {pairs : List (Node × Node)}
    {entries : List (String × Value)} (evaluated : pairEntries wrap [] pairs = .ok entries) :
    Table.ofPairs (Value.table entries).pairs = .ok entries := by
  have ends := pairEntries_ends wrap pairs Table.distinct_nil (List.forall_mem_nil _)
  rw [evaluated] at ends
  cases ends with
  | table distinct all => exact Table.ofPairs_texts distinct

/-- The issue that a key is repeated, at the key. -/
def repeatIssue (key : Node) : Issue :=
  ⟨.duplicateKey key.extent.text, key.extent⟩

/-- What parsing gives for a text that the grammar reads to its end. -/
theorem parseText_whole {cursor : Cursor}
    (read : Grammar.script (originOf (.ofText text.toList) file) ⟨text.toList, []⟩ =
      some (tree, cursor)) (ended : cursor.rest = []) :
    ((∃ result, parseText text file = .ok result) ↔ Fitting cursor.tokens ∧ tree.ShowsKeys) ∧
    ∀ result, parseText text file = .ok result →
      result.issues = tree.allRepeatedKeys.map repeatIssue ∧
        (result.issues = [] → result.tree = tree) := by
  have fits : overlongInteger? cursor.tokens.reverse = none ↔ Fitting cursor.tokens := by
    simp [overlongInteger?_eq_none, Fitting]
  simp only [parseText, read, ended, ne_eq, not_true_eq_false, if_false]
  cases long : overlongInteger? cursor.tokens.reverse with
  | some found => simp [← fits, long]
  | none =>
      cases hidden : tree.findFirst true Node.hidesKey with
      | some table => simp [← Node.findFirst_hidesKey, hidden]
      | none =>
          have good := And.intro (fits.mp long) (Node.findFirst_hidesKey.mp hidden)
          dsimp only
          split
          · next none =>
              have unrepeated : tree.duplicateKeyIssues = [] := by simpa using none
              refine ⟨iff_of_true ⟨_, rfl⟩ good, ?_⟩
              rintro _ ⟨rfl⟩
              exact ⟨unrepeated.symm, fun _ => rfl⟩
          · next some =>
              refine ⟨iff_of_true ⟨_, rfl⟩ good, ?_⟩
              rintro _ ⟨rfl⟩
              exact ⟨rfl, fun none => absurd (by simpa using none) some⟩

/-- A text that the grammar reads to its end has a result unless a number in it has too many digits,
which is a failure of the parser.  With a result there is one issue for each key with an earlier one
of the same form in its table, at that key, and no other.  When there are none, evaluation of a node
of the tree never ends because of a key that was there before, and the entries of its tables make
tables. -/
theorem parseText_reports_repeats (text file : String) :
    (∀ tree cursor,
      Grammar.script (originOf (.ofText text.toList) file) ⟨text.toList, []⟩ =
        some (tree, cursor) → cursor.rest = [] →
      ((∃ result, parseText text file = .ok result) ↔ Fitting cursor.tokens ∧ tree.ShowsKeys) ∧
      (∀ fault, parseText text file = .error fault → fault.kind = .parserFailure) ∧
      ∀ result, parseText text file = .ok result →
        result.issues.Perm (((tree.walk true).flatMap Node.repeats).map repeatIssue) ∧
        (result.issues = [] ↔ ∀ node ∈ tree.walk true, node.repeats = [])) ∧
    ∀ result, parseText text file = .ok result → result.issues = [] →
      ∀ node ∈ result.tree.walk true, ∀ wrap,
        (∀ fault, evaluate wrap node = .error fault → ¬ IsKeyFault fault) ∧
        ∀ extent pairs, node = .hashtable extent pairs →
          (∀ fault, pairEntries wrap [] pairs = .error fault → ¬ IsKeyFault fault) ∧
          ∀ entries, pairEntries wrap [] pairs = .ok entries →
            Table.ofPairs (Value.table entries).pairs = .ok entries := by
  refine ⟨fun tree cursor read ended => ?_, fun result parsed clean node member wrap => ?_⟩
  · obtain ⟨accepted, reported⟩ := parseText_whole read ended
    refine ⟨accepted, fun fault failed => ?_, fun result parsed => ?_⟩
    · have ends := parseText_ends text file
      rwa [failed] at ends
    have met : result.issues.Perm (((tree.walk true).flatMap Node.repeats).map repeatIssue) :=
      (reported result parsed).1 ▸ tree.allRepeatedKeys_perm.map repeatIssue
    refine ⟨met, ?_⟩
    rw [← List.flatMap_eq_nil_iff, ← List.map_eq_nil_iff (f := repeatIssue)]
    exact ⟨fun none => (none ▸ met).nil_eq.symm, fun none => (none ▸ met).eq_nil⟩
  · have keyed {inner : Node} (inside : inner ∈ result.tree.walk true) :=
      Parsed.nodeValue_keyed (parseText_parsed parsed clean) inside wrap
    refine ⟨fun fault raised => ?_, ?_⟩
    · have sole := keyed (Node.mem_walk_trans (soleStatement_mem_walk node) member)
      rw [evaluate] at raised
      rwa [raised] at sole
    · rintro extent pairs rfl
      have table := keyed member
      refine ⟨fun fault raised => ?_, fun entries evaluated => ofPairs_pairEntries evaluated⟩
      rwa [nodeValue, raised] at table

example : (match parseText "@\x7ba=@\x7bb=1;'B'=2\x7d;0x1=1;1=2;\"A\"=3\x7d" "" with
    | .ok result => result.issues.map (·.extent.text)
    | .error _ => []) = ["'B'", "1", "\"A\""] := by decide +kernel

/-- A text without repeated keys that is read to its end and has no result. -/
theorem repeats_not_reported_overlong :
    (∃ tree cursor, Grammar.script
        (originOf (.ofText (numeralTable "a" ('1' :: List.replicate 4300 '0'))) "")
        ⟨numeralTable "a" ('1' :: List.replicate 4300 '0'), []⟩ = some (tree, cursor) ∧
      cursor.rest = []) ∧
    ¬ ∃ result, parseText
      (String.ofList (numeralTable "a" ('1' :: List.replicate 4300 '0'))) "" = .ok result := by
  obtain ⟨written, long⟩ := overlong_digits
  obtain ⟨tree, tokens, read, -⟩ := script_reads_numeralTable written "a" "" [] fitting_nil
  refine ⟨⟨tree, ⟨[], tokens⟩, read, rfl⟩, ?_⟩
  rintro ⟨result, parsed⟩
  cases parsed.symm.trans (parseText_overlong_entry written long "a" "")

end ScriptAudit.Literal
