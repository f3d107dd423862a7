import ScriptAudit.Proofs.Literal.Values
import ScriptAudit.Proofs.Syntax.Parsed
import ScriptAudit.Proofs.Syntax.Preorder
import ScriptAudit.Proofs.Value.Table

namespace ScriptAudit.Literal

/-! What the evaluator accepts, and what it blames.

The nodes of a tree are listed in document order together with what each of them stands for.  A
tree has a value exactly when all of its nodes are literal where they stand, and otherwise the fault
is that of the first one that is not. -/

open Syntax

inductive Role where
  | root
  | key
  | value
deriving DecidableEq

structure Place where
  role : Role
  node : Node

namespace Place

/-- The parts of a node: those of a hashtable are its keys and their values. -/
def parts (place : Place) : List Place :=
  match place.node with
  | .hashtable _ pairs => pairs.flatMap fun pair => [⟨.key, pair.1⟩, ⟨.value, pair.2⟩]
  | node => node.children.map (⟨.value, ·⟩)

theorem parts_nodes (place : Place) : place.parts.map node = place.node.children := by
  unfold parts
  split
  · next pairs same => simp [same, Node.children, List.map_flatMap]
  · rw [List.map_map]
    exact List.map_id _

/-- Whether the node may stand where it does, its parts left out. -/
def isLiteral (place : Place) : Bool :=
  match place.role, place.node with
  | .root, .scriptBlock _ statements => statements.length == 1
  | .key, .stringConstant .. => true
  | .value, .pipeline _ elements => elements.length == 1
  | .value, .hashtable .. | .value, .arrayLiteral .. | .value, .arrayExpression ..
  | .value, .parenthesized .. | .value, .stringConstant .. | .value, .number .. => true
  | .value, .variableReference _ name => (constantVariable? name).isSome
  | _, _ => false

/-- The fault that a node has which is not literal where it stands. -/
def fault (place : Place) : Fault :=
  match place.role with
  | .key => ⟨.keyNotConstant place.node.kind place.node.extent.text, some place.node.extent⟩
  | _ => notLiteral place.node

/-- Lists the waiting places, each before its parts and its parts before the places after it. -/
def listing : (waiting : List Place) → List Place
  | [] => []
  | place :: rest => place :: listing (place.parts ++ rest)
termination_by waiting => countAll (waiting.map node)
decreasing_by
  simp only [List.map_append, List.map_cons, countAll_append, countAll, parts_nodes]
  rw [place.node.count_eq]
  omega

theorem listing_nodes (waiting : List Place) :
    (listing waiting).map node = visit true (waiting.map node) := by
  fun_induction listing waiting with
  | case1 => simp [visit]
  | case2 place rest ih =>
      rw [List.map_append, parts_nodes] at ih
      rw [List.map_cons, List.map_cons, visit, ih]
      rfl

theorem listing_append (first second : List Place) :
    listing (first ++ second) = listing first ++ listing second := by
  fun_induction listing first with
  | case1 => rfl
  | case2 place rest ih =>
      rw [List.append_assoc] at ih
      rw [List.cons_append, listing, ih, List.cons_append]

def firstFault (waiting : List Place) : Option Fault :=
  ((listing waiting).find? (!·.isLiteral)).map fault

theorem firstFault_nil : firstFault [] = none := by
  simp [firstFault, listing]

theorem firstFault_append (first second : List Place) :
    firstFault (first ++ second) = (firstFault first).or (firstFault second) := by
  unfold firstFault
  rw [listing_append, List.find?_append]
  cases (listing first).find? (!·.isLiteral) <;> rfl

theorem firstFault_cons (place : Place) (rest : List Place) :
    firstFault (place :: rest) = (firstFault [place]).or (firstFault rest) :=
  firstFault_append [place] rest

theorem firstFault_single (place : Place) :
    firstFault [place] = if place.isLiteral then firstFault place.parts else some place.fault := by
  unfold firstFault
  rw [listing, List.append_nil]
  cases literal : place.isLiteral <;> simp [literal]

theorem firstFault_key (extent : Source.Extent) (name : String) (quote : Quote) :
    firstFault [⟨.key, .stringConstant extent name quote⟩] = none := by
  rw [firstFault_single]
  exact firstFault_nil

end Place

def documentOrder (tree : Node) : List Place :=
  Place.listing [⟨.root, tree⟩]

theorem documentOrder_nodes (tree : Node) :
    (documentOrder tree).map Place.node = tree.walk true := by
  rw [documentOrder, Place.listing_nodes, Node.walk_eq_visit]
  rfl

def faultOf? {α : Type} : Except Fault α → Option Fault
  | .ok _ => none
  | .error fault => some fault

section
variable {α β : Type}

theorem faultOf?_map (f : α → β) (outcome : Except Fault α) :
    faultOf? (f <$> outcome) = faultOf? outcome := by
  cases outcome <;> rfl

theorem faultOf?_bind {outcome : Except Fault α} {next : α → Except Fault β} {later : Option Fault}
    (follows : ∀ value, faultOf? (next value) = later) :
    faultOf? (outcome >>= next) = (faultOf? outcome).or later := by
  cases outcome with
  | error fault => rfl
  | ok value => exact follows value

end

/-- Evaluating the node as a value fails where its listing does first. -/
def Blames (origin : Origin) (wrap : Bool) (node : Node) : Prop :=
  ∀ ⦃start stop : Nat⦄, node.Spans origin start stop → node.allRepeatedKeys = [] →
    faultOf? (nodeValue wrap node) = Place.firstFault [⟨.value, node⟩]

variable {origin : Origin} {wrap : Bool} {start stop : Nat}

theorem nodeValues_fault {nodes : List Node} (blames : ∀ node ∈ nodes, Blames origin wrap node)
    (spans : SpansAll origin start stop nodes) (unrepeated : repeatedInAll nodes = []) :
    faultOf? (nodeValues wrap nodes) = Place.firstFault (nodes.map (⟨.value, ·⟩)) := by
  induction nodes generalizing start with
  | nil => exact Place.firstFault_nil.symm
  | cons node rest ih =>
      rw [repeatedInAll, List.append_eq_nil_iff] at unrepeated
      obtain ⟨blamesFirst, blamesRest⟩ := List.forall_mem_cons.mp blames
      cases spans with
      | cons gap filled head tail =>
          rw [nodeValues, List.map_cons, Place.firstFault_cons, ← blamesFirst head unrepeated.1,
            ← ih blamesRest tail unrepeated.2]
          refine faultOf?_bind fun value => ?_
          exact faultOf?_map (value :: ·) (nodeValues wrap rest)

/-- The keys made so far are among those seen, so a key that is not repeated is new. -/
theorem pairEntries_fault {pairs : List (Node × Node)}
    (blames : ∀ pair ∈ pairs, Blames origin wrap pair.2)
    (spans : SpansAll origin start stop (pairs.flatMap fun pair => [pair.1, pair.2]))
    (unrepeated : repeatedInPairs pairs = []) {seen : List String}
    (fresh : repeatedKeys seen pairs = []) {made : List (String × Value)}
    (known : ∀ entry ∈ made, Text.lower entry.1 ∈ seen) :
    faultOf? (pairEntries wrap made pairs) =
      Place.firstFault (pairs.flatMap fun pair => [⟨.key, pair.1⟩, ⟨.value, pair.2⟩]) := by
  induction pairs generalizing start seen made with
  | nil => exact Place.firstFault_nil.symm
  | cons pair rest ih =>
      obtain ⟨key, value⟩ := pair
      obtain ⟨blamesFirst, blamesRest⟩ := List.forall_mem_cons.mp blames
      simp only [repeatedInPairs, List.append_eq_nil_iff] at unrepeated
      obtain ⟨⟨-, unrepeatedValue⟩, unrepeatedRest⟩ := unrepeated
      rw [List.flatMap_cons, Place.firstFault_append, Place.firstFault_cons]
      cases spans with
      | cons _ _ _ spans =>
          cases spans with
          | cons _ _ spans tail =>
              cases key with
              | stringConstant extent name quote =>
                  have first : Text.lower name ∉ seen := by
                    intro member
                    simp [repeatedKeys, keyForm, member] at fresh
                  have later : repeatedKeys (Text.lower name :: seen) rest = [] := by
                    simpa [repeatedKeys, keyForm, first] using fresh
                  rw [pairEntries, Table.not_contains_of_new known first, if_neg Bool.false_ne_true]
                  rw [← blamesFirst spans unrepeatedValue, Place.firstFault_key, Option.none_or]
                  refine faultOf?_bind fun found => ?_
                  refine ih blamesRest tail unrepeatedRest later fun entry member => ?_
                  rcases List.mem_append.mp member with member | member
                  · exact List.mem_cons_of_mem _ (known entry member)
                  · rw [List.mem_singleton.mp member]
                    exact List.mem_cons_self
              | _ =>
                  rw [Place.firstFault_single]
                  rfl

theorem nodeValue_fault (node : Node) : Blames origin wrap node := by
  intro start stop spans unrepeated
  -- By the size of the node, which reaches the keys and values of a table as well.
  have below : ∀ child ∈ node.children, Blames origin wrap child := fun child member =>
    have smaller := Node.count_lt_of_child member
    nodeValue_fault child
  have parts := spans.parts
  rw [Place.firstFault_single]
  cases node with
  | pipeline extent elements =>
      match elements, below, parts, unrepeated with
      | [], _, _, _ => rfl
      | [element], below, .cons _ _ spans _, unrepeated =>
          rw [Node.allRepeatedKeys, repeatedInAll, List.append_eq_nil_iff] at unrepeated
          exact below element List.mem_cons_self spans unrepeated.1
      | _ :: _ :: _, _, _, _ => rfl
  | hashtable extent pairs =>
      rw [Node.allRepeatedKeys, List.append_eq_nil_iff] at unrepeated
      rw [nodeValue, faultOf?_map]
      refine pairEntries_fault (fun pair member => below pair.2 ?_) parts unrepeated.1 unrepeated.2
        (by simp)
      exact List.mem_flatMap.mpr ⟨pair, member, by simp⟩
  | arrayLiteral extent elements =>
      rw [nodeValue, faultOf?_map]
      exact nodeValues_fault below parts unrepeated
  | arrayExpression extent statements =>
      rw [nodeValue, spreadValues_eq, faultOf?_map, faultOf?_map]
      exact nodeValues_fault below parts unrepeated
  | parenthesized extent pipeline =>
      match pipeline, below, parts, unrepeated with
      | none, _, _, _ => cases spans.complete
      | some inner, below, .cons _ _ spans _, unrepeated =>
          rw [nodeValue, faultOf?_map]
          exact below inner List.mem_cons_self spans unrepeated
  | variableReference extent name =>
      rw [nodeValue]
      cases constant : constantVariable? name <;>
        simp [Place.isLiteral, constant, Place.parts, Node.children, Place.firstFault_nil, faultOf?,
          Place.fault]
  | stringConstant extent value quote => exact Place.firstFault_nil.symm
  | number extent value => exact Place.firstFault_nil.symm
  | _ => rfl
termination_by node.count

theorem evaluate_fault {text file : String} {tree : Node} (parsed : Parsed text file tree) :
    faultOf? (evaluate wrap tree) = Place.firstFault [⟨.root, tree⟩] := by
  rw [Place.firstFault_single]
  have parts := parsed.spans.parts
  have unrepeated := parsed.unrepeated
  obtain ⟨extent, statements, rfl⟩ := parsed.block
  match statements, parts, unrepeated with
  | [], _, _ => rfl
  | [statement], .cons _ _ spans _, unrepeated =>
      rw [Node.allRepeatedKeys, repeatedInAll, List.append_eq_nil_iff] at unrepeated
      exact nodeValue_fault statement spans unrepeated.1
  | _ :: _ :: _, _, _ => rfl

theorem Place.fault_blames (place : Place) :
    place.fault.kind = .unsupportedLiteral ∧ place.fault.extent = some place.node.extent ∧
      place.fault.cause.label = place.node.kind.label := by
  obtain ⟨role, node⟩ := place
  cases role <;> exact ⟨rfl, rfl, rfl⟩

/-- A text without syntax errors has a value exactly when all of its nodes are literal where they
stand; otherwise the fault is that of the first one that is not.  Neither depends on `wrap`. -/
theorem evaluate_accepts_literals {text file : String} {result : ParseResult}
    (parsed : parseText text file = .ok result) (clean : result.issues = []) :
    (documentOrder result.tree).map Place.node = result.tree.walk true ∧
    (∀ wrap, (∃ value, evaluate wrap result.tree = .ok value) ↔
      ∀ place ∈ documentOrder result.tree, place.isLiteral) ∧
    ∀ place, (documentOrder result.tree).find? (!·.isLiteral) = some place →
      ∃ fault, (∀ wrap, evaluate wrap result.tree = .error fault) ∧
        fault.kind = .unsupportedLiteral ∧ fault.extent = some place.node.extent ∧
        fault.cause.label = place.node.kind.label := by
  have whole : ∀ wrap, faultOf? (evaluate wrap result.tree) =
      ((documentOrder result.tree).find? (!·.isLiteral)).map Place.fault := fun wrap =>
    evaluate_fault (parseText_parsed parsed clean)
  refine ⟨documentOrder_nodes result.tree, fun wrap => ?_, fun place first => ?_⟩
  · have literal : (∀ place ∈ documentOrder result.tree, place.isLiteral) ↔
        (documentOrder result.tree).find? (!·.isLiteral) = none := by simp
    rw [literal, ← Option.map_eq_none_iff (f := Place.fault), ← whole wrap]
    cases evaluate wrap result.tree <;> simp [faultOf?]
  · refine ⟨place.fault, fun wrap => ?_, place.fault_blames⟩
    have blamed := whole wrap
    rw [first, Option.map_some] at blamed
    cases outcome : evaluate wrap result.tree with
    | ok value => simp [outcome, faultOf?] at blamed
    | error fault =>
        rw [outcome] at blamed
        rw [Option.some.inj blamed]

theorem evaluate_blames_command : ∃ result place,
    parseText "@\x7ba=Get-Date\x7d" "" = .ok result ∧ result.issues = [] ∧
    place ∈ documentOrder result.tree ∧ place.node.kind = .command ∧
    ∃ fault, (∀ wrap, evaluate wrap result.tree = .error fault) ∧
      fault.extent = some place.node.extent ∧ fault.cause.label = "command invocation" := by
  obtain ⟨result, parsed, clean, blamed⟩ : ∃ result,
      parseText "@\x7ba=Get-Date\x7d" "" = .ok result ∧ result.issues = [] ∧
        ((documentOrder result.tree).find? (!·.isLiteral)).any (·.node.kind == .command) :=
    exists_parsed (by decide +kernel)
  rw [Option.any_eq_true] at blamed
  obtain ⟨place, first, command⟩ := blamed
  have command := eq_of_beq command
  obtain ⟨-, -, blames⟩ := evaluate_accepts_literals parsed clean
  obtain ⟨fault, raised, -, extent, label⟩ := blames place first
  refine ⟨result, place, parsed, clean, List.mem_of_find?_eq_some first, command, fault, raised,
    extent, ?_⟩
  rw [label, command]
  rfl

end ScriptAudit.Literal
