import ScriptAudit.Proofs.Syntax.Edges
import ScriptAudit.Proofs.Syntax.Reader

namespace ScriptAudit.Syntax

/-! How the nodes of a tree lie in the text.

Each node that the grammar reads has the extent of the text it was read from, or one that is put
together from those of its operands; none of its parts is missing, and these parts follow one
another inside of it.  Places are told by what is left to be read there. -/

open Source

/-- The extent of what lies between two rests of a text. -/
def Origin.between (origin : Origin) (before after : List Char) : Extent :=
  origin.place (origin.length - before.length) (origin.length - after.length)

/-- The parts that a node of its kind has are there. -/
def Node.Complete : Node → Prop
  | .parenthesized _ part | .unary _ _ part | .conversion _ _ part | .member _ part _ _
  | .invocation _ part _ _ _ => part.isSome
  | .binary _ _ left right | .index _ left right => left.isSome ∧ right.isSome
  | _ => True

mutual

/-- The node was read from one rest of the text up to another one. -/
inductive Node.ReadFrom (origin : Origin) : (before after : List Char) → Node → Prop
  | placed {before after : List Char} {node : Node}
      (extent : node.extent = origin.between before after) (trimmed : Trimmed before after)
      (complete : node.Complete) (parts : AllReadFrom origin before after node.children) :
      Node.ReadFrom origin before after node
  | merged {before middle next after : List Char} {left right : Node} {operator : String}
      (first : left.ReadFrom origin before middle) (gap : next <:+ middle)
      (last : right.ReadFrom origin next after) :
      Node.ReadFrom origin before after
        (.binary (origin.merge left.extent right.extent) operator (some left) (some right))

/-- The nodes were read one after the other, from one rest of the text up to another one. -/
inductive AllReadFrom (origin : Origin) : (before after : List Char) → List Node → Prop
  | nil {before after : List Char} (reaches : after <:+ before) : AllReadFrom origin before after []
  | cons {before first next after : List Char} {node : Node} {rest : List Node}
      (gap : first <:+ before) (head : node.ReadFrom origin first next)
      (tail : AllReadFrom origin next after rest) : AllReadFrom origin before after (node :: rest)

end

variable {origin : Origin}

theorem Node.ReadFrom.trimmed {before after : List Char} {node : Node}
    (read : node.ReadFrom origin before after) : Trimmed before after := by
  match read with
  | .placed _ trimmed _ _ => exact trimmed
  | .merged first gap last => exact first.trimmed.solid (last.trimmed.ends.of_suffix gap)

variable {before middle after : List Char}

theorem Node.ReadFrom.reaches {node : Node} (read : node.ReadFrom origin before after) :
    after <:+ before :=
  read.trimmed.ends.suffix

namespace AllReadFrom

variable {nodes : List Node}

theorem reaches (read : AllReadFrom origin before after nodes) : after <:+ before := by
  induction nodes generalizing before with
  | nil =>
      cases read
      assumption
  | cons node rest ih =>
      cases read with
      | cons gap head tail => exact (ih tail).trans (head.reaches.trans gap)

theorem widen {before' after' : List Char} (read : AllReadFrom origin before after nodes)
    (early : before <:+ before') (late : after' <:+ after) :
    AllReadFrom origin before' after' nodes := by
  induction nodes generalizing before before' with
  | nil =>
      cases read with
      | nil reaches => exact .nil (late.trans (reaches.trans early))
  | cons node rest ih =>
      cases read with
      | cons gap head tail =>
          exact .cons (gap.trans early) head (ih tail (List.suffix_refl _))

theorem append {later : List Node} (read : AllReadFrom origin before middle nodes)
    (next : AllReadFrom origin middle after later) :
    AllReadFrom origin before after (nodes ++ later) := by
  induction nodes generalizing before with
  | nil =>
      cases read with
      | nil reaches => exact next.widen reaches (List.suffix_refl _)
  | cons node rest ih =>
      cases read with
      | cons gap head tail => exact .cons gap head (ih tail)

theorem single {node : Node} (read : node.ReadFrom origin before after) :
    AllReadFrom origin before after [node] :=
  .cons (List.suffix_refl _) read (.nil (List.suffix_refl _))

end AllReadFrom

namespace Reader

open Grammar

variable {α : Type}

/-- Reading goes forward. -/
def Advances (item : Reader α) : Prop :=
  ∀ ⦃cursor value after⦄, item cursor = some (value, after) → cursor.Reaches after

/-- The nodes in what was read lie in the text that was passed. -/
def Covers (origin : Origin) (parts : α → List Node) (item : Reader α) : Prop :=
  ∀ ⦃cursor value after⦄, item cursor = some (value, after) →
    AllReadFrom origin cursor.rest after.rest (parts value)

/-- The node is the whole of the text that was passed. -/
def Spans (origin : Origin) (item : Reader Node) : Prop :=
  ∀ ⦃cursor node after⦄, item cursor = some (node, after) →
    node.ReadFrom origin cursor.rest after.rest

/-- What was passed ends with a node. -/
def EndsWith (origin : Origin) (part : α → Node) (item : Reader α) : Prop :=
  ∀ ⦃cursor value after⦄, item cursor = some (value, after) →
    ∃ first, first <:+ cursor.rest ∧ (part value).ReadFrom origin first after.rest

theorem Spans.orElse {first second : Reader Node} (left : Spans origin first)
    (right : Spans origin second) : Spans origin (first <|> second) := fun _ _ _ read => by
  rcases orElse_eq_some.mp read with read | ⟨_, read⟩
  · exact left read
  · exact right read

theorem Spans.endsWith {item : Reader Node} (spans : Spans origin item) :
    EndsWith origin id item := fun _ _ _ read =>
  ⟨_, List.suffix_refl _, spans read⟩

namespace EndsWith

variable {part : α → Node} {item : Reader α}

theorem orElse {second : Reader α} (left : EndsWith origin part item)
    (right : EndsWith origin part second) : EndsWith origin part (item <|> second) :=
  fun _ _ _ read => by
    rcases orElse_eq_some.mp read with read | ⟨_, read⟩
    · exact left read
    · exact right read

theorem covers (follows : EndsWith origin part item) :
    Covers origin (fun value => [part value]) item := fun _ _ _ read => by
  obtain ⟨first, gap, node⟩ := follows read
  exact .cons gap node (.nil (List.suffix_refl _))

theorem solid (follows : EndsWith origin part item) {cursor after : Cursor} {value : α}
    (read : item cursor = some (value, after)) : Solid cursor.rest after.rest := by
  obtain ⟨first, gap, node⟩ := follows read
  exact node.trimmed.ends.of_suffix gap

end EndsWith

theorem repeated_covers {parts : α → List Node} {item : Reader α}
    (covers : Covers origin parts item) :
    Covers origin (fun values => values.flatMap parts) (repeated item) := by
  intro cursor values after read
  refine repeated_chain (motive := fun cursor values after =>
      AllReadFrom origin cursor.rest after.rest (values.flatMap parts))
    (fun cursor => .nil (List.suffix_refl _)) ?_ read
  intro cursor value middle values after found later
  exact (covers found).append later

theorem repeated_covers_nodes {item : Reader Node}
    (covers : Covers origin (fun node => [node]) item) : Covers origin id (repeated item) := by
  intro cursor nodes after read
  simpa using repeated_covers covers read

/-- A repetition of what ends with no carriage return. -/
theorem repeated_flush {item : Reader α} (solid : ∀ {cursor value after},
      item cursor = some (value, after) → Solid cursor.rest after.rest)
    {cursor after : Cursor} {values : List α}
    (read : repeated item cursor = some (values, after)) : Flush cursor.rest after.rest := by
  refine repeated_chain (motive := fun cursor _ after => Flush cursor.rest after.rest)
    (fun cursor => .refl _) ?_ read
  intro cursor value middle values after found later
  exact .inr ((solid found).flush later)

/-- A node that begins at `start` and grows with each item of a repetition. -/
theorem repeated_folds {item : Reader α} (step : Node → α → Node) (start : List Char)
    (grows : ∀ {cursor value after}, item cursor = some (value, after) →
      ∀ {node : Node}, node.ReadFrom origin start cursor.rest →
        (step node value).ReadFrom origin start after.rest)
    {cursor after : Cursor} {values : List α}
    (read : repeated item cursor = some (values, after)) :
    ∀ {node : Node}, node.ReadFrom origin start cursor.rest →
      (values.foldl step node).ReadFrom origin start after.rest := by
  refine repeated_chain (motive := fun cursor values after =>
      ∀ {node : Node}, node.ReadFrom origin start cursor.rest →
        (values.foldl step node).ReadFrom origin start after.rest)
    (fun cursor => id) ?_ read
  intro cursor value middle values after found later node begun
  exact later (grows found begun)

theorem ifPresent_covers {item : Reader Node} (covers : Covers origin (fun node => [node]) item) :
    Covers origin Option.toList (ifPresent item) := by
  intro cursor found after read
  rcases ifPresent_eq_some.mp read with ⟨node, _, read, same⟩ | ⟨_, same⟩
  · cases same
    exact covers read
  · cases same
    exact .nil (List.suffix_refl _)

theorem skip_advances {scan : List Char → Option (List Char)}
    (shortens : ∀ {text rest}, scan text = some rest → rest <:+ text) : Advances (skip scan) := by
  intro cursor value after read
  obtain ⟨rest, scanned, same⟩ := skip_eq_some.mp read
  cases same
  exact shortens scanned

theorem lexeme_scans {scan : List Char → Option (List Char)} {cursor after : Cursor}
    {text : List Char} (read : lexeme scan cursor = some (text, after)) :
    scan cursor.rest = some after.rest := by
  obtain ⟨rest, scanned, same⟩ := lexeme_eq_some.mp read
  cases same
  exact scanned

theorem char_rest {c : Char} {cursor after : Cursor} {value : Unit}
    (read : char c cursor = some (value, after)) : cursor.rest = c :: after.rest := by
  obtain ⟨rest, scanned, same⟩ := skip_eq_some.mp read
  cases same
  exact Lexeme.afterChar_eq_some.mp scanned

theorem char_advances (c : Char) : Advances (char c) :=
  skip_advances Lexeme.afterChar_suffix

theorem char_solid {c : Char} {cursor after : Cursor} {value : Unit}
    (read : char c cursor = some (value, after)) (noReturn : c ≠ '\r') :
    Solid cursor.rest after.rest := by
  rw [char_rest read]
  exact .single noReturn _

theorem space_advances : Advances space :=
  skip_advances fun scanned => by
    cases scanned
    exact Lexeme.skipTrivia_suffix _ _

theorem blank_advances : Advances blank :=
  skip_advances fun scanned => by
    cases scanned
    exact Lexeme.skipTrivia_suffix _ _

theorem gap_advances : Advances gap :=
  skip_advances fun {text rest} scanned => by
    dsimp only at scanned
    split at scanned <;> cases scanned
    exact Lexeme.skipInlineBlanks_suffix text

/-- What stands between two characters, these included. -/
theorem enclosed_trimmed {opening closing : Char} {cursor first last after : Cursor}
    {start stop : Unit} (opened : char opening cursor = some (start, first))
    (reaches : first.Reaches last) (closed : char closing last = some (stop, after))
    (noFeed : opening ≠ '\n') (noReturn : closing ≠ '\r') :
    Trimmed cursor.rest after.rest := by
  rw [char_rest opened]
  exact .cons noFeed ((char_solid closed noReturn).of_suffix reaches)

end Reader

/-- The three readers of a level read nodes that span what was passed. -/
structure Level.Spans (origin : Origin) (inner : Level) : Prop where
  pipeline : Reader.Spans origin inner.pipeline
  expression : Reader.Spans origin inner.expression
  operand : Reader.Spans origin inner.operand

end ScriptAudit.Syntax
