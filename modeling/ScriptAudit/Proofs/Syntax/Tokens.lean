import Mathlib.Data.List.Forall2
import ScriptAudit.Proofs.Syntax.GrammarLayout
import ScriptAudit.Proofs.Syntax.Preorder

namespace ScriptAudit.Syntax

/-! Which tokens are read between two places, and which nodes they stand for.

A token is put on record when its lexeme is read, and the node for it is built later, together with
the nodes around it.  So a reader is told by the nodes in what it made that have tokens of their
own: it read the tokens of these, in the order in which the walk meets them, and no others. -/

open Source Lexeme

/-- The token was read for this node.  A leaf has the extent of its token.  A conversion begins with
its token, which is the type name in brackets. -/
inductive Token.StandsFor : Token → Node → Prop
  | bareword {extent : Extent} {text : String} :
      StandsFor ⟨.bareword, text, extent⟩ (.stringConstant extent text .bare)
  | parameter {extent : Extent} {text : String} :
      StandsFor ⟨.parameter, text, extent⟩ (.stringConstant extent text .bare)
  | singleQuoted {extent : Extent} {body : List Char} :
      StandsFor ⟨.string, String.ofList ('\'' :: body ++ ['\'']), extent⟩
        (.stringConstant extent (String.ofList (singleQuotedValue body)) .single)
  | doubleQuoted {extent : Extent} {body : List Char} :
      StandsFor ⟨.string, String.ofList ('"' :: body ++ ['"']), extent⟩
        (Grammar.doubleQuotedNode extent body true .double)
  | hereSingle {extent : Extent} {written body : List Char}
      (lines : hereString '\'' written = some (body, [])) :
      StandsFor ⟨.string, String.ofList ('@' :: '\'' :: written), extent⟩
        (.stringConstant extent (String.ofList body) .hereSingle)
  | hereDouble {extent : Extent} {written body : List Char}
      (lines : hereString '"' written = some (body, [])) :
      StandsFor ⟨.string, String.ofList ('@' :: '"' :: written), extent⟩
        (Grammar.doubleQuotedNode extent body false .hereDouble)
  | number {extent : Extent} {lexeme : List Char} :
      StandsFor ⟨.number, String.ofList lexeme, extent⟩ (.number extent (numeralValue lexeme))
  | variableName {extent : Extent} {lexeme : List Char} :
      StandsFor ⟨.variableName, String.ofList lexeme, extent⟩
        (.variableReference extent (String.ofList (variableName lexeme)))
  | type {extent : Extent} {name : List Char} :
      StandsFor ⟨.type, String.ofList ('[' :: name ++ [']']), extent⟩
        (.typeLiteral extent (String.ofList name))
  | conversion {extent whole : Extent} {name : List Char} {operand : Option Node}
      (begins : extent.start = whole.start) :
      StandsFor ⟨.type, String.ofList ('[' :: name ++ [']']), extent⟩
        (.conversion whole (String.ofList name) operand)

/-- Leaves have tokens, and conversions have one for their type name. -/
def Node.hasToken : Node → Bool
  | .stringConstant .. | .expandableString .. | .number .. | .variableReference ..
  | .typeLiteral .. | .conversion .. => true
  | _ => false

/-- The nodes with tokens that the walk of these trees meets. -/
def tokenNodes (nodes : List Node) : List Node :=
  (visit true nodes).filter Node.hasToken

@[simp] theorem tokenNodes_nil : tokenNodes [] = [] := by
  simp [tokenNodes, visit]

@[simp] theorem tokenNodes_append (first second : List Node) :
    tokenNodes (first ++ second) = tokenNodes first ++ tokenNodes second := by
  simp [tokenNodes, visit_append]

@[simp] theorem tokenNodes_cons_cons (first second : Node) (rest : List Node) :
    tokenNodes (first :: second :: rest) = tokenNodes [first] ++ tokenNodes (second :: rest) :=
  tokenNodes_append [first] (second :: rest)

theorem tokenNodes_cons (node : Node) (rest : List Node) :
    tokenNodes (node :: rest) = tokenNodes [node] ++ tokenNodes rest :=
  tokenNodes_append [node] rest

theorem tokenNodes_marked {node : Node} (marked : node.hasToken = true) :
    tokenNodes [node] = node :: tokenNodes node.children := by
  simp [tokenNodes, visit, Node.entered, marked]

theorem tokenNodes_leaf {node : Node} (marked : node.hasToken = true) (leaf : node.children = []) :
    tokenNodes [node] = [node] := by
  rw [tokenNodes_marked marked, leaf, tokenNodes_nil]

theorem tokenNodes_unmarked {node : Node} (unmarked : node.hasToken = false) :
    tokenNodes [node] = tokenNodes node.children := by
  simp [tokenNodes, visit, Node.entered, unmarked]

/-- The token was read from one rest of the text up to another one. -/
structure Token.ReadFrom (origin : Origin) (before after : List Char) (token : Token) : Prop where
  trimmed : Trimmed before after
  written : before = token.text.toList ++ after
  placed : token.extent = origin.between before after

/-- The tokens were read one after the other, and stand for the nodes. -/
inductive TokensFrom (origin : Origin) :
    (before after : List Char) → List Token → List Node → Prop
  | nil {before after : List Char} (reaches : after <:+ before) :
      TokensFrom origin before after [] []
  | cons {before first next after : List Char} {token : Token} {node : Node} {tokens : List Token}
      {nodes : List Node} (gap : first <:+ before) (head : token.ReadFrom origin first next)
      (stands : token.StandsFor node) (tail : TokensFrom origin next after tokens nodes) :
      TokensFrom origin before after (token :: tokens) (node :: nodes)

namespace TokensFrom

variable {origin : Origin} {before middle after : List Char} {tokens : List Token}
  {nodes : List Node}

theorem reaches (read : TokensFrom origin before after tokens nodes) : after <:+ before := by
  induction read with
  | nil reaches => exact reaches
  | cons gap head _ _ ih =>
      exact ih.trans (head.trimmed.ends.suffix.trans gap)

theorem append {later : List Token} {others : List Node}
    (read : TokensFrom origin before middle tokens nodes)
    (next : TokensFrom origin middle after later others) :
    TokensFrom origin before after (tokens ++ later) (nodes ++ others) := by
  induction read with
  | nil reaches =>
      cases next with
      | nil reachesToo => exact .nil (reachesToo.trans reaches)
      | cons gap head stands tail => exact .cons (gap.trans reaches) head stands tail
  | cons gap head stands _ ih => exact .cons gap head stands (ih next)

theorem stand (read : TokensFrom origin before after tokens nodes) :
    List.Forall₂ Token.StandsFor tokens nodes := by
  induction read with
  | nil => exact .nil
  | cons _ _ stands _ ih => exact .cons stands ih

end TokensFrom

/-- Between the two cursors the tokens of these nodes were read, and no others. -/
def Cursor.Records (origin : Origin) (nodes : List Node) (before after : Cursor) : Prop :=
  ∃ tokens, after.tokens = tokens.reverse ++ before.tokens ∧
    TokensFrom origin before.rest after.rest tokens nodes

namespace Cursor

variable {origin : Origin} {first second third : Cursor} {nodes later : List Node}

theorem Records.trans (early : first.Records origin nodes second)
    (late : second.Records origin later third) :
    first.Records origin (nodes ++ later) third := by
  obtain ⟨tokens, recorded, read⟩ := early
  obtain ⟨others, recordedToo, readToo⟩ := late
  exact ⟨tokens ++ others, by simp [recordedToo, recorded], read.append readToo⟩

theorem records_nil (reaches : first.Reaches second) (silent : second.tokens = first.tokens) :
    first.Records origin [] second :=
  ⟨[], silent, .nil reaches⟩

end Cursor

namespace Reader

open Grammar

variable {α β : Type} {origin : Origin}

/-- The reader tells which nodes it read the tokens of. -/
def Records (origin : Origin) (told : α → List Node → Prop) (item : Reader α) : Prop :=
  ∀ ⦃cursor value after⦄, item cursor = some (value, after) →
    ∃ nodes, told value nodes ∧ cursor.Records origin nodes after

/-- The reader reads the tokens of the nodes in its result. -/
abbrev RecordsParts (origin : Origin) (parts : α → List Node) (item : Reader α) : Prop :=
  Records origin (fun value nodes => tokenNodes (parts value) = nodes) item

/-- The reader reads no token. -/
structure Skips (item : Reader α) : Prop where
  advances : Advances item
  silent : ∀ {cursor value after}, item cursor = some (value, after) → after.tokens = cursor.tokens

namespace Records

variable {told : α → List Node → Prop} {item : Reader α}

theorem imp {weaker : α → List Node → Prop} (records : Records origin told item)
    (follows : ∀ {value nodes}, told value nodes → weaker value nodes) :
    Records origin weaker item := fun _ _ _ read => by
  obtain ⟨nodes, holds, recorded⟩ := records read
  exact ⟨nodes, follows holds, recorded⟩

theorem pure {value : α} (holds : told value []) : Records origin told (pure value) :=
  fun _ _ _ read => by
    cases pure_eq_some.mp read
    exact ⟨[], holds, Cursor.records_nil (Cursor.reaches_refl _) rfl⟩

theorem bind {wanted : β → List Node → Prop} {next : α → Reader β}
    (records : Records origin told item)
    (goes : ∀ value nodes, told value nodes →
      Records origin (fun result later => wanted result (nodes ++ later)) (next value)) :
    Records origin wanted (item >>= next) := fun _ _ _ read => by
  obtain ⟨value, middle, itemRead, nextRead⟩ := bind_eq_some.mp read
  obtain ⟨nodes, holds, early⟩ := records itemRead
  obtain ⟨later, wants, late⟩ := goes value nodes holds nextRead
  exact ⟨nodes ++ later, wants, early.trans late⟩

theorem parts {parts : α → List Node} {wanted : β → List Node → Prop} {next : α → Reader β}
    (records : RecordsParts origin parts item)
    (goes : ∀ value, Records origin
      (fun result later => wanted result (tokenNodes (parts value) ++ later)) (next value)) :
    Records origin wanted (item >>= next) :=
  records.bind fun value nodes holds => by
    subst holds
    exact goes value

theorem skip {wanted : β → List Node → Prop} {next : α → Reader β} (skips : Skips item)
    (goes : ∀ value, Records origin wanted (next value)) :
    Records origin wanted (item >>= next) := fun _ _ _ read => by
  obtain ⟨value, middle, itemRead, nextRead⟩ := bind_eq_some.mp read
  obtain ⟨nodes, wants, late⟩ := goes value nextRead
  exact ⟨nodes, wants,
    (Cursor.records_nil (skips.advances itemRead) (skips.silent itemRead)).trans late⟩

theorem orElse {second : Reader α} (left : Records origin told item)
    (right : Records origin told second) : Records origin told (item <|> second) :=
  fun _ _ _ read => by
    rcases orElse_eq_some.mp read with read | ⟨_, read⟩
    · exact left read
    · exact right read

theorem located {body : Reader (Extent → α)}
    (built : Records origin (fun build nodes => ∀ extent, told (build extent) nodes) body) :
    Records origin told (located origin body) := fun _ _ _ read => by
  obtain ⟨build, found, same⟩ := located_eq_some.mp read
  obtain ⟨nodes, holds, recorded⟩ := built found
  exact ⟨nodes, same ▸ holds _, recorded⟩

end Records

theorem repeated_records {told : α → List Node → Prop} {all : List α → List Node → Prop}
    {item : Reader α} (records : Records origin told item) (none_read : all [] [])
    (one_more : ∀ {value nodes values later}, told value nodes → all values later →
      all (value :: values) (nodes ++ later)) :
    Records origin all (repeated item) := fun _ _ _ read => by
  refine repeated_chain (motive := fun cursor values after =>
      ∃ nodes, all values nodes ∧ cursor.Records origin nodes after)
    (fun cursor => ⟨[], none_read, Cursor.records_nil cursor.reaches_refl rfl⟩) ?_ read
  intro cursor value middle values after found later
  obtain ⟨nodes, holds, early⟩ := records found
  obtain ⟨others, holdsToo, late⟩ := later
  exact ⟨nodes ++ others, one_more holds holdsToo, early.trans late⟩

theorem repeated_records_parts {parts : α → List Node} {item : Reader α}
    (records : RecordsParts origin parts item) :
    RecordsParts origin (fun values => values.flatMap parts) (repeated item) :=
  repeated_records records tokenNodes_nil fun holds holdsToo => by
    simp [holds, holdsToo]

theorem repeated_records_nodes {item : Reader Node}
    (records : RecordsParts origin (fun node => [node]) item) :
    RecordsParts origin id (repeated item) :=
  (repeated_records_parts records).imp fun holds => by simpa using holds

/-- Items that go on with a node that was read before them. -/
theorem repeated_records_folds {item : Reader α} (step : Node → α → Node)
    (records : Records origin (fun value nodes => ∀ target,
      tokenNodes [step target value] = tokenNodes [target] ++ nodes) item) :
    Records origin (fun values nodes => ∀ target,
      tokenNodes [values.foldl step target] = tokenNodes [target] ++ nodes) (repeated item) :=
  repeated_records records (by simp) fun grows growsToo target => by
    rw [List.foldl_cons, growsToo, grows, List.append_assoc]

theorem ifPresent_records {item : Reader Node}
    (records : RecordsParts origin (fun node => [node]) item) :
    RecordsParts origin Option.toList (ifPresent item) := fun _ _ _ read => by
  rcases ifPresent_eq_some.mp read with ⟨node, _, read, same⟩ | ⟨_, same⟩
  · cases same
    exact records read
  · cases same
    exact ⟨[], tokenNodes_nil, Cursor.records_nil (Cursor.reaches_refl _) rfl⟩

end Reader
end ScriptAudit.Syntax
