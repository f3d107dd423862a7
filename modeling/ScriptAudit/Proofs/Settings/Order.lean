import ScriptAudit.Proofs.Literal.FirstTable
import ScriptAudit.Proofs.Settings.Location
import ScriptAudit.Proofs.Syntax.Preorder

namespace ScriptAudit.Settings

/-! The order in which the nodes of settings stand in the source.

No two of the pairs that are listed have keys or values with the same extent, since each of them
begins behind the one before it. -/

open Syntax Literal Source

variable {text : List Char} {file : String}

/-- The node begins at the offset. -/
def BeginsAt (text : List Char) (file : String) (node : Node) (offset : Nat) : Prop :=
  ∃ stop, node.Spans (originIn text file) offset stop

theorem BeginsAt.unique {first second : Node} {offset later : Nat}
    (begins : BeginsAt text file first offset) (other : BeginsAt text file second later)
    (same : first.extent = second.extent) : offset = later := by
  obtain ⟨stop, spans⟩ := begins
  obtain ⟨stop', spans'⟩ := other
  have positions : (LineIndex.ofText text).position offset =
      (LineIndex.ofText text).position later := by
    rw [spans.placed, spans'.placed] at same
    exact congrArg Extent.start same
  have starts : (LineIndex.ofText text).offset? _ = some offset := spans.starts
  have starts' : (LineIndex.ofText text).offset? _ = some later := spans'.starts
  rw [positions, starts'] at starts
  exact (Option.some.inj starts).symm

theorem BeginsAt.labelled {node : Node} {offset : Nat} (begins : BeginsAt text file node offset) :
    node.extent.file = file := by
  obtain ⟨stop, spans⟩ := begins
  rw [spans.placed]
  rfl

theorem BeginsAt.line_pos {node : Node} {offset : Nat} (begins : BeginsAt text file node offset) :
    1 ≤ node.extent.start.line := by
  obtain ⟨stop, spans⟩ := begins
  rw [spans.placed]
  exact LineIndex.number_le_line _ _ _

/-- The pairs lie one after the other between two offsets. -/
abbrev SpansPairs (text : List Char) (file : String) (start stop : Nat)
    (pairs : List (Node × Node)) : Prop :=
  SpansAll (originIn text file) start stop (pairs.flatMap fun pair => [pair.1, pair.2])

/-- The key of the pair begins at or behind `start` and its value behind it, both before `stop`. -/
def LiesIn (text : List Char) (file : String) (start stop : Nat) (pair : Node × Node) : Prop :=
  ∃ key value, BeginsAt text file pair.1 key ∧ BeginsAt text file pair.2 value ∧
    start ≤ key ∧ key < value ∧ value < stop

/-- The key and the value of the first pair begin before those of the second one. -/
def Precedes (text : List Char) (file : String) (first second : Node × Node) : Prop :=
  (∃ offset later, BeginsAt text file first.1 offset ∧ BeginsAt text file second.1 later ∧
    offset < later) ∧
  ∃ offset later, BeginsAt text file first.2 offset ∧ BeginsAt text file second.2 later ∧
    offset < later

theorem Precedes.key_ne {first second : Node × Node} (precedes : Precedes text file first second) :
    first.1.extent ≠ second.1.extent := by
  obtain ⟨⟨offset, later, begins, other, before⟩, -⟩ := precedes
  exact fun same => Nat.ne_of_lt before (begins.unique other same)

theorem Precedes.value_ne {first second : Node × Node}
    (precedes : Precedes text file first second) : first.2.extent ≠ second.2.extent := by
  obtain ⟨-, offset, later, begins, other, before⟩ := precedes
  exact fun same => Nat.ne_of_lt before (begins.unique other same)

theorem LiesIn.widen {start stop start' stop' : Nat} {pair : Node × Node}
    (lies : LiesIn text file start stop pair) (lower : start' ≤ start) (upper : stop ≤ stop') :
    LiesIn text file start' stop' pair := by
  obtain ⟨key, value, keyBegins, valueBegins, after, between, before⟩ := lies
  exact ⟨key, value, keyBegins, valueBegins, by omega, between, by omega⟩

theorem LiesIn.precedes {start middle next stop : Nat} {first second : Node × Node}
    (lies : LiesIn text file start middle first) (lies' : LiesIn text file next stop second)
    (apart : middle ≤ next) : Precedes text file first second := by
  obtain ⟨key, value, keyBegins, valueBegins, _, _, _⟩ := lies
  obtain ⟨key', value', keyBegins', valueBegins', _, _, _⟩ := lies'
  exact ⟨⟨key, key', keyBegins, keyBegins', by omega⟩, value, value', valueBegins, valueBegins',
    by omega⟩

/-- The first of some pairs, and where it and the other ones lie. -/
theorem SpansPairs.cons {start stop : Nat} {pair : Node × Node} {rest : List (Node × Node)}
    (spans : SpansPairs text file start stop (pair :: rest)) :
    ∃ first middle next later, start ≤ first ∧ first < middle ∧ middle ≤ next ∧ next < later ∧
      pair.1.Spans (originIn text file) first middle ∧
      pair.2.Spans (originIn text file) next later ∧ SpansPairs text file later stop rest := by
  rw [SpansPairs, List.flatMap_cons] at spans
  cases spans with
  | cons gap filled key tail =>
      cases tail with
      | cons gap' filled' value tail =>
          exact ⟨_, _, _, _, gap, filled, gap', filled', key, value, tail⟩

theorem SpansPairs.split {start stop : Nat} {before after : List (Node × Node)}
    (spans : SpansPairs text file start stop (before ++ after)) :
    ∃ middle, SpansPairs text file start middle before ∧
      SpansPairs text file middle stop after := by
  induction before generalizing start with
  | nil => exact ⟨start, .nil (Nat.le_refl _), spans⟩
  | cons pair rest ih =>
      obtain ⟨first, middle, next, later, lower, filled, gap, filled', key, value, tail⟩ :=
        spans.cons
      obtain ⟨reached, front, rest⟩ := ih tail
      exact ⟨reached, SpansAll.cons lower filled key (.cons gap filled' value front), rest⟩

theorem SpansPairs.liesIn {start stop : Nat} {pairs : List (Node × Node)}
    (spans : SpansPairs text file start stop pairs) :
    ∀ pair ∈ pairs, LiesIn text file start stop pair := by
  induction pairs generalizing start with
  | nil => simp
  | cons pair rest ih =>
      obtain ⟨first, middle, next, later, _, _, _, _, key, value, tail⟩ := spans.cons
      have ordered := tail.ordered
      refine List.forall_mem_cons.mpr ⟨?_, fun other member => ?_⟩
      · exact ⟨first, next, ⟨_, key⟩, ⟨_, value⟩, by omega, by omega, by omega⟩
      · exact (ih tail other member).widen (by omega) (Nat.le_refl _)

theorem SpansPairs.pairwise {start stop : Nat} {pairs : List (Node × Node)}
    (spans : SpansPairs text file start stop pairs) : pairs.Pairwise (Precedes text file) := by
  induction pairs generalizing start with
  | nil => exact .nil
  | cons pair rest ih =>
      obtain ⟨first, middle, next, later, _, _, _, _, key, value, tail⟩ := spans.cons
      refine .cons (fun other member => ?_) (ih tail)
      have lies : LiesIn text file start later pair :=
        ⟨first, next, ⟨_, key⟩, ⟨_, value⟩, by omega, by omega, by omega⟩
      exact lies.precedes (tail.liesIn other member) (Nat.le_refl _)

theorem spansPairs_pairsOf {start stop : Nat} {node : Node}
    (spans : node.Spans (originIn text file) start stop) :
    SpansPairs text file start stop (pairsOf node) := by
  have parts := spans.parts
  cases node with
  | hashtable extent pairs => exact parts
  | _ => exact .nil spans.ordered

theorem spans_soleElement {start stop : Nat} {node : Node}
    (spans : node.Spans (originIn text file) start stop) :
    ∃ first last, start ≤ first ∧ last ≤ stop ∧
      (soleElement node).Spans (originIn text file) first last := by
  unfold soleElement
  split
  · exact spans.parts.of_mem List.mem_cons_self
  · exact ⟨start, stop, Nat.le_refl _, Nat.le_refl _, spans⟩

/-- The pairs of a table lie inside of its node, parentheses or not. -/
theorem spansPairs_of_isTable {start stop : Nat} {node : Node} {pairs : List (Node × Node)}
    (table : IsTable pairs node) (spans : node.Spans (originIn text file) start stop) :
    ∃ first last, start ≤ first ∧ last ≤ stop ∧ SpansPairs text file first last pairs := by
  induction table generalizing start stop with
  | hashtable extent => exact ⟨start, stop, Nat.le_refl _, Nat.le_refl _, spans.parts⟩
  | pipeline extent table ih | parenthesized extent table ih =>
      obtain ⟨first, last, lower, upper, inner⟩ := spans.parts.of_mem List.mem_cons_self
      obtain ⟨first', last', lower', upper', parts⟩ := ih inner
      exact ⟨first', last', Nat.le_trans lower lower', Nat.le_trans upper' upper, parts⟩

theorem pairwise_listedKeys {start : String} {pairs : List (Node × Node)}
    (pairwise : pairs.Pairwise (Precedes text file)) :
    (listedKeys start pairs).Pairwise fun first second => Precedes text file first.2 second.2 := by
  refine List.pairwise_filterMap.mpr (pairwise.imp fun precedes first found second found' => ?_)
  split at found <;> cases found
  split at found' <;> cases found'
  exact precedes

theorem pairwise_listing {first middle next later : Nat} {pair : Node × Node}
    (key : pair.1.Spans (originIn text file) first middle) (filled : first < middle)
    (gap : middle ≤ next) (value : pair.2.Spans (originIn text file) next later)
    (filled' : next < later) :
    (∀ listed ∈ listing pair, LiesIn text file first later listed.2) ∧
      (listing pair).Pairwise fun first second => Precedes text file first.2 second.2 := by
  obtain ⟨start, stop, lower, upper, inner⟩ := spans_soleElement value
  have parts := spansPairs_pairsOf inner
  have own : ∀ listed ∈ listedKeys "" [pair], listed.2 = pair := fun listed member =>
    List.mem_singleton.mp (mem_listedKeys.mp member).1
  have rules : ∀ listed ∈ listedRules pair, LiesIn text file start stop listed.2 :=
    fun listed member =>
      parts.liesIn _ (mem_listedKeys.mp ((listedRules_sublist pair).subset member)).1
  constructor
  · intro listed member
    rcases List.mem_append.mp member with member | member
    · rw [own listed member]
      exact ⟨first, next, ⟨_, key⟩, ⟨_, value⟩, by omega, by omega, by omega⟩
    · exact (rules listed member).widen (by omega) (by omega)
  · refine List.pairwise_append.mpr ⟨pairwise_listedKeys (List.pairwise_singleton _ _), ?_, ?_⟩
    · exact (pairwise_listedKeys parts.pairwise).sublist (listedRules_sublist pair)
    · intro listed member rule member'
      obtain ⟨offset, offset', begins, begins', _, _, _⟩ := rules rule member'
      rw [own listed member]
      exact ⟨⟨first, offset, ⟨_, key⟩, begins, by omega⟩, next, offset', ⟨_, value⟩, begins',
        by omega⟩

theorem SpansPairs.listings {start stop : Nat} {pairs : List (Node × Node)}
    (spans : SpansPairs text file start stop pairs) :
    (∀ listed ∈ pairs.flatMap listing, LiesIn text file start stop listed.2) ∧
      (pairs.flatMap listing).Pairwise fun first second => Precedes text file first.2 second.2 := by
  induction pairs generalizing start with
  | nil => exact ⟨by simp, .nil⟩
  | cons pair rest ih =>
      obtain ⟨first, middle, next, later, lower, filled, gap, filled', key, value, tail⟩ :=
        spans.cons
      obtain ⟨lies, pairwise⟩ := pairwise_listing key filled gap value filled'
      obtain ⟨liesLater, pairwiseLater⟩ := ih tail
      have ordered := tail.ordered
      rw [List.flatMap_cons]
      constructor
      · refine List.forall_mem_append.mpr ⟨fun listed member => ?_, fun listed member => ?_⟩
        · exact (lies listed member).widen lower ordered
        · exact (liesLater listed member).widen (by omega) (Nat.le_refl _)
      · refine List.pairwise_append.mpr
          ⟨pairwise, pairwiseLater, fun listed member other here => ?_⟩
        exact (lies listed member).precedes (liesLater other here) (Nat.le_refl _)

end ScriptAudit.Settings
