import ScriptAudit.Proofs.Syntax.Filler
import ScriptAudit.Proofs.Syntax.LiteralLexeme
import ScriptAudit.Text.Integer
import ScriptAudit.Value.Table

namespace ScriptAudit.Literal

/-! The texts that denote a literal.

A literal can be written in many ways: blanks, separators and comments may stand after an opening
bracket, a comma or an equals sign and in front of a closing bracket. -/

open Syntax Lexeme

def quotedText (said : String) : List Char :=
  '\'' :: (doubled said.toList ++ ['\''])

mutual

/-- The text denotes the literal.  An array is not written with another array as its only item, for
the items of that one would be taken for its own. -/
inductive Written : Value → List Char → Prop where
  | text (said : String) : Written (.text said) (quotedText said)
  | integer {digits : List Char} (negative : Bool) (written : IsDigits digits)
      (short : digits.length ≤ Text.greatestIntegerDigits) :
      Written (.number (.integer (signedValue negative digits))) (sign negative ++ digits)
  | bool (value : Bool) : Written (.bool value) (constantText value)
  | emptyArray (inside : List Filler) : Written (.array []) ('@' :: '(' :: (trivia inside ++ [')']))
  | array {item : Value} {items : List Value} {text others : List Char}
      (opening closing : List Filler) (first : Written item text)
      (later : WrittenLater items others) (spreads : items = [] → ∀ inner, item ≠ .array inner) :
      Written (.array (item :: items))
        ('@' :: '(' :: (trivia opening ++ (text ++ (others ++ (trivia closing ++ [')'])))))
  | table {entries : List (String × Value)} {text : List Char} (opening : List Filler)
      (distinct : Table.Distinct entries) (written : WrittenEntries entries text) :
      Written (.table entries) ('@' :: '\x7b' :: (trivia opening ++ (text ++ ['\x7d'])))

/-- The items of an array after the first one, each after a comma. -/
inductive WrittenLater : List Value → List Char → Prop where
  | nil : WrittenLater [] []
  | cons {item : Value} {items : List Value} {text others : List Char} (opening : List Filler)
      (first : Written item text) (later : WrittenLater items others) :
      WrittenLater (item :: items) (',' :: (trivia opening ++ (text ++ others)))

/-- The entries of a table.  After an entry that is not the last one a separator is needed. -/
inductive WrittenEntries : List (String × Value) → List Char → Prop where
  | nil : WrittenEntries [] []
  | cons {value : Value} {entries : List (String × Value)} {text others : List Char} (key : String)
      (gap opening closing : List Filler) (joins : gap.any Filler.separates = false)
      (first : Written value text) (later : WrittenEntries entries others)
      (separated : entries ≠ [] → closing.any Filler.separates = true) :
      WrittenEntries ((key, value) :: entries)
        (quotedText key ++ (trivia gap ++ '=' :: (trivia opening ++ (text ++
          (trivia closing ++ others)))))

end

/-- A text that has nothing but the literal in it, with trivia around it. -/
def Rendered (value : Value) (text : List Char) : Prop :=
  ∃ (opening : List Filler) (body : List Char) (closing : List Filler),
    text = trivia opening ++ (body ++ trivia closing) ∧ Written value body

inductive Writable : Value → Prop where
  | text (said : String) : Writable (.text said)
  | integer (value : Int)
      (short : (Nat.toDigits 10 value.natAbs).length ≤ Text.greatestIntegerDigits) :
      Writable (.number (.integer value))
  | bool (value : Bool) : Writable (.bool value)
  | array {items : List Value} (all : ∀ item ∈ items, Writable item)
      (spreads : ∀ inner, items ≠ [.array inner]) : Writable (.array items)
  | table {entries : List (String × Value)} (all : ∀ entry ∈ entries, Writable entry.2)
      (distinct : Table.Distinct entries) : Writable (.table entries)

theorem written_integer (value : Int)
    (short : (Nat.toDigits 10 value.natAbs).length ≤ Text.greatestIntegerDigits) :
    ∃ text, Written (.number (.integer value)) text := by
  have digits : IsDigits (Nat.toDigits 10 value.natAbs) :=
    ⟨Nat.toDigits_ne_nil, fun c member =>
      Nat.isDigit_of_mem_toDigits (by decide) (by decide) member⟩
  have same : signedValue (decide (value < 0)) (Nat.toDigits 10 value.natAbs) = value := by
    rw [signedValue, Nat.ofDigitChars_ten_toDigits, Number.Binary64.signed]
    by_cases negative : value < 0
    · rw [if_pos (decide_eq_true negative)]
      omega
    · rw [if_neg (by simpa using negative)]
      omega
  have written := Written.integer (decide (value < 0)) digits short
  rw [same] at written
  exact ⟨_, written⟩

theorem writtenLater_of_all {items : List Value} (all : ∀ item ∈ items, ∃ text, Written item text) :
    ∃ text, WrittenLater items text := by
  induction items with
  | nil => exact ⟨[], .nil⟩
  | cons item items ih =>
      obtain ⟨⟨text, first⟩, later⟩ := List.forall_mem_cons.mp all
      obtain ⟨others, later⟩ := ih later
      exact ⟨_, .cons [.space] first later⟩

theorem writtenEntries_of_all {entries : List (String × Value)}
    (all : ∀ entry ∈ entries, ∃ text, Written entry.2 text) :
    ∃ text, WrittenEntries entries text := by
  induction entries with
  | nil => exact ⟨[], .nil⟩
  | cons entry entries ih =>
      obtain ⟨⟨text, first⟩, later⟩ := List.forall_mem_cons.mp all
      obtain ⟨others, later⟩ := ih later
      exact ⟨_, .cons entry.1 [.space] [.space] [.feed] rfl first later fun _ => rfl⟩

/-- No literal is left out: each that can be written has a text. -/
theorem Writable.written {value : Value} (writable : Writable value) :
    ∃ text, Written value text := by
  induction writable with
  | text said => exact ⟨_, .text said⟩
  | integer value short => exact written_integer value short
  | bool value => exact ⟨_, .bool value⟩
  | @array items all spreads ih =>
      cases items with
      | nil => exact ⟨_, .emptyArray []⟩
      | cons item items =>
          obtain ⟨⟨text, first⟩, later⟩ := List.forall_mem_cons.mp ih
          obtain ⟨others, later⟩ := writtenLater_of_all later
          refine ⟨_, .array [] [] first later fun alone inner same => spreads inner ?_⟩
          rw [alone, same]
  | table all distinct ih =>
      obtain ⟨text, entries⟩ := writtenEntries_of_all ih
      exact ⟨_, .table [] distinct entries⟩

def marks : List Char :=
  ['\'', '$', '@', '-', '0', '1', '2', '3', '4', '5', '6', '7', '8', '9']

theorem skipTrivia_mark {c : Char} (mark : c ∈ marks) (breaks : Bool) (rest : List Char) :
    skipTrivia breaks (c :: rest) = c :: rest := by
  have all : ∀ c ∈ marks, c ∉ ['\x60', '<', '#', ' ', '\t', '\x0c', '\r', '\n', ';'] := by
    simp [marks]
  exact skipTrivia_plain (all c mark) breaks rest

theorem numeral_marked {digits : List Char} (written : IsDigits digits) (negative : Bool) :
    ∃ c rest, sign negative ++ digits = c :: rest ∧ c ∈ marks := by
  have all : ∀ c ∈ ['-', '0', '1', '2', '3', '4', '5', '6', '7', '8', '9'], c ∈ marks := by
    simp [marks]
  obtain ⟨c, rest, same, mark⟩ := numeral_head written negative
  exact ⟨c, rest, same, all c mark⟩

variable {value : Value} {text : List Char}

theorem Written.head (written : Written value text) : ∃ c rest, text = c :: rest ∧ c ∈ marks := by
  cases written with
  | text said => exact ⟨'\'', _, rfl, by decide⟩
  | integer negative written short => exact numeral_marked written negative
  | bool value => cases value <;> exact ⟨'$', _, rfl, by decide⟩
  | emptyArray inside => exact ⟨'@', _, rfl, by decide⟩
  | array opening closing first later spreads => exact ⟨'@', _, rfl, by decide⟩
  | table opening distinct written => exact ⟨'@', _, rfl, by decide⟩

/-- Blanks in front of a literal leave all of it. -/
theorem Written.solid (written : Written value text) (rest : List Char) :
    skipTrivia true (text ++ rest) = text ++ rest := by
  obtain ⟨c, others, rfl, mark⟩ := written.head
  exact skipTrivia_mark mark true _

theorem Written.length_pos (written : Written value text) : 0 < text.length := by
  obtain ⟨c, others, rfl, -⟩ := written.head
  exact Nat.zero_lt_succ _

theorem WrittenLater.bounded {items : List Value} (written : WrittenLater items text)
    {after : List Char} (bounded : Bounded after) : Bounded (text ++ after) := by
  cases written with
  | nil => exact bounded
  | cons opening first later => exact goesOn_cons _ (by decide)

theorem WrittenEntries.solid {entries : List (String × Value)}
    (written : WrittenEntries entries text) (rest : List Char) :
    skipTrivia true (text ++ '\x7d' :: rest) = text ++ '\x7d' :: rest := by
  cases written with
  | nil => exact skipTrivia_stop rfl
  | cons key gap opening closing joins first later separated =>
      exact skipTrivia_mark (by decide) true _

end ScriptAudit.Literal
