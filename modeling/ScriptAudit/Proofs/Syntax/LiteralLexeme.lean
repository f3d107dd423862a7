import ScriptAudit.Number.Basic
import ScriptAudit.Syntax.Lexeme.Quotation
import ScriptAudit.Syntax.Lexeme.Word

namespace ScriptAudit.Syntax.Lexeme

/-! The lexemes of literals, read from a text in which they are followed by what may follow them. -/

open Text

/-- The text is empty or goes on with one of the characters. -/
def GoesOn (marks text : List Char) : Prop :=
  ∀ c ∈ text.head?, c ∈ marks

variable {marks : List Char}

theorem goesOn_nil : GoesOn marks [] := fun _ nothing => by cases nothing

theorem goesOn_cons {c : Char} (rest : List Char) (mark : c ∈ marks) : GoesOn marks (c :: rest) :=
  fun c' same => by
    cases same
    exact mark

theorem GoesOn.head {c : Char} {rest : List Char} (goes : GoesOn marks (c :: rest)) : c ∈ marks :=
  goes c rfl

theorem GoesOn.mono {more text : List Char} (goes : GoesOn marks text)
    (all : ∀ c ∈ marks, c ∈ more) : GoesOn more text :=
  fun c same => all c (goes c same)

/-- What a literal may be followed by: a blank, a separator, a comment, a comma or a closing
bracket. -/
def boundaries : List Char :=
  [' ', '\t', '\n', '\r', ';', '<', '#', ',', ')', '\x7d']

abbrev Bounded : List Char → Prop :=
  GoesOn boundaries

/-- A text with each single quote doubled. -/
def doubled (text : List Char) : List Char :=
  text.flatMap fun c => if c = '\'' then ['\'', '\''] else [c]

theorem doubled_cons (c : Char) (rest : List Char) :
    doubled (c :: rest) = (if c = '\'' then ['\'', '\''] else [c]) ++ doubled rest :=
  List.flatMap_cons

theorem singleQuotedBody_doubled (text : List Char) {after : List Char}
    (ended : ∀ rest, after ≠ '\'' :: rest) :
    singleQuotedBody (doubled text ++ '\'' :: after) = some (doubled text, after) := by
  induction text with
  | nil =>
      change singleQuotedBody ('\'' :: after) = _
      rw [singleQuotedBody]
      · rfl
      · exact ended
  | cons c text ih =>
      rw [doubled_cons]
      split
      · change singleQuotedBody ('\'' :: '\'' :: (doubled text ++ '\'' :: after)) = _
        rw [singleQuotedBody, ih]
        rfl
      · next other =>
          change singleQuotedBody (c :: (doubled text ++ '\'' :: after)) = _
          rw [singleQuotedBody, ih]
          · rfl
          · exact fun _ quote => absurd quote other
          · exact other

theorem singleQuotedValue_doubled (text : List Char) :
    singleQuotedValue (doubled text) = text := by
  induction text with
  | nil => rfl
  | cons c text ih =>
      rw [doubled_cons]
      split
      · next quote =>
          change singleQuotedValue ('\'' :: '\'' :: doubled text) = _
          rw [singleQuotedValue, ih, quote]
      · next other =>
          change singleQuotedValue (c :: doubled text) = _
          rw [singleQuotedValue, ih]
          exact fun _ quote => absurd quote other

/-- The digits of a decimal, without those of other scripts. -/
def IsDigits (digits : List Char) : Prop :=
  digits ≠ [] ∧ ∀ c ∈ digits, c.isDigit = true

theorem ofDigits_digits (digits : List Char) :
    ofDigits 10 (digits.map fun c => c.toNat - '0'.toNat) = Nat.ofDigitChars 10 digits 0 := by
  simp [ofDigits, Nat.ofDigitChars, List.foldl_map, Nat.mul_comm]

def signedValue (negative : Bool) (digits : List Char) : Int :=
  Number.Binary64.signed negative (Nat.ofDigitChars 10 digits 0)

theorem ofDigitChars_lt {digits : List Char} (all : ∀ c ∈ digits, c.isDigit = true) (start : Nat) :
    Nat.ofDigitChars 10 digits start < (start + 1) * Nat.pow 10 digits.length := by
  induction digits generalizing start with
  | nil => simp
  | cons c digits ih =>
      obtain ⟨first, later⟩ := List.forall_mem_cons.mp all
      have small : c.toNat - '0'.toNat + 1 ≤ 10 := by
        have bounds : 48 ≤ c.toNat ∧ c.toNat ≤ 57 := Char.isDigit_iff_toNat.mp first
        have zero : '0'.toNat = 48 := rfl
        omega
      rw [Nat.ofDigitChars_cons]
      calc Nat.ofDigitChars 10 digits (10 * start + (c.toNat - '0'.toNat))
          < (10 * start + (c.toNat - '0'.toNat) + 1) * Nat.pow 10 digits.length :=
            ih later _
        _ ≤ (start + 1) * 10 * Nat.pow 10 digits.length := Nat.mul_le_mul_right _ (by omega)
        _ = (start + 1) * Nat.pow 10 (c :: digits).length := by
            rw [Nat.mul_assoc, Nat.mul_comm 10]
            rfl

/-- A number has no more digits than it is written with. -/
theorem length_toDigits_le {digits : List Char} (written : IsDigits digits) :
    (Nat.toDigits 10 (Nat.ofDigitChars 10 digits 0)).length ≤ digits.length := by
  obtain ⟨some, all⟩ := written
  have bound := ofDigitChars_lt all 0
  rw [Nat.zero_add, Nat.one_mul] at bound
  exact (Nat.length_toDigits_le_iff (by decide) (List.length_pos_iff.mpr some)).mpr bound

/-- A check of each character of a list.  Deciding the statement itself might go through all
characters there are. -/
theorem forall_mem_of_all {kind : Char → Prop} [DecidablePred kind] {chars : List Char}
    (all : (chars.all fun c => kind c) = true) : ∀ c ∈ chars, kind c := fun c member =>
  of_decide_eq_true (List.all_eq_true.mp all c member)

theorem digit_cases {c : Char} (digit : c.isDigit = true) :
    c ∈ ['0', '1', '2', '3', '4', '5', '6', '7', '8', '9'] := by
  have bounds : 48 ≤ c.toNat ∧ c.toNat ≤ 57 := Char.isDigit_iff_toNat.mp digit
  have code : c = Char.ofNat c.toNat := (Char.ofNat_toNat c).symm
  generalize c.toNat = n at bounds code
  subst code
  have cases : n = 48 ∨ n = 49 ∨ n = 50 ∨ n = 51 ∨ n = 52 ∨ n = 53 ∨ n = 54 ∨ n = 55 ∨ n = 56 ∨
      n = 57 := by omega
  rcases cases with rfl | rfl | rfl | rfl | rfl | rfl | rfl | rfl | rfl | rfl <;> decide

theorem digit_facts {c : Char} (digit : c.isDigit = true) :
    lowerChar c = c ∧ digitValue? c = some (c.toNat - '0'.toNat) ∧ multiplierPower? c = none ∧
      c ∉ ['-', '.', 'b', 'd', 'e', 'l', 'x', 'X'] := by
  have all : ∀ c ∈ ['0', '1', '2', '3', '4', '5', '6', '7', '8', '9'], lowerChar c = c ∧
      digitValue? c = some (c.toNat - '0'.toNat) ∧ multiplierPower? c = none ∧
      c ∉ ['-', '.', 'b', 'd', 'e', 'l', 'x', 'X'] :=
    forall_mem_of_all (by decide)
  exact all c (digit_cases digit)

/-- What the scanners ask of a boundary. -/
theorem boundary_facts {c : Char} (boundary : c ∈ boundaries) :
    isWordChar c = false ∧ isDecimalDigit c = false ∧ lowerChar c = c ∧
      multiplierPower? c = none ∧ c ∉ ['\'', '.', ':', '[', 'd', 'e', 'E', 'l', 'x', 'X'] := by
  have all : ∀ c ∈ boundaries, isWordChar c = false ∧ isDecimalDigit c = false ∧ lowerChar c = c ∧
      multiplierPower? c = none ∧ c ∉ ['\'', '.', ':', '[', 'd', 'e', 'E', 'l', 'x', 'X'] :=
    forall_mem_of_all (by decide)
  exact all c boundary

theorem GoesOn.dropWhile {text : List Char} (goes : GoesOn marks text) {kind : Char → Bool}
    (other : ∀ c ∈ marks, kind c = false) : text.dropWhile kind = text := by
  cases text with
  | nil => rfl
  | cons c rest => rw [List.dropWhile_cons_of_neg (by simp [other c goes.head])]

theorem GoesOn.afterChar {text : List Char} (goes : GoesOn marks text) {wanted : Char}
    (other : wanted ∉ marks) : afterChar wanted text = none := by
  cases text with
  | nil => rfl
  | cons c rest =>
      refine if_neg fun same => other ?_
      rw [← same]
      exact goes.head

theorem skipTypeSuffix_bounded {text : List Char} (bounded : Bounded text) :
    skipTypeSuffix text = text := by
  cases text with
  | nil => rfl
  | cons c rest =>
      obtain ⟨-, -, lower, -, noSuffix⟩ := boundary_facts bounded.head
      rw [skipTypeSuffix, lower, if_neg]
      rintro (rfl | rfl) <;> simp at noSuffix

theorem skipMultiplier_bounded {text : List Char} (bounded : Bounded text) :
    skipMultiplier text = text := by
  match text, bounded with
  | [], _ => rfl
  | [_], _ => rfl
  | c :: b :: rest, bounded =>
      obtain ⟨-, -, lower, noPower, -⟩ := boundary_facts bounded.head
      rw [skipMultiplier, lower, noPower, if_neg]
      simp

/-- What may follow the digits of an integer: a suffix, or a boundary. -/
def numberEnds : List Char :=
  ['l', 'k', 'm', 'g', 't', 'p'] ++ boundaries

theorem numberEnd_facts {c : Char} (ends : c ∈ numberEnds) :
    isDecimalDigit c = false ∧ c ∉ ['.', 'e', 'E', 'x', 'X'] := by
  have all : ∀ c ∈ numberEnds, isDecimalDigit c = false ∧ c ∉ ['.', 'e', 'E', 'x', 'X'] :=
    forall_mem_of_all (by decide)
  exact all c ends

theorem Bounded.ends {text : List Char} (bounded : Bounded text) : GoesOn numberEnds text :=
  bounded.mono fun _ boundary => List.mem_append_right _ boundary

theorem skipExponent_ends {text : List Char} (ends : GoesOn numberEnds text) :
    skipExponent text = text := by
  match text, ends with
  | [], _ => rfl
  | [_], _ => rfl
  | c :: sign :: rest, ends =>
      have noExponent := (numberEnd_facts ends.head).2
      rw [skipExponent, if_neg]
      rintro (rfl | rfl) <;> simp at noExponent

theorem isDecimalDigit_digit {c : Char} (digit : c.isDigit = true) : isDecimalDigit c = true := by
  rw [isDecimalDigit, (digit_facts digit).2.1]
  rfl

theorem afterSome_append {kind : Char → Bool} {text after : List Char} (begun : text ≠ [])
    (all : ∀ c ∈ text, kind c = true) (stops : after.dropWhile kind = after) :
    afterSome kind (text ++ after) = some after := by
  cases text with
  | nil => exact absurd rfl begun
  | cons c text =>
      obtain ⟨first, later⟩ := List.forall_mem_cons.mp all
      rw [List.cons_append, afterSome, if_pos first, List.dropWhile_append_of_pos later, stops]

theorem afterSome_digits {digits after : List Char} (written : IsDigits digits)
    (ends : GoesOn numberEnds after) : afterSome isDecimalDigit (digits ++ after) = some after :=
  afterSome_append written.1 (fun c member => isDecimalDigit_digit (written.2 c member))
    (ends.dropWhile fun _ mark => (numberEnd_facts mark).1)

theorem afterHexadecimal_single (c : Char) : afterHexadecimal [c] = none := by
  unfold afterHexadecimal
  split
  · next same => exact absurd (List.cons.inj same).2 (List.cons_ne_nil _ _).symm
  · rfl

theorem afterHexadecimal_cons (c x : Char) (rest : List Char) :
    afterHexadecimal (c :: x :: rest) =
      if c = '0' ∧ (x = 'x' ∨ x = 'X') then (afterSome isHexDigit rest).bind afterSuffixes
      else none := by
  by_cases zero : c = '0'
  · subst zero
    simp [afterHexadecimal]
  · rw [if_neg fun both => zero both.1]
    unfold afterHexadecimal
    split
    · next same => exact absurd (List.cons.inj same).1 zero
    · rfl

theorem afterHexadecimal_digits {digits after : List Char} (written : IsDigits digits)
    (ends : GoesOn numberEnds after) : afterHexadecimal (digits ++ after) = none := by
  have noMark : ∀ c x rest, digits ++ after = c :: x :: rest → ¬ (x = 'x' ∨ x = 'X') := by
    intro c x rest same hexadecimal
    have outside : x ∉ ['x', 'X'] := by
      match digits, written with
      | [_], _ =>
          rw [List.singleton_append] at same
          cases same
          have := (numberEnd_facts ends.head).2
          simp_all
      | _ :: _ :: _, ⟨_, all⟩ =>
          cases same
          have := (digit_facts (all x (by simp))).2.2.2
          simp_all
    simp_all
  match text : digits ++ after with
  | [] => rfl
  | [c] => exact afterHexadecimal_single c
  | c :: x :: rest =>
      rw [afterHexadecimal_cons, if_neg fun both => noMark c x rest text both.2]

theorem IsDigits.head {digits : List Char} (written : IsDigits digits) :
    ∃ c rest, digits = c :: rest ∧ c.isDigit = true := by
  obtain ⟨some, all⟩ := written
  cases digits with
  | nil => exact absurd rfl some
  | cons c rest => exact ⟨c, rest, rfl, all c List.mem_cons_self⟩

theorem afterUnsigned_digits {digits after : List Char} (written : IsDigits digits)
    (ends : GoesOn numberEnds after) : afterUnsigned (digits ++ after) = afterSuffixes after := by
  have noFraction : afterFraction (digits ++ after) = none := by
    obtain ⟨c, rest, rfl, digit⟩ := written.head
    have noPoint : c ≠ '.' := by
      rintro rfl
      simp at digit
    rw [afterFraction, List.cons_append, afterChar, if_neg noPoint]
    rfl
  have fraction : afterFraction after = none := by
    rw [afterFraction, ends.afterChar (by decide)]
    rfl
  simp [afterUnsigned, afterHexadecimal_digits written ends, afterDecimal, noFraction,
    afterSome_digits written ends, fraction, skipExponent_ends ends]

def sign (negative : Bool) : List Char :=
  if negative then ['-'] else []

theorem afterNumeral_cons (c : Char) (rest : List Char) :
    afterNumeral (c :: rest) =
      if c = '-' then afterUnsigned rest else afterUnsigned (c :: rest) := by
  split
  · next minus => rw [minus, afterNumeral]
  · next other =>
      rw [afterNumeral]
      exact fun _ same => other (List.cons.inj same).1

theorem afterNumeral_sign {text : List Char} (unsigned : text.head? ≠ some '-')
    (begun : text ≠ []) (negative : Bool) :
    afterNumeral (sign negative ++ text) = afterUnsigned text := by
  cases negative with
  | true => rfl
  | false =>
      cases text with
      | nil => exact absurd rfl begun
      | cons c rest =>
          exact (afterNumeral_cons c rest).trans (if_neg fun minus => unsigned (by simpa))

/-- A numeral begins with a digit or a minus sign, and so with no mark of anything else. -/
theorem numeral_head {digits : List Char} (written : IsDigits digits) (negative : Bool) :
    ∃ c rest, sign negative ++ digits = c :: rest ∧
      c ∈ ['-', '0', '1', '2', '3', '4', '5', '6', '7', '8', '9'] := by
  cases negative with
  | true => exact ⟨'-', digits, rfl, List.mem_cons_self⟩
  | false =>
      obtain ⟨c, rest, same, digit⟩ := written.head
      exact ⟨c, rest, same, List.mem_cons_of_mem _ (digit_cases digit)⟩

theorem splitMultiplier_plain {text : List Char} (plain : ∀ c ∈ text, multiplierPower? c = none) :
    splitMultiplier text = (text, 0) := by
  unfold splitMultiplier
  split
  · next c before same =>
      have member : c ∈ text := List.mem_reverse.mp (by simp [same])
      rw [plain c member]
  · rfl

theorem digitValues_digits {digits : List Char} (written : IsDigits digits) :
    digitValues digits = digits.map fun c => c.toNat - '0'.toNat := by
  obtain ⟨-, all⟩ := written
  induction digits with
  | nil => rfl
  | cons c digits ih =>
      obtain ⟨first, later⟩ := List.forall_mem_cons.mp all
      rw [digitValues, List.filterMap_cons_some (digit_facts first).2.1, List.map_cons]
      exact congrArg _ (ih later)

theorem IsDigits.not_mem {digits : List Char} (written : IsDigits digits) {c : Char}
    (other : c.isDigit = false) : c ∉ digits := fun member => by
  rw [written.2 c member] at other
  cases other

/-- A truth value as the variable that always has it. -/
def constantText (value : Bool) : List Char :=
  if value then ['$', 't', 'r', 'u', 'e'] else ['$', 'f', 'a', 'l', 's', 'e']

theorem afterVariable_constant (value : Bool) {after : List Char} (bounded : Bounded after) :
    afterVariable (constantText value ++ after) = some after := by
  have stops : after.dropWhile isWordChar = after :=
    bounded.dropWhile fun c boundary => (boundary_facts boundary).1
  have unscoped : afterChar ':' after = none := bounded.afterChar (by decide)
  cases value <;>
    simp [constantText, afterVariable, afterScopedName, afterMemberName, isNameStart, afterSome,
      isWordChar, stops, unscoped]

end ScriptAudit.Syntax.Lexeme
