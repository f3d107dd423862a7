import Mathlib.Data.List.Basic
import ScriptAudit.Proofs.Syntax.Numeral

namespace ScriptAudit.Syntax.Lexeme

/-! Integers as they are written, and what they are worth.

Some letters are digits of a hexadecimal integer and suffixes of other numbers: `0x1d` ends in a
digit.  The suffixes of an integer, an `l` and a multiplier, begin with a letter that is none. -/

open Text

inductive Radix where
  | decimal
  | hexadecimal
deriving DecidableEq

namespace Radix

def mark : Radix → List Char
  | decimal => []
  | hexadecimal => ['0', 'x']

/-- The digits in lower case, each at the place that its value says. -/
def digits : Radix → List Char
  | decimal => ['0', '1', '2', '3', '4', '5', '6', '7', '8', '9']
  | hexadecimal =>
      ['0', '1', '2', '3', '4', '5', '6', '7', '8', '9', 'a', 'b', 'c', 'd', 'e', 'f']

end Radix

inductive Multiplier where
  | kilo
  | mega
  | giga
  | tera
  | peta

namespace Multiplier

def letter : Multiplier → Char
  | kilo => 'k'
  | mega => 'm'
  | giga => 'g'
  | tera => 't'
  | peta => 'p'

/-- The power of 1024 that the multiplier stands for. -/
def power : Multiplier → Nat
  | kilo => 1
  | mega => 2
  | giga => 3
  | tera => 4
  | peta => 5

end Multiplier

def multiplierText : Option Multiplier → List Char
  | some multiplier => [multiplier.letter, 'b']
  | none => []

def longMark (long : Bool) : List Char :=
  if long then ['l'] else []

/-- An integer taken apart as it is written. -/
structure IntegerLiteral where
  negative : Bool
  radix : Radix
  digits : List Char
  written : digits ≠ []
  known : ∀ c ∈ digits, c ∈ radix.digits
  long : Bool
  multiplier : Option Multiplier

namespace IntegerLiteral

/-- The integer without sign and multiplier, in lower case. -/
def magnitudeText (literal : IntegerLiteral) : List Char :=
  literal.radix.mark ++ literal.digits ++ longMark literal.long

/-- The integer in lower case. -/
def text (literal : IntegerLiteral) : List Char :=
  sign literal.negative ++ literal.magnitudeText ++ multiplierText literal.multiplier

def numeral (literal : IntegerLiteral) : Nat :=
  ofDigits literal.radix.digits.length (literal.digits.map literal.radix.digits.idxOf)

def value (literal : IntegerLiteral) : Int :=
  Number.Binary64.signed literal.negative literal.numeral *
    Nat.pow 1024 (literal.multiplier.elim 0 Multiplier.power)

/-- The text is the integer with each letter in either case. -/
def Spells (literal : IntegerLiteral) (text : List Char) : Prop :=
  text.map Char.toLower = literal.text

end IntegerLiteral

/-! How far an integer is read. -/

theorem afterSuffixes_integer (long : Bool) (multiplier : Option Multiplier) :
    afterSuffixes (longMark long ++ multiplierText multiplier) = some [] := by
  cases long <;> rcases multiplier with _ | _ | _ | _ | _ | _ <;> rfl

theorem integerSuffix_goesOn (long : Bool) (multiplier : Option Multiplier) :
    GoesOn ['l', 'k', 'm', 'g', 't', 'p'] (longMark long ++ multiplierText multiplier) := by
  cases long <;> rcases multiplier with _ | _ | _ | _ | _ | _ <;>
    first | exact goesOn_nil | exact goesOn_cons _ (by decide)

theorem decimal_digit {c : Char} (known : c ∈ Radix.decimal.digits) :
    c.isDigit = true ∧ Radix.decimal.digits.idxOf c = c.toNat - '0'.toNat := by
  have all : ∀ c ∈ Radix.decimal.digits,
      c.isDigit = true ∧ Radix.decimal.digits.idxOf c = c.toNat - '0'.toNat :=
    forall_mem_of_all (by decide)
  exact all c known

theorem hexadecimal_digit {c : Char} (known : c ∈ Radix.hexadecimal.digits) :
    hexValue? c = some (Radix.hexadecimal.digits.idxOf c) := by
  have all : ∀ c ∈ Radix.hexadecimal.digits,
      hexValue? c = some (Radix.hexadecimal.digits.idxOf c) :=
    forall_mem_of_all (by decide)
  exact all c known

/-- What is asked of the characters of an integer in front of its multiplier. -/
theorem magnitude_facts {c : Char} (known : c ∈ '-' :: 'x' :: 'l' :: Radix.hexadecimal.digits) :
    lowerChar c = c ∧ multiplierPower? c = none := by
  have all : ∀ c ∈ '-' :: 'x' :: 'l' :: Radix.hexadecimal.digits,
      lowerChar c = c ∧ multiplierPower? c = none :=
    forall_mem_of_all (by decide)
  exact all c known

theorem unsignedValue_digits {digits : List Char} (written : IsDigits digits) (long : Bool) :
    unsignedValue (digits ++ longMark long) = .integer (Nat.ofDigitChars 10 digits 0 : Nat) := by
  have other : ∀ c, c.isDigit = false → c ≠ 'l' → c ∉ digits ++ longMark long := by
    intro c noDigit noMark member
    rcases List.mem_append.mp member with digit | mark
    · exact written.not_mem noDigit digit
    · cases long <;> simp_all [longMark]
  have noReal : (digits ++ longMark long).getLast? ≠ some 'd' := fun same =>
    other 'd' rfl (by decide) (List.mem_of_getLast? same)
  have bare : (if (digits ++ longMark long).getLast? = some 'd' ∨
      (digits ++ longMark long).getLast? = some 'l' then (digits ++ longMark long).dropLast
      else digits ++ longMark long) = digits := by
    cases long with
    | true => simp [longMark]
    | false =>
        have noMark : digits.getLast? ≠ some 'l' := fun same =>
          written.not_mem rfl (List.mem_of_getLast? same)
        rw [longMark, if_neg Bool.false_ne_true, List.append_nil] at noReal ⊢
        exact if_neg (not_or.mpr ⟨noReal, noMark⟩)
  have whole : digits.contains '.' = false ∧ digits.contains 'e' = false := by
    simp [written.not_mem]
  unfold unsignedValue
  split
  · next same => exact absurd (by simp [same]) (other 'x' rfl (by decide))
  · rw [decimalValue, bare, whole.1, whole.2, digitValues_digits written, ofDigits_digits, if_neg]
    simpa using noReal

namespace IntegerLiteral

variable (literal : IntegerLiteral)

theorem isDigits (decimal : literal.radix = .decimal) : IsDigits literal.digits :=
  ⟨literal.written, fun c member => (decimal_digit (decimal ▸ literal.known c member)).1⟩

theorem afterUnsigned_eq :
    afterUnsigned (literal.magnitudeText ++ multiplierText literal.multiplier) = some [] := by
  have suffixed := integerSuffix_goesOn literal.long literal.multiplier
  rw [magnitudeText, List.append_assoc, List.append_assoc]
  cases radix : literal.radix with
  | decimal =>
      have ends : GoesOn numberEnds (longMark literal.long ++ multiplierText literal.multiplier) :=
        suffixed.mono fun _ member => List.mem_append_left _ member
      exact (afterUnsigned_digits (literal.isDigits radix) ends).trans
        (afterSuffixes_integer _ _)
  | hexadecimal =>
      have digits : afterSome isHexDigit
          (literal.digits ++ (longMark literal.long ++ multiplierText literal.multiplier)) =
            some (longMark literal.long ++ multiplierText literal.multiplier) := by
        refine afterSome_append literal.written (fun c member => ?_)
          (suffixed.dropWhile (forall_mem_of_all (by decide)))
        rw [isHexDigit, hexadecimal_digit (radix ▸ literal.known c member)]
        rfl
      change afterUnsigned ('0' :: 'x' :: (literal.digits ++ _)) = _
      rw [afterUnsigned, afterHexadecimal_cons, if_pos ⟨rfl, .inl rfl⟩, digits, Option.bind_some,
        afterSuffixes_integer]
      rfl

theorem mem_magnitudeText {c : Char} (member : c ∈ literal.magnitudeText) :
    c ∈ 'x' :: 'l' :: Radix.hexadecimal.digits := by
  have marks : ∀ radix : Radix, ∀ c ∈ radix.mark ++ radix.digits,
      c ∈ 'x' :: 'l' :: Radix.hexadecimal.digits := by
    rintro (_ | _) <;> exact forall_mem_of_all (by decide)
  have long : ∀ long, ∀ c ∈ longMark long, c ∈ 'x' :: 'l' :: Radix.hexadecimal.digits := by
    rintro (_ | _) <;> exact forall_mem_of_all (by decide)
  rcases List.mem_append.mp member with front | last
  · rcases List.mem_append.mp front with mark | digit
    · exact marks _ c (List.mem_append_left _ mark)
    · exact marks _ c (List.mem_append_right _ (literal.known c digit))
  · exact long _ c last

theorem minus_not_mem : '-' ∉ literal.magnitudeText := fun member =>
  absurd (literal.mem_magnitudeText member) (by decide)

theorem magnitudeText_ne_nil : literal.magnitudeText ≠ [] := by
  simp [magnitudeText, literal.written]

theorem afterNumeral_text : afterNumeral literal.text = some [] := by
  have read := literal.afterUnsigned_eq
  rw [text, List.append_assoc]
  cases magnitude : literal.magnitudeText with
  | nil => exact absurd magnitude literal.magnitudeText_ne_nil
  | cons c rest =>
      have noMinus : c ≠ '-' := fun minus => literal.minus_not_mem (by simp [magnitude, minus])
      rw [magnitude] at read
      rw [afterNumeral_sign (by simpa) (by simp), read]

/-! What an integer is worth. -/

theorem lower_text : literal.text.map lowerChar = literal.text := by
  have multiplier : ∀ multiplier : Option Multiplier,
      (multiplierText multiplier).map lowerChar = multiplierText multiplier := by
    rintro (_ | _ | _ | _ | _ | _) <;> rfl
  have magnitude : literal.magnitudeText.map lowerChar = literal.magnitudeText := by
    refine (List.map_congr_left fun c member => ?_).trans (List.map_id _)
    exact (magnitude_facts (List.mem_cons_of_mem _ (literal.mem_magnitudeText member))).1
  have signed : (sign literal.negative).map lowerChar = sign literal.negative := by
    cases literal.negative <;> rfl
  rw [text, List.map_append, List.map_append, signed, magnitude, multiplier]

theorem splitMultiplier_text :
    splitMultiplier literal.text = (sign literal.negative ++ literal.magnitudeText,
      10 * literal.multiplier.elim 0 Multiplier.power) := by
  have plain : ∀ c ∈ sign literal.negative ++ literal.magnitudeText, multiplierPower? c = none := by
    intro c member
    rcases List.mem_append.mp member with signed | magnitude
    · cases negative : literal.negative <;> simp_all [sign, multiplierPower?]
    · exact (magnitude_facts (List.mem_cons_of_mem _ (literal.mem_magnitudeText magnitude))).2
  cases scaled : literal.multiplier with
  | none =>
      rw [text, scaled]
      change splitMultiplier (_ ++ []) = _
      rw [List.append_nil]
      exact splitMultiplier_plain plain
  | some multiplier =>
      rw [text, scaled]
      cases multiplier <;> simp [splitMultiplier, multiplierText, Multiplier.letter,
        Multiplier.power, multiplierPower?]

theorem numeral_decimal (decimal : literal.radix = .decimal) :
    literal.numeral = Nat.ofDigitChars 10 literal.digits 0 := by
  have digits : literal.digits.map literal.radix.digits.idxOf =
      literal.digits.map fun c => c.toNat - '0'.toNat :=
    List.map_congr_left fun c member => by
      rw [decimal]
      exact (decimal_digit (decimal ▸ literal.known c member)).2
  rw [numeral, digits, decimal]
  exact ofDigits_digits _

theorem unsignedValue_magnitudeText :
    unsignedValue literal.magnitudeText = .integer (literal.numeral : Nat) := by
  cases radix : literal.radix with
  | decimal =>
      have unmarked : literal.magnitudeText = literal.digits ++ longMark literal.long := by
        rw [magnitudeText, radix]
        rfl
      rw [unmarked, unsignedValue_digits (literal.isDigits radix), literal.numeral_decimal radix]
  | hexadecimal =>
      have digits : (literal.digits ++ longMark literal.long).filterMap hexValue? =
          literal.digits.map literal.radix.digits.idxOf := by
        have unmarked : (longMark literal.long).filterMap hexValue? = [] := by
          cases literal.long <;> rfl
        rw [List.filterMap_append, unmarked, List.append_nil, radix]
        exact List.filterMap_eq_map_iff_forall_eq_some.mpr fun c member =>
          hexadecimal_digit (radix ▸ literal.known c member)
      have marked : literal.magnitudeText =
          '0' :: 'x' :: (literal.digits ++ longMark literal.long) := by
        rw [magnitudeText, List.append_assoc, radix]
        rfl
      rw [marked, unsignedValue, digits, numeral, radix]
      rfl

end IntegerLiteral

namespace IntegerLiteral.Spells

variable {literal : IntegerLiteral} {text : List Char}

theorem afterNumeral_eq (spelled : literal.Spells text) : afterNumeral text = some [] := by
  have lower := afterNumeral_toLower text
  rw [spelled, literal.afterNumeral_text] at lower
  obtain ⟨rest, read, none⟩ := Option.map_eq_some_iff.mp lower.symm
  rw [read, List.map_eq_nil_iff.mp none]

theorem lower_eq (spelled : literal.Spells text) : text.map lowerChar = literal.text := by
  rw [← literal.lower_text, ← spelled, List.map_map]
  exact List.map_congr_left fun c _ => (alike_toLower c).lower.symm

theorem numeralValue_eq (spelled : literal.Spells text) :
    numeralValue text = .integer literal.value := by
  have scaled : Nat.pow 2 (10 * literal.multiplier.elim 0 Multiplier.power) =
      Nat.pow 1024 (literal.multiplier.elim 0 Multiplier.power) :=
    Nat.pow_mul 2 10 _
  rw [numeralValue, spelled.lower_eq, literal.splitMultiplier_text]
  dsimp only
  cases negative : literal.negative with
  | true =>
      change ((unsignedValue literal.magnitudeText).scale _).negate = _
      rw [literal.unsignedValue_magnitudeText, Number.scale, Number.negate, scaled,
        IntegerLiteral.value, negative]
      exact congrArg Number.integer (Int.neg_mul _ _).symm
  | false =>
      have unsigned : sign false ++ literal.magnitudeText = literal.magnitudeText := rfl
      rw [unsigned]
      split
      · next same => exact absurd (by simp [same]) literal.minus_not_mem
      · rw [literal.unsignedValue_magnitudeText, Number.scale, scaled, IntegerLiteral.value,
          negative]
        rfl

/-- A hexadecimal integer has no number of digits that would be too great. -/
theorem integerDigits?_eq (spelled : literal.Spells text) :
    integerDigits? text =
      if literal.radix = .decimal then some literal.digits.length else none := by
  have unsigned : (sign literal.negative ++ literal.magnitudeText).filter (· != '-') =
      literal.magnitudeText := by
    have kept : literal.magnitudeText.filter (· != '-') = literal.magnitudeText :=
      List.filter_eq_self.mpr fun c member => by
        simpa using fun minus : c = '-' => literal.minus_not_mem (minus ▸ member)
    rw [List.filter_append, kept]
    cases literal.negative <;> rfl
  have bare : (if literal.magnitudeText.getLast? = some 'l' then literal.magnitudeText.dropLast
      else literal.magnitudeText) = literal.radix.mark ++ literal.digits := by
    rw [magnitudeText]
    cases literal.long with
    | true => simp [longMark]
    | false =>
        have digit : literal.digits.getLast literal.written ≠ 'l' := fun same =>
          have all : ∀ radix : Radix, 'l' ∉ radix.digits := by
            rintro (_ | _) <;> decide
          all _ (literal.known _ (same ▸ List.getLast_mem literal.written))
        rw [longMark, if_neg Bool.false_ne_true, List.append_nil, if_neg]
        rw [List.getLast?_append_of_ne_nil _ literal.written,
          List.getLast?_eq_some_getLast literal.written]
        simpa
  rw [integerDigits?, spelled.lower_eq, literal.splitMultiplier_text]
  dsimp only
  rw [unsigned, bare]
  cases radix : literal.radix with
  | decimal =>
      have all := (literal.isDigits radix).2
      exact if_pos (List.all_eq_true.mpr fun c member => isDecimalDigit_digit (all c member))
  | hexadecimal => rfl

end IntegerLiteral.Spells

/-! A decimal without suffixes. -/

/-- The integer that is written with these digits. -/
def IsDigits.literal {digits : List Char} (written : IsDigits digits) (negative : Bool) :
    IntegerLiteral where
  negative := negative
  radix := .decimal
  digits := digits
  written := written.1
  known c member := digit_cases (written.2 c member)
  long := false
  multiplier := none

section
variable {digits : List Char} (written : IsDigits digits) (negative : Bool)

include written

theorem spells_digits :
    (written.literal negative).Spells (sign negative ++ digits) := by
  have kept : digits.map Char.toLower = digits := by
    have all : ∀ c ∈ Radix.decimal.digits, c.toLower = c := forall_mem_of_all (by decide)
    exact (List.map_congr_left fun c member => all c (digit_cases (written.2 c member))).trans
      (List.map_id _)
  have plain : (written.literal negative).text = sign negative ++ digits := by
    simp [IntegerLiteral.text, IntegerLiteral.magnitudeText, IsDigits.literal, Radix.mark, longMark,
      multiplierText]
  rw [IntegerLiteral.Spells, plain, List.map_append, kept]
  cases negative <;> rfl

theorem afterNumeral_digits {after : List Char} (bounded : Bounded after) :
    afterNumeral (sign negative ++ digits ++ after) = some after := by
  rw [afterNumeral_append _ bounded, (spells_digits written negative).afterNumeral_eq]
  rfl

theorem numeralValue_digits :
    numeralValue (sign negative ++ digits) = .integer (signedValue negative digits) := by
  rw [(spells_digits written negative).numeralValue_eq, IntegerLiteral.value,
    IntegerLiteral.numeral_decimal _ rfl]
  exact congrArg Number.integer (Int.mul_one _)

theorem integerDigits?_digits : integerDigits? (sign negative ++ digits) = some digits.length :=
  (spells_digits written negative).integerDigits?_eq

end
end ScriptAudit.Syntax.Lexeme
