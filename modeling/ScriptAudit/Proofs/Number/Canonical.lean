import Mathlib.Algebra.Order.Field.Power
import Mathlib.Algebra.Order.Field.Rat
import Mathlib.Tactic.Linarith
import ScriptAudit.Syntax.Lexeme.Numeral

namespace ScriptAudit

/-! The one form of a double-precision number.

Rounding a ratio gives a number in this form, and so do the operations on numbers and the reading of
a number from a text. -/

namespace Number

theorem roundRatio_le {numerator denominator bound : Nat}
    (below : numerator / denominator < bound) : roundRatio numerator denominator ≤ bound := by
  unfold roundRatio
  dsimp only
  split <;> omega

theorem le_roundRatio (numerator denominator : Nat) :
    numerator / denominator ≤ roundRatio numerator denominator := by
  unfold roundRatio
  dsimp only
  split <;> omega

theorem scaleRatio_pos {numerator denominator : Nat} (positive : 0 < denominator) (power : Int) :
    0 < (scaleRatio numerator denominator power).2 := by
  unfold scaleRatio
  split
  · exact positive
  · exact Nat.mul_pos positive (Nat.pow_pos (by decide))

theorem scaleRatio_eq (numerator denominator : Nat) (power : Int) :
    ((scaleRatio numerator denominator power).1 : ℚ) / (scaleRatio numerator denominator power).2 =
      numerator / denominator * 2 ^ power := by
  unfold scaleRatio
  split
  · next natural =>
      obtain ⟨power, rfl⟩ := Int.eq_ofNat_of_zero_le natural
      rw [Int.toNat_natCast, Nat.pow_eq, zpow_natCast]
      push_cast
      exact (div_mul_eq_mul_div _ _ _).symm
  · next below =>
      obtain ⟨power, rfl⟩ : ∃ shift : Nat, power = -shift := ⟨(-power).toNat, by omega⟩
      rw [neg_neg, Int.toNat_natCast, Nat.pow_eq, zpow_neg, zpow_natCast]
      push_cast
      rw [div_mul_eq_div_div, div_eq_mul_inv _ ((2 : ℚ) ^ power)]

section Ratios

variable {numerator denominator bound : Nat} {exponent : Int}

theorem scaleRatio_div_lt (positive : 0 < denominator) (power : Int) :
    (scaleRatio numerator denominator power).1 /
        (scaleRatio numerator denominator power).2 < bound ↔
      (numerator : ℚ) / denominator * 2 ^ power < bound := by
  have scaled : (0 : ℚ) < (scaleRatio numerator denominator power).2 := by
    exact_mod_cast scaleRatio_pos positive power
  rw [← scaleRatio_eq, div_lt_iff₀ scaled, Nat.div_lt_iff_lt_mul (scaleRatio_pos positive power)]
  norm_cast

theorem le_scaleRatio_div (positive : 0 < denominator) (power : Int) :
    bound ≤ (scaleRatio numerator denominator power).1 /
        (scaleRatio numerator denominator power).2 ↔
      (bound : ℚ) ≤ numerator / denominator * 2 ^ power := by
  rw [← not_lt, scaleRatio_div_lt positive, not_lt]

/-- A ratio lies between two powers of two that the sizes of its parts tell. -/
theorem ratio_bounds (positive : 0 < numerator) (positive' : 0 < denominator) :
    (2 : ℚ) ^ ((numerator.log2 : Int) - denominator.log2 - 1) ≤ numerator / denominator ∧
      (numerator : ℚ) / denominator < 2 ^ ((numerator.log2 : Int) - denominator.log2 + 1) := by
  have known : (2 : ℚ) ^ (numerator.log2 : Int) ≤ numerator := by
    exact_mod_cast Nat.log2_self_le positive.ne'
  have known' : (2 : ℚ) ^ (denominator.log2 : Int) ≤ denominator := by
    exact_mod_cast Nat.log2_self_le positive'.ne'
  have above : (numerator : ℚ) < 2 ^ ((numerator.log2 : Int) + 1) := by
    exact_mod_cast Nat.lt_log2_self (n := numerator)
  have above' : (denominator : ℚ) < 2 ^ ((denominator.log2 : Int) + 1) := by
    exact_mod_cast Nat.lt_log2_self (n := denominator)
  have divisor : (0 : ℚ) < denominator := by exact_mod_cast positive'
  constructor
  · rw [le_div_iff₀ divisor]
    calc (2 : ℚ) ^ ((numerator.log2 : Int) - denominator.log2 - 1) * denominator
      _ ≤ 2 ^ ((numerator.log2 : Int) - denominator.log2 - 1) *
          2 ^ ((denominator.log2 : Int) + 1) := by gcongr
      _ = 2 ^ (numerator.log2 : Int) := by
          rw [← zpow_add₀ two_ne_zero]
          congr 1
          omega
      _ ≤ numerator := known
  · rw [div_lt_iff₀ divisor]
    calc (numerator : ℚ)
      _ < 2 ^ ((numerator.log2 : Int) + 1) := above
      _ = 2 ^ ((numerator.log2 : Int) - denominator.log2 + 1) * 2 ^ (denominator.log2 : Int) := by
          rw [← zpow_add₀ two_ne_zero]
          congr 1
          omega
      _ ≤ 2 ^ ((numerator.log2 : Int) - denominator.log2 + 1) * denominator := by gcongr

end Ratios

namespace Binary64

/-- The mantissa is below its limit, and not below the least one unless the exponent is the least.
A nan has no such form. -/
def Canonical : Binary64 → Prop
  | finite _ mantissa exponent =>
      mantissa < mantissaLimit ∧ leastExponent ≤ exponent ∧ exponent ≤ greatestExponent ∧
        (exponent = leastExponent ∨ leastMantissa ≤ mantissa)
  | infinite _ => True
  | nan _ => False

instance : DecidablePred Canonical
  | finite .. => inferInstanceAs (Decidable (_ ∧ _ ∧ _ ∧ _))
  | infinite _ => inferInstanceAs (Decidable True)
  | nan _ => inferInstanceAs (Decidable False)

theorem mantissaLimit_eq : (mantissaLimit : ℚ) = 2 ^ (53 : Int) := by
  norm_num [mantissaLimit]

theorem leastMantissa_eq : (leastMantissa : ℚ) = 2 ^ (52 : Int) := by
  norm_num [leastMantissa]

section Rounding

variable {numerator denominator : Nat} {exponent : Int}

theorem ratio_lt_limit (positive : 0 < numerator) (positive' : 0 < denominator)
    (large : (numerator.log2 : Int) - denominator.log2 - 52 ≤ exponent) :
    (numerator : ℚ) / denominator * 2 ^ (-exponent) < mantissaLimit := by
  rw [mantissaLimit_eq]
  calc (numerator : ℚ) / denominator * 2 ^ (-exponent)
    _ < 2 ^ ((numerator.log2 : Int) - denominator.log2 + 1) * 2 ^ (-exponent) := by
        gcongr
        exact (ratio_bounds positive positive').2
    _ = 2 ^ ((numerator.log2 : Int) - denominator.log2 + 1 - exponent) := by
        rw [← zpow_add₀ two_ne_zero, sub_eq_add_neg _ exponent]
    _ ≤ 2 ^ (53 : Int) := zpow_le_zpow_right₀ one_le_two (by omega)

theorem least_le_ratio (positive : 0 < numerator) (positive' : 0 < denominator)
    (small : exponent ≤ (numerator.log2 : Int) - denominator.log2 - 53) :
    (leastMantissa : ℚ) ≤ numerator / denominator * 2 ^ (-exponent) := by
  rw [leastMantissa_eq]
  calc (2 : ℚ) ^ (52 : Int)
    _ ≤ 2 ^ ((numerator.log2 : Int) - denominator.log2 - 1 - exponent) :=
        zpow_le_zpow_right₀ one_le_two (by omega)
    _ = 2 ^ ((numerator.log2 : Int) - denominator.log2 - 1) * 2 ^ (-exponent) := by
        rw [← zpow_add₀ two_ne_zero, sub_eq_add_neg _ exponent]
    _ ≤ numerator / denominator * 2 ^ (-exponent) := by
        gcongr
        exact (ratio_bounds positive positive').1

theorem least_le_half {value : ℚ} (large : (mantissaLimit : ℚ) ≤ value * 2 ^ (-exponent)) :
    (leastMantissa : ℚ) ≤ value * 2 ^ (-(exponent + 1)) := by
  have halves : value * 2 ^ (-exponent) = value * 2 ^ (-(exponent + 1)) * 2 := by
    rw [mul_assoc, ← zpow_add_one₀ two_ne_zero]
    congr 2
    omega
  have parts : (mantissaLimit : ℚ) = leastMantissa * 2 := by
    norm_num [mantissaLimit, leastMantissa]
  linarith

theorem ofMantissa_canonical (negative : Bool) {mantissa : Nat} {exponent : Int}
    (limited : mantissa < mantissaLimit) (least : leastExponent ≤ exponent)
    (normal : exponent = leastExponent ∨ leastMantissa ≤ mantissa) :
    (ofMantissa negative mantissa exponent).Canonical := by
  unfold ofMantissa
  split
  · trivial
  · next inside => exact ⟨limited, least, Int.not_lt.mp inside, normal⟩

theorem zero_canonical (negative : Bool) : (finite negative 0 leastExponent).Canonical :=
  ⟨by decide, by decide, by decide, .inl rfl⟩

theorem ofRatio_canonical (negative : Bool) (numerator : Nat) (positive : 0 < denominator) :
    (ofRatio negative numerator denominator).Canonical := by
  unfold ofRatio
  split
  · exact zero_canonical negative
  next nonzero =>
  have positive' := Nat.pos_of_ne_zero nonzero
  dsimp only
  set guess := max leastExponent ((numerator.log2 : Int) - denominator.log2 - 53) with guessed
  set exponent := if (scaleRatio numerator denominator (-guess)).1 /
      (scaleRatio numerator denominator (-guess)).2 < mantissaLimit then guess else guess + 1
    with chosen
  -- The guess is the exponent that is wanted, or one below it.
  have least : leastExponent ≤ exponent := by
    rw [chosen]
    split <;> omega
  have limited : (scaleRatio numerator denominator (-exponent)).1 /
      (scaleRatio numerator denominator (-exponent)).2 < mantissaLimit := by
    rw [chosen]
    split
    · next fine => exact fine
    · exact (scaleRatio_div_lt positive _).mpr (ratio_lt_limit positive' positive (by omega))
  have normal : exponent = leastExponent ∨ leastMantissa ≤
      (scaleRatio numerator denominator (-exponent)).1 /
        (scaleRatio numerator denominator (-exponent)).2 := by
    rw [le_scaleRatio_div positive, chosen]
    split
    · by_cases lowest : guess = leastExponent
      · exact .inl lowest
      · exact .inr (least_le_ratio positive' positive (by omega))
    · next coarse =>
        rw [not_lt, le_scaleRatio_div positive] at coarse
        exact .inr (least_le_half coarse)
  have rounded := roundRatio_le limited
  have kept := le_roundRatio (scaleRatio numerator denominator (-exponent)).1
    (scaleRatio numerator denominator (-exponent)).2
  split
  · exact ofMantissa_canonical negative (by decide) (by omega) (.inr le_rfl)
  · next apart =>
      exact ofMantissa_canonical negative (by omega) least
        (normal.imp_right fun large => large.trans kept)

end Rounding

theorem ofDecimal_canonical (negative : Bool) (digits : Nat) (power : Int) :
    (ofDecimal negative digits power).Canonical := by
  unfold ofDecimal
  dsimp only
  split_ifs
  · exact zero_canonical negative
  · trivial
  · exact ofRatio_canonical negative _ Nat.one_pos
  · exact ofRatio_canonical negative _ (Nat.pow_pos (by decide))

theorem scale_canonical {number : Binary64} (canonical : number.Canonical) (power : Int) :
    (number.scale power).Canonical := by
  cases number with
  | finite => exact ofRatio_canonical _ _ (scaleRatio_pos Nat.one_pos _)
  | infinite | nan => exact canonical

theorem negate_canonical {number : Binary64} (canonical : number.Canonical) :
    number.negate.Canonical := by
  cases number <;> exact canonical

end Binary64

def Canonical : Number → Prop
  | integer _ => True
  | real value => value.Canonical

instance : DecidablePred Canonical
  | integer _ => inferInstanceAs (Decidable True)
  | real value => inferInstanceAs (Decidable value.Canonical)

theorem Canonical.isNan {number : Number} (canonical : number.Canonical) :
    number.isNan = false := by
  fun_cases Number.isNan number with
  | case1 object => exact canonical.elim
  | case2 => rfl

theorem Canonical.scale {number : Number} (canonical : number.Canonical) (power : Nat) :
    (number.scale power).Canonical := by
  cases number with
  | integer value => trivial
  | real value => exact Binary64.scale_canonical canonical power

theorem Canonical.negate {number : Number} (canonical : number.Canonical) :
    number.negate.Canonical := by
  cases number with
  | integer value => trivial
  | real value => exact Binary64.negate_canonical canonical

end Number

open Syntax.Lexeme

theorem Syntax.Lexeme.unsignedValue_canonical (text : List Char) :
    (unsignedValue text).Canonical := by
  unfold unsignedValue
  split
  · trivial
  · unfold decimalValue
    extract_lets real bare
    split
    · exact Number.Binary64.ofDecimal_canonical ..
    · trivial

/-- Every text of a number has a canonical value. -/
theorem Syntax.Lexeme.numeralValue_canonical (text : List Char) :
    (numeralValue text).Canonical := by
  unfold numeralValue
  dsimp only
  split
  · exact ((unsignedValue_canonical _).scale _).negate
  · exact (unsignedValue_canonical _).scale _

end ScriptAudit
