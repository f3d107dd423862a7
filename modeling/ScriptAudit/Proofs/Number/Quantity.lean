import Mathlib.Tactic.FieldSimp
import ScriptAudit.Proofs.Number.Canonical

namespace ScriptAudit.Number

/-! Numbers by what they stand for.

Two numbers are the same when they stand for the same quantity.  For double-precision numbers this
needs that each has its one form. -/

/-- A rational number, or one of the ends of the line. -/
inductive Quantity where
  | rational (value : ℚ)
  | infinite (negative : Bool)

namespace Binary64

/-- What a number stands for; a nan stands for nothing. -/
def quantity? : Binary64 → Option Quantity
  | finite negative mantissa exponent => some (.rational (signed negative mantissa * 2 ^ exponent))
  | infinite negative => some (.infinite negative)
  | nan _ => none

variable {negative negative' : Bool} {mantissa mantissa' : Nat} {exponent exponent' : Int}

theorem signed_natAbs (negative : Bool) (magnitude : Nat) :
    (signed negative magnitude).natAbs = magnitude := by
  cases negative <;> simp [signed]

/-- The exponent that is below another belongs to a mantissa beyond the limit. -/
theorem Canonical.exponent_le (canonical : (finite negative mantissa exponent).Canonical)
    (canonical' : (finite negative' mantissa' exponent').Canonical)
    (same : (mantissa : ℚ) * 2 ^ exponent = mantissa' * 2 ^ exponent') : exponent' ≤ exponent := by
  by_contra below
  obtain ⟨limited, least, -, -⟩ := canonical
  obtain ⟨-, -, -, isLeast | large⟩ := canonical'
  · omega
  · obtain ⟨shift, rfl⟩ : ∃ shift : Nat, exponent' = exponent + (shift + 1) :=
      ⟨(exponent' - exponent - 1).toNat, by omega⟩
    have shifted : (mantissa : ℚ) = mantissa' * 2 ^ (shift + 1) := by
      have power : (2 : ℚ) ^ exponent ≠ 0 := by positivity
      have parts : (2 : ℚ) ^ (exponent + (shift + 1)) = 2 ^ exponent * 2 ^ (shift + 1) := by
        rw [zpow_add₀ two_ne_zero]
        norm_cast
      rw [parts] at same
      field_simp at same
      linarith
    have shifted : mantissa = mantissa' * 2 ^ (shift + 1) := by exact_mod_cast shifted
    have double : mantissa' * 2 ≤ mantissa := by
      rw [shifted, pow_succ, ← mul_assoc]
      gcongr
      exact Nat.le_mul_of_pos_right _ (by positivity)
    have limit : mantissaLimit = leastMantissa * 2 := by decide
    omega

theorem same_finite (canonical : (finite negative mantissa exponent).Canonical)
    (canonical' : (finite negative' mantissa' exponent').Canonical) :
    (finite negative mantissa exponent).same (finite negative' mantissa' exponent') = true ↔
      (signed negative mantissa * 2 ^ exponent : ℚ) =
        signed negative' mantissa' * 2 ^ exponent' := by
  simp only [same, Bool.and_eq_true, beq_iff_eq, Bool.or_eq_true]
  constructor
  · rintro ⟨rfl, rfl | ⟨rfl, rfl⟩⟩
    · cases negative <;> cases negative' <;> simp [signed]
    · rfl
  · intro equal
    have magnitudes : (mantissa : ℚ) * 2 ^ exponent = mantissa' * 2 ^ exponent' := by
      have absolute := congrArg abs equal
      simpa [abs_mul, ← Int.cast_abs, Int.abs_eq_natAbs, signed_natAbs] using absolute
    obtain rfl : exponent = exponent' :=
      le_antisymm (canonical'.exponent_le canonical magnitudes.symm)
        (canonical.exponent_le canonical' magnitudes)
    have power : (2 : ℚ) ^ exponent ≠ 0 := by positivity
    obtain rfl : mantissa = mantissa' := by exact_mod_cast mul_right_cancel₀ power magnitudes
    have equal : signed negative mantissa = signed negative' mantissa := by
      exact_mod_cast mul_right_cancel₀ power equal
    refine ⟨rfl, ?_⟩
    cases negative <;> cases negative' <;> simp [signed] at equal ⊢ <;> omega

theorem sameInt_finite {value : Int} :
    (finite negative mantissa exponent).sameInt value = true ↔
      (signed negative mantissa * 2 ^ exponent : ℚ) = value := by
  simp only [sameInt]
  split
  · next natural =>
      obtain ⟨power, rfl⟩ := Int.eq_ofNat_of_zero_le natural
      rw [beq_iff_eq, Int.toNat_natCast, zpow_natCast, Nat.pow_eq]
      norm_cast
  · next below =>
      obtain ⟨power, rfl⟩ : ∃ power : Nat, exponent = -power := ⟨(-exponent).toNat, by omega⟩
      rw [beq_iff_eq, neg_neg, Int.toNat_natCast, zpow_neg, zpow_natCast, Nat.pow_eq,
        ← div_eq_mul_inv, div_eq_iff (by positivity)]
      norm_cast

theorem sameInt_iff {number : Binary64} {value : Int} :
    number.sameInt value = true ↔ number.quantity? = some (.rational value) := by
  cases number with
  | finite => rw [sameInt_finite, quantity?, Option.some.injEq, Quantity.rational.injEq]
  | infinite | nan => simp [sameInt, quantity?]

theorem same_iff {first second : Binary64} (canonical : first.Canonical)
    (canonical' : second.Canonical) :
    first.same second = true ↔ first.quantity? = second.quantity? := by
  cases first with
  | finite =>
      cases second with
      | finite =>
          rw [same_finite canonical canonical', quantity?, quantity?, Option.some.injEq,
            Quantity.rational.injEq]
      | infinite => simp [same, quantity?]
      | nan => exact canonical'.elim
  | infinite => cases second <;> simp [same, quantity?]
  | nan => exact canonical.elim

end Binary64

def quantity? : Number → Option Quantity
  | integer value => some (.rational value)
  | real value => value.quantity?

variable {first second third : Number}

/-- Numbers are the same when they stand for the same quantity. -/
theorem same_iff (canonical : first.Canonical) (canonical' : second.Canonical) :
    first.same second = true ↔ first.quantity? = second.quantity? := by
  cases first with
  | integer value =>
      cases second with
      | integer value' => simp [same, quantity?]
      | real value' => exact Binary64.sameInt_iff.trans eq_comm
  | real value =>
      cases second with
      | integer value' => exact Binary64.sameInt_iff
      | real value' => exact Binary64.same_iff canonical canonical'

end ScriptAudit.Number
