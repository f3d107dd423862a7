import Mathlib.Data.Multiset.Fold
import ScriptAudit.Proofs.Value.Equality
import ScriptAudit.Value.Digest

namespace ScriptAudit.Value

/-! Hashes of literals: equal literals have equal hashes. -/

open List (Forall₂)

/-- How the hash of a literal is made from those of its parts.  The entries of a table have no
order. -/
structure Hashing (δ : Type) where
  ofScalar : Value → δ
  ofItems : List δ → δ
  ofEntry : δ → δ → δ
  ofEntries : Multiset δ → δ

def isScalar : Value → Bool
  | bool _ | number _ | text _ => true
  | _ => false

namespace Hashing

variable {δ : Type}

mutual

def hash (hashing : Hashing δ) : Value → δ
  | array items => hashing.ofItems (hashing.hashItems items)
  | table entries => hashing.ofEntries (hashing.hashEntries entries : List δ)
  | value => hashing.ofScalar value

def hashItems (hashing : Hashing δ) : List Value → List δ
  | [] => []
  | item :: rest => hashing.hash item :: hashing.hashItems rest

def hashEntries (hashing : Hashing δ) : List (String × Value) → List δ
  | [] => []
  | (key, value) :: rest =>
      hashing.ofEntry (hashing.ofScalar (.text (Text.lower key))) (hashing.hash value) ::
        hashing.hashEntries rest

end

/-- Equal scalars have equal hashes. -/
def Respects (hashing : Hashing δ) : Prop :=
  ∀ value other : Value, value.isScalar → other.isScalar → value.Comparable → other.Comparable →
    value.Same other → hashing.ofScalar value = hashing.ofScalar other

theorem hashItems_eq (hashing : Hashing δ) (items : List Value) :
    hashing.hashItems items = items.map hashing.hash := by
  induction items with
  | nil => rfl
  | cons item rest ih => rw [hashItems, ih, List.map_cons]

def hashEntry (hashing : Hashing δ) (entry : String × Value) : δ :=
  hashing.ofEntry (hashing.ofScalar (.text (Text.lower entry.1))) (hashing.hash entry.2)

theorem hashEntries_eq (hashing : Hashing δ) (entries : List (String × Value)) :
    hashing.hashEntries entries = entries.map hashing.hashEntry := by
  induction entries with
  | nil => rfl
  | cons entry rest ih => rw [hashEntries, ih, List.map_cons, hashEntry]

theorem hash_scalar (hashing : Hashing δ) {value : Value} (scalar : value.isScalar) :
    hashing.hash value = hashing.ofScalar value := by
  cases value <;> first | rfl | cases scalar

end Hashing

theorem isScalar_of_number? {value : Value} {number : Number}
    (denotes : value.number? = some number) : value.isScalar := by
  cases value <;> first | rfl | cases denotes

theorem map_eq_of_forall₂ {α β γ : Type} {f : α → γ} {g : β → γ} {items : List α}
    {items' : List β} (all : Forall₂ (fun item item' => f item = g item') items items') :
    items.map f = items'.map g := by
  induction all with
  | nil => rfl
  | cons first later ih => rw [List.map_cons, List.map_cons, first, ih]

theorem Same.hash {δ : Type} {hashing : Hashing δ} (respects : hashing.Respects)
    {value other : Value} (same : value.Same other) (comparable : value.Comparable)
    (otherComparable : other.Comparable) : hashing.hash value = hashing.hash other := by
  have scalars {value other : Value} (same : value.Same other) (comparable : value.Comparable)
      (otherComparable : other.Comparable) (scalar : value.isScalar)
      (otherScalar : other.isScalar) : hashing.hash value = hashing.hash other := by
    rw [hashing.hash_scalar scalar, hashing.hash_scalar otherScalar]
    exact respects value other scalar otherScalar comparable otherComparable same
  induction comparable generalizing other with
  | bool truth =>
      obtain ⟨_, denotes, -⟩ := (same_of_number? rfl).mp same
      exact scalars same (.bool truth) otherComparable rfl (isScalar_of_number? denotes)
  | number canonical =>
      obtain ⟨_, denotes, -⟩ := (same_of_number? rfl).mp same
      exact scalars same (.number canonical) otherComparable rfl (isScalar_of_number? denotes)
  | text text => rw [same_text_iff.mp same]
  | array all ih =>
      obtain ⟨items', rfl, paired⟩ := (same_array_iff (.array all)).mp same
      cases otherComparable with
      | array otherAll =>
          rw [Hashing.hash, Hashing.hash, hashing.hashItems_eq, hashing.hashItems_eq,
            map_eq_of_forall₂ (forall₂_imp_of_mem paired fun item member item' member' found =>
              ih item member found (otherAll item' member'))]
  | @table entries distinct all ih =>
      obtain ⟨others, rfl, matched⟩ :=
        (same_table_iff (.table distinct all) otherComparable).mp same
      obtain ⟨ordered, order, paired⟩ := matched.exists_ordered distinct otherComparable.distinct
      have hashes : entries.map hashing.hashEntry = ordered.map hashing.hashEntry := by
        refine map_eq_of_forall₂ (forall₂_imp_of_mem paired ?_)
        rintro entry member other member' ⟨spelled, found⟩
        have comparable := otherComparable.entry (order.mem_iff.mp member')
        rw [Hashing.hashEntry, Hashing.hashEntry, spelled, ih entry member found comparable]
      rw [Hashing.hash, Hashing.hash, hashing.hashEntries_eq, hashing.hashEntries_eq, hashes]
      exact congrArg hashing.ofEntries (Multiset.coe_eq_coe.mpr (order.map _))

instance : LeftCommutative (α := UInt64) (· + ·) :=
  ⟨fun first second rest => by
    rw [← UInt64.add_assoc, UInt64.add_comm first, UInt64.add_assoc]⟩

/-- The digests are hashes. -/
def digestHashing (ofText : String → UInt64) (ofNumber : Number → UInt64) : Hashing UInt64 where
  ofScalar value :=
    match value with
    | text value => ofText value
    | value => (value.number?.map ofNumber).getD 0
  ofItems hashes := hashes.foldr mixHash 17
  ofEntry := mixHash
  ofEntries hashes := hashes.foldr (· + ·) 19

section Digests

variable {ofText : String → UInt64} {ofNumber : Number → UInt64} {value other : Value}

theorem digestItems_eq {items : List Value} (digests : ∀ item ∈ items,
      item.digest ofText ofNumber = .ok ((digestHashing ofText ofNumber).hash item)) :
    digestItems ofText ofNumber items =
      .ok ((items.map (digestHashing ofText ofNumber).hash).foldr mixHash 17) := by
  induction items with
  | nil => rfl
  | cons item rest ih =>
      obtain ⟨first, later⟩ := List.forall_mem_cons.mp digests
      rw [digestItems, first, ih later]
      rfl

theorem digestEntries_eq {entries : List (String × Value)} (digests : ∀ entry ∈ entries,
      entry.2.digest ofText ofNumber = .ok ((digestHashing ofText ofNumber).hash entry.2)) :
    digestEntries ofText ofNumber entries =
      .ok ((entries.map (digestHashing ofText ofNumber).hashEntry).foldr (· + ·) 19) := by
  induction entries with
  | nil => rfl
  | cons entry rest ih =>
      obtain ⟨first, later⟩ := List.forall_mem_cons.mp digests
      rw [digestEntries, first, ih later]
      rfl

theorem digest_eq (literal : value.IsLiteral) :
    value.digest ofText ofNumber = .ok ((digestHashing ofText ofNumber).hash value) := by
  induction literal with
  | bool value => rfl
  | number value => rfl
  | text value => rfl
  | array all ih =>
      rw [digest, digestItems_eq ih, Hashing.hash, Hashing.hashItems_eq]
      rfl
  | table distinct all ih =>
      rw [digest, digestEntries_eq ih, Hashing.hash, Hashing.hashEntries_eq]
      rfl

theorem oddPart_double {magnitude : Nat} (nonzero : magnitude ≠ 0) :
    oddPart (magnitude * 2) = ((oddPart magnitude).1, (oddPart magnitude).2 + 1) := by
  rw [oddPart, dif_neg (by omega), if_neg (by omega), Nat.mul_div_cancel _ two_pos]

theorem oddPart_shift {magnitude : Nat} (nonzero : magnitude ≠ 0) (power : Nat) :
    oddPart (magnitude * 2 ^ power) = ((oddPart magnitude).1, (oddPart magnitude).2 + power) := by
  induction power with
  | zero => simp
  | succ power ih =>
      rw [Nat.pow_succ, ← Nat.mul_assoc, oddPart_double (by positivity), ih]
      rfl

theorem digestParts_shift (negative : Bool) (magnitude power : Nat) (exponent : Int) :
    digestParts negative (magnitude * 2 ^ power) exponent =
      digestParts negative magnitude (exponent + power) := by
  unfold digestParts
  by_cases zero : magnitude = 0
  · rw [zero, Nat.zero_mul]
    rfl
  · have nonzero : magnitude * 2 ^ power ≠ 0 := by positivity
    dsimp only
    rw [if_neg zero, if_neg nonzero, oddPart_shift zero]
    congr 2
    push_cast
    omega

/-- The sign of a zero does not count. -/
theorem digestParts_sign {negative negative' : Bool} {magnitude : Nat}
    (sign : magnitude ≠ 0 → negative = negative') (exponent : Int) :
    digestParts negative magnitude exponent = digestParts negative' magnitude exponent := by
  by_cases zero : magnitude = 0
  · rw [digestParts, digestParts, if_pos zero, if_pos zero]
  · rw [sign zero]

open Number.Binary64

theorem signed_lt_zero {negative : Bool} {magnitude : Nat} (nonzero : magnitude ≠ 0) :
    signed negative magnitude < 0 ↔ negative = true := by
  cases negative <;> simp [signed, Nat.pos_of_ne_zero nonzero]

theorem shift_lt_zero (value : Int) (power : Nat) : value * 2 ^ power < 0 ↔ value < 0 := by
  have positive : (0 : Int) < 2 ^ power := by positivity
  simp [mul_neg_iff, positive, positive.not_gt]

/-- A number and an integer that are the same differ by a shift. -/
theorem digestNumber_sameInt {number : Number.Binary64} {value : Int}
    (same : number.sameInt value = true) :
    digestNumber (.integer value) = digestNumber (.real number) := by
  cases number with
  | finite negative mantissa exponent =>
      rw [sameInt] at same
      rw [digestNumber, digestNumber]
      split at same
      · next natural =>
          obtain ⟨power, rfl⟩ := Int.eq_ofNat_of_zero_le natural
          rw [beq_iff_eq, Int.toNat_natCast, Nat.pow_eq, Nat.cast_pow] at same
          have size : value.natAbs = mantissa * 2 ^ power := by
            rw [← same, Int.natAbs_mul, signed_natAbs, Int.natAbs_pow]
            rfl
          rw [size, digestParts_shift, zero_add]
          refine digestParts_sign (fun nonzero => ?_) _
          rw [Bool.eq_iff_iff, decide_eq_true_iff, ← same, ← signed_lt_zero nonzero]
          exact shift_lt_zero _ power
      · next below =>
          obtain ⟨power, rfl⟩ : ∃ power : Nat, exponent = -power := ⟨(-exponent).toNat, by omega⟩
          rw [beq_iff_eq, neg_neg, Int.toNat_natCast, Nat.pow_eq, Nat.cast_pow] at same
          have size : mantissa = value.natAbs * 2 ^ power := by
            rw [← signed_natAbs negative mantissa, same, Int.natAbs_mul, Int.natAbs_pow]
            rfl
          rw [size, digestParts_shift, neg_add_cancel]
          refine digestParts_sign (fun nonzero => ?_) _
          have nonzero : mantissa ≠ 0 := by
            rw [size]
            positivity
          rw [Bool.eq_iff_iff, decide_eq_true_iff, ← signed_lt_zero nonzero, same]
          exact (shift_lt_zero value power).symm
  | infinite | nan => simp [sameInt] at same

/-- Equal numbers have equal digests. -/
theorem digestNumber_same {number other : Number} (same : number.same other = true) :
    digestNumber number = digestNumber other := by
  cases number with
  | integer value =>
      cases other with
      | integer value' => rw [beq_iff_eq.mp same]
      | real value' => exact digestNumber_sameInt same
  | real value =>
      cases other with
      | integer value' => exact (digestNumber_sameInt same).symm
      | real value' =>
          cases value with
          | finite negative mantissa exponent =>
              cases value' with
              | finite negative' mantissa' exponent' =>
                  simp only [Number.same, Number.Binary64.same, Bool.and_eq_true, beq_iff_eq,
                    Bool.or_eq_true] at same
                  obtain ⟨rfl, rfl | ⟨rfl, rfl⟩⟩ := same
                  · simp [digestNumber, digestParts]
                  · rfl
              | infinite | nan => cases same
          | infinite negative =>
              cases value' with
              | infinite negative' => rw [beq_iff_eq.mp same]
              | finite | nan => cases same
          | nan => cases same

theorem digestHashing_number {number : Number} (denotes : value.number? = some number) :
    (digestHashing ofText ofNumber).ofScalar value = ofNumber number := by
  cases value with
  | bool truth =>
      cases denotes
      rfl
  | number number =>
      cases denotes
      rfl
  | _ => cases denotes

theorem digestHashing_respects (ofText : String → UInt64) :
    (digestHashing ofText digestNumber).Respects := by
  have numbers {value other : Value} {number : Number} (denotes : value.number? = some number)
      (same : value.Same other) : (digestHashing ofText digestNumber).ofScalar value =
        (digestHashing ofText digestNumber).ofScalar other := by
    obtain ⟨number', denotes', equal⟩ := (same_of_number? denotes).mp same
    rw [digestHashing_number denotes, digestHashing_number denotes', digestNumber_same equal]
  intro value other scalar scalar' comparable comparable' same
  cases value with
  | bool truth => exact numbers rfl same
  | number number => exact numbers rfl same
  | text text => rw [same_text_iff.mp same]
  | _ => cases scalar

/-- Equal literals have the same digest. -/
theorem Same.standardDigest (same : value.Same other) (comparable : value.Comparable)
    (otherComparable : other.Comparable) :
    ∃ digest, value.standardDigest = .ok digest ∧ other.standardDigest = .ok digest := by
  refine ⟨_, digest_eq comparable.literal, ?_⟩
  rw [same.hash (digestHashing_respects _) comparable otherComparable]
  exact digest_eq otherComparable.literal

end Digests

section Tables

variable {first second third : List (String × Value)}

/-- Tables are equal when they have as many keys and each key of one has an equal value in the
other.  This is an equivalence that does not see the letter case of keys and the order of entries at
any level, and equal tables have equal hashes. -/
theorem tables_equal (comparable : (table first).Comparable)
    (secondComparable : (table second).Comparable) (thirdComparable : (table third).Comparable) :
    ((table first).Same (table second) ↔ first.length = second.length ∧
      ∀ key ∈ second.map Prod.fst, ∃ value other,
        Table.get? first key = some value ∧ Table.get? second key = some other ∧
          value.Same other) ∧
    (∀ first' second', (table first).Respelled (table first') →
      (table second).Respelled (table second') →
        ((table first').Same (table second') ↔ (table first).Same (table second))) ∧
    (table first).Same (table first) ∧
    ((table first).Same (table second) → (table second).Same (table first)) ∧
    ((table first).Same (table second) → (table second).Same (table third) →
      (table first).Same (table third)) ∧
    (∀ value other : Value, value.Comparable → other.Comparable →
      ∀ number number', value.number? = some number → other.number? = some number' →
        (value.Same other ↔ number.quantity? = number'.quantity?)) ∧
    ((table first).Same (table second) →
      (∀ {δ : Type} (hashing : Hashing δ), hashing.Respects →
        hashing.hash (table first) = hashing.hash (table second)) ∧
      ∃ digest, (table first).standardDigest = .ok digest ∧
        (table second).standardDigest = .ok digest) := by
  refine ⟨same_tables_iff comparable secondComparable, ?_, .refl comparable,
    fun same => same.symm comparable secondComparable,
    fun same next => same.trans next comparable secondComparable thirdComparable, ?_,
    fun same => ?_⟩
  · exact fun _ _ => Same.respelled_iff comparable secondComparable
  · intro value other valueComparable otherComparable number number' denotes otherDenotes
    rw [same_quantities valueComparable otherComparable denotes, otherDenotes]
    simp
  · exact ⟨fun hashing respects => same.hash respects comparable secondComparable,
      same.standardDigest comparable secondComparable⟩

end Tables

open Syntax.Lexeme (numeralValue numeralValue_canonical)

/-- A table of rules in three spellings and orders, with its ones and its zero of three kinds. -/
def ruleTable : List (String × Value) :=
  [("Rules", .table [("Width", .number (.integer 1)), ("Names", .array [.bool true, .text "x"])]),
    ("Σ", .number (numeralValue "-0.0".toList))]

def shoutedTable : List (String × Value) :=
  [("σ", .bool false),
    ("RULES", .table [("NAMES", .array [.number (.integer 1), .text "x"]), ("WIDTH", .bool true)])]

def whisperedTable : List (String × Value) :=
  [("rules", .table [("width", .number (numeralValue "1.0".toList)),
      ("names", .array [.bool true, .text "x"])]),
    ("σ", .number (.integer 0))]

theorem ruleTable_comparable : (table ruleTable).Comparable := by
  refine .table (by decide +kernel) ?_
  simp only [ruleTable, List.forall_mem_cons]
  refine ⟨.table (by decide +kernel) ?_, .number (numeralValue_canonical _), nofun⟩
  simp only [List.forall_mem_cons]
  refine ⟨.number trivial, .array ?_, nofun⟩
  simp only [List.forall_mem_cons]
  exact ⟨.bool true, .text "x", nofun⟩

theorem shoutedTable_comparable : (table shoutedTable).Comparable := by
  refine .table (by decide +kernel) ?_
  simp only [shoutedTable, List.forall_mem_cons]
  refine ⟨.bool false, .table (by decide +kernel) ?_, nofun⟩
  simp only [List.forall_mem_cons]
  refine ⟨.array ?_, .bool true, nofun⟩
  simp only [List.forall_mem_cons]
  exact ⟨.number trivial, .text "x", nofun⟩

theorem whisperedTable_comparable : (table whisperedTable).Comparable := by
  refine .table (by decide +kernel) ?_
  simp only [whisperedTable, List.forall_mem_cons]
  refine ⟨.table (by decide +kernel) ?_, .number trivial, nofun⟩
  simp only [List.forall_mem_cons]
  refine ⟨.number (numeralValue_canonical _), .array ?_, nofun⟩
  simp only [List.forall_mem_cons]
  exact ⟨.bool true, .text "x", nofun⟩

theorem tables_equal_spelled :
    (table ruleTable).Comparable ∧ (table shoutedTable).Comparable ∧
      (table whisperedTable).Comparable ∧
      (table ruleTable).Same (table shoutedTable) ∧
      (table ruleTable).Same (table whisperedTable) ∧
      (∃ value other, Table.get? ruleTable "RULES" = some value ∧
        Table.get? shoutedTable "RULES" = some other ∧ value.Same other) ∧
      (bool true).Same (.number (numeralValue "1.0".toList)) ∧
      (digestHashing (·.length.toUInt64) digestNumber).hash (table ruleTable) =
        (digestHashing (·.length.toUInt64) digestNumber).hash (table shoutedTable) ∧
      ∃ digest, (table ruleTable).standardDigest = .ok digest ∧
        (table shoutedTable).standardDigest = .ok digest := by
  obtain ⟨exact, -, -, -, chained, numbers, hashed⟩ :=
    tables_equal ruleTable_comparable shoutedTable_comparable whisperedTable_comparable
  have same : (table ruleTable).Same (table shoutedTable) := by decide +kernel
  have next : (table shoutedTable).Same (table whisperedTable) := by decide +kernel
  obtain ⟨hash, digest⟩ := hashed same
  refine ⟨ruleTable_comparable, shoutedTable_comparable, whisperedTable_comparable, same,
    chained same next, (exact.mp same).2 "RULES" (by decide), ?_, ?_, digest⟩
  · have read : numeralValue "1.0".toList = .real (.finite false (Nat.pow 2 52) (-52)) := by
      decide +kernel
    refine (numbers _ _ (.bool true) (.number (numeralValue_canonical _)) _ _ rfl rfl).mpr ?_
    rw [read]
    norm_num [Number.quantity?, Number.Binary64.quantity?, Number.Binary64.signed]
  · exact hash _ (digestHashing_respects _)

end ScriptAudit.Value
