import ScriptAudit.Proofs.Syntax.StatementReads

namespace ScriptAudit.Syntax

/-! A text that is an integer and nothing else. -/

open Lexeme Reader

theorem Lexeme.skipTrivia_numeral {text after : List Char} (read : afterNumeral text = some after)
    (breaks : Bool) : skipTrivia breaks text = text := by
  cases text with
  | nil => cases read
  | cons c rest =>
      refine skipTrivia_plain (fun mark => ?_) breaks rest
      have unread := afterNumeral_other rest
        (List.mem_append_right ['@', '$', '(', '\x7b', '\'', '"', '['] mark)
      cases read.symm.trans unread

/-- Decimal integers of more digits than a number may have are not converted. -/
def Lexeme.IntegerLiteral.Converts (literal : IntegerLiteral) : Prop :=
  literal.radix = .decimal → literal.digits.length ≤ Text.greatestIntegerDigits

instance (literal : IntegerLiteral) : Decidable literal.Converts :=
  inferInstanceAs (Decidable (_ → _))

variable {literal : IntegerLiteral} {text : List Char}

theorem Grammar.script_reads_integer (spelled : literal.Spells text) (origin : Origin) :
    Reads (· = []) (fun tokens => ∃ place, tokens = [⟨.number, String.ofList text, place⟩])
      (script origin) text [] fun tree => ∃ whole around place,
        tree = .scriptBlock whole [.pipeline around [.number place (.integer literal.value)]] := by
  have read := spelled.afterNumeral_eq
  have begun : text ≠ [] := by
    rintro rfl
    cases read
  have scanned : afterNumeral (text ++ []) = some [] := by rwa [List.append_nil]
  have number : Reads (· = [])
      (fun tokens => ∃ place, tokens = [⟨.number, String.ofList text, place⟩])
      (primary origin (level origin origin.length)) (text ++ []) [] fun node =>
        ∃ place, node = .number place (numeralValue text) :=
    primary_numeral scanned fun place tokens none => ⟨place, none ▸ rfl⟩
  rw [List.append_nil, spelled.numeralValue_eq] at number
  refine (script_reads (skipTrivia_numeral read true) (List.length_pos_iff.mpr begun)
    (pipeline_reads_alone (operand_reads number goesOn_nil) statementEnd_nil)).imp ?_
  rintro _ ⟨whole, _, rfl, around, _, rfl, place, rfl⟩
  exact ⟨whole, around, place, rfl⟩

/-- A text that is an integer is read as a single number of its exact value.  Parsing gives this
tree, unless the digits of a decimal are too many for the conversion. -/
theorem parseText_integer (spelled : literal.Spells text) (file : String) :
    ∃ whole around place taken,
      let tree := Node.scriptBlock whole [.pipeline around [.number place (.integer literal.value)]]
      let token : Token := ⟨.number, String.ofList text, taken⟩
      Grammar.script (originOf (.ofText text) file) ⟨text, []⟩ = some (tree, ⟨[], [token]⟩) ∧
      parseText (String.ofList text) file =
        if literal.Converts then .ok ⟨tree, [token], []⟩
        else .error ⟨.integerTooLong (String.ofList text) literal.digits.length
          Text.greatestIntegerDigits, some (.ofFile file)⟩ := by
  obtain ⟨_, _, read, ⟨taken, rfl⟩, whole, around, place, rfl⟩ :=
    Grammar.script_reads_integer spelled (originOf (.ofText text) file) [] rfl
  refine ⟨whole, around, place, taken, read, ?_⟩
  have counted := spelled.integerDigits?_eq
  split
  · next converts =>
      have fits : Fitting [⟨.number, String.ofList text, taken⟩] := by
        refine .cons (fun _ digits same => ?_) fitting_nil
        rw [String.toList_ofList, counted] at same
        split at same
        · next decimal => exact Option.some.inj same ▸ converts decimal
        · cases same
      have number : (Node.number place (.integer literal.value)).ShowsKeys :=
        .intro rfl (by simp [Node.children])
      have shown := number.alone whole around
      simp [parseText, read, overlongInteger?_eq_none.mpr fits, Node.findFirst_hidesKey.mpr shown,
        Node.duplicateKeyIssues, Node.allRepeatedKeys, repeatedInAll]
  · next overlong =>
      obtain ⟨decimal, long⟩ := Classical.not_imp.mp overlong
      rw [if_pos decimal] at counted
      have found : overlongInteger? [⟨.number, String.ofList text, taken⟩] =
          some (⟨.number, String.ofList text, taken⟩, literal.digits.length) := by
        simp [overlongInteger?, counted, Nat.lt_of_not_le long]
      simp [parseText, read, found]

/-- The last letter of the digits is one of them, although it stands for a suffix elsewhere. -/
theorem parseText_integer_hexadecimal :
    ∃ whole around place taken,
      parseText "-0X1dLKb" "" = .ok
        ⟨.scriptBlock whole [.pipeline around [.number place (.integer (-29696))]],
          [⟨.number, "-0X1dLKb", taken⟩], []⟩ := by
  have known : ∀ c ∈ ['1', 'd'], c ∈ Radix.hexadecimal.digits := forall_mem_of_all (by decide)
  let literal : IntegerLiteral :=
    ⟨true, .hexadecimal, ['1', 'd'], List.cons_ne_nil _ _, known, true, some .kilo⟩
  have spelled : literal.Spells ['-', '0', 'X', '1', 'd', 'L', 'K', 'b'] := rfl
  have worth : literal.value = -29696 := by
    change -((29 : Nat) : Int) * (Nat.pow 1024 1 : Nat) = -29696
    rfl
  obtain ⟨whole, around, place, taken, -, parsed⟩ := parseText_integer spelled ""
  have converts : literal.Converts := fun decimal => by cases decimal
  rw [if_pos converts, worth] at parsed
  exact ⟨whole, around, place, taken, parsed⟩

end ScriptAudit.Syntax
