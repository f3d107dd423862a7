import Mathlib.Data.List.Forall2
import ScriptAudit.Proofs.Syntax.Interpolation

namespace ScriptAudit.Syntax

/-! Writing a text between double quotes.

The end of a string is looked for before its escapes are undone.  Both go through the text in the
same steps, one for each character that was written, so any way of writing the characters is
undone. -/

open Lexeme

/-- The characters that have a letter, and their letters. -/
def namedEscapes : List (Char × Char) :=
  [('\x00', '0'), ('\x07', 'a'), ('\x08', 'b'), ('\x1b', 'e'), ('\x0c', 'f'), ('\n', 'n'),
    ('\r', 'r'), ('\t', 't'), ('\x0b', 'v')]

/-- The code is a way to write the character: as it is, with a backtick in front, with a backtick in
front of its letter, or as two quotes. -/
inductive Encodes : Char → (code : List Char) → Prop
  | raw {c : Char} (plain : c ∉ ['\x60', '$', '"']) : Encodes c [c]
  | ticked {c : Char} (noLetter : c ∉ namedEscapes.map Prod.snd) : Encodes c ['\x60', c]
  | named {c letter : Char} (named : (c, letter) ∈ namedEscapes) : Encodes c ['\x60', letter]
  | quoteTwice : Encodes '"' ['"', '"']

abbrev Encoding : (text : List Char) → (codes : List (List Char)) → Prop :=
  List.Forall₂ Encodes

variable {c : Char} {code rest body after text : List Char} {codes : List (List Char)}

theorem escapedChar_letter {letter : Char} (named : (c, letter) ∈ namedEscapes) :
    escapedChar letter = c := by
  have all : ∀ escape ∈ namedEscapes, escapedChar escape.2 = escape.1 := by decide
  exact all _ named

theorem escapedChar_other (noLetter : c ∉ namedEscapes.map Prod.snd) : escapedChar c = c := by
  simp only [namedEscapes, List.map_cons, List.map_nil, List.mem_cons, List.not_mem_nil, or_false,
    not_or] at noLetter
  unfold escapedChar
  split <;> simp_all

theorem Encodes.scan (encodes : Encodes c code)
    (read : doubleQuotedBody rest = some (body, after)) :
    doubleQuotedBody (code ++ rest) = some (code ++ body, after) := by
  cases encodes with
  | raw plain =>
      simp only [List.mem_cons, List.not_mem_nil, or_false, not_or] at plain
      change doubleQuotedBody (c :: rest) = _
      rw [doubleQuotedBody] <;> simp_all
  | ticked | named => simp [doubleQuotedBody, read]
  | quoteTwice =>
      change doubleQuotedBody ('"' :: '"' :: rest) = _
      rw [doubleQuotedBody, read]
      rfl

theorem Encodes.unescape_eq (encodes : Encodes c code) (rest : List Char) :
    unescape true (code ++ rest) = (c :: (unescape true rest).1, (unescape true rest).2) := by
  cases encodes with
  | raw plain =>
      simp only [List.mem_cons, List.not_mem_nil, or_false, not_or] at plain
      change unescape true (c :: rest) = _
      rw [unescape] <;> simp_all
  | ticked noLetter => exact congrArg (fun said => (said :: _, _)) (escapedChar_other noLetter)
  | named named => exact congrArg (fun said => (said :: _, _)) (escapedChar_letter named)
  | quoteTwice => rfl

/-- What is written behind the text must not turn the quote at its end into one of two. -/
theorem doubleQuotedBody_encoding (encoding : Encoding text codes)
    (ended : ∀ later, after ≠ '"' :: later) :
    doubleQuotedBody (codes.flatten ++ '"' :: after) = some (codes.flatten, after) := by
  induction encoding with
  | nil =>
      change doubleQuotedBody ('"' :: after) = some ([], after)
      rw [doubleQuotedBody]
      exact ended
  | cons encodes _ ih =>
      rw [List.flatten_cons, List.append_assoc]
      exact encodes.scan ih

theorem unescape_encoding (encoding : Encoding text codes) :
    unescape true codes.flatten = (text, false) := by
  induction encoding with
  | nil => rfl
  | cons encodes _ ih => rw [List.flatten_cons, encodes.unescape_eq, ih]

/-- However a text is written between double quotes, alone it is read as a constant that says the
text. -/
theorem parseText_encoded {text : String} (encoding : Encoding text.toList codes) (file : String) :
    ∃ result, parseText (String.ofList ('"' :: (codes.flatten ++ ['"']))) file = .ok result ∧
      result.issues = [] ∧ ∃ whole around extent, result.tree =
        .scriptBlock whole [.pipeline around [.stringConstant extent text .double]] := by
  have constant : ∀ extent, Grammar.doubleQuotedNode extent codes.flatten true .double =
      .stringConstant extent text .double := fun extent => by
    simp [Grammar.doubleQuotedNode, unescape_encoding encoding]
  have reads : ∀ origin inner, Reader.Reads Fitting Fitting (Grammar.primary origin inner)
      ('"' :: (codes.flatten ++ ['"'])) [] fun node =>
        ∃ extent, node = .stringConstant extent text .double := fun origin inner => by
    have closed : doubleQuotedBody (codes.flatten ++ ['"']) = some (codes.flatten, []) :=
      doubleQuotedBody_encoding encoding fun _ => by simp
    rw [← List.append_nil (codes.flatten ++ ['"'])] at closed ⊢
    refine (Grammar.primary_doubleQuoted closed).imp ?_
    rintro _ ⟨extent, rfl⟩
    exact ⟨extent, constant extent⟩
  obtain ⟨result, parsed, clean, whole, around, _, tree, extent, rfl⟩ :=
    parseText_reads_alone (skipTrivia_stop rfl) (List.cons_ne_nil _ _) file reads fun _ made => by
      obtain ⟨extent, rfl⟩ := made
      exact constant extent ▸ Grammar.doubleQuotedNode_keyed ..
  exact ⟨result, parsed, clean, whole, around, extent, tree⟩

/-- Quotes and backticks at the ends of a text, each of them written in two characters. -/
theorem parseText_encoded_ends :
    Encoding "\"\x60\n\"".toList [['"', '"'], ['\x60', '\x60'], ['\x60', 'n'], ['\x60', '"']] ∧
    ∃ result, parseText "\"\"\"\x60\x60\x60n\x60\"\"" "" = .ok result ∧ result.issues = [] ∧
      ∃ whole around extent, result.tree =
        .scriptBlock whole [.pipeline around [.stringConstant extent "\"\x60\n\"" .double]] := by
  have encoding : Encoding "\"\x60\n\"".toList
      [['"', '"'], ['\x60', '\x60'], ['\x60', 'n'], ['\x60', '"']] :=
    .cons .quoteTwice (.cons (.ticked (by decide)) (.cons (.named (by decide))
      (.cons (.ticked (by decide)) .nil)))
  exact ⟨encoding, parseText_encoded encoding ""⟩

end ScriptAudit.Syntax
