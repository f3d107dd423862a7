import Mathlib.Data.List.TakeWhile
import ScriptAudit.Syntax.Lexeme.Quotation

namespace ScriptAudit.Syntax.Lexeme

/-! What the scanning functions of quoted strings and here-strings take of a text.

They take a string and leave what follows it, and of the string alone they leave nothing. -/

variable {text rest body after more : List Char} {quote : Char}

/-- A single-quoted string is its body with a quote behind it. -/
theorem singleQuotedBody_parts (read : singleQuotedBody text = some (body, after)) :
    text = body ++ '\'' :: after := by
  fun_induction singleQuotedBody text generalizing body with
  | case1 => cases read
  | case2 rest body' after' found ih =>
      cases read
      rw [ih found]
      rfl
  | case3 rest missing =>
      cases read
      rfl
  | case4 rest =>
      cases read
      rfl
  | case5 c rest _ _ ih =>
      obtain ⟨found, inner, same⟩ := Option.map_eq_some_iff.mp read
      cases same
      exact congrArg (c :: ·) (ih inner)

/-- A double-quoted string is its body with a quote behind it. -/
theorem doubleQuotedBody_parts (read : doubleQuotedBody text = some (body, after)) :
    text = body ++ '"' :: after := by
  fun_induction doubleQuotedBody text generalizing body with
  | case1 => cases read
  | case2 rest body' after' found ih =>
      cases read
      rw [ih found]
      rfl
  | case3 rest missing =>
      cases read
      rfl
  | case4 rest =>
      cases read
      rfl
  | case5 c rest ih =>
      obtain ⟨found, inner, same⟩ := Option.map_eq_some_iff.mp read
      cases same
      rw [ih inner]
      rfl
  | case6 => cases read
  | case7 c rest _ _ _ _ ih =>
      obtain ⟨found, inner, same⟩ := Option.map_eq_some_iff.mp read
      cases same
      exact congrArg (c :: ·) (ih inner)

section
variable (more : List Char)

theorem afterLineBreak?_append (read : afterLineBreak? text = some rest) :
    afterLineBreak? (text ++ more) = some (rest ++ more) := by
  unfold afterLineBreak? at read
  split at read <;> cases read <;> rfl

theorem afterHereCloser?_append (read : afterHereCloser? quote text = some rest) :
    afterHereCloser? quote (text ++ more) = some (rest ++ more) := by
  unfold afterHereCloser? at read
  split at read
  · split at read <;> cases read
    next same => exact if_pos same
  · cases read

theorem lineEnd_append (read : (afterLineBreak? text).bind (afterHereCloser? quote) = some rest) :
    (afterLineBreak? (text ++ more)).bind (afterHereCloser? quote) = some (rest ++ more) := by
  obtain ⟨broken, breaks, closes⟩ := Option.bind_eq_some_iff.mp read
  rw [afterLineBreak?_append more breaks]
  exact afterHereCloser?_append more closes

theorem hereLines_append (read : (hereLines quote text).isSome) :
    (hereLines quote (text ++ more)).isSome := by
  fun_induction hereLines quote text with
  | case1 => cases read
  | case2 c rest closed found =>
      rw [List.cons_append, hereLines, ← List.cons_append, lineEnd_append more found]
      rfl
  | case3 c rest _ ih =>
      rw [Option.isSome_map] at read
      rw [List.cons_append, hereLines]
      split
      · rfl
      · rw [Option.isSome_map]
        exact ih read

end

theorem afterLineBreak?_parts (read : afterLineBreak? text = some rest) :
    text = '\n' :: rest ∨ text = '\r' :: '\n' :: rest := by
  unfold afterLineBreak? at read
  split at read <;> cases read
  · exact .inl rfl
  · exact .inr rfl

theorem afterHereCloser?_parts (read : afterHereCloser? quote text = some rest) :
    text = quote :: '@' :: rest := by
  unfold afterHereCloser? at read
  split at read
  · split at read <;> cases read
    next same => rw [same]
  · cases read

/-- The lines up to the closing mark are read in the same way when nothing follows them. -/
theorem hereLines_parts (read : hereLines quote text = some (body, after)) :
    ∃ written, text = written ++ after ∧ hereLines quote written = some (body, []) := by
  fun_induction hereLines quote text generalizing body with
  | case1 => cases read
  | case2 c rest closed found =>
      cases read
      obtain ⟨broken, breaks, closes⟩ := Option.bind_eq_some_iff.mp found
      rw [afterHereCloser?_parts closes] at breaks
      rcases afterLineBreak?_parts breaks with parted | parted
      · exact ⟨['\n', quote, '@'], parted, by simp [hereLines, afterLineBreak?, afterHereCloser?]⟩
      · exact ⟨['\r', '\n', quote, '@'], parted,
          by simp [hereLines, afterLineBreak?, afterHereCloser?]⟩
  | case3 c rest unclosed ih =>
      obtain ⟨found, inner, same⟩ := Option.map_eq_some_iff.mp read
      cases same
      obtain ⟨written, parted, alone⟩ := ih inner
      refine ⟨c :: written, by rw [parted]; rfl, ?_⟩
      have unclosedToo : (afterLineBreak? (c :: written)).bind (afterHereCloser? quote) = none := by
        cases closes : (afterLineBreak? (c :: written)).bind (afterHereCloser? quote) with
        | none => rfl
        | some left =>
            have longer := lineEnd_append found.2 closes
            rw [List.cons_append, ← parted, unclosed] at longer
            cases longer
      rw [hereLines, unclosedToo, alone]
      rfl

theorem hereBody_parts (read : hereBody quote text = some (body, after)) :
    ∃ written, text = written ++ after ∧ hereBody quote written = some (body, []) := by
  unfold hereBody at read
  split at read
  · next found lines =>
      cases read
      obtain ⟨written, parted, alone⟩ := hereLines_parts lines
      exact ⟨written, parted, by rw [hereBody, alone]⟩
  · next lineless =>
      obtain ⟨closed, closes, same⟩ := Option.map_eq_some_iff.mp read
      cases same
      have parted := afterHereCloser?_parts closes
      have linelessToo : hereLines quote [quote, '@'] = none := by
        rw [← Option.not_isSome_iff_eq_none]
        intro closed
        have longer := hereLines_append after closed
        rw [List.cons_append, List.cons_append, List.nil_append, ← parted, lineless] at longer
        cases longer
      refine ⟨[quote, '@'], parted, ?_⟩
      rw [hereBody, linelessToo]
      simp [afterHereCloser?]

/-- A here-string is read in the same way when nothing follows it. -/
theorem hereString_parts (read : hereString quote text = some (body, after)) :
    ∃ written, text = written ++ after ∧ hereString quote written = some (body, []) := by
  obtain ⟨lines, breaks, inner⟩ := Option.bind_eq_some_iff.mp read
  obtain ⟨written, rfl, alone⟩ := hereBody_parts inner
  let isGap := fun c : Char => c == ' ' || c == '\t'
  have gap : ∀ feed, (text.takeWhile isGap ++ feed).dropWhile isGap = feed.dropWhile isGap :=
    fun feed => List.dropWhile_append_of_pos fun c member => List.mem_takeWhile_imp member
  have whole : text = text.takeWhile isGap ++ text.dropWhile isGap :=
    List.takeWhile_append_dropWhile.symm
  rcases afterLineBreak?_parts breaks with parted | parted
  · refine ⟨text.takeWhile isGap ++ '\n' :: written, ?_, ?_⟩
    · rw [List.append_assoc]
      exact whole.trans (congrArg _ parted)
    · rw [hereString, gap]
      exact alone
  · refine ⟨text.takeWhile isGap ++ '\r' :: '\n' :: written, ?_, ?_⟩
    · rw [List.append_assoc]
      exact whole.trans (congrArg _ parted)
    · rw [hereString, gap]
      exact alone

end ScriptAudit.Syntax.Lexeme
