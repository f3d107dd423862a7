namespace ScriptAudit.Text

/-! Cutting texts at a character. -/

/-- The parts between the separators; there is always at least one. -/
def splitAt (separator : Char) : List Char → List (List Char)
  | [] => [[]]
  | c :: rest =>
      if c = separator then [] :: splitAt separator rest
      else match splitAt separator rest with
        | [] => [[c]]
        | first :: others => (c :: first) :: others

/-- What follows the last separator, or everything. -/
def afterLast (separator : Char) (text : List Char) : List Char :=
  (splitAt separator text).getLast?.getD []

def parts (separator : Char) (text : String) : List String :=
  (splitAt separator text.toList).map String.ofList

end ScriptAudit.Text
