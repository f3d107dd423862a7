namespace ScriptAudit.Pattern

/-! Wildcard patterns: a star for any characters, a question mark for one, and brackets for one of
several.

A bracket that is not closed stands for itself.  Inside a class a leading `!` negates, a closing
bracket right after the start is a member, and a hyphen between two members makes a range; a range
that runs backwards holds nothing. -/

/-- What is asked of one character. -/
inductive CharClass where
  | any
  | literal (c : Char)
  | oneOf (negated : Bool) (ranges : List (Char × Char))
deriving DecidableEq

inductive GlobPart where
  | star
  | one (expected : CharClass)
deriving DecidableEq

/-- The characters up to the first closing bracket, and what follows it. -/
def upToBracket : List Char → Option (List Char × List Char)
  | [] => none
  | ']' :: rest => some ([], rest)
  | c :: rest => (upToBracket rest).map fun found => (c :: found.1, found.2)

theorem upToBracket_length {text inside rest : List Char}
    (found : upToBracket text = some (inside, rest)) : rest.length < text.length := by
  induction text generalizing inside with
  | nil => simp [upToBracket] at found
  | cons c tail ih =>
      unfold upToBracket at found
      split at found
      · simp_all
      · next same =>
          injection same with _ sameTail
          injection found with found
          injection found with _ sameRest
          subst sameTail sameRest
          exact Nat.lt_succ_self _
      · next c' tail' _ same =>
          injection same with sameHead sameTail
          subst sameHead sameTail
          obtain ⟨⟨inside', rest'⟩, found', same⟩ := Option.map_eq_some_iff.1 found
          injection same with _ sameRest
          subst sameRest
          exact Nat.lt_succ_of_lt (ih found')

/-- The members of a class whose opening bracket stands before `text`, and what follows the class.
A closing bracket right at the start, or right after a leading `!`, is a member. -/
def classBody : List Char → Option (List Char × List Char)
  | '!' :: ']' :: rest => (upToBracket rest).map fun found => ('!' :: ']' :: found.1, found.2)
  | ']' :: rest => (upToBracket rest).map fun found => (']' :: found.1, found.2)
  | text => upToBracket text

theorem classBody_length {text inside rest : List Char}
    (found : classBody text = some (inside, rest)) : rest.length < text.length := by
  unfold classBody at found
  split at found
  · obtain ⟨_, found', same⟩ := Option.map_eq_some_iff.1 found
    injection same with _ sameRest
    subst sameRest
    have := upToBracket_length found'
    simp only [List.length_cons]
    omega
  · obtain ⟨_, found', same⟩ := Option.map_eq_some_iff.1 found
    injection same with _ sameRest
    subst sameRest
    have := upToBracket_length found'
    simp only [List.length_cons]
    omega
  · exact upToBracket_length found

/-- Cuts the members of a class at the hyphens that make ranges.  Every piece but the last has at
least one character before its hyphen, and every later one at least two; `piece` is the current
one, and `least` of its characters are still needed before a hyphen counts. -/
def rangePieces (piece : List Char) : (least : Nat) → List Char → List (List Char)
  | _, [] => [piece]
  | 0, '-' :: rest => piece :: rangePieces [] 2 rest
  | least, c :: rest => rangePieces (piece ++ [c]) (least - 1) rest

/-- A hyphen at the very end makes no range. -/
def closeLastPiece (pieces : List (List Char)) : List (List Char) :=
  match pieces.reverse with
  | [] :: last :: before => ((last ++ ['-']) :: before).reverse
  | _ => pieces

/-- Joins the pieces, from the last one, across each range that runs backwards. -/
def dropBackwardRanges : List (List Char) → List (List Char)
  | [] => []
  | piece :: later =>
      match dropBackwardRanges later with
      | [] => [piece]
      | next :: others =>
          match piece.getLast?, next.head? with
          | some low, some high =>
              if high < low then (piece.dropLast ++ next.drop 1) :: others
              else piece :: next :: others
          | _, _ => piece :: next :: others

/-- The ranges of the pieces: one across each cut, and one of a single character for each other
member.  `low` is the end of the piece before, where a cut follows it. -/
def pieceRanges (low : Option Char) : List (List Char) → List (Char × Char)
  | [] => []
  | piece :: later =>
      let cut := match low, piece with
        | some low, high :: rest => ([(low, high)], rest)
        | _, _ => ([], piece)
      if later.isEmpty then cut.1 ++ cut.2.map fun c => (c, c)
      else cut.1 ++ (cut.2.dropLast.map fun c => (c, c)) ++ pieceRanges cut.2.getLast? later

def classOf (members : List Char) : CharClass :=
  let least := if members.head? = some '!' then 2 else 1
  let pieces := dropBackwardRanges (closeLastPiece (rangePieces [] least members))
  match pieces with
  | ('!' :: first) :: others => .oneOf true (pieceRanges none (first :: others))
  | _ => .oneOf false (pieceRanges none pieces)

/-- The parts of a pattern. -/
def globParts (pattern : List Char) : List GlobPart :=
  match pattern with
  | [] => []
  | '*' :: rest => .star :: globParts rest
  | '?' :: rest => .one .any :: globParts rest
  | '[' :: rest =>
      match found : classBody rest with
      | some (members, after) =>
          have := classBody_length found
          .one (classOf members) :: globParts after
      | none => .one (.literal '[') :: globParts rest
  | c :: rest => .one (.literal c) :: globParts rest
termination_by pattern.length

def CharClass.holds (expected : CharClass) (c : Char) : Bool :=
  match expected with
  | .any => true
  | .literal same => c == same
  | .oneOf negated ranges =>
      (ranges.any fun range => range.1 ≤ c && c ≤ range.2) != negated

def suffixes : List Char → List (List Char)
  | [] => [[]]
  | c :: rest => (c :: rest) :: suffixes rest

/-- The parts match the whole text. -/
def partsMatch : List GlobPart → List Char → Bool
  | [], text => text.isEmpty
  | .star :: rest, text => (suffixes text).any (partsMatch rest)
  | _ :: _, [] => false
  | .one expected :: rest, c :: text => expected.holds c && partsMatch rest text

/-- For each place, whether there is a true one from it on. -/
def anyFrom : List Bool → List Bool
  | [] => []
  | first :: rest =>
      let later := anyFrom rest
      (first || later.headD false) :: later

/-- For each suffix of a text, whether the parts match it.  The answers for the later parts are
found once and for all, so that many stars take no longer than one. -/
def matchRow (text : List Char) : List GlobPart → List Bool
  | [] => (suffixes text).map List.isEmpty
  | .star :: rest => anyFrom (matchRow text rest)
  | .one expected :: rest =>
      List.zipWith (fun c later => expected.holds c && later) text ((matchRow text rest).drop 1) ++
        [false]

theorem headD_map_suffixes (test : List Char → Bool) (text : List Char) :
    ((suffixes text).map test).headD false = test text := by
  cases text <;> rfl

theorem anyFrom_map_suffixes (test : List Char → Bool) (text : List Char) :
    anyFrom ((suffixes text).map test) =
      (suffixes text).map fun suffix => (suffixes suffix).any test := by
  induction text with
  | nil => simp [suffixes, anyFrom]
  | cons c rest ih =>
      simp only [suffixes, List.map_cons, anyFrom, ih, headD_map_suffixes, List.any_cons]

theorem zipWith_suffixes (test : Char → Bool) (later : List Char → Bool) (text : List Char) :
    List.zipWith (fun c answer => test c && answer) text (((suffixes text).map later).drop 1) ++
        [false] =
      (suffixes text).map fun
        | [] => false
        | c :: rest => test c && later rest := by
  induction text with
  | nil => rfl
  | cons c rest ih =>
      cases rest with
      | nil => rfl
      | cons next others =>
          simp only [suffixes, List.map_cons, List.drop_one, List.tail_cons, List.zipWith_cons_cons,
            List.cons_append] at ih ⊢
          rw [ih]

theorem matchRow_eq (text : List Char) (parts : List GlobPart) :
    matchRow text parts = (suffixes text).map (partsMatch parts) := by
  induction parts with
  | nil => rfl
  | cons part rest ih =>
      cases part with
      | star =>
          rw [matchRow, ih, anyFrom_map_suffixes]
          rfl
      | one expected =>
          rw [matchRow, ih, zipWith_suffixes]
          exact List.map_congr_left fun suffix _ => by cases suffix <;> rfl

/-- The whole text matches the pattern, letter case included. -/
def globMatches (pattern text : String) : Bool :=
  (matchRow text.toList (globParts pattern.toList)).headD false

theorem globMatches_eq (pattern text : String) :
    globMatches pattern text = partsMatch (globParts pattern.toList) text.toList := by
  rw [globMatches, matchRow_eq, headD_map_suffixes]

def hasWildcards (pattern : String) : Bool :=
  pattern.toList.any fun c => c == '*' || c == '?' || c == '['

end ScriptAudit.Pattern
