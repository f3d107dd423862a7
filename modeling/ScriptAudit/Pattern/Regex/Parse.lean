import ScriptAudit.Number.Shortest
import ScriptAudit.Pattern.Regex.Basic
import ScriptAudit.Text.Integer

namespace ScriptAudit.Pattern

/-! Reading regular expressions.

A text is read token by token, and the first thing that is wrong with it ends the reading. -/

structure RegexFlags where
  ignoreCase : Bool := false
  multiline : Bool := false
  dotAll : Bool := false
  verbose : Bool := false
  ascii : Bool := false

/-- What is refused although it may be well-formed: a number of repetitions that is too large, one
with too many digits to be converted, and settings that exclude each other. -/
inductive Refusal where
  | countTooLarge
  | countTooLong (digits : Nat)
  | settingsClash
deriving DecidableEq

def Refusal.message : Refusal → String
  | countTooLarge => "the repetition number is too large"
  | countTooLong digits =>
      "Exceeds the limit (" ++ Number.decimal Text.greatestIntegerDigits ++
        " digits) for integer string conversion: value has " ++ Number.decimal digits ++
        " digits; use sys.set_int_max_str_digits() to increase the limit"
  | settingsClash => "ASCII and UNICODE flags are incompatible"

/-- Why a text gives no regular expression. -/
inductive RegexFault where
  | malformed
  | refused (refusal : Refusal)
deriving DecidableEq

/-- A character, a character after a backslash, or a backslash that nothing follows. -/
inductive RegexToken where
  | plain (c : Char)
  | escaped (c : Char)
  | dangling
deriving DecidableEq

def regexTokens : List Char → List RegexToken
  | [] => []
  | ['\\'] => [.dangling]
  | '\\' :: c :: rest => .escaped c :: regexTokens rest
  | c :: rest => .plain c :: regexTokens rest

/-- The characters of a token. -/
def RegexToken.chars : RegexToken → List Char
  | plain c => [c]
  | escaped c => ['\\', c]
  | dangling => ['\\']

/-- What has been read: the rest of the text, the groups with the widths of those that are closed,
and their names.  Inside a condition on what lies behind, `known` is the number of groups that
came before it.  `sound` is lost by what is only objected to once all has been read, and `repeats`
says that something is repeated.  Characters are `named` in escapes. -/
structure Reading where
  rest : List RegexToken
  named : String → Option Nat
  groups : List (Option Width) := []
  names : List (String × Nat) := []
  known : Option Nat := none
  conditions : List Nat := []
  sound : Bool := true
  repeats : Bool := false

abbrev RegexReader := StateT Reading (Except RegexFault)

namespace RegexReader

def malformed {α : Type} : RegexReader α :=
  throw .malformed

def refuse {α : Type} (refusal : Refusal) : RegexReader α :=
  throw (.refused refusal)

def peek : RegexReader (Option RegexToken) := do
  return (← get).rest.head?

/-- Goes on to this rest of the text.  Its first token is looked at already, so a backslash at the
end of the text is noticed before its turn comes. -/
def goOn (rest : List RegexToken) : RegexReader Unit := do
  if rest.head? = some .dangling then malformed
  else modify fun reading => { reading with rest := rest }

def advance (count : Nat) : RegexReader Unit := do
  goOn ((← get).rest.drop count)

def next : RegexReader RegexToken := do
  match (← get).rest with
  | token :: rest =>
      goOn rest
      return token
  | [] => malformed

/-- Reads the given text, if it comes next. -/
def accept (text : String) : RegexReader Bool := do
  if (text.toList.map .plain).isPrefixOf (← get).rest then
    advance text.length
    return true
  else return false

def expect (text : String) : RegexReader Unit := do
  if ← accept text then return () else malformed

/-- The plain characters that the tokens begin with and for which a test holds. -/
def plainPrefix (test : Char → Bool) : List RegexToken → List Char
  | .plain c :: rest => if test c then c :: plainPrefix test rest else []
  | _ => []

/-- Reads at most `most` characters for which the test holds. -/
def takeWhile (most : Nat) (test : Char → Bool) : RegexReader (List Char) := do
  let taken := plainPrefix test ((← get).rest.take most)
  advance taken.length
  return taken

/-- Reads up to the given character and past it. -/
def upTo (stop : Char) : RegexReader (List Char) := do
  let rest := (← get).rest
  let taken := rest.takeWhile (· != .plain stop)
  if taken.length < rest.length then
    advance (taken.length + 1)
    return taken.flatMap RegexToken.chars
  else malformed

end RegexReader

open RegexReader

def isOctal (c : Char) : Bool :=
  '0' ≤ c && c ≤ '7'

def digitsOf (base : Nat) (digits : List Char) : Nat :=
  Text.ofDigits base (digits.filterMap Text.hexValue?)

/-- Reads exactly `count` hexadecimal digits. -/
def hexCode (count : Nat) : RegexReader Nat := do
  let digits ← takeWhile count fun c => (Text.hexValue? c).isSome
  if digits.length = count then return digitsOf 16 digits else malformed

def controlEscapes : List (Char × Nat) :=
  [('a', 7), ('f', 12), ('n', 10), ('r', 13), ('t', 9), ('v', 11)]

def kindEscapes : List (Char × CharKind × Bool) :=
  [('d', .digit, false), ('D', .digit, true), ('s', .space, false), ('S', .space, true),
    ('w', .word, false), ('W', .word, true)]

def greatestCode : Nat := 0x10ffff

/-- The code point of the character that is named in braces. -/
def namedCode : RegexReader Nat := do
  expect "\x7b"
  let name ← upTo '\x7d'
  match (← get).named (String.ofList name) with
  | some code => return code
  | none => malformed

/-- The code point that an escape means inside a class and outside of one; `c` is the character
after the backslash. -/
def plainEscape (c : Char) : RegexReader Nat := do
  match controlEscapes.lookup c with
  | some code => return code
  | none =>
      match c with
      | 'x' => hexCode 2
      | 'u' => hexCode 4
      | 'U' =>
          let code ← hexCode 8
          if code ≤ greatestCode then return code else malformed
      | 'N' => namedCode
      | _ => if c.isAlphanum then malformed else return c.toNat

/-- A member of a class that is written as `c` after a backslash. -/
def classEscape (c : Char) : RegexReader ClassMember := do
  match kindEscapes.lookup c with
  | some (kind, negated) => return .kind kind negated
  | none =>
      if c = 'b' then return .code 8
      else if isOctal c then
        let code := digitsOf 8 (c :: (← takeWhile 2 isOctal))
        if code ≤ 0o377 then return .code code else malformed
      else return .code (← plainEscape c)

def classMember : RegexToken → RegexReader ClassMember
  | .plain c => return .code c.toNat
  | .escaped c => classEscape c
  | .dangling => malformed

/-- The members of a class up to its closing bracket, which is a member itself when it comes
first. -/
def classMembers : (fuel : Nat) → (first : Bool) → RegexReader (List ClassMember)
  | 0, _ => malformed
  | fuel + 1, first => do
      let token ← next
      if token = .plain ']' && !first then return []
      else
        let low ← classMember token
        if ← accept "-" then
          let other ← next
          if other = .plain ']' then return [low, .code '-'.toNat]
          else
            match low, ← classMember other with
            | .code low, .code high =>
                if high < low then malformed
                else return .range low high :: (← classMembers fuel false)
            | _, _ => malformed
        else return low :: (← classMembers fuel false)

def RegexFlags.letterCase? (flags : RegexFlags) : Option LetterCase :=
  if flags.ignoreCase then some ⟨flags.ascii⟩ else none

def RegexFlags.test (flags : RegexFlags) (negated : Bool) (members : List ClassMember) : Regex :=
  .one ⟨negated, members, flags.ignoreCase, flags.ascii⟩

def RegexFlags.code (flags : RegexFlags) (code : Nat) : Regex :=
  flags.test false [.code code]

/-- A group that is closed. -/
def closedWidth? (reading : Reading) (number : Nat) : Option Width :=
  if number = 0 then none else (reading.groups[number - 1]?).join

/-- A group may be referred to once it is closed, and behind a place only when it was known
there. -/
def checkReference (number : Nat) : RegexReader Unit := do
  let reading ← get
  if (closedWidth? reading number).isSome && reading.known.all (number ≤ ·) then return ()
  else malformed

def backReference (flags : RegexFlags) (number : Nat) : RegexReader Regex := do
  checkReference number
  return .backReference number flags.letterCase?

/-- What a backslash and `c` after it stand for. -/
def escape (flags : RegexFlags) (c : Char) : RegexReader Regex := do
  match kindEscapes.lookup c with
  | some (kind, negated) => return .one ⟨false, [.kind kind negated], false, flags.ascii⟩
  | none =>
      if c = 'A' then return .anchor .textStart
      else if c = 'Z' then return .anchor .textEnd
      else if c = 'b' then return .anchor (.wordBoundary flags.ascii false)
      else if c = 'B' then return .anchor (.wordBoundary flags.ascii true)
      else if c = '0' then return flags.code (digitsOf 8 (← takeWhile 2 isOctal))
      else if c.isDigit then
        match ← takeWhile 1 Char.isDigit with
        | [d] =>
            if isOctal c && isOctal d then
              match ← takeWhile 1 isOctal with
              | [e] =>
                  let code := digitsOf 8 [c, d, e]
                  if code ≤ 0o377 then return flags.code code else malformed
              | _ => backReference flags (digitsOf 10 [c, d])
            else backReference flags (digitsOf 10 [c, d])
        | _ => backReference flags (digitsOf 10 [c])
      else return flags.code (← plainEscape c)

/-- Numbers of repetitions lie below this one. -/
def repetitionLimit : Nat := 4294967295

/-- The number of repetitions that digits denote. -/
def repetitions (digits : List Char) : RegexReader Nat :=
  if Text.greatestIntegerDigits < digits.length then refuse (.countTooLong digits.length)
  else if repetitionLimit ≤ digitsOf 10 digits then refuse .countTooLarge
  else return digitsOf 10 digits

/-- The number of repetitions after an opening brace; nothing when the brace stands for itself. -/
def braceBounds : RegexReader (Option (Nat × Option Nat)) := do
  let start ← get
  if (← peek) = some (.plain '\x7d') then return none
  else
    let low ← takeWhile start.rest.length Char.isDigit
    let high ← if ← accept "," then takeWhile start.rest.length Char.isDigit else pure low
    if ← accept "\x7d" then
      let least ← repetitions low
      if high.isEmpty then return some (least, none)
      else
        let most ← repetitions high
        if most < least then malformed else return some (least, some most)
    else
      set start
      return none

def greed : RegexReader Greed := do
  if ← accept "?" then return .lazy
  else if ← accept "+" then return .possessive
  else return .greedy

/-- The last item, repeated.  There must be one, and it must be neither an anchor nor repeated
already. -/
def repeatLast (items : List Regex) (least : Nat) (most : Option Nat) :
    RegexReader (List Regex) := do
  modify fun reading => { reading with repeats := true }
  match items with
  | [] | .anchor _ :: _ | .repeated .. :: _ => malformed
  | .enclosed body :: before => return .repeated least most (← greed) body :: before
  | item :: before => return .repeated least most (← greed) item :: before

def isNameStart (c : Char) : Bool :=
  c == '_' || c.isAlpha || (0x80 ≤ c.toNat && Text.isWordChar c && !Text.isDecimalDigit c)

def isName (name : List Char) : Bool :=
  match name with
  | [] => false
  | first :: rest => isNameStart first && rest.all fun c => c == '_' || Text.isWordChar c

/-- Settings that a group turns on and off. -/
structure FlagChange where
  on : List Char
  off : List Char
  everywhere : Bool

def isFlag (c : Char) : Bool :=
  "imsxatu".toList.contains c

def isTypeFlag (c : Char) : Bool :=
  c == 'a' || c == 'u'

/-- Reads flags after the question mark of a group. -/
def flagChange : RegexReader FlagChange := do
  let length := (← get).rest.length
  let on ← takeWhile length isFlag
  if on.contains 'a' && on.contains 'u' then malformed
  else if !on.isEmpty && (← accept ")") then return ⟨on, [], true⟩
  else if on.contains 't' then malformed
  else if !on.isEmpty && (← accept ":") then return ⟨on, [], false⟩
  else
    expect "-"
    let off ← takeWhile length isFlag
    expect ":"
    if off.isEmpty || off.any (fun c => isTypeFlag c || c == 't' || on.contains c) then malformed
    else return ⟨on, off, false⟩

def RegexFlags.change (flags : RegexFlags) (on off : List Char) : RegexFlags :=
  let set (c : Char) (old : Bool) : Bool := (old || on.contains c) && !off.contains c
  { ignoreCase := set 'i' flags.ignoreCase
    multiline := set 'm' flags.multiline
    dotAll := set 's' flags.dotAll
    verbose := set 'x' flags.verbose
    ascii := if on.contains 'u' then false else set 'a' flags.ascii }

/-- How a parenthesis begins. -/
inductive GroupKind where
  | plain (flags : RegexFlags)
  | atomic
  | capturing (name : Option String)
  | ahead (negated : Bool)
  | behind (negated : Bool)
  | conditional (number : Nat)
  | comment
  | reference (number : Nat)

def groupName (stop : Char) : RegexReader String := do
  let name ← upTo stop
  if isName name then return String.ofList name else malformed

def namedGroup (name : String) : RegexReader Nat := do
  match (← get).names.lookup name with
  | some number => return number
  | none => malformed

/-- Numbers of groups lie below this one. -/
def groupLimit : Nat := 1073741823

/-- The group that a condition asks for.  Whether there is one of this number is asked later. -/
def conditionNumber : RegexReader Nat := do
  let name ← upTo ')'
  if isName name then namedGroup (String.ofList name)
  else
    match Text.integer? (String.ofList name) with
    | some (.ofNat number) =>
        if number = 0 ∨ groupLimit ≤ number then malformed
        else
          modify fun reading => { reading with conditions := number :: reading.conditions }
          return number
    | _ => malformed

/-- Reads the beginning of a group after its parenthesis. -/
def groupKind (flags : RegexFlags) : RegexReader GroupKind := do
  if !(← accept "?") then return .capturing none
  else if ← accept "P<" then return .capturing (some (← groupName '>'))
  else if ← accept "P=" then
    let number ← namedGroup (← groupName ')')
    return .reference number
  else if ← accept ":" then return .plain flags
  else if ← accept "#" then
    let _ ← upTo ')'
    return .comment
  else if ← accept "=" then return .ahead false
  else if ← accept "!" then return .ahead true
  else if ← accept "<=" then return .behind false
  else if ← accept "<!" then return .behind true
  else if ← accept ">" then return .atomic
  else if ← accept "(" then
    let number ← conditionNumber
    if (← get).known.isSome then checkReference number
    return .conditional number
  else
    let change ← flagChange
    if change.everywhere then malformed else return .plain (flags.change change.on change.off)

def openGroup (name : Option String) : RegexReader Nat := do
  let reading ← get
  let number := reading.groups.length + 1
  match name with
  | none => set { reading with groups := reading.groups ++ [none] }
  | some name =>
      if (reading.names.lookup name).isSome then malformed
      else
        set { reading with
          groups := reading.groups ++ [none], names := (name, number) :: reading.names }
  return number

def groupWidths (reading : Reading) (number : Nat) : Width :=
  (closedWidth? reading number).getD .zero

def closeGroup (number : Nat) (body : Regex) : RegexReader Unit :=
  modify fun reading =>
    let width := body.width (groupWidths reading)
    { reading with groups := reading.groups.set (number - 1) (some width) }

/-- The items, which were read last one first, in their order. -/
def inSequence (items : List Regex) : Regex :=
  items.foldl (fun later item =>
    match later with
    | .nothing => item
    | _ => .sequence item later) .nothing

def isBlankInVerbose (c : Char) : Bool :=
  c == ' ' || ('\t' ≤ c && c ≤ '\r')

/-- Skips the rest of a line. -/
def skipLine : RegexReader Unit := do
  let rest := (← get).rest
  advance ((rest.takeWhile (· != .plain '\n')).length + 1)

/-- What lies behind a place is looked at with at most this many characters. -/
def greatestBehind : Nat := 4294967295

/-- Where this does not hold the text is no regular expression, but what comes later is read
first. -/
def checkLater (holds : Bool) : RegexReader Unit :=
  modify fun reading => { reading with sound := reading.sound && holds }

mutual

/-- The items up to the end of the branch, after those read so far. -/
def branchItems : (fuel : Nat) → RegexFlags → List Regex → RegexReader Regex
  | 0, _, _ => malformed
  | fuel + 1, flags, items => do
      match ← peek with
      | none | some (.plain '|') | some (.plain ')') => return inSequence items
      | some .dangling => malformed
      | some (.escaped c) =>
          advance 1
          branchItems fuel flags ((← escape flags c) :: items)
      | some (.plain c) =>
          advance 1
          if flags.verbose && isBlankInVerbose c then branchItems fuel flags items
          else if flags.verbose && c == '#' then
            skipLine
            branchItems fuel flags items
          else
            match c with
            | '[' =>
                let negated ← accept "^"
                let members ← classMembers ((← get).rest.length + 1) true
                branchItems fuel flags (flags.test negated members :: items)
            | '.' => branchItems fuel flags (.anyChar flags.dotAll :: items)
            | '^' =>
                branchItems fuel flags
                  (.anchor (if flags.multiline then .lineStart else .textStart) :: items)
            | '$' =>
                branchItems fuel flags
                  (.anchor (if flags.multiline then .lineEnd else .beforeLastBreak) :: items)
            | '?' => branchItems fuel flags (← repeatLast items 0 (some 1))
            | '*' => branchItems fuel flags (← repeatLast items 0 none)
            | '+' => branchItems fuel flags (← repeatLast items 1 none)
            | '\x7b' =>
                match ← braceBounds with
                | some (least, most) => branchItems fuel flags (← repeatLast items least most)
                | none => branchItems fuel flags (flags.code c.toNat :: items)
            | '(' =>
                match ← group fuel flags with
                | some item => branchItems fuel flags (item :: items)
                | none => branchItems fuel flags items
            | _ => branchItems fuel flags (flags.code c.toNat :: items)

/-- A group after its parenthesis; a comment is nothing. -/
def group : (fuel : Nat) → RegexFlags → RegexReader (Option Regex)
  | 0, _ => malformed
  | fuel + 1, flags => do
      match ← groupKind flags with
      | .comment => return none
      | .reference number => return some (← backReference flags number)
      | .plain inner =>
          let body ← branches fuel inner
          expect ")"
          return some (.enclosed body)
      | .atomic =>
          let body ← branches fuel flags
          expect ")"
          return some (.atomic body)
      | .capturing name =>
          let number ← openGroup name
          let body ← branches fuel flags
          expect ")"
          closeGroup number body
          return some (.capture number body)
      | .ahead negated =>
          let body ← branches fuel flags
          expect ")"
          return some (.ahead negated body)
      | .behind negated =>
          let outer := (← get).known
          modify fun reading => { reading with known := some (outer.getD reading.groups.length) }
          let body ← branches fuel flags
          modify fun reading => { reading with known := outer }
          expect ")"
          let width := body.width (groupWidths (← get))
          checkLater (width.most = some width.least && width.least ≤ greatestBehind)
          return some (.behind negated width.least body)
      | .conditional number =>
          let yes ← branchItems fuel flags []
          let no ← if ← accept "|" then branchItems fuel flags [] else pure .nothing
          expect ")"
          return some (.conditional number yes no)

/-- Branches with bars between them. -/
def branches : (fuel : Nat) → RegexFlags → RegexReader Regex
  | 0, _ => malformed
  | fuel + 1, flags => do
      let first ← branchItems fuel flags []
      if ← accept "|" then return .either first (← branches fuel flags) else return first

end

/-- The letters of the flags for the whole expression, after those read so far.  They stand at its
beginning, where comments may come before them. -/
def leadingFlags : (fuel : Nat) → (letters : List Char) → RegexReader (List Char)
  | 0, letters => return letters
  | fuel + 1, letters => do
      let start ← get
      let verbose := letters.contains 'x'
      match start.rest with
      | .plain '(' :: .plain '?' :: .plain '#' :: _ =>
          let _ ← upTo ')'
          leadingFlags fuel letters
      | .plain '(' :: .plain '?' :: .plain c :: _ =>
          if isFlag c then
            advance 2
            let change ← flagChange
            if change.everywhere then leadingFlags fuel (letters ++ change.on)
            else
              set start
              return letters
          else return letters
      | .plain c :: _ =>
          if verbose && isBlankInVerbose c then
            advance 1
            leadingFlags fuel letters
          else if verbose && c == '#' then
            skipLine
            leadingFlags fuel letters
          else return letters
      | _ => return letters

/-- Flags that exclude each other are refused once all has been read, and other objections come
after that. -/
def wholeRegex (ignoreCase : Bool) (length : Nat) : RegexReader Regex := do
  goOn (← get).rest
  let letters ← leadingFlags (length + 1) []
  let flags : RegexFlags := { ignoreCase := ignoreCase }
  let regex ← branches (4 * length + 8) (flags.change letters [])
  if letters.contains 'a' && letters.contains 'u' then refuse .settingsClash
  else
    let reading ← get
    if reading.rest.isEmpty && reading.conditions.all (· ≤ reading.groups.length) &&
        reading.sound && !(letters.contains 't' && reading.repeats) then
      return regex
    else malformed

/-- The regular expression that a text denotes; `named` has the characters that have names. -/
def Regex.ofText (named : String → Option Nat) (ignoreCase : Bool) (text : String) :
    Except RegexFault Regex :=
  ((wholeRegex ignoreCase text.length).run { rest := regexTokens text.toList, named := named }).map
    Prod.fst

end ScriptAudit.Pattern
