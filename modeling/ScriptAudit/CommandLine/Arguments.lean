import ScriptAudit.Number.Shortest
import ScriptAudit.Text.Integer

namespace ScriptAudit.CommandLine

/-! The arguments of the command line.

Options may be shortened as long as one option remains that begins so.  An argument that looks like
a negative number is no option, and neither is one that comes after two dashes. -/

inductive OptionKey where
  | help
  | version
  | verbose
  | path
  | indent
deriving DecidableEq

structure OptionSpec where
  key : OptionKey
  names : List String
  takesValue : Bool := false

def helpOption : OptionSpec := ⟨.help, ["-h", "--help"], false⟩

def generalOptions : List OptionSpec :=
  [helpOption, ⟨.version, ["--version"], false⟩, ⟨.verbose, ["-v", "--verbose"], false⟩]

/-- What a command takes besides options. -/
inductive Operand where
  | none
  | optional
  | required
deriving DecidableEq

structure CommandSpec where
  options : List OptionSpec
  operand : Operand

/-- An option as it was given.  `spec` is missing when nobody knows the option, and `attached` says
that the value follows the name without an equals sign. -/
structure GivenOption where
  spec : Option OptionSpec
  name : String
  value : Option String := .none
  attached : Bool := false

inductive Argument where
  | word (text : String)
  | dashes
  | option (given : GivenOption)

/-- All names of the options. -/
def optionNames (options : List OptionSpec) : List (String × OptionSpec) :=
  options.flatMap fun option => option.names.map fun name => (name, option)

/-- The text before the first equals sign and the text after it. -/
def splitValue (text : String) : String × Option String :=
  let chars := text.toList
  let name := chars.takeWhile (· != '=')
  (String.ofList name,
    if name.length < chars.length then some (String.ofList (chars.drop (name.length + 1)))
    else .none)

/-- An argument that begins with one dash: options whose name is its first two characters, with
the rest as their value, and options whose name it shortens. -/
def shortCandidates (options : List OptionSpec) (text : String) : List GivenOption :=
  let start := String.ofList (text.toList.take 2)
  (optionNames options).filterMap fun entry =>
    if entry.1 = start then
      some ⟨some entry.2, entry.1, some (String.ofList (text.toList.drop 2)), true⟩
    else if text.toList.isPrefixOf entry.1.toList then
      some { spec := some entry.2, name := entry.1 }
    else .none

/-- An argument that begins with two dashes: options whose name it shortens. -/
def longCandidates (options : List OptionSpec) (text : String) : List GivenOption :=
  let parts := splitValue text
  (optionNames options).filterMap fun entry =>
    if parts.1.toList.isPrefixOf entry.1.toList then
      some { spec := some entry.2, name := entry.1, value := parts.2 }
    else .none

def isNegativeNumber (text : String) : Bool :=
  match text.toList with
  | '-' :: rest =>
      let whole := rest.takeWhile Text.isDecimalDigit
      match rest.drop whole.length with
      | [] => !whole.isEmpty
      | '.' :: fraction => !fraction.isEmpty && fraction.all Text.isDecimalDigit
      | _ => false
  | _ => false

/-- How one argument is taken; nothing when it shortens several options. -/
def classify (options : List OptionSpec) (text : String) : Option Argument :=
  let names := optionNames options
  if !text.startsWith "-" || text = "-" then some (.word text)
  else match names.lookup text with
    | some option => some (.option { spec := some option, name := text })
    | .none =>
        let parts := splitValue text
        match if parts.2.isSome then names.lookup parts.1 else .none with
        | some option => some (.option { spec := some option, name := parts.1, value := parts.2 })
        | .none =>
            let found :=
              if text.startsWith "--" then longCandidates options text
              else shortCandidates options text
            match found with
            | [given] => some (.option given)
            | _ :: _ :: _ => .none
            | [] =>
                if isNegativeNumber text || text.toList.contains ' ' then some (.word text)
                else some (.option { spec := .none, name := text })

/-- How all arguments are taken; after two dashes none is an option. -/
def classifyAll (options : List OptionSpec) : List String → Option (List Argument)
  | [] => some []
  | text :: rest =>
      if text = "--" then some (.dashes :: rest.map .word)
      else do return (← classify options text) :: (← classifyAll options rest)

/-- What ends the reading of the arguments early. -/
inductive Stop where
  | help
  | version
  | wrong
deriving DecidableEq

/-- What has been read.  `leftover` says that something was left that nobody takes. -/
structure Scanned where
  verbosity : Nat := 0
  path : Option String := .none
  indentation : Int := 2
  operand : Option String := .none
  operandDone : Bool := false
  leftover : Bool := false

namespace Scanned

def setValue (scanned : Scanned) (key : OptionKey) (value : String) : Except Stop Scanned :=
  match key with
  | .path => .ok { scanned with path := some value }
  | .indent =>
      match Text.integer? value with
      | some width => .ok { scanned with indentation := width }
      | .none => .error .wrong
  | _ => .error .wrong

def setFlag (scanned : Scanned) : OptionKey → Except Stop Scanned
  | .help => .error .help
  | .version => .error .version
  | .verbose => .ok { scanned with verbosity := scanned.verbosity + 1 }
  | _ => .error .wrong

end Scanned

/-- The flags that one argument gives: the flag itself, and those whose letters follow it.  Also
says whether a letter was left over that no flag has; the letters after it count no more. -/
def flagsOf (options : List OptionSpec) (flag : OptionSpec) :
    (letters : List Char) → Except Stop (List OptionKey × Bool)
  | [] => .ok ([flag.key], false)
  | c :: rest =>
      if c = '-' ∨ c = '=' then .error .wrong
      else match (optionNames options).lookup (String.ofList ['-', c]) with
        | some next =>
            if next.takesValue then .error .wrong
            else do
              let later ← flagsOf options next rest
              return (flag.key :: later.1, later.2)
        | .none => .ok ([flag.key], true)

/-- Takes a flag with what was written after its name. -/
def takeFlag (options : List OptionSpec) (scanned : Scanned) (flag : OptionSpec)
    (given : GivenOption) : Except Stop Scanned := do
  match given.value with
  | .none => scanned.setFlag flag.key
  | some letters =>
      if letters = "" ∨ !given.attached then .error .wrong
      else
        let flags ← flagsOf options flag letters.toList
        let taken ← flags.1.foldlM Scanned.setFlag scanned
        return { taken with leftover := taken.leftover || flags.2 }

/-- Reads the arguments of a command. -/
def scan (command : CommandSpec) (scanned : Scanned) : List Argument → Except Stop Scanned
  | [] =>
      if command.operand = .required ∧ !scanned.operandDone then .error .wrong else .ok scanned
  | .option given :: rest =>
      match given.spec with
      | .none => scan command { scanned with leftover := true } rest
      | some option =>
          if option.takesValue then
            match given.value, rest with
            | some value, rest => do scan command (← scanned.setValue option.key value) rest
            | .none, .word value :: rest => do
                scan command (← scanned.setValue option.key value) rest
            | .none, _ => .error .wrong
          else do scan command (← takeFlag command.options scanned option given) rest
  | .word text :: rest =>
      if command.operand ≠ .none ∧ !scanned.operandDone then
        let taken := { scanned with operand := some text, operandDone := true }
        match rest with
        | .dashes :: rest => scan command taken rest
        | rest => scan command taken rest
      else scan command { scanned with leftover := true } rest
  | .dashes :: rest =>
      if command.operand ≠ .none ∧ !scanned.operandDone then
        match rest with
        | .word text :: rest =>
            scan command { scanned with operand := some text, operandDone := true } rest
        | rest =>
            scan command
              { scanned with
                operandDone := command.operand = .optional
                leftover := scanned.leftover || command.operand = .required } rest
      else scan command { scanned with leftover := true } rest

inductive Command where
  | settings (given folder : Option String)
  | presets
  | parse (input : String) (indentation : Int)
deriving DecidableEq

def settingsSpec : CommandSpec := ⟨[helpOption, ⟨.path, ["--path"], true⟩], .optional⟩
def presetsSpec : CommandSpec := ⟨[helpOption], .none⟩
def parseSpec : CommandSpec := ⟨[helpOption, ⟨.indent, ["--indent"], true⟩], .required⟩

def commandSpecs : List (String × CommandSpec) :=
  [("settings", settingsSpec), ("presets", presetsSpec), ("parse", parseSpec)]

def commandOf (name : String) (scanned : Scanned) : Command :=
  if name = "settings" then .settings scanned.operand scanned.path
  else if name = "presets" then .presets
  else .parse (scanned.operand.getD "") scanned.indentation

/-- What the user asks for. -/
inductive Request where
  | nothing
  | run (verbosity : Nat) (command : Command)
deriving DecidableEq

/-- Reads the name of the command and its arguments; `texts` are the arguments that `arguments`
were made from. -/
def readCommand (scanned : Scanned) : List Argument → List String → Except Stop Request
  | .option given :: rest, _ :: texts =>
      match given.spec with
      | .none => readCommand { scanned with leftover := true } rest texts
      | some option => do
          readCommand (← takeFlag generalOptions scanned option given) rest texts
  | .word name :: _, _ :: texts =>
      match commandSpecs.lookup name with
      | .none => .error .wrong
      | some spec =>
          match classifyAll spec.options texts with
          | .none => .error .wrong
          | some arguments => do
              let own ← scan spec {} arguments
              if own.leftover || scanned.leftover then .error .wrong
              else return .run scanned.verbosity (commandOf name own)
  | [], _ => if scanned.leftover then .error .wrong else .ok .nothing
  | _, _ => .error .wrong

def readArguments (texts : List String) : Except Stop Request :=
  match classifyAll generalOptions texts with
  | .none => .error .wrong
  | some arguments => readCommand {} arguments texts

end ScriptAudit.CommandLine
