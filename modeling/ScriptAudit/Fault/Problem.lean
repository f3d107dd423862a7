import ScriptAudit.Fault.Basic
import ScriptAudit.Files.Tree
import ScriptAudit.Value.Table

namespace ScriptAudit

/-- What stops a task: a fault that tells the user what is wrong, trouble with a file that has no
such message, pairs that do not make a table, a key that is no text, a number that no message can
show, or a call that does not name exactly one source of text. -/
inductive Problem where
  | fault (fault : Fault)
  | file (trouble : Files.Trouble)
  | table (fault : Table.Fault)
  | keyWithoutCase
  | integerNotShown
  | notOneSource

def Problem.notOneSourceMessage : String :=
  "parse() needs exactly one of 'source' or 'path'"

def Problem.integerNotShownMessage : String :=
  "Exceeds the limit (" ++ Number.decimal Text.greatestIntegerDigits ++
    " digits) for integer string conversion; " ++
    "use sys.set_int_max_str_digits() to increase the limit"

/-- The problem that a fault is, which has to be put into words first. -/
def Problem.ofFault (fault : Fault) : Problem :=
  if fault.cause.isShown then .fault fault else .integerNotShown

/-- Faults of settings that came from a file name the file. -/
def Problem.inFile (path : String) : Problem → Problem
  | fault found => .fault (found.withFile path)
  | problem => problem

end ScriptAudit
