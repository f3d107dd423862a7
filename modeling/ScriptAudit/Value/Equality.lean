import ScriptAudit.Value.Table

namespace ScriptAudit.Value

/-! When two values are equal.

Truth values count as the numbers zero and one, and numbers are compared as numbers.  Tables are
equal when they hold equal values under keys that agree but for letter case, in any order.  A
mapping equals a table when it does so after its keys have been put in lower case, where the last
of several keys that agree counts.  What is inside of a sequence, a table or a mapping need not
equal its counterpart if it is one object with it. -/

/-- Truth values and numbers as numbers. -/
def number? : Value → Option Number
  | bool value => some (.integer (if value then 1 else 0))
  | number value => some value
  | _ => none

/-- The pairs with their keys in lower case: a key keeps its first place and takes the last value
that it is given.  Nothing when a key is no text. -/
def foldPairs : List (Value × Value) → Option (List (String × Value)) :=
  List.foldlM (fun folded pair =>
    match pair.1 with
    | .text key =>
        some (if folded.any (·.1 == Text.lower key) then
          folded.map fun entry => if entry.1 == Text.lower key then (entry.1, pair.2) else entry
        else folded ++ [(Text.lower key, pair.2)])
    | _ => none) []

/-- A key of these pairs agrees with `key` but for letter case. -/
def mentions (key : Value) (pairs : List (Value × Value)) : Bool :=
  match key with
  | .text name => pairs.any fun pair =>
      match pair.1 with
      | .text other => Text.lower other == Text.lower name
      | _ => false
  | _ => false

def textOf : Value → String
  | .text value => value
  | _ => ""

/-- The two are one nan.  Any other value that is one object with another one equals it. -/
def oneNan : Value → Value → Bool
  | number (.real (.nan object)), number (.real (.nan object')) => object == object'
  | _, _ => false

mutual

def same : Value → Value → Bool
  | null, null => true
  | bool value, other =>
      other.number?.any (Number.same (.integer (if value then 1 else 0)))
  | number value, other => other.number?.any value.same
  | text value, text value' => value == value'
  | array items, array items' => sameItems items items'
  | list items, list items' => sameItems items items'
  | table entries, table entries' =>
      entries.length == entries'.length && entriesIn entries entries'
  | table entries, mapping pairs =>
      match foldPairs pairs with
      | some folded => entries.length == folded.length && entriesIn entries folded
      | none => false
  | mapping pairs, table entries =>
      match foldPairs pairs with
      | some folded => folded.length == entries.length && lastPairsIn pairs entries
      | none => false
  | mapping pairs, mapping pairs' => pairs.length == pairs'.length && pairsIn pairs pairs'
  | path value, path value' => value == value'
  | bytes value, bytes value' => value == value'
  | _, _ => false

def sameItems : List Value → List Value → Bool
  | [], [] => true
  | item :: rest, item' :: rest' =>
      (item.oneNan item' || item.same item') && sameItems rest rest'
  | _, _ => false

/-- Every entry has an equal one under its key. -/
def entriesIn : List (String × Value) → List (String × Value) → Bool
  | [], _ => true
  | (key, value) :: rest, others =>
      (Table.get? others key).any (fun other => value.oneNan other || value.same other) &&
        entriesIn rest others

/-- Every pair whose key does not come again has an equal entry under its key. -/
def lastPairsIn : List (Value × Value) → List (String × Value) → Bool
  | [], _ => true
  | (key, value) :: rest, others =>
      (mentions key rest || (Table.get? others key.textOf).any
        (fun other => value.oneNan other || value.same other)) && lastPairsIn rest others

/-- Every pair has an equal one. -/
def pairsIn : List (Value × Value) → List (Value × Value) → Bool
  | [], _ => true
  | (key, value) :: rest, others =>
      others.any (fun other => (key.oneNan other.1 || key.same other.1) &&
        (value.oneNan other.2 || value.same other.2)) && pairsIn rest others

end

/-- One object or equal: what parts of a value are compared by. -/
def agrees (value other : Value) : Bool :=
  value.oneNan other || value.same other

/-- The mapping that pairs make when they are put in one after the other: a key keeps its first
place and takes the last value that it is given. -/
def mappingOf (pairs : List (Value × Value)) : Value :=
  .mapping (pairs.foldl (fun kept pair =>
    if kept.any (·.1.agrees pair.1) then
      kept.map fun old => if old.1.agrees pair.1 then (old.1, pair.2) else old
    else kept ++ [pair]) [])

end ScriptAudit.Value
