import ScriptAudit.Proofs.Value.Dictionary
import ScriptAudit.Settings.Location

namespace ScriptAudit.Settings

/-! Where settings are looked up.

The keys of a settings hashtable are listed in the order of the source, each entry of the rules
after the rules.  Of two that are listed under one name the later one is found. -/

open Syntax

namespace Locations

variable {key name : String} {location : Location} {locations : Locations}

/-- Locations are a dictionary, whose keys are compared as they stand. -/
theorem put_eq_set : locations.put key location = Dictionary.set locations key location := by
  induction locations with
  | nil => rfl
  | cons entry rest ih => rw [put, Dictionary.set, ih]

theorem lookup_put :
    (locations.put key location).lookup name =
      if name = key then some location else locations.lookup name := by
  rw [put_eq_set, Dictionary.lookup_set]

end Locations

/-- A name under which a pair of nodes is listed, a key and its value. -/
abbrev Listed := String × (Node × Node)

/-- The pairs with constant keys, each listed under its key after `start`. -/
def listedKeys (start : String) (pairs : List (Node × Node)) : List Listed :=
  pairs.filterMap fun pair =>
    match pair.1 with
    | .stringConstant _ key _ => some (start ++ Text.lower key, pair)
    | _ => none

/-- The entries of the rules. -/
def listedRules (pair : Node × Node) : List Listed :=
  match pair.1 with
  | .stringConstant _ key _ =>
      if Text.lower key = rulesKey then
        listedKeys (rulesKey ++ ".") (pairsOf (soleElement pair.2))
      else []
  | _ => []

/-- What a pair of a settings hashtable is listed as: itself, and the entries of the rules. -/
def listing (pair : Node × Node) : List Listed :=
  listedKeys "" [pair] ++ listedRules pair

theorem mem_listedKeys {start : String} {pairs : List (Node × Node)} {listed : Listed} :
    listed ∈ listedKeys start pairs ↔ listed.2 ∈ pairs ∧ ∃ extent key quote,
      listed.2.1 = .stringConstant extent key quote ∧ listed.1 = start ++ Text.lower key := by
  rw [listedKeys, List.mem_filterMap]
  constructor
  · rintro ⟨pair, member, found⟩
    split at found
    · next extent key quote same =>
        cases found
        exact ⟨member, extent, key, quote, same, rfl⟩
    · cases found
  · rintro ⟨member, extent, key, quote, same, named⟩
    refine ⟨listed.2, member, ?_⟩
    simp only [same, ← named]

theorem listedRules_sublist (pair : Node × Node) :
    (listedRules pair).Sublist
      (listedKeys (rulesKey ++ ".") (pairsOf (soleElement pair.2))) := by
  unfold listedRules
  split
  · split
    · exact List.Sublist.refl _
    · exact List.nil_sublist _
  · exact List.nil_sublist _

def Listed.location (listed : Listed) : Location :=
  ⟨listed.2.1.extent, listed.2.2.extent⟩

/-- Sets the locations of all that is listed. -/
def Locations.putAll (locations : Locations) (all : List Listed) : Locations :=
  all.foldl (fun found listed => found.put listed.1 listed.location) locations

theorem Locations.putAll_append (locations : Locations) (first second : List Listed) :
    locations.putAll (first ++ second) = (locations.putAll first).putAll second :=
  List.foldl_append

theorem locateKeys_eq (start : String) (found : Locations) (pairs : List (Node × Node)) :
    locateKeys start found pairs = found.putAll (listedKeys start pairs) := by
  induction pairs generalizing found with
  | nil => rfl
  | cons pair rest ih =>
      obtain ⟨key, value⟩ := pair
      cases key <;> exact ih _

theorem locate_eq (hashtable : Node) :
    locate "" hashtable = Locations.putAll [] ((pairsOf hashtable).flatMap listing) := by
  unfold locate
  generalize ([] : Locations) = found
  induction pairsOf hashtable generalizing found with
  | nil => rfl
  | cons pair rest ih =>
      rw [List.foldl_cons, ih, List.flatMap_cons, Locations.putAll_append]
      congr 1
      obtain ⟨key, value⟩ := pair
      dsimp only
      rw [listing, Locations.putAll_append, ← locateKeys_eq, listedRules]
      cases key with
      | stringConstant extent name quote =>
          dsimp only
          by_cases rules : Text.lower name = rulesKey
          · rw [if_pos ⟨rfl, rules⟩, if_pos rules, locateKeys_eq]
          · rw [if_neg fun both => rules both.2, if_neg rules]
            rfl
      | _ => rfl

/-- The pair that is listed last under the name. -/
def lastListed (name : String) (all : List Listed) : Option Listed :=
  all.reverse.find? (·.1 == name)

theorem lookup_putAll (name : String) (locations : Locations) (all : List Listed) :
    (locations.putAll all).lookup name =
      ((lastListed name all).map Listed.location).or (locations.lookup name) := by
  induction all generalizing locations with
  | nil => rfl
  | cons listed rest ih =>
      have step : locations.putAll (listed :: rest) =
        (locations.put listed.1 listed.location).putAll rest := rfl
      have last : lastListed name (listed :: rest) =
          (lastListed name rest).or (if listed.1 == name then some listed else none) := by
        rw [lastListed, List.reverse_cons, List.find?_append, List.find?_singleton]
        rfl
      rw [step, ih, Locations.lookup_put, last]
      cases lastListed name rest with
      | some found => rfl
      | none =>
          by_cases same : name = listed.1
          · simp [same]
          · simp [same, Ne.symm same]

theorem find?_locate (name : String) (hashtable : Node) :
    (locate "" hashtable).find? name =
      (lastListed (Text.lower name) ((pairsOf hashtable).flatMap listing)).map
        Listed.location := by
  rw [Locations.find?, locate_eq, lookup_putAll, List.lookup_nil, Option.or_none]

theorem lastListed_mem {name : String} {all : List Listed} {found : Listed}
    (last : lastListed name all = some found) : found ∈ all ∧ found.1 = name :=
  ⟨List.mem_reverse.mp (List.mem_of_find?_eq_some last), by simpa using List.find?_some last⟩

theorem lastListed_append (name : String) (first second : List Listed) :
    lastListed name (first ++ second) = (lastListed name second).or (lastListed name first) := by
  rw [lastListed, List.reverse_append, List.find?_append]
  rfl

theorem lastListed_eq_none {name : String} {all : List Listed} :
    lastListed name all = none ↔ name ∉ all.map Prod.fst := by
  simp only [lastListed, List.find?_eq_none, List.mem_reverse, beq_iff_eq, List.mem_map,
    not_exists, not_and]

/-- Where all that is listed can be told apart, something is found by a name just when it has this
name and nothing is listed later under it. -/
theorem lastListed_iff {α : Type} {name : String} {own : Listed} {before after : List Listed}
    (side : Listed → α)
    (apart : (before ++ own :: after).Pairwise fun first second => side first ≠ side second) :
    (lastListed name (before ++ own :: after)).map side = some (side own) ↔
      own.1 = name ∧ name ∉ after.map Prod.fst := by
  obtain ⟨-, fromOwn, toOwn⟩ := List.pairwise_append.mp apart
  obtain ⟨fromOwn, -⟩ := List.pairwise_cons.mp fromOwn
  rw [← List.singleton_append, ← List.append_assoc, lastListed_append]
  by_cases later : name ∈ after.map Prod.fst
  · refine iff_of_false (fun found => ?_) fun both => both.2 later
    cases last : lastListed name after with
    | none => exact lastListed_eq_none.mp last later
    | some other =>
        rw [last] at found
        exact fromOwn other (lastListed_mem last).1 (Option.some.inj found).symm
  · rw [lastListed_eq_none.mpr later, Option.none_or, lastListed_append]
    by_cases named : own.1 = name
    · have found : lastListed name [own] = some own := by simp [lastListed, named]
      rw [found]
      exact iff_of_true rfl ⟨named, later⟩
    · have missed : lastListed name [own] = none := by simp [lastListed, named]
      refine iff_of_false (fun found => ?_) fun both => named both.1
      rw [missed, Option.none_or, Option.map_eq_some_iff] at found
      obtain ⟨other, last, same⟩ := found
      exact toOwn other (lastListed_mem last).1 own List.mem_cons_self same

end ScriptAudit.Settings
