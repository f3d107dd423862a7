import Mathlib.Data.List.Basic
import Mathlib.Data.List.Nodup
import ScriptAudit.Rule.Registry

namespace ScriptAudit.Rule

/-! What a registry holds after any calls.

It acts as a dictionary that is changed in place: entries stand under the lower-case forms of their
qualified names, and what a call has written stays when the call fails. -/

/-- A call that changes a registry. -/
inductive Call where
  | register (factory : Factory) (sourceType : Option SourceType)
  | unregister (name : String)

namespace Call

def removes : Call → Entry → Bool
  | register .., _ => false
  | unregister name, entry =>
      !Pattern.hasWildcards name && nameMatches name entry.descriptor.qualifiedName

/-- None of the calls takes the entry out. -/
def keep (calls : List Call) (entry : Entry) : Bool :=
  calls.all fun call => !call.removes entry

theorem keep_nil : keep [] = fun _ => true :=
  rfl

theorem keep_cons (call : Call) (calls : List Call) :
    keep (call :: calls) = fun entry => !call.removes entry && keep calls entry :=
  rfl

end Call

/-- Entries under their keys, in the order in which they came there. -/
structure Store where
  items : List (String × Entry) := []

namespace Store

def holds (store : Store) (key : String) : Bool :=
  store.items.any (·.1 == key)

/-- Puts an entry in the place of the one under its key, or else at the end. -/
def put (store : Store) (key : String) (entry : Entry) : Store :=
  if store.holds key then
    ⟨store.items.map fun item => if item.1 == key then (key, entry) else item⟩
  else ⟨store.items ++ [(key, entry)]⟩

def erase (store : Store) (key : String) : Store :=
  ⟨store.items.filter (·.1 != key)⟩

def register (factory : Factory) (sourceType : Option SourceType) (store : Store) :
    Except RegistryFault Unit × Store :=
  match factory.describe sourceType with
  | .error failure => (.error (.failed failure), store)
  | .ok entry =>
      if store.holds entry.key then
        (.error (.alreadyThere entry.descriptor.qualifiedName), store)
      else (.ok (), store.put entry.key entry)

/-- Goes over the items that are there at the start, and erases under the keys of those that the
name names. -/
def unregister (name : String) (store : Store) : Store :=
  store.items.foldl (fun left item =>
    if nameMatches name item.2.descriptor.qualifiedName && !Pattern.hasWildcards name then
      left.erase item.1
    else left) store

def call (store : Store) : Call → Store
  | .register factory sourceType => (store.register factory sourceType).2
  | .unregister name => store.unregister name

def after (store : Store) (calls : List Call) : Store :=
  calls.foldl call store

theorem foldl_erase (wanted : String × Entry → Bool) (items : List (String × Entry))
    (left : Store) :
    items.foldl (fun left item => if wanted item then left.erase item.1 else left) left =
      ⟨left.items.filter fun item =>
        items.all fun other => !(wanted other && other.1 == item.1)⟩ := by
  induction items generalizing left with
  | nil => simp
  | cons first rest ih =>
      rw [List.foldl_cons, ih, mk.injEq]
      by_cases chosen : wanted first = true
      · rw [if_pos chosen, erase, List.filter_filter]
        refine List.filter_congr fun item _ => ?_
        rw [List.all_cons, chosen, Bool.true_and, Bool.and_comm, Bool.beq_comm]
        rfl
      · rw [if_neg chosen]
        simp [chosen]

end Store

namespace Registry

variable {registry : Registry} {entry : Entry}

def keys (registry : Registry) : List String :=
  registry.entries.map Entry.key

def store (registry : Registry) : Store :=
  ⟨registry.entries.map fun entry => (entry.key, entry)⟩

/-- A registration that fails changes nothing. -/
def call (registry : Registry) : Call → Registry
  | .register factory sourceType =>
      match registry.register factory sourceType with
      | .ok later => later
      | .error _ => registry
  | .unregister name => registry.unregister name

def after (registry : Registry) (calls : List Call) : Registry :=
  calls.foldl call registry

/-- The entry that a call puts in. -/
def added? (registry : Registry) : Call → Option Entry
  | .register factory sourceType =>
      match factory.describe sourceType with
      | .ok entry => if entry.key ∈ registry.keys then none else some entry
      | .error _ => none
  | .unregister _ => none

/-- The entries that calls put in one after the other, each with the calls that come later. -/
def additions (registry : Registry) : List Call → List (Entry × List Call)
  | [] => []
  | call :: rest =>
      ((registry.added? call).map (·, rest)).toList ++ (registry.call call).additions rest

/-- The entries that the calls after them leave where they are. -/
def survivors (additions : List (Entry × List Call)) : List Entry :=
  (additions.filter fun added => Call.keep added.2 added.1).map Prod.fst

section Register

variable {factory : Factory} {sourceType : Option SourceType}

theorem any_key_iff : registry.entries.any (·.key == entry.key) = true ↔
    entry.key ∈ registry.keys := by
  simp [keys]

theorem register_failed {failure : Fault.Failure}
    (failed : factory.describe sourceType = .error failure) :
    registry.register factory sourceType = .error (.failed failure) := by
  rw [register, failed]
  rfl

theorem register_known (described : factory.describe sourceType = .ok entry)
    (known : entry.key ∈ registry.keys) :
    registry.register factory sourceType =
      .error (.alreadyThere entry.descriptor.qualifiedName) := by
  rw [register, described]
  exact if_pos (any_key_iff.mpr known)

theorem register_new (described : factory.describe sourceType = .ok entry)
    (new : entry.key ∉ registry.keys) :
    registry.register factory sourceType = .ok ⟨registry.entries ++ [entry]⟩ := by
  rw [register, described]
  exact if_neg (new ∘ any_key_iff.mp)

end Register

theorem call_register_new {factory : Factory} {sourceType : Option SourceType}
    (described : factory.describe sourceType = .ok entry) (new : entry.key ∉ registry.keys) :
    registry.call (.register factory sourceType) = ⟨registry.entries ++ [entry]⟩ := by
  rw [call, register_new described new]

theorem unregister_entries (registry : Registry) (name : String) :
    (registry.unregister name).entries =
      registry.entries.filter fun entry => !(Call.unregister name).removes entry := by
  simp [unregister, Call.removes, Bool.not_and]

/-- A call leaves the entries that it does not take out in their order, with the entry that it puts
in behind them. -/
theorem call_entries (registry : Registry) (call : Call) :
    (registry.call call).entries =
      registry.entries.filter (fun entry => !call.removes entry) ++
        (registry.added? call).toList := by
  cases call with
  | unregister name =>
      rw [Registry.call, unregister_entries, added?, Option.toList_none, List.append_nil]
  | register factory sourceType =>
      have kept : registry.entries.filter
          (fun entry => !(Call.register factory sourceType).removes entry) = registry.entries := by
        simp [Call.removes]
      rw [kept, Registry.call, added?]
      cases described : factory.describe sourceType with
      | error failure => simp [register_failed described]
      | ok entry =>
          by_cases known : entry.key ∈ registry.keys
          · simp [register_known described known, known]
          · simp [register_new described known, known]

theorem added?_new {call : Call} (added : registry.added? call = some entry) :
    entry.key ∉ registry.keys := by
  cases call with
  | unregister name => cases added
  | register factory sourceType =>
      rw [added?] at added
      split at added
      · split at added
        · cases added
        · next new =>
            cases added
            exact new
      · cases added

theorem nodup_empty : ({} : Registry).keys.Nodup :=
  List.nodup_nil

theorem call_nodup (nodup : registry.keys.Nodup) (call : Call) :
    (registry.call call).keys.Nodup := by
  have among : ((registry.entries.filter fun entry => !call.removes entry).map Entry.key).Sublist
      registry.keys := List.filter_sublist.map _
  rw [keys, call_entries, List.map_append]
  cases added : registry.added? call with
  | none => simpa using among.nodup nodup
  | some entry =>
      refine (among.nodup nodup).append (List.nodup_singleton entry.key) ?_
      exact List.disjoint_singleton.mpr fun member => added?_new added (among.subset member)

theorem after_nodup (nodup : registry.keys.Nodup) (calls : List Call) :
    (registry.after calls).keys.Nodup := by
  induction calls generalizing registry with
  | nil => exact nodup
  | cons call rest ih => exact ih (call_nodup nodup call)

theorem survivors_append (first second : List (Entry × List Call)) :
    survivors (first ++ second) = survivors first ++ survivors second := by
  rw [survivors, List.filter_append, List.map_append]
  rfl

/-- What was there and what calls put in stays, as far as no later call takes it out, in this
order. -/
theorem after_entries (registry : Registry) (calls : List Call) :
    (registry.after calls).entries =
      registry.entries.filter (Call.keep calls) ++ survivors (registry.additions calls) := by
  induction calls generalizing registry with
  | nil => simp [after, additions, survivors, Call.keep_nil]
  | cons call rest ih =>
      -- The later calls meet what the first one leaves, the entry that it puts in at the end.
      have kept : (registry.entries.filter fun entry => !call.removes entry).filter
          (Call.keep rest) = registry.entries.filter (Call.keep (call :: rest)) := by
        simp only [List.filter_filter, Call.keep_cons, Bool.and_comm]
      have put : (registry.added? call).toList.filter (Call.keep rest) =
          survivors ((registry.added? call).map (·, rest)).toList := by
        cases registry.added? call with
        | none => rfl
        | some entry => by_cases stays : Call.keep rest entry <;> simp [survivors, stays]
      rw [after, List.foldl_cons, ← after, ih, call_entries, List.filter_append, kept, put,
        additions, survivors_append, List.append_assoc]

theorem store_holds : registry.store.holds entry.key = true ↔ entry.key ∈ registry.keys := by
  simp [Store.holds, store, keys]

theorem store_put (new : entry.key ∉ registry.keys) :
    registry.store.put entry.key entry = (Registry.mk (registry.entries ++ [entry])).store := by
  rw [Store.put, if_neg (new ∘ store_holds.mp)]
  simp [store]

/-- Registering in the dictionary is registering in the registry, also where it fails. -/
theorem store_register (registry : Registry) (factory : Factory)
    (sourceType : Option SourceType) :
    registry.store.register factory sourceType =
      match registry.register factory sourceType with
      | .ok later => (.ok (), later.store)
      | .error fault => (.error fault, registry.store) := by
  rw [Store.register]
  cases described : factory.describe sourceType with
  | error failure => rw [register_failed described]
  | ok entry =>
      by_cases known : entry.key ∈ registry.keys
      · rw [register_known described known]
        exact if_pos (store_holds.mpr known)
      · rw [register_new described known]
        exact (if_neg (known ∘ store_holds.mp)).trans (congrArg _ (store_put known))

theorem key_inj (nodup : registry.keys.Nodup) {first second : Entry}
    (member : first ∈ registry.entries) (member' : second ∈ registry.entries)
    (same : first.key = second.key) : first = second :=
  List.inj_on_of_nodup_map nodup member member' same

/-- Where no two entries have one key, erasing under the keys of some takes out those only. -/
theorem store_unregister (nodup : registry.keys.Nodup) (name : String) :
    registry.store.unregister name = (registry.unregister name).store := by
  rw [Store.unregister, Store.foldl_erase, store, store, unregister_entries, Store.mk.injEq,
    List.filter_map]
  refine congrArg (List.map _) (List.filter_congr fun entry member => ?_)
  have stays : (!(Call.unregister name).removes entry) = true ↔
      nameMatches name entry.descriptor.qualifiedName = false ∨
        Pattern.hasWildcards name = true := by
    simp [Call.removes, or_comm]
  rw [Bool.eq_iff_iff, stays]
  simp only [Function.comp_apply, List.all_map, List.all_eq_true, Bool.not_eq_true',
    Bool.and_eq_false_iff, Bool.not_eq_false', beq_eq_false_iff_ne]
  constructor
  · intro apart
    exact (apart entry member).resolve_right (· rfl)
  · -- The keys are apart, so the key of this entry is erased only for its own sake.
    intro kept other among
    by_cases same : other.key = entry.key
    · rw [key_inj nodup among member same]
      exact .inl kept
    · exact .inr same

theorem store_call (nodup : registry.keys.Nodup) (call : Call) :
    registry.store.call call = (registry.call call).store := by
  cases call with
  | unregister name => exact store_unregister nodup name
  | register factory sourceType =>
      rw [Store.call, store_register, Registry.call]
      cases registry.register factory sourceType <;> rfl

theorem store_after (nodup : registry.keys.Nodup) (calls : List Call) :
    registry.store.after calls = (registry.after calls).store := by
  induction calls generalizing registry with
  | nil => rfl
  | cons call rest ih =>
      rw [Store.after, List.foldl_cons, ← Store.after, store_call nodup]
      exact ih (call_nodup nodup call)

/-- What calls make of an empty registry: a dictionary with one entry for each key, in the order in
which the entries that are still there were registered. -/
structure Keeps (registry : Registry) (calls : List Call) : Prop where
  stored : ({} : Store).after calls = registry.store
  nodup : registry.keys.Nodup
  ordered : registry.entries = survivors (additions {} calls)

/-- What registering does.  A factory that is not described passes its failure on, and a rule whose
key is there is refused; both leave the dictionary as it was. -/
structure Registers (registry : Registry) (factory : Factory) (sourceType : Option SourceType) :
    Prop where
  failed : ∀ failure, factory.describe sourceType = .error failure →
    registry.register factory sourceType = .error (.failed failure)
  known : ∀ entry, factory.describe sourceType = .ok entry → entry.key ∈ registry.keys →
    registry.register factory sourceType = .error (.alreadyThere entry.descriptor.qualifiedName)
  new : ∀ entry, factory.describe sourceType = .ok entry → entry.key ∉ registry.keys →
    ∃ later, registry.register factory sourceType = .ok later ∧
      later.entries = registry.entries ++ [entry] ∧
      registry.store.register factory sourceType = (.ok (), later.store)
  refused : ∀ entry, factory.describe sourceType = .ok entry →
    ((∃ fault, registry.register factory sourceType = .error fault ∧
      fault.failure.kind = "ValueError") ↔ entry.key ∈ registry.keys)
  unchanged : ∀ fault, registry.register factory sourceType = .error fault →
    registry.store.register factory sourceType = (.error fault, registry.store) ∧
      registry.call (.register factory sourceType) = registry

/-- What unregistering does: a name takes out the entries that it names, and a pattern none. -/
structure Unregisters (registry : Registry) (name : String) : Prop where
  stored : registry.store.unregister name = (registry.unregister name).store
  ordered : (registry.unregister name).entries.Sublist registry.entries
  kept_iff : ∀ entry, entry ∈ (registry.unregister name).entries ↔ entry ∈ registry.entries ∧
    (Pattern.hasWildcards name ∨ ¬ nameMatches name entry.descriptor.qualifiedName)
  pattern : Pattern.hasWildcards name → registry.unregister name = registry

/-- The builtin entries and the others, each in their order, are all of the entries. -/
structure Splits (registry : Registry) : Prop where
  builtin_sublist : registry.builtin.Sublist registry.entries
  custom_sublist : registry.custom.Sublist registry.entries
  whole : (registry.builtin ++ registry.custom).Perm registry.entries
  builtin_iff : ∀ entry ∈ registry.entries,
    entry ∈ registry.builtin ↔ entry.descriptor.isBuiltin
  custom_iff : ∀ entry ∈ registry.entries,
    entry ∈ registry.custom ↔ ¬ entry.descriptor.isBuiltin

theorem after_keeps (calls : List Call) : (({} : Registry).after calls).Keeps calls where
  stored := store_after nodup_empty calls
  nodup := after_nodup nodup_empty calls
  ordered := after_entries {} calls

theorem registers (registry : Registry) (factory : Factory) (sourceType : Option SourceType) :
    registry.Registers factory sourceType where
  failed _ := register_failed
  known _ := register_known
  new entry described new := by
    have added := register_new described new
    exact ⟨_, added, rfl, by rw [store_register, added]⟩
  refused entry described := by
    constructor
    · rintro ⟨fault, refused, -⟩
      by_contra new
      rw [register_new described new] at refused
      cases refused
    · exact fun known => ⟨_, register_known described known, rfl⟩
  unchanged fault refused := by
    rw [store_register, Registry.call, refused]
    exact ⟨rfl, rfl⟩

theorem unregisters (nodup : registry.keys.Nodup) (name : String) :
    registry.Unregisters name where
  stored := store_unregister nodup name
  ordered := List.filter_sublist
  kept_iff entry := by simp [unregister]
  pattern wild := by simp [unregister, wild]

theorem splits (registry : Registry) : registry.Splits where
  builtin_sublist := List.filter_sublist
  custom_sublist := List.filter_sublist
  whole := List.filter_append_perm _ registry.entries
  builtin_iff entry member := by simp [builtin, member]
  custom_iff entry member := by simp [custom, member]

/-- A registry that calls have made is a dictionary, and so it answers the next call. -/
theorem represents_dictionary (calls : List Call) :
    let registry := ({} : Registry).after calls
    registry.Keeps calls ∧
      (∀ factory sourceType, registry.Registers factory sourceType) ∧
      (∀ name, registry.Unregisters name) ∧ registry.Splits :=
  ⟨after_keeps calls, registers _, unregisters (after_nodup nodup_empty calls), splits _⟩

end Registry
end ScriptAudit.Rule
