import ScriptAudit.Proofs.Settings.Plain
import ScriptAudit.Proofs.Settings.Contents
import ScriptAudit.Proofs.Value.Flaw

namespace ScriptAudit.Settings

/-! Normalizing settings and freezing plain data.

Both make the same literal of a value, and both refuse the values that have a flaw.  They may tell
of different flaws of one value, since they look at its keys and parts in different orders. -/

open Value

/-- Two computations that give one result, or stop with a problem each. -/
inductive Concur {ε ε' α : Type} (problem : ε → Prop) (problem' : ε' → Prop) :
    Except ε α → Except ε' α → Prop where
  | ok (value : α) : Concur problem problem' (.ok value) (.ok value)
  | error {found : ε} {found' : ε'} (here : problem found) (there : problem' found') :
      Concur problem problem' (.error found) (.error found')

namespace Concur

variable {ε ε' α β : Type} {problem wider : ε → Prop} {problem' wider' : ε' → Prop}
  {first : Except ε α} {second : Except ε' α}

theorem imp (concur : Concur problem problem' first second)
    (problems : ∀ found, problem found → wider found)
    (problems' : ∀ found, problem' found → wider' found) : Concur wider wider' first second := by
  cases concur with
  | ok value => exact .ok value
  | error here there => exact .error (problems _ here) (problems' _ there)

theorem map (concur : Concur problem problem' first second) (f : α → β) :
    Concur problem problem' (f <$> first) (f <$> second) := by
  cases concur with
  | ok value => exact .ok (f value)
  | error here there => exact .error here there

theorem bind {next : α → Except ε β} {next' : α → Except ε' β}
    (concur : Concur problem problem' first second)
    (follows : ∀ value, Concur problem problem' (next value) (next' value)) :
    Concur problem problem' (first >>= next) (second >>= next') := by
  cases concur with
  | ok value => exact follows value
  | error here there => exact .error here there

/-- The second computation stops too, in the part that both have or in what follows there. -/
theorem stops {found : ε} {next' : α → Except ε' β} (concur : Concur problem problem' first second)
    (here : problem found)
    (follows : ∀ value, ∃ found', problem' found' ∧ next' value = .error found') :
    Concur problem problem' (.error found) (second >>= next') := by
  cases concur with
  | ok value =>
      obtain ⟨found', there, same⟩ := follows value
      have stopped : Except.ok value >>= next' = .error found' := same
      rw [stopped]
      exact .error here there
  | error _ there => exact .error here there

end Concur

/-- The fault tells of a flaw of the value. -/
def Tells (given : Value) (fault : Fault) : Prop :=
  ∃ (flaw : Flaw) (place : Fault.Place), given.Flawed flaw ∧ fault = shapeFault (flaw.cause place)

def FreezeTells (given : Value) (fault : FreezeFault) : Prop :=
  ∃ flaw, given.Flawed flaw ∧ fault = flaw.freezeFault

abbrev Freezes (given : Value) {α : Type} : Except Fault α → Except FreezeFault α → Prop :=
  Concur (Tells given) (FreezeTells given)

section
variable {given part : Value} {α : Type} {first : Except Fault α} {second : Except FreezeFault α}

theorem Freezes.inside (member : part ∈ given.inside) (freezes : Freezes part first second) :
    Freezes given first second := by
  refine freezes.imp ?_ ?_
  · rintro fault ⟨flaw, place, flawed, same⟩
    exact ⟨flaw, place, .inside member flawed, same⟩
  · rintro fault ⟨flaw, flawed, same⟩
    exact ⟨flaw, .inside member flawed, same⟩

theorem Freezes.formless (place : Fault.Place) (formless : given.isFormless) :
    Freezes (α := α) given (.error (shapeFault ((Flaw.formless given).cause place)))
      (.error (Flaw.formless given).freezeFault) :=
  .error ⟨_, place, .formless formless, rfl⟩ ⟨_, .formless formless, rfl⟩

end

theorem agreeing_of_spelling? {made : List (String × Value)} {name other : String}
    (found : Table.spelling? made name = some other) :
    other ∈ made.map Prod.fst ∧ Text.lower other = Text.lower name ∧
      Table.contains made name = true := by
  obtain ⟨entry, hit, rfl⟩ := Option.map_eq_some_iff.mp found
  have same : Text.lower entry.1 = Text.lower name := by
    rw [Table.find?] at hit
    simpa using List.find?_some hit
  refine ⟨List.mem_map_of_mem (List.mem_of_find?_eq_some hit), same, ?_⟩
  rw [Table.contains, hit]
  rfl

section
variable {given : Value} {earlier later : List (Value × Value)} {made : List (String × Value)}

theorem keysAgree_of_spelling? {name other : String} {value : Value}
    (parted : given.pairs = earlier ++ (.text name, value) :: later)
    (names : made.map (fun entry => Value.text entry.1) = earlier.map Prod.fst)
    (found : Table.spelling? made name = some other) : given.Flawed (.keysAgree other name) := by
  obtain ⟨known, same, -⟩ := agreeing_of_spelling? found
  refine .keysAgree ?_ same
  rw [keys, parted, List.map_append, ← names]
  refine show ([.text other] ++ [.text name] : List Value).Sublist _ from .append ?_ ?_
  · obtain ⟨entry, member, rfl⟩ := List.mem_map.mp known
    exact List.singleton_sublist.mpr (List.mem_map_of_mem member)
  · exact List.singleton_sublist.mpr List.mem_cons_self

end

mutual

theorem normalize_freezes (place : Fault.Place) (given : Value) :
    Freezes given (normalize place given) given.freeze := by
  cases given with
  | null => exact .formless place rfl
  | bool value => exact .ok _
  | number value => exact .ok _
  | text value => exact .ok _
  | array items => exact (normalizeItems_freezes place items fun _ => id).map _
  | list items => exact (normalizeItems_freezes place items fun _ => id).map _
  | table entries => exact (normalizeEntries_freezes place [] entries rfl rfl).map _
  | mapping pairs => exact (normalizePairs_freezes place [] pairs rfl rfl).map _
  | path value => exact .formless place rfl
  | bytes value => exact .formless place rfl
termination_by structural given

theorem normalizeItems_freezes {given : Value} (place : Fault.Place) (items : List Value)
    (within : ∀ item ∈ items, item ∈ given.inside) :
    Freezes given (normalizeItems place items) (freezeItems items) := by
  cases items with
  | nil => exact .ok _
  | cons item rest =>
      obtain ⟨first, later⟩ := List.forall_mem_cons.mp within
      rw [normalizeItems, freezeItems]
      refine ((normalize_freezes place item).inside first).bind fun literal => ?_
      exact (normalizeItems_freezes place rest later).bind fun _ => .ok _
termination_by structural items

theorem normalizeEntries_freezes {given : Value} (place : Fault.Place)
    {made : List (String × Value)} (earlier : List (Value × Value))
    (entries : List (String × Value))
    (parted : given.pairs = earlier ++ entries.map fun entry => (.text entry.1, entry.2))
    (names : made.map (fun entry => Value.text entry.1) = earlier.map Prod.fst) :
    Freezes given (normalizeEntries place made entries) (freezeEntries made entries) := by
  match entries with
  | [] => exact .ok _
  | (key, value) :: rest =>
      have within := mem_inside (parted ▸ List.mem_append_right _ List.mem_cons_self)
      rw [normalizeEntries, freezeEntries]
      split
      · next other found =>
          have flawed := keysAgree_of_spelling? parted names found
          refine ((normalize_freezes place value).inside within).stops
            ⟨_, place, flawed, rfl⟩ fun frozen => ⟨_, ⟨_, flawed, rfl⟩, ?_⟩
          rw [Table.add, if_pos (agreeing_of_spelling? found).2.2]
          rfl
      · next new =>
          refine ((normalize_freezes _ value).inside within).bind fun literal => ?_
          rw [Table.add, if_neg (Bool.eq_false_iff.mp (new_of_spelling? new))]
          refine normalizeEntries_freezes place (earlier ++ [(.text key, value)]) rest ?_ ?_
          · rw [parted, List.map_cons, List.append_cons]
          · simp [names]
termination_by structural entries

theorem normalizePairs_freezes {given : Value} (place : Fault.Place)
    {made : List (String × Value)} (earlier pairs : List (Value × Value))
    (parted : given.pairs = earlier ++ pairs)
    (names : made.map (fun entry => Value.text entry.1) = earlier.map Prod.fst) :
    Freezes given (normalizePairs place made pairs) (freezePairs made pairs) := by
  match pairs with
  | [] => exact .ok _
  | (key, value) :: rest =>
      have member : (key, value) ∈ given.pairs :=
        parted ▸ List.mem_append_right _ List.mem_cons_self
      have within := mem_inside member
      rw [freezePairs]
      cases key with
      | text name =>
          rw [normalizePairs]
          split
          · next other found =>
              have flawed := keysAgree_of_spelling? parted names found
              refine ((normalize_freezes place value).inside within).stops
                ⟨_, place, flawed, rfl⟩ fun frozen => ⟨_, ⟨_, flawed, rfl⟩, ?_⟩
              rw [Table.add, if_pos (agreeing_of_spelling? found).2.2]
              rfl
          · next new =>
              refine ((normalize_freezes _ value).inside within).bind fun literal => ?_
              rw [Table.add, if_neg (Bool.eq_false_iff.mp (new_of_spelling? new))]
              refine normalizePairs_freezes place (earlier ++ [(.text name, value)]) rest ?_ ?_
              · rw [parted, List.append_cons]
              · simp [names]
      | _ =>
          have flawed := Flawed.keyNotText (List.mem_map_of_mem member) fun name => nofun
          exact ((normalize_freezes place value).inside within).stops
            ⟨_, place, flawed, rfl⟩ fun frozen => ⟨_, ⟨_, flawed, rfl⟩, rfl⟩
termination_by structural pairs

end

/-- Normalizing makes a literal of a value exactly when freezing does, and it makes the same one.
Otherwise each of them tells of a flaw of the value.  Normalizing does so with a fault of the shape,
unless the flaw is a key with a number that no message can show. -/
theorem normalize_agrees_with_freeze (place : Fault.Place) (given : Value) :
    (∀ literal, normalize place given = .ok literal ↔ given.freeze = .ok literal) ∧
    (∀ problem, (normalize place given).mapError Problem.ofFault = .error problem →
      (∃ fault, problem = .fault fault ∧ fault.kind = .invalidValueShape ∧ Tells given fault) ∨
      problem = .integerNotShown ∧
        ∃ key, given.Flawed (.keyNotText key) ∧ Fault.isShown key = false) ∧
    ∀ fault, given.freeze = .error fault → FreezeTells given fault := by
  have concur := normalize_freezes place given
  generalize normalize place given = normal at concur ⊢
  generalize given.freeze = frozen at concur ⊢
  cases concur with
  | ok value => exact ⟨fun literal => by simp, fun problem => nofun, fun fault => nofun⟩
  | @error fault fault' tells freezeTells =>
      refine ⟨fun literal => by simp, fun problem raised => ?_, ?_⟩
      · cases raised
        obtain ⟨flaw, inner, flawed, rfl⟩ := tells
        rw [Problem.ofFault]
        split
        · exact .inl ⟨_, rfl, flaw.cause_kind inner, flaw, inner, flawed, rfl⟩
        · next hidden =>
            obtain ⟨key, rfl, long⟩ := flaw.cause_hidden inner (Bool.eq_false_iff.mpr hidden)
            exact .inr ⟨rfl, key, flawed, long⟩
      · rintro _ ⟨⟩
        exact freezeTells

/-- A key with too many digits hides that it is no text. -/
theorem normalize_misses_key :
    (normalize ⟨""⟩ (.mapping [(.number leastHidden, .bool true)])).mapError Problem.ofFault =
      .error .integerNotShown ∧
    (∃ key, Flawed (.mapping [(.number leastHidden, .bool true)]) (.keyNotText key) ∧
      Fault.isShown key = false) ∧
    FreezeTells (.mapping [(.number leastHidden, .bool true)])
      (.table (.keyNotText "int")) := by
  have raised : (normalize ⟨""⟩ (.mapping [(.number leastHidden, .bool true)])).mapError
      Problem.ofFault = .error .integerNotShown := by
    have hidden : (Fault.Cause.keyNotText ⟨""⟩ (.number leastHidden)).isShown = false :=
      leastHidden_hidden
    change Except.error (Problem.ofFault (shapeFault (.keyNotText ⟨""⟩ (.number leastHidden)))) = _
    rw [Problem.ofFault, if_neg (by simp [shapeFault, hidden])]
  obtain ⟨-, stops, freezes⟩ :=
    normalize_agrees_with_freeze ⟨""⟩ (.mapping [(.number leastHidden, .bool true)])
  refine ⟨raised, ?_, freezes _ rfl⟩
  rcases stops _ raised with ⟨fault, shown, -⟩ | ⟨-, hidden⟩
  · cases shown
  · exact hidden

end ScriptAudit.Settings
