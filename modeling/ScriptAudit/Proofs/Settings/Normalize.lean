import ScriptAudit.Proofs.Fault.Ends
import ScriptAudit.Proofs.Value.Literal
import ScriptAudit.Settings.Normalize

namespace ScriptAudit.Settings

/-! What normalization ends with: a literal, or the fault that some value has no literal form.

What is given may hold numbers that no message can show.  `shown` says that it holds none. -/

variable {shown : Prop}

structure IsMade (shown : Prop) (value : Value) : Prop where
  literal : value.IsLiteral
  shows : shown → Fault.isShown value

structure IsMisshapen (shown : Prop) (fault : Fault) : Prop where
  kind : fault.kind = .invalidValueShape
  shows : shown → fault.cause.isShown

theorem IsMade.array {items : List Value} (all : ∀ item ∈ items, IsMade shown item) :
    IsMade shown (.array items) where
  literal := .array fun item member => (all item member).literal
  shows known := by
    rw [Fault.isShown, Fault.areShown_eq, List.all_eq_true]
    exact fun item member => (all item member).shows known

theorem IsMade.table {entries : List (String × Value)} (distinct : Table.Distinct entries)
    (all : ∀ entry ∈ entries, IsMade shown entry.2) : IsMade shown (.table entries) where
  literal := .table distinct fun entry member => (all entry member).literal
  shows known := by
    rw [Fault.isShown, Fault.areShownEntries_eq, List.all_eq_true]
    exact fun entry member => (all entry member).shows known

/-- A literal that need not be shown. -/
theorem isMade_of_literal {value : Value} (literal : value.IsLiteral) : IsMade False value :=
  ⟨literal, False.elim⟩

theorem IsMade.entries {entries : List (String × Value)} (made : IsMade shown (.table entries)) :
    ∀ entry ∈ entries, IsMade shown entry.2 := by
  have shows := made.shows
  rw [Fault.isShown, Fault.areShownEntries_eq, List.all_eq_true] at shows
  cases made.literal with
  | table distinct all => exact fun entry member => ⟨all entry member, (shows · entry member)⟩

theorem new_of_spelling? {made : List (String × Value)} {name : String}
    (new : Table.spelling? made name = none) : Table.contains made name = false := by
  rw [Table.spelling?, Option.map_eq_none_iff] at new
  rw [Table.contains, new]
  rfl

mutual

theorem normalize_ends (place : Fault.Place) (value : Value)
    (shows : shown → Fault.isShown value) :
    Ends (IsMade shown) (IsMisshapen shown) (normalize place value) := by
  cases value with
  | null => exact ⟨rfl, fun _ => rfl⟩
  | bool value => exact ⟨.bool value, shows⟩
  | number value => exact ⟨.number value, shows⟩
  | text value => exact ⟨.text value, shows⟩
  | array items =>
      exact ((normalizeItems_ends place items shows).imp (fun _ => .array) fun _ => id).map
  | list items =>
      exact ((normalizeItems_ends place items shows).imp (fun _ => .array) fun _ => id).map
  | table entries =>
      exact (normalizeEntries_ends place entries shows Table.distinct_nil
        (List.forall_mem_nil _)).map
  | mapping pairs =>
      exact (normalizePairs_ends place pairs shows Table.distinct_nil (List.forall_mem_nil _)).map
  | path value => exact ⟨rfl, fun _ => rfl⟩
  | bytes value => exact ⟨rfl, fun _ => rfl⟩

theorem normalizeItems_ends (place : Fault.Place) (items : List Value)
    (shows : shown → Fault.areShown items) :
    Ends (∀ item ∈ ·, IsMade shown item) (IsMisshapen shown) (normalizeItems place items) := by
  cases items with
  | nil => exact List.forall_mem_nil _
  | cons item rest =>
      rw [Fault.areShown, Bool.and_eq_true] at shows
      rw [normalizeItems]
      refine (normalize_ends place item fun known => (shows known).1).bind fun first made => ?_
      refine (normalizeItems_ends place rest fun known => (shows known).2).bind fun later all => ?_
      exact List.forall_mem_cons.mpr ⟨made, all⟩

theorem normalizeEntries_ends (place : Fault.Place) {made : List (String × Value)}
    (entries : List (String × Value)) (shows : shown → Fault.areShownEntries entries)
    (distinct : Table.Distinct made) (all : ∀ entry ∈ made, IsMade shown entry.2) :
    Ends (fun whole => IsMade shown (.table whole)) (IsMisshapen shown)
      (normalizeEntries place made entries) := by
  match entries with
  | [] => exact .table distinct all
  | (key, value) :: rest =>
      rw [Fault.areShownEntries, Bool.and_eq_true] at shows
      rw [normalizeEntries]
      split
      · exact ⟨rfl, fun _ => rfl⟩
      · next new =>
          refine (normalize_ends _ value fun known => (shows known).1).bind fun literal one => ?_
          refine normalizeEntries_ends place rest (fun known => (shows known).2)
            (distinct.concat (new_of_spelling? new)) ?_
          exact List.forall_mem_append.mpr ⟨all, List.forall_mem_singleton.mpr one⟩

theorem normalizePairs_ends (place : Fault.Place) {made : List (String × Value)}
    (pairs : List (Value × Value)) (shows : shown → Fault.areShownPairs pairs)
    (distinct : Table.Distinct made) (all : ∀ entry ∈ made, IsMade shown entry.2) :
    Ends (fun whole => IsMade shown (.table whole)) (IsMisshapen shown)
      (normalizePairs place made pairs) := by
  match pairs with
  | [] => exact .table distinct all
  | (key, value) :: rest =>
      rw [Fault.areShownPairs, Bool.and_eq_true, Bool.and_eq_true] at shows
      cases key with
      | text name =>
          rw [normalizePairs]
          split
          · exact ⟨rfl, fun _ => rfl⟩
          · next new =>
              refine (normalize_ends _ value fun known => (shows known).1.2).bind
                fun literal one => ?_
              refine normalizePairs_ends place rest (fun known => (shows known).2)
                (distinct.concat (new_of_spelling? new)) ?_
              exact List.forall_mem_append.mpr ⟨all, List.forall_mem_singleton.mpr one⟩
      | _ => exact ⟨rfl, fun known => (shows known).1.1⟩

end

end ScriptAudit.Settings
