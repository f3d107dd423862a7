import ScriptAudit.Proofs.Rule.Name
import ScriptAudit.Proofs.Rule.Registration

namespace ScriptAudit.Rule

/-! What is found under the qualified name of a registered rule.

A name without a namespace names every rule of this simple name, and a rule without one is named
under every namespace.  So the first rule that is named so is found, which may be another one. -/

namespace Entry

/-- The other rule has the same simple name, letter case aside, and one of the two has no
namespace. -/
def isNamesake (entry other : Entry) : Bool :=
  foldedSimpleName other.descriptor.qualifiedName ==
      foldedSimpleName entry.descriptor.qualifiedName &&
    !(isQualified entry.descriptor.qualifiedName && isQualified other.descriptor.qualifiedName)

/-- A rule of the same simple name under another namespace has that in the name that it is given
itself, and not from its source. -/
def WritesNamespace (entry other : Entry) : Prop :=
  foldedSimpleName other.descriptor.qualifiedName =
      foldedSimpleName entry.descriptor.qualifiedName →
    isQualified entry.descriptor.qualifiedName → isQualified other.descriptor.qualifiedName →
      isQualified other.descriptor.name

variable {entry other : Entry}

theorem matchesPattern_self (plain : Pattern.hasWildcards entry.descriptor.qualifiedName = false) :
    entry.descriptor.matchesPattern entry.descriptor.qualifiedName = true :=
  (Descriptor.matchesPattern_plain plain).mpr (.inl rfl)

/-- The qualified name of a rule names, among the rules of other keys, its namesakes. -/
theorem matchesPattern_other
    (plain : Pattern.hasWildcards entry.descriptor.qualifiedName = false)
    (apart : other.key ≠ entry.key) (written : entry.WritesNamespace other) :
    other.descriptor.matchesPattern entry.descriptor.qualifiedName = entry.isNamesake other := by
  have differ : ¬ Text.lower other.descriptor.qualifiedName =
      Text.lower entry.descriptor.qualifiedName := apart
  rw [Bool.eq_iff_iff, Descriptor.matchesPattern_plain plain, or_iff_right differ]
  simp only [isNamesake, Bool.and_eq_true, beq_iff_eq, Bool.not_eq_true', ← Bool.not_eq_true]
  refine and_congr_right fun same => not_congr (and_congr_right fun named => ?_)
  constructor
  · intro writes
    rwa [Descriptor.qualifiedName_of_qualified writes]
  · exact written same named

end Entry

namespace Registry

variable {calls : List Call} {entry : Entry} {before after : List Entry}

/-- Under the qualified name of a registered rule its first namesake before it is found, and the
rule itself where it has none. -/
theorem find?_qualifiedName
    (held : (({} : Registry).after calls).entries = before ++ entry :: after)
    (plain : Pattern.hasWildcards entry.descriptor.qualifiedName = false)
    (written : ∀ other ∈ before, entry.WritesNamespace other) :
    (({} : Registry).after calls).find? entry.descriptor.qualifiedName =
      some ((before.find? entry.isNamesake).getD entry) := by
  have nodup := after_nodup nodup_empty calls
  have apart : ∀ other ∈ before, other.key ≠ entry.key := by
    intro other member same
    rw [keys, held, List.map_append, List.nodup_append'] at nodup
    exact nodup.2.2 (List.mem_map_of_mem member) (by simp [same])
  have earlier : before.find? (fun other =>
      other.descriptor.matchesPattern entry.descriptor.qualifiedName) =
        before.find? entry.isNamesake := by
    rw [← List.head?_filter, ← List.head?_filter]
    refine congrArg List.head? (List.filter_congr fun other member => ?_)
    exact Entry.matchesPattern_other plain (apart other member) (written other member)
  rw [find?, held, List.find?_append, earlier, List.find?_cons, Entry.matchesPattern_self plain]
  cases before.find? entry.isNamesake <;> rfl

def tabFactory (name source : String) : Factory where
  declared := some { name := name, source := source }
  make := .ok {
    descriptor := { name := name, source := source }
    implicitArguments := []
    asksEnable := false
    analyze := fun _ => {} }

def tabEntry (name source : String) : Entry :=
  ⟨{ name := name, source := source }, tabFactory name source⟩

def otherTabs : Entry := tabEntry "Other\\NoTabs" ""

def myTabs : Entry := tabEntry "NoTabs" "MyRules"

def bareTabs : Entry := tabEntry "NoTabs" ""

/-- Registers three rules of one simple name, the last one without a namespace. -/
def tabCalls : List Call :=
  [.register otherTabs.factory none, .register myTabs.factory none,
    .register bareTabs.factory none]

theorem tabCalls_entries :
    (({} : Registry).after tabCalls).entries = [otherTabs, myTabs, bareTabs] := by
  have first : ({} : Registry).call (.register otherTabs.factory none) = ⟨[otherTabs]⟩ :=
    call_register_new rfl (by decide +kernel)
  have second : (Registry.mk [otherTabs]).call (.register myTabs.factory none) =
      ⟨[otherTabs, myTabs]⟩ :=
    call_register_new rfl (by decide +kernel)
  have third : (Registry.mk [otherTabs, myTabs]).call (.register bareTabs.factory none) =
      ⟨[otherTabs, myTabs, bareTabs]⟩ :=
    call_register_new rfl (by decide +kernel)
  rw [tabCalls, after, List.foldl_cons, List.foldl_cons, List.foldl_cons, first, second, third]
  rfl

/-- A rule with a namespace is found although one of the same simple name was registered before. -/
theorem find?_second_namespace :
    (({} : Registry).after tabCalls).entries = [otherTabs] ++ myTabs :: [bareTabs] ∧
      Pattern.hasWildcards myTabs.descriptor.qualifiedName = false ∧
      myTabs.WritesNamespace otherTabs ∧
      (({} : Registry).after tabCalls).find? myTabs.descriptor.qualifiedName = some myTabs := by
  have plain : Pattern.hasWildcards myTabs.descriptor.qualifiedName = false := by decide +kernel
  have written : myTabs.WritesNamespace otherTabs := fun _ _ named => named
  have none : myTabs.isNamesake otherTabs = false := by decide +kernel
  have held : (({} : Registry).after tabCalls).entries = [otherTabs] ++ myTabs :: [bareTabs] :=
    tabCalls_entries
  refine ⟨held, plain, written, ?_⟩
  rw [find?_qualifiedName held plain (List.forall_mem_singleton.mpr written)]
  simp [none]

/-- Under the name of the rule without a namespace the first of the three is found. -/
theorem find?_bare_name :
    bareTabs ∈ (({} : Registry).after tabCalls).entries ∧
      Pattern.hasWildcards bareTabs.descriptor.qualifiedName = false ∧
      (({} : Registry).after tabCalls).find? bareTabs.descriptor.qualifiedName = some otherTabs ∧
      otherTabs ≠ bareTabs := by
  have named : otherTabs.descriptor.matchesPattern bareTabs.descriptor.qualifiedName = true := by
    decide +kernel
  refine ⟨by simp [tabCalls_entries], by decide +kernel, ?_, fun same => ?_⟩
  · rw [find?, tabCalls_entries, List.find?_cons, named]
  · have names := congrArg (fun entry : Entry => entry.descriptor.name) same
    exact absurd names (by decide)

end Registry
end ScriptAudit.Rule
