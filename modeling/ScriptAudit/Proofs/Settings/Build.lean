import ScriptAudit.Proofs.Fault.Ends
import ScriptAudit.Proofs.Settings.Normalize
import ScriptAudit.Settings.Build

namespace ScriptAudit.Settings

/-! Building a configuration from the entries of a table.

It ends with a configuration or with a fault of the settings, and neither depends on where the
settings come from, but for the extents of faults. -/

variable {shown : Prop} {value : Value} {entries : List (String × Value)}

/-- A fault of the settings, or a number in them that no message can show. -/
def IsSettingsProblem (shown : Prop) : Problem → Prop
  | .fault found => found.kind.isSettings
  | .integerNotShown => ¬ shown
  | _ => False

theorem ofFault_isSettings {cause : Fault.Cause} (extent : Option Source.Extent)
    (kind : cause.kind.isSettings) (shows : shown → cause.isShown) :
    IsSettingsProblem shown (.ofFault ⟨cause, extent⟩) := by
  rw [Problem.ofFault]
  split
  · exact kind
  · next hidden => exact fun known => hidden (shows known)

theorem isShapeShown_of_isShown (shows : Fault.isShown value) : Fault.isShapeShown value := by
  cases value <;> first | rfl | exact shows

theorem textsOf_ends (locations : Locations) (key : String) (made : IsMade shown value) :
    Ends (fun _ => True) (fun found => IsSettingsProblem shown (.ofFault found))
      (textsOf locations key value) := by
  rw [textsOf]
  split
  · trivial
  · exact ofFault_isSettings _ rfl fun known => isShapeShown_of_isShown (made.shows known)

theorem boolOf_ends (locations : Locations) (key : String) (made : IsMade shown value) :
    Ends (fun _ => True) (fun found => IsSettingsProblem shown (.ofFault found))
      (boolOf locations key value) := by
  have shows : shown → (Fault.Cause.typeMismatch key "boolean" value).isShown := by
    cases value with
    | number value => exact made.shows
    | _ => exact fun _ => rfl
  unfold boolOf
  split
  · trivial
  · exact ofFault_isSettings _ rfl shows

theorem argumentsOf_ends (locations : Locations) (rule : Value) (made : IsMade shown value) :
    Ends (fun _ => True) (IsSettingsProblem shown) (argumentsOf locations rule value) := by
  have literal := made.literal
  unfold argumentsOf
  split
  · trivial
  · cases literal
  · exact ofFault_isSettings _ rfl fun known => isShapeShown_of_isShown (made.shows known)

/-- The rules keep their names, and with them the distinctness of these. -/
theorem rulePairs_ends (locations : Locations) (all : ∀ entry ∈ entries, IsMade shown entry.2) :
    Ends (fun rules => ∃ named : RuleArguments, Table.folded named = Table.folded entries ∧
        rules = named.map fun entry => (.text entry.1, entry.2))
      (IsSettingsProblem shown)
      ((Value.table entries).pairs.mapM fun rule => do
        return (rule.1, ← argumentsOf locations rule.1 rule.2)) := by
  induction entries with
  | nil => exact ⟨[], rfl, rfl⟩
  | cons entry entries ih =>
      obtain ⟨first, later⟩ := List.forall_mem_cons.mp all
      rw [Value.pairs, List.map_cons, List.mapM_cons]
      have one : Ends (fun rule => ∃ arguments, rule = (.text entry.1, arguments))
          (IsSettingsProblem shown) (do
            return (Value.text entry.1, ← argumentsOf locations (.text entry.1) entry.2)) :=
        (argumentsOf_ends locations _ first).bind fun arguments _ => ⟨arguments, rfl⟩
      refine one.bind fun rule => ?_
      rintro ⟨arguments, rfl⟩
      refine (ih later).bind fun rules => ?_
      rintro ⟨named, names, rfl⟩
      exact ⟨(entry.1, arguments) :: named, congrArg (_ :: ·) names, rfl⟩

theorem rulesOf_ends (locations : Locations) (key : String) (made : IsMade shown value) :
    Ends (fun _ => True) (IsSettingsProblem shown) (rulesOf locations key value) := by
  cases made.literal with
  | table distinct all =>
      rw [rulesOf, if_pos (show (Value.table _).isKeyed = true from rfl)]
      refine (rulePairs_ends locations made.entries).bind fun rules => ?_
      rintro ⟨named, names, rfl⟩
      have same : Table.Distinct named := by
        rw [Table.Distinct, names]
        exact distinct
      rw [Table.ofPairs_texts same]
      trivial
  | _ => rfl

theorem set_ends (draft : Draft) (locations : Locations) (setting : Setting) (key : String)
    (made : IsMade shown value) :
    Ends (fun _ => True) (IsSettingsProblem shown) (draft.set locations setting key value) := by
  cases setting with
  | rules => exact (rulesOf_ends locations key made).bind fun _ _ => trivial
  | includeDefaultRules | recurseCustomRulePath =>
      exact (boolOf_ends locations key made).mapError.bind fun _ _ => trivial
  | _ => exact (textsOf_ends locations key made).mapError.bind fun _ _ => trivial

theorem take_ends (draft : Draft) (locations : Locations) (key : String)
    (made : IsMade shown value) :
    Ends (fun _ => True) (IsSettingsProblem shown) (draft.take locations (.text key) value) := by
  rw [Draft.take]
  split
  · exact set_ends draft locations _ key made
  · rfl

/-- A literal makes a configuration, or a fault of the settings says why it makes none. -/
theorem build_ends (mode : Mode) (sourcePath : Option String) (locations : Locations)
    (made : IsMade shown value) :
    Ends (fun _ => True) (IsSettingsProblem shown)
      (build mode sourcePath locations value.pairs) := by
  refine Ends.bind (Ends.foldlM (fun _ => True) trivial ?_) fun _ _ => trivial
  intro draft _ pair member
  cases made.literal with
  | table distinct all =>
      obtain ⟨entry, known, rfl⟩ := List.mem_map.mp member
      exact take_ends draft locations entry.1 (made.entries entry known)
  | _ => cases member

end ScriptAudit.Settings
