import Nullability.Proofs.Config.Setting

/-!
# Which modes are on

A mode may stand behind others: a deep mode behind its base mode, and every mode of a document
behind the master switch. It is on where it is asked for and all that it stands behind is on too.

* `Flag.Admitted`: what is asked for, less the deep modes without their base mode;
* `isOn_ofFields_iff`: the modes of a configuration that is made from settings given one by one;
* `isOn_ofDocument_iff`: the modes of a configuration that is loaded;
* `modes_gated`: both, with what the master switch leaves of a document.
-/

namespace Nullability

/-- A mode is among those that are asked for, and so is its base mode if it has one. -/
def Flag.Admitted (asked : Flag → Prop) (f : Flag) : Prop :=
  asked f ∧ ∀ base, f.base? = some base → asked base

/-- The value of a mode and of its base mode, where that is all that counts. -/
theorem Flag.admitted_iff (on : Flag → Bool) (f : Flag) :
    (on f && (f.base?.map on).getD true) = true ↔ f.Admitted fun g => on g = true := by
  cases h : f.base? <;> simp [Admitted, h]

namespace Config

variable {document : Document} {master : Bool} {fields : Fields} {f : Flag}

/-! ## Settings given one by one -/

/-- Whether the flag of a mode is set. -/
def Fields.isSet (fields : Fields) : Flag → Bool
  | .suggest => fields.suggest
  | .suggestDeep => fields.suggestDeep
  | .logErrors => fields.logErrors
  | .logErrorsDeep => fields.logErrorsDeep
  | .inheritanceTree => fields.inheritanceTree
  | .callGraph => fields.callGraph
  | .fieldGraph => fields.fieldGraph
  | .paramTest => fields.paramTest
  | .optimized => fields.optimized
  | .virtualMarkers => fields.virtualMarkers

theorem isOn_ofFields_iff :
    (ofFields fields).isOn f = true ↔ f.Admitted fun g => fields.isSet g = true := by
  rw [← Flag.admitted_iff]
  cases f <;>
    simp [isOn, ofFields, Fields.isSet, Flag.base?, Depth.isActive_ofFlags, Depth.isDeep_ofFlags,
      and_comm]

/-! ## Documents -/

theorem flag_eq_true_iff {key : Text} :
    flag document master key = true ↔ document.at? key = some (.bool true) ∧ master = true := by
  rw [flag, Bool.and_eq_true]
  -- Only a truth value has one, so the default is never what makes the flag true.
  cases hat : document.at? key with
  | none => simp
  | some value => cases value <;> simp [Document.asBool?]

theorem isOn_ofDocument_iff :
    (ofDocument document master).isOn f = true ↔
      (f.Admitted fun g => document.at? g.key = some (.bool true)) ∧ master = true := by
  rw [isOn_ofDocument, Flag.admitted_iff fun g => flag document master g.key]
  simp only [Flag.Admitted, flag_eq_true_iff]
  constructor
  · rintro ⟨⟨hself, hmaster⟩, hbase⟩
    exact ⟨⟨hself, fun base h => (hbase base h).1⟩, hmaster⟩
  · rintro ⟨⟨hself, hbase⟩, hmaster⟩
    exact ⟨⟨hself, hmaster⟩, fun base h => ⟨hbase base h, hmaster⟩⟩

/-- No mode of a loaded configuration is on without the master switch, and no deep mode without its
base mode, however the configuration came to be. Loading without the master switch turns off all
modes and changes nothing else. With it, a mode is on exactly where the document holds the truth
value under its key, and under the key of its base mode if it is a deep one. -/
theorem modes_gated (document : Document) (master : Bool) (fields : Fields) :
    (∀ f, (ofDocument document master).isOn f = true → master = true) ∧
    (∀ f base, f.base? = some base →
      ((ofDocument document master).isOn f = true →
        (ofDocument document master).isOn base = true) ∧
      ((ofFields fields).isOn f = true → (ofFields fields).isOn base = true)) ∧
    (∀ f, (ofFields fields).isOn f = true ↔ fields.isSet f = true ∧
      ∀ base, f.base? = some base → fields.isSet base = true) ∧
    ofDocument document false = (ofDocument document true).quiet ∧
    (∀ f, (ofDocument document true).isOn f = true ↔
      document.at? f.key = some (.bool true) ∧
        ∀ base, f.base? = some base → document.at? base.key = some (.bool true)) := by
  refine ⟨fun f h => (isOn_ofDocument_iff.1 h).2, ?_, fun f => isOn_ofFields_iff,
    ofDocument_false document, ?_⟩
  · intro f base hbase
    exact ⟨isOn_of_isOn_deep _ hbase, isOn_of_isOn_deep _ hbase⟩
  · intro f
    rw [isOn_ofDocument_iff]
    exact and_iff_left rfl

end Config
end Nullability
