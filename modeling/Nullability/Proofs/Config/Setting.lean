import Nullability.Config

/-!
# The settings of a configuration

A configuration is its settings, and each of them has values of its own type.

* `Flag` names the modes that are on or off, each with the key that a document keeps it under;
* `Setting` names all settings, and `Config.get` is the value of one;
* `Config.ext_get`: configurations that agree on every setting are the same;
* `isOn_ofDocument` and `ofDocument_false`: a deep mode that a document names is on where its base
  mode is on too, and without the master switch no mode is on.
-/

namespace Nullability

/-- The modes that are on or off. -/
inductive Flag where
  | suggest
  | suggestDeep
  | logErrors
  | logErrorsDeep
  | inheritanceTree
  | callGraph
  | fieldGraph
  | paramTest
  | optimized
  | virtualMarkers
  deriving DecidableEq, Repr

namespace Flag

/-- The key of a mode in a document. -/
def key : Flag → Text
  | suggest => "SUGGEST:ACTIVE"
  | suggestDeep => "SUGGEST:DEEP"
  | logErrors => "LOG_ERROR:ACTIVE"
  | logErrorsDeep => "LOG_ERROR:DEEP"
  | inheritanceTree => "MAKE_METHOD_INHERITANCE_TREE"
  | callGraph => "MAKE_CALL_GRAPH"
  | fieldGraph => "MAKE_FIELD_GRAPH"
  | paramTest => "METHOD_PARAM_TEST:ACTIVE"
  | optimized => "OPTIMIZED"
  | virtualMarkers => "VIRTUAL:ACTIVE"

/-- The mode that a mode is the deep form of. -/
def base? : Flag → Option Flag
  | suggestDeep => some suggest
  | logErrorsDeep => some logErrors
  | _ => none

end Flag

/-- Everything that a configuration settles. -/
inductive Setting where
  | flag (f : Flag)
  | paramIndex
  | virtualPath
  | nullable
  | nonNull
  | workList
  | outputDirectory
  | format
  deriving DecidableEq, Repr

/-- The values that a setting can have. -/
abbrev Setting.Value : Setting → Type
  | flag _ => Bool
  | paramIndex => Int
  | workList => NameSet
  | format => LedgerFormat
  | virtualPath | nullable | nonNull | outputDirectory => Text

namespace Depth

theorem ext_flags {d e : Depth} (hactive : d.isActive = e.isActive)
    (hdeep : d.isDeep = e.isDeep) : d = e := by
  rw [← ofFlags_isActive_isDeep d, hactive, hdeep, ofFlags_isActive_isDeep]

theorem isActive_of_isDeep {d : Depth} (h : d.isDeep = true) : d.isActive = true := by
  cases d with
  | deep => rfl
  | off => cases h
  | shallow => cases h

end Depth

theorem Markers.ext_names {m n : Markers} (hnullable : m.nullable.name = n.nullable.name)
    (hnonNull : m.nonNull.name = n.nonNull.name) : m = n := by
  rcases m with ⟨⟨_⟩, ⟨_⟩⟩
  rcases n with ⟨⟨_⟩, ⟨_⟩⟩
  cases hnullable
  cases hnonNull
  rfl

namespace Config

/-- Whether a mode is on. -/
def isOn (config : Config) : Flag → Bool
  | .suggest => config.suggest.isActive
  | .suggestDeep => config.suggest.isDeep
  | .logErrors => config.logErrors.isActive
  | .logErrorsDeep => config.logErrors.isDeep
  | .inheritanceTree => config.inheritanceTree
  | .callGraph => config.callGraph
  | .fieldGraph => config.fieldGraph
  | .paramTest => config.paramTest
  | .optimized => config.optimized
  | .virtualMarkers => config.virtualMarkers

/-- The value of a setting. -/
def get (config : Config) : (s : Setting) → s.Value
  | .flag f => config.isOn f
  | .paramIndex => config.paramIndex
  | .virtualPath => config.virtualPath
  | .nullable => config.markers.nullable.name
  | .nonNull => config.markers.nonNull.name
  | .workList => config.workList
  | .outputDirectory => config.outputDirectory
  | .format => config.format

/-- The configuration with every mode off. -/
def quiet (config : Config) : Config :=
  { config with
    suggest := .off
    logErrors := .off
    inheritanceTree := false
    callGraph := false
    fieldGraph := false
    paramTest := false
    optimized := false
    virtualMarkers := false }

/-! ## Agreement on the settings -/

theorem ext_get {c d : Config} (h : ∀ s, c.get s = d.get s) : c = d := by
  have hsuggest := Depth.ext_flags (h (.flag .suggest)) (h (.flag .suggestDeep))
  have hlog := Depth.ext_flags (h (.flag .logErrors)) (h (.flag .logErrorsDeep))
  have hmarkers := Markers.ext_names (h .nullable) (h .nonNull)
  -- Two modes of a configuration make one field, and so do the two markers.
  cases c
  cases d
  simp only [mk.injEq]
  exact ⟨hsuggest, hlog, h (.flag .inheritanceTree), h (.flag .callGraph), h (.flag .fieldGraph),
    h (.flag .paramTest), h .paramIndex, h (.flag .optimized), h (.flag .virtualMarkers),
    h .virtualPath, hmarkers, h .workList, h .outputDirectory, h .format⟩

/-! ## The modes of a document -/

/-- A mode of a document is on where its key says so and its base mode, if it has one, is on. -/
theorem isOn_ofDocument (document : Document) (master : Bool) (f : Flag) :
    (ofDocument document master).isOn f =
      (flag document master f.key &&
        (f.base?.map fun base => flag document master base.key).getD true) := by
  cases f <;>
    simp [isOn, ofDocument, Flag.key, Flag.base?, Depth.isActive_ofFlags, Depth.isDeep_ofFlags,
      Bool.and_comm]

theorem isOn_of_isOn_deep (config : Config) {f base : Flag} (hbase : f.base? = some base)
    (h : config.isOn f = true) : config.isOn base = true := by
  cases f <;> cases hbase
  · exact Depth.isActive_of_isDeep h
  · exact Depth.isActive_of_isDeep h

/-- Without the master switch every mode is off, and all other settings are as with it. -/
theorem ofDocument_false (document : Document) :
    ofDocument document false = (ofDocument document true).quiet := by
  have hflag : ∀ key, flag document false key = false := fun key => by simp [flag]
  simp [ofDocument, quiet, hflag, Depth.ofFlags]

end Config
end Nullability
