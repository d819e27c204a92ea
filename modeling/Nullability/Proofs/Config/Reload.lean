import Nullability.Proofs.Config.Setting
import Nullability.Proofs.Config.WorkList

/-!
# Loading what was written

The document of a draft keeps every setting under the key that it is loaded from.

* `Draft.toConfig`: the configuration that a draft stands for;
* `Draft.IsSound`: no deep mode of a draft is on without its base mode;
* `Draft.at?_toDocument`: the document holds each mode as it is in the draft;
* `Draft.ofDocument_toDocument`: loading the document of any draft gives the configuration that the
  draft stands for;
* `Config.ofDocument_toDocument_ofConfig`: a configuration that was loaded is loaded again from the
  document of its draft.
-/

namespace Nullability
namespace Draft

/-- Whether the flag of a mode is set. -/
def isOn (d : Draft) : Flag → Bool
  | .suggest => d.suggest
  | .suggestDeep => d.suggestDeep
  | .logErrors => d.logErrors
  | .logErrorsDeep => d.logErrorsDeep
  | .inheritanceTree => d.inheritanceTree
  | .callGraph => d.callGraph
  | .fieldGraph => d.fieldGraph
  | .paramTest => d.paramTest
  | .optimized => d.optimized
  | .virtualMarkers => d.virtualMarkers

/-- No deep mode is on without its base mode. -/
def IsSound (d : Draft) : Prop :=
  ∀ f base : Flag, f.base? = some base → d.isOn f = true → d.isOn base = true

theorem isSound_iff {d : Draft} :
    d.IsSound ↔ (d.suggestDeep = true → d.suggest = true) ∧
      (d.logErrorsDeep = true → d.logErrors = true) := by
  constructor
  · intro h
    exact ⟨h .suggestDeep .suggest rfl, h .logErrorsDeep .logErrors rfl⟩
  · rintro ⟨hsuggest, hlog⟩ f base hbase
    cases f <;> cases hbase
    · exact hsuggest
    · exact hlog

/-- The configuration that a draft stands for. Its work list is what is read from the text of the
entries. -/
def toConfig (d : Draft) : Config where
  suggest := .ofFlags d.suggest d.suggestDeep
  logErrors := .ofFlags d.logErrors d.logErrorsDeep
  inheritanceTree := d.inheritanceTree
  callGraph := d.callGraph
  fieldGraph := d.fieldGraph
  paramTest := d.paramTest
  paramIndex := d.paramIndex
  optimized := d.optimized
  virtualMarkers := d.virtualMarkers
  virtualPath := d.virtualPath
  markers := ⟨⟨d.nullable⟩, ⟨d.nonNull⟩⟩
  workList := WorkList.ofText (WorkList.toText d.workList)
  outputDirectory := d.outputDirectory
  format := d.format

theorem isOn_toConfig {d : Draft} (h : d.IsSound) (f : Flag) : d.toConfig.isOn f = d.isOn f := by
  have hsuggest := (isSound_iff.1 h).1
  have hlog := (isSound_iff.1 h).2
  cases f with
  | suggest => exact Depth.isActive_ofFlags _ _
  | logErrors => exact Depth.isActive_ofFlags _ _
  | suggestDeep => simpa [toConfig, Config.isOn, isOn, Depth.isDeep_ofFlags] using hsuggest
  | logErrorsDeep => simpa [toConfig, Config.isOn, isOn, Depth.isDeep_ofFlags] using hlog
  | _ => rfl

/-! ## The keys of a written document -/

theorem at?_toDocument (d : Draft) (f : Flag) :
    d.toDocument.at? f.key = some (.bool (d.isOn f)) := by
  cases f <;> rfl

theorem flag_toDocument (d : Draft) (f : Flag) :
    Config.flag d.toDocument true f.key = d.isOn f := by
  simp [Config.flag, at?_toDocument, Document.asBool?]

theorem formatAt_toDocument (d : Draft) :
    Config.formatAt d.toDocument "OUTPUT:FORMAT" = d.format := by
  have htext : Config.textAt d.toDocument "OUTPUT:FORMAT" "" = d.format.name := rfl
  rw [Config.formatAt, htext]
  cases d.format <;> decide

/-! ## Loading -/

/-- Loading the document of a draft gives the configuration that the draft stands for. -/
theorem ofDocument_toDocument (d : Draft) : Config.ofDocument d.toDocument true = d.toConfig := by
  have hflag := d.flag_toDocument
  have hsuggest : Config.flag d.toDocument true "SUGGEST:ACTIVE" = d.suggest := hflag .suggest
  have hdeep : Config.flag d.toDocument true "SUGGEST:DEEP" = d.suggestDeep := hflag .suggestDeep
  have hlog : Config.flag d.toDocument true "LOG_ERROR:ACTIVE" = d.logErrors := hflag .logErrors
  have hlogDeep : Config.flag d.toDocument true "LOG_ERROR:DEEP" = d.logErrorsDeep :=
    hflag .logErrorsDeep
  apply Config.ext_get
  intro s
  -- All but the modes and the format are read back by evaluation.
  cases s with
  | flag f =>
      cases f with
      | suggest | suggestDeep | logErrors | logErrorsDeep =>
          simp only [Config.get, Config.isOn, Config.ofDocument, toConfig, hsuggest, hdeep, hlog,
            hlogDeep]
      | inheritanceTree => exact hflag .inheritanceTree
      | callGraph => exact hflag .callGraph
      | fieldGraph => exact hflag .fieldGraph
      | paramTest => exact hflag .paramTest
      | optimized => exact hflag .optimized
      | virtualMarkers => exact hflag .virtualMarkers
  | format =>
      simp only [Config.get, Config.ofDocument, formatAt_toDocument]
      rfl
  | paramIndex => rfl
  | virtualPath => rfl
  | nullable => rfl
  | nonNull => rfl
  | workList => rfl
  | outputDirectory => rfl

/-! ## Drafts of configurations -/

theorem isSound_blank : blank.IsSound :=
  isSound_iff.2 ⟨by decide, by decide⟩

theorem toConfig_blank : blank.toConfig = { Config.disabled with paramIndex := 10000 } := by
  have hlist : WorkList.ofText (WorkList.toText blank.workList) = WorkList.everything :=
    WorkList.ofText_toText_wildcard
  rw [toConfig, hlist]
  rfl

theorem isSound_ofConfig (config : Config) : (ofConfig config).IsSound :=
  isSound_iff.2 ⟨Depth.isActive_of_isDeep, Depth.isActive_of_isDeep⟩

/-- The draft of a configuration stands for it, but for the text of its work list. -/
theorem toConfig_ofConfig (config : Config) : (ofConfig config).toConfig =
    { config with workList := WorkList.ofText (WorkList.toText config.workList.toList) } := by
  simp [toConfig, ofConfig, Depth.ofFlags_isActive_isDeep]

theorem toConfig_ofConfig_ofDocument (document : Document) (master : Bool) :
    (ofConfig (Config.ofDocument document master)).toConfig =
      Config.ofDocument document master := by
  rw [toConfig_ofConfig]
  simp only [Config.ofDocument, WorkList.ofText_toText_ofText]

end Draft

/-- A configuration that was loaded from any document is loaded again from the document of its
draft. -/
theorem Config.ofDocument_toDocument_ofConfig (document : Document) (master : Bool) :
    ofDocument (Draft.ofConfig (ofDocument document master)).toDocument true =
      ofDocument document master := by
  rw [Draft.ofDocument_toDocument, Draft.toConfig_ofConfig_ofDocument]

end Nullability
