import Nullability.Config
import Nullability.Json.Printer

/-!
# Drafts of a configuration

A configuration can be put together step by step and written as a document.

* `Draft` is what has been put together so far, and `Draft.ofConfig` the draft of a configuration;
* `Edit` is one step, `Edit.apply` its effect: the new draft, or the reason why the step
  contradicts itself, in which case nothing changes;
* `Draft.toDocument` is the document of a draft, which `Config.ofDocument` reads.
-/

namespace Nullability

/-- A configuration that is being put together. Every flag stands for itself here, the markers are
names, and the work list is a list as it will be written. -/
structure Draft where
  inheritanceTree : Bool := false
  callGraph : Bool := false
  fieldGraph : Bool := false
  suggest : Bool := false
  suggestDeep : Bool := false
  paramTest : Bool := false
  logErrors : Bool := false
  logErrorsDeep : Bool := false
  optimized : Bool := false
  virtualMarkers : Bool := false
  virtualPath : Text := ""
  /-- Not the index that a document without one is loaded with. -/
  paramIndex : Int := 10000
  nullable : Text := Markers.default.nullable.name
  nonNull : Text := Markers.default.nonNull.name
  workList : List Text := [WorkList.wildcard]
  outputDirectory : Text := Config.defaultDirectory
  format : LedgerFormat := .delimited
  deriving DecidableEq, Repr

/-- The draft that nothing has been put into. -/
def Draft.blank : Draft := {}

/-- The draft that holds every setting of a configuration. -/
def Draft.ofConfig (config : Config) : Draft :=
  { blank with
    suggest := config.suggest.isActive
    suggestDeep := config.suggest.isDeep
    logErrors := config.logErrors.isActive
    logErrorsDeep := config.logErrors.isDeep
    inheritanceTree := config.inheritanceTree
    callGraph := config.callGraph
    fieldGraph := config.fieldGraph
    paramTest := config.paramTest
    paramIndex := config.paramIndex
    optimized := config.optimized
    virtualMarkers := config.virtualMarkers
    virtualPath := config.virtualPath
    nullable := config.markers.nullable.name
    nonNull := config.markers.nonNull.name
    workList := config.workList.toList
    outputDirectory := config.outputDirectory
    format := config.format }

/-! ## Edits -/

/-- One step in putting a configuration together. -/
inductive Edit where
  | suggest (active deep : Bool)
  | markers (suggest : Bool) (nullable nonNull : Text)
  | logErrors (active deep : Bool)
  | inheritanceTree (active : Bool)
  | paramTest (active : Bool) (index : Option Int)
  | optimized (active : Bool)
  | callGraph (active : Bool)
  | fieldGraph (active : Bool)
  | workList (entries : List Text)
  | virtualMarkers (active : Bool) (path : Text)
  | outputDirectory (path : Text)
  | format (chosen : LedgerFormat)
  deriving DecidableEq, Repr

/-- Why a step contradicts itself. -/
inductive EditError where
  | markersWithoutSuggest
  | deepLogWithoutLog
  deriving DecidableEq, Repr

/-- The message for a step that contradicts itself. -/
def EditError.message : EditError → Text
  | markersWithoutSuggest => "SUGGEST must be activated to configure annotations"
  | deepLogWithoutLog => "Log error must be enabled to activate deep log error"

namespace Edit

/-- The work list with the given entries, in order and each once, or with every class if none of
them is a name. -/
def listed (entries : List Text) : List Text :=
  let names := NameSet.ofList (WorkList.trimmedEntries entries)
  if names.isEmpty then [WorkList.wildcard] else names.toList

/-- The draft after a step. -/
def apply (d : Draft) : Edit → Except EditError Draft
  | suggest active deep =>
      .ok { d with suggest := active, suggestDeep := if active then deep else false }
  | markers false _ _ => .error .markersWithoutSuggest
  | markers true nullable nonNull => .ok { d with suggest := true, nullable, nonNull }
  | logErrors false true => .error .deepLogWithoutLog
  | logErrors active deep => .ok { d with logErrors := active, logErrorsDeep := deep }
  | inheritanceTree active => .ok { d with inheritanceTree := active }
  | paramTest true (some index) => .ok { d with paramTest := true, paramIndex := index }
  | paramTest active _ => .ok { d with paramTest := active }
  | optimized active => .ok { d with optimized := active }
  | callGraph active => .ok { d with callGraph := active }
  | fieldGraph active => .ok { d with fieldGraph := active }
  | workList entries => .ok { d with workList := listed entries }
  | virtualMarkers true path => .ok { d with virtualMarkers := true, virtualPath := path }
  | virtualMarkers false _ => .ok { d with virtualMarkers := false }
  | outputDirectory path => .ok { d with outputDirectory := path }
  | .format chosen => .ok { d with format := chosen }

/-- The draft after some steps, of which those that contradict themselves are skipped. -/
def applyAll (d : Draft) (edits : List Edit) : Draft :=
  edits.foldl (fun d edit => ((edit.apply d).toOption).getD d) d

end Edit

/-! ## The document -/

namespace Draft

/-- A mode as a table of its two flags. -/
def modeTable (active deep : Bool) : Document :=
  .table [("ACTIVE", .bool active), ("DEEP", .bool deep)]

/-- The document of a draft. -/
def toDocument (d : Draft) : Document :=
  .table
    [("SUGGEST", modeTable d.suggest d.suggestDeep),
     ("MAKE_METHOD_INHERITANCE_TREE", .bool d.inheritanceTree),
     ("OPTIMIZED", .bool d.optimized),
     ("ANNOTATION", .table [("NULLABLE", .text d.nullable), ("NONNULL", .text d.nonNull)]),
     ("LOG_ERROR", modeTable d.logErrors d.logErrorsDeep),
     ("METHOD_PARAM_TEST", .table [("ACTIVE", .bool d.paramTest),
       ("INDEX", .integer d.paramIndex)]),
     ("VIRTUAL", .table [("ACTIVE", .bool d.virtualMarkers), ("PATH", .text d.virtualPath)]),
     ("MAKE_CALL_GRAPH", .bool d.callGraph),
     ("MAKE_FIELD_GRAPH", .bool d.fieldGraph),
     ("WORK_LIST", .text (WorkList.toText d.workList)),
     ("OUTPUT_DIRECTORY", .text d.outputDirectory),
     ("OUTPUT", .table [("FORMAT", .text d.format.name)])]

/-- The text of the document of a draft. -/
def toJson (d : Draft) : Text :=
  Json.block d.toDocument

end Draft
end Nullability
