import Nullability.Document
import Nullability.Marker
import Nullability.NameSet

/-!
# Configuration of a run

Which violations are acted on, in which classes, and where the ledgers go.

* `Config` is the value; a deep mode exists only where its base mode does, by its type;
* `Config.ofFields` makes one from settings that are given one by one;
* `Config.ofDocument` reads one from a key-value document, where a key that is missing or that
  holds a value of the wrong type takes its default, and the master switch turns every mode off;
* `Config.inScope` is the work list, `Config.canFix` the question asked of a declaration.
-/

namespace Nullability

/-- A mode that is off, on, or on in its deep form. -/
inductive Depth where
  | off
  | shallow
  | deep
  deriving DecidableEq, Repr

namespace Depth

/-- The mode of a base flag and a deep flag; the deep flag alone means nothing. -/
def ofFlags (active deep : Bool) : Depth :=
  if active then if deep then .deep else .shallow else .off

/-- Whether the mode is on. -/
def isActive : Depth → Bool
  | off => false
  | _ => true

/-- Whether the mode is on in its deep form. -/
def isDeep : Depth → Bool
  | deep => true
  | _ => false

theorem isActive_ofFlags (active deep : Bool) : (ofFlags active deep).isActive = active := by
  cases active <;> cases deep <;> rfl

theorem isDeep_ofFlags (active deep : Bool) :
    (ofFlags active deep).isDeep = (active && deep) := by
  cases active <;> cases deep <;> rfl

theorem ofFlags_isActive_isDeep (d : Depth) : ofFlags d.isActive d.isDeep = d := by
  cases d <;> rfl

end Depth

/-! ## Formats -/

/-- How records are written to a ledger. -/
inductive LedgerFormat where
  | delimited
  | jsonLines
  deriving DecidableEq, Repr

namespace LedgerFormat

/-- The name of a format. -/
def name : LedgerFormat → Text
  | delimited => "DELIMITED"
  | jsonLines => "JSONL"

/-- The format of a name, spelled exactly. -/
def ofName? (name : Text) : Option LedgerFormat :=
  [delimited, jsonLines].find? fun f => f.name = name

/-- The capital of a letter, where that is an ASCII letter: the dotless i and the long s have one
too. Any other character stays. -/
def capital (c : Letter) : Letter :=
  if c = 'ı' then 'I' else if c = 'ſ' then 'S' else c.toUpper

/-- The format of a name in letters of any case. -/
def ofAnyCase? (name : Text) : Option LedgerFormat :=
  ofName? (Text.ofList (name.toList.map capital))

end LedgerFormat

/-! ## Work lists -/

namespace WorkList

/-- The entry that stands for every class. -/
def wildcard : Text := "*"

/-- The work list that has every class in scope. -/
def everything : NameSet := NameSet.ofList [wildcard]

/-- The entries that are not blank, without the blanks around them. -/
def trimmedEntries (entries : List Text) : List Text :=
  (entries.map Text.trimmed).filter fun s => !s.isEmpty

/-- The work list that a comma-separated text stands for. One without entries, or with the
wildcard among them, has every class in scope. -/
def ofText (raw : Text) : NameSet :=
  let entries := trimmedEntries (Text.piecesOf "," raw)
  if entries.isEmpty || entries.contains wildcard then everything else NameSet.ofList entries

/-- The text of a work list that is kept as a list. -/
def toText (workList : List Text) : Text :=
  if workList.contains wildcard then wildcard else Text.glued "," workList

end WorkList

/-! ## Keys of a document -/

namespace Document

/-- The value at a key such as `SUGGEST:ACTIVE`, which is a path of names between colons. A key
with an empty name in it leads nowhere. -/
def at? (document : Document) (key : Text) : Option Document :=
  let path := Text.piecesOf ":" key
  if path.any fun name => name.isEmpty then none else document.follow? path

end Document

/-! ## Configurations -/

/-- The settings of a run. -/
structure Config where
  suggest : Depth
  logErrors : Depth
  inheritanceTree : Bool
  callGraph : Bool
  fieldGraph : Bool
  paramTest : Bool
  paramIndex : Int
  optimized : Bool
  virtualMarkers : Bool
  virtualPath : Text
  markers : Markers
  workList : NameSet
  outputDirectory : Text
  format : LedgerFormat
  deriving DecidableEq, Repr

namespace Config

/-- The index that stands for no bound: the largest of a machine word. -/
def unboundedIndex : Int := 9223372036854775807

/-- The directory of the ledgers unless another is configured. -/
def defaultDirectory : Text := "/tmp/NullAwayFix"

/-- The configuration that suggests and records nothing. -/
def disabled : Config where
  suggest := .off
  logErrors := .off
  inheritanceTree := false
  callGraph := false
  fieldGraph := false
  paramTest := false
  paramIndex := unboundedIndex
  optimized := false
  virtualMarkers := false
  virtualPath := ""
  markers := Markers.default
  workList := WorkList.everything
  outputDirectory := defaultDirectory
  format := .delimited

/-- The settings of a run one by one. Here a deep mode has a flag of its own, which may be set
without that of its base mode. -/
structure Fields where
  suggest : Bool := false
  suggestDeep : Bool := false
  logErrors : Bool := false
  logErrorsDeep : Bool := false
  inheritanceTree : Bool := false
  callGraph : Bool := false
  fieldGraph : Bool := false
  paramTest : Bool := false
  paramIndex : Int := unboundedIndex
  optimized : Bool := false
  virtualMarkers : Bool := false
  virtualPath : Text := ""
  markers : Markers := Markers.default
  workList : NameSet := WorkList.everything
  outputDirectory : Text := defaultDirectory
  format : LedgerFormat := .delimited
  deriving DecidableEq, Repr

/-- The configuration with the given settings. A deep mode without its base mode is dropped. -/
def ofFields (fields : Fields) : Config where
  suggest := .ofFlags fields.suggest fields.suggestDeep
  logErrors := .ofFlags fields.logErrors fields.logErrorsDeep
  inheritanceTree := fields.inheritanceTree
  callGraph := fields.callGraph
  fieldGraph := fields.fieldGraph
  paramTest := fields.paramTest
  paramIndex := fields.paramIndex
  optimized := fields.optimized
  virtualMarkers := fields.virtualMarkers
  virtualPath := fields.virtualPath
  markers := fields.markers
  workList := fields.workList
  outputDirectory := fields.outputDirectory
  format := fields.format

theorem ofFields_default : ofFields {} = disabled := rfl

/-- Whether the truth value at a key is true and the master switch is on. -/
def flag (document : Document) (master : Bool) (key : Text) : Bool :=
  ((document.at? key).bind Document.asBool?).getD false && master

/-- The text at a key, or a default. -/
def textAt (document : Document) (key default : Text) : Text :=
  ((document.at? key).bind Document.asText?).getD default

/-- The integer at a key, or a default. -/
def integerAt (document : Document) (key : Text) (default : Int) : Int :=
  ((document.at? key).bind Document.asInteger?).getD default

/-- The format named at a key; a name that is no format means the delimited one. -/
def formatAt (document : Document) (key : Text) : LedgerFormat :=
  (LedgerFormat.ofAnyCase? (textAt document key "")).getD .delimited

/-- The configuration of a document under the master switch. -/
def ofDocument (document : Document) (master : Bool) : Config where
  suggest := .ofFlags (flag document master "SUGGEST:ACTIVE") (flag document master "SUGGEST:DEEP")
  logErrors :=
    .ofFlags (flag document master "LOG_ERROR:ACTIVE") (flag document master "LOG_ERROR:DEEP")
  inheritanceTree := flag document master "MAKE_METHOD_INHERITANCE_TREE"
  callGraph := flag document master "MAKE_CALL_GRAPH"
  fieldGraph := flag document master "MAKE_FIELD_GRAPH"
  paramTest := flag document master "METHOD_PARAM_TEST:ACTIVE"
  paramIndex := integerAt document "METHOD_PARAM_TEST:INDEX" unboundedIndex
  optimized := flag document master "OPTIMIZED"
  virtualMarkers := flag document master "VIRTUAL:ACTIVE"
  virtualPath := textAt document "VIRTUAL:PATH" ""
  markers :=
    ⟨⟨textAt document "ANNOTATION:NULLABLE" Markers.default.nullable.name⟩,
     ⟨textAt document "ANNOTATION:NONNULL" Markers.default.nonNull.name⟩⟩
  workList := WorkList.ofText (textAt document "WORK_LIST" WorkList.wildcard)
  outputDirectory := textAt document "OUTPUT_DIRECTORY" defaultDirectory
  format := formatAt document "OUTPUT:FORMAT"

/-- Whether violations in a class are acted on. -/
def inScope (config : Config) (className : Text) : Bool :=
  config.workList.contains WorkList.wildcard || config.workList.contains className

/-- Whether a marker can be proposed for a declaration: suggestions are on, there are source
trees and a declaration, and the trees know the file that it stands in. -/
def canFix {δ : Type} (config : Config) (pathOf : Option (δ → Option Text))
    (declaration : Option δ) : Bool :=
  match config.suggest.isActive, pathOf, declaration with
  | true, some pathOf, some declaration => (pathOf declaration).isSome
  | _, _, _ => false

end Config
end Nullability
