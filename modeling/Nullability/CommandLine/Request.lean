import Nullability.CommandLine.Options
import Nullability.Config

/-!
# Requests

What the program can be asked to do, and what its commands take.

* `InitRequest` writes a configuration, `ExploreRequest` scans source files;
* `InitRequest.rule`, `ExploreRequest.rule` are what the two commands declare, and
  `InitRequest.ofValues`, `ExploreRequest.ofValues` what they make of their values;
* `Request.ofArguments?` is the request that the arguments of the program make.
-/

namespace Nullability

/-- Writing a configuration document. -/
structure InitRequest where
  path : Text
  suggest : Bool
  suggestDeep : Bool
  logErrors : Bool
  logErrorsDeep : Bool
  nullable : Option Text
  nonNull : Option Text
  workList : Text
  outputDirectory : Option Text
  format : LedgerFormat
  paramTest : Bool
  paramIndex : Option Int
  optimized : Bool
  inheritanceTree : Bool
  callGraph : Bool
  fieldGraph : Bool
  virtualPath : Option Text
  deriving DecidableEq, Repr

/-- Scanning source files. -/
structure ExploreRequest where
  target : Text
  config : Option Text
  autoFix : Bool
  deriving DecidableEq, Repr

/-- What the program is asked to do. -/
inductive Request where
  | help
  | init (request : InitRequest)
  | explore (request : ExploreRequest)
  deriving DecidableEq, Repr

/-! ## The two commands -/

/-- An option that is off unless it is given. -/
def OptionRule.flag (parameter name : Text) : OptionRule :=
  ⟨parameter, .switch name none false⟩

/-- An option with a text that need not be given. -/
def OptionRule.optional (parameter name : Text) : OptionRule :=
  ⟨parameter, .valued name none .text .absent⟩

namespace InitRequest

/-- The name of the command. -/
def command : Text := "init-config"

/-- What the command declares. -/
def rule : CommandRule where
  name := command
  place := "path"
  defaultPlace := "nullfix.json"
  options :=
    [⟨"suggest", .switch "--suggest" (some "--no-suggest") true⟩,
     .flag "suggest_deep" "--suggest-deep",
     .flag "log_error" "--log-error",
     .flag "log_error_deep" "--log-error-deep",
     .optional "nullable" "--nullable",
     .optional "nonnull" "--nonnull",
     ⟨"work_list", .valued "--work-list" none .text (.text WorkList.wildcard)⟩,
     .optional "output_directory" "--output-directory",
     ⟨"output_format", .valued "--output-format" none
       (.choice [LedgerFormat.delimited.name, LedgerFormat.jsonLines.name])
       (.text LedgerFormat.delimited.name)⟩,
     .flag "param_test" "--param-test",
     ⟨"param_index", .valued "--param-index" none .integer .absent⟩,
     .flag "optimized" "--optimized",
     .flag "inheritance_tree" "--inheritance-tree",
     .flag "call_graph" "--call-graph",
     .flag "field_graph" "--field-graph",
     .optional "virtual_path" "--virtual-path"]

/-- The request of a call. -/
def ofValues (values : Values) : InitRequest where
  path := values.text "path"
  suggest := values.truth "suggest"
  suggestDeep := values.truth "suggest_deep"
  logErrors := values.truth "log_error"
  logErrorsDeep := values.truth "log_error_deep"
  nullable := values.text? "nullable"
  nonNull := values.text? "nonnull"
  workList := values.text "work_list"
  outputDirectory := values.text? "output_directory"
  format := (LedgerFormat.ofName? (values.text "output_format")).getD .delimited
  paramTest := values.truth "param_test"
  paramIndex := values.integer? "param_index"
  optimized := values.truth "optimized"
  inheritanceTree := values.truth "inheritance_tree"
  callGraph := values.truth "call_graph"
  fieldGraph := values.truth "field_graph"
  virtualPath := values.text? "virtual_path"

end InitRequest

namespace ExploreRequest

/-- The name of the command. -/
def command : Text := "explore"

/-- What the command declares. -/
def rule : CommandRule where
  name := command
  place := "target"
  defaultPlace := "."
  options :=
    [⟨"config", .valued "--config" (some (.char 'c')) .path .absent⟩,
     ⟨"auto_fix", .switch "--auto-fix" (some "--no-auto-fix") true⟩]

/-- The request of a call. -/
def ofValues (values : Values) : ExploreRequest where
  target := values.text "target"
  config := values.text? "config"
  autoFix := values.truth "auto_fix"

end ExploreRequest

/-! ## The program's arguments -/

namespace Request

/-- The commands of the program. -/
def commands : List CommandRule := [InitRequest.rule, ExploreRequest.rule]

/-- The request of an answer. -/
def ofAnswer? : Answer → Except UsageError Request
  | .help => .ok help
  | .call command values =>
      if command = InitRequest.command then .ok (init (.ofValues values))
      else if command = ExploreRequest.command then .ok (explore (.ofValues values))
      else .error (.unknownCommand command)

/-- The request that the arguments of the program make. -/
def ofArguments? (reader : OptionReader) (args : List Text) : Except UsageError Request :=
  match reader.read commands args with
  | .error e => .error e
  | .ok answer => ofAnswer? answer

/-- The paths that a request names. -/
def paths : Request → List Text
  | help => []
  | init request => [request.path]
  | explore request => request.target :: request.config.toList

end Request
end Nullability
