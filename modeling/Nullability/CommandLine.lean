import Nullability.CommandLine.Request
import Nullability.Config.File
import Nullability.Exploration

/-!
# The two commands

* `InitRequest.run` puts a configuration together and writes it to a file;
* `ExploreRequest.run` loads a configuration, opens the ledgers, and explores every source file of
  the target in order;
* `CommandLine.run` does what the arguments of the program say, as some reader reads them.

A command ends with an exit code, or breaks off on a failure that it has no answer to.
-/

namespace Nullability

/-- How a command ends. -/
inductive Ending where
  | exit (code : Nat)
  | broken (cause : Breakdown)
  deriving DecidableEq, Repr

/-- The exit code of the program. -/
def Ending.code : Ending → Nat
  | exit code => code
  | broken _ => 1

/-- The exit code for arguments and settings that cannot be used. -/
def unusableCode : Nat := 2

/-! ## Writing a configuration -/

namespace InitRequest

/-- A name that is given and not empty, or a default. -/
def nameOr (given : Option Text) (default : Marker) : Text :=
  match given with
  | some name => if name.isEmpty then default.name else name
  | none => default.name

/-- The step that names the markers, if one of them is given. -/
def markerEdit? (r : InitRequest) : Option Edit :=
  if r.nullable.isSome || r.nonNull.isSome then
    some (.markers r.suggest (nameOr r.nullable Markers.default.nullable)
      (nameOr r.nonNull Markers.default.nonNull))
  else none

/-- A step for a text that is given and not empty. -/
def editOf? (given : Option Text) (edit : Text → Edit) : Option Edit :=
  (given.filter fun text => !text.isEmpty).map edit

/-- The steps that the options stand for. -/
def edits (r : InitRequest) : List Edit :=
  [.suggest r.suggest r.suggestDeep, .logErrors r.logErrors r.logErrorsDeep] ++
  r.markerEdit?.toList ++
  [.workList (Text.piecesOf "," r.workList), .paramTest r.paramTest r.paramIndex,
   .optimized r.optimized, .inheritanceTree r.inheritanceTree, .callGraph r.callGraph,
   .fieldGraph r.fieldGraph, .format r.format] ++
  (editOf? r.outputDirectory .outputDirectory).toList ++
  (editOf? r.virtualPath (.virtualMarkers true)).toList

/-- The draft that the options stand for. -/
def draft? (r : InitRequest) : Except EditError Draft :=
  r.edits.foldlM Edit.apply Draft.blank

/-- Writes a configuration. -/
def run (r : InitRequest) (run : Run) : Ending × Run :=
  let run := run.note .handshake ""
  match r.draft? with
  | .error e => (.exit unusableCode, run.note .error e.message)
  | .ok draft =>
      let path := (Path.parse r.path).render
      match draft.write path true run with
      | (.error e, run) => (.broken e, run)
      | (.ok false, run) => (.exit 1, run)
      | (.ok true, run) => (.exit 0, run.note .step ("Config written to " ++ path))

end InitRequest

/-! ## Exploring source files -/

namespace Ledgers

/-- Explores one file. One that cannot be parsed is noted and left out. -/
def exploreFile (l : Ledgers) (parser : SourceModule.Parser) (path : Text) (run : Run) :
    Except Breakdown (List Fix) × Run :=
  match SourceModule.load? parser run.disk path with
  | .error e => (.error (.disk e), run)
  | .ok none => (.ok [], run.note .warning ("Skipping unparseable file: " ++ path))
  | .ok (some m) => l.explore m run

/-- Explores files one after the other. -/
def exploreFiles (l : Ledgers) (parser : SourceModule.Parser) :
    List Text → Run → Except Breakdown (List Fix) × Run
  | [], run => (.ok [], run)
  | path :: rest, run =>
      match l.exploreFile parser path run with
      | (.error e, run) => (.error e, run)
      | (.ok found, run) =>
          match l.exploreFiles parser rest run with
          | (.error e, run) => (.error e, run)
          | (.ok fixes, run) => (.ok (found ++ fixes), run)

/-- The notice about one fix at the end of a scan. -/
def summaryOf (f : Fix) : Text :=
  Violation.ownerText f.location ++ "." ++ (f.location.target.map Symbol.name).getD "None" ++
    ": " ++ f.marker ++ " (" ++ f.outcome.label ++ ")"

/-- The notices at the end of a scan. -/
def summary (l : Ledgers) (files : List Text) (fixes : List Fix) : List Text :=
  fixes.map summaryOf ++
  ["Scanned " ++ Text.integerText files.length ++ " file(s), proposed " ++
    Text.integerText fixes.length ++ " fix(es)"] ++
  ((l.path? fixLedgerName).map fun path : Text => "Fix ledger: " ++ path).toList

/-- Scans the source files of a target. -/
def scan (l : Ledgers) (parser : SourceModule.Parser) (target : Text) (run : Run) :
    Ending × Run :=
  match run.disk.sourceFiles target with
  | .error e => (.broken (.disk e), run)
  | .ok files =>
      match l.exploreFiles parser files run with
      | (.error e, run) => (.broken e, run)
      | (.ok fixes, run) =>
          (.exit 0, (l.summary files fixes).foldl (fun run text => run.note .step text) run)

end Ledgers

namespace ExploreRequest

/-- Opens the ledgers of a configuration and scans. -/
def runWith (r : ExploreRequest) (parser : SourceModule.Parser) (config : Config) (run : Run) :
    Ending × Run :=
  match Ledgers.open? config Ledgers.defaultDelimiter run with
  | (.error (.raw e), run) => (.broken (.disk e), run)
  | (.error e, run) => (.exit 1, run.note .error e.message)
  | (.ok l, run) => l.scan parser r.target run

/-- Scans source files under a configuration. -/
def run (r : ExploreRequest) (parser : SourceModule.Parser) (run : Run) : Ending × Run :=
  let run := run.note .handshake ""
  match Config.load? run.disk (r.config.map fun path => (Path.parse path).render) with
  | .error (.raw e) => (.broken (.disk e), run)
  | .error .integerTooLong => (.broken .integerTooLong, run)
  | .error e => (.exit unusableCode, run.note .error e.message)
  | .ok document => r.runWith parser (Config.ofDocument document r.autoFix) run

end ExploreRequest

/-! ## The program -/

namespace CommandLine

/-- How the program is used. -/
def usage : Text :=
  "usage: nullability " ++ InitRequest.command ++ " [PATH] [OPTION ...]\n" ++
  "       nullability " ++ ExploreRequest.command ++ " [TARGET] [--config PATH] [--no-auto-fix]"

/-- Does what is asked for. -/
def perform (parser : SourceModule.Parser) (request : Request) (run : Run) : Ending × Run :=
  match request with
  | .help => (.exit 0, run)
  | .init r => r.run run
  | .explore r => r.run parser run

/-- Does what the arguments of the program say. -/
def run (reader : OptionReader) (parser : SourceModule.Parser) (args : List Text) (run : Run) :
    Ending × Run :=
  match Request.ofArguments? reader args with
  | .error _ => (.exit unusableCode, run)
  | .ok request => perform parser request run

end CommandLine
end Nullability
