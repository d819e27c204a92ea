import Nullability.Breakdown
import Nullability.Config
import Nullability.Json.Printer
import Nullability.Record
import Nullability.Run

/-!
# Ledgers

Two files in the output directory: one line a violation, and one line a fix. A ledger is kept only
when its mode is on. Opening starts each of them afresh with a line that names its columns;
after that lines are only added.

* `Ledgers.open?` makes the directory and the first lines;
* `Ledgers.append` adds a record as one line, and gives a notice instead when that fails;
* `frame` makes any text into one line.
-/

namespace Nullability

/-- The name of the ledger of violations. -/
def errorLedgerName : Text := "errors.csv"

/-- The name of the ledger of fixes. -/
def fixLedgerName : Text := "fixes.csv"

/-! ## Lines -/

/-- The text of one line: line breaks become spaces and tabs are left out. -/
def lineBody (cs : List Letter) : List Letter :=
  (Text.joinLines cs).filter fun c => c ≠ '\t'

/-- A text as one line of a file. -/
def frame (s : Text) : Text :=
  Text.ofList (lineBody s.toList ++ [.char '\n'])

/-- A table that gives each column its value. -/
def Record.toDocument (r : Record) : Document :=
  Document.ofEntries (r.columns.zip (r.values.map .text))

/-- A record before it is made into a line. -/
def Record.render (format : LedgerFormat) (delimiter : Text) (r : Record) : Text :=
  match format with
  | .delimited => r.display delimiter
  | .jsonLines => Json.line false r.toDocument

/-- The columns of a ledger before they are made into a line. -/
def renderColumns (format : LedgerFormat) (delimiter : Text) (columns : List Text) : Text :=
  match format with
  | .delimited => Text.glued delimiter columns
  | .jsonLines => Json.line true (.table [("columns", .list (columns.map .text))])

/-! ## Opening -/

/-- The ledgers of a run, once they are open. -/
structure Ledgers where
  config : Config
  delimiter : Text

/-- Why ledgers cannot be opened. -/
inductive OpenError where
  /-- The system refused a step of it. -/
  | reset (directory : Text) (cause : DiskError)
  /-- A path or a text does not allow it. -/
  | raw (cause : DiskError)
  deriving DecidableEq, Repr

namespace OpenError

/-- The reason for a failure of the disk while the ledgers of a directory are opened. -/
def ofDisk (directory : Text) (cause : DiskError) : OpenError :=
  if cause.isSystem then reset directory cause else raw cause

/-- The message for ledgers that cannot be opened. -/
def message : OpenError → Text
  | reset directory cause =>
      "Could not finish resetting File at Path: " ++ directory ++ ", Fatal Error: " ++ cause.message
  | raw cause => cause.message

end OpenError

namespace Ledgers

/-- The delimiter of the values unless another is given. -/
def defaultDelimiter : Text := "$*$"

/-- The path of a ledger in the output directory. -/
def pathOf (config : Config) (name : Text) : Text :=
  (Path.joined [config.outputDirectory, name]).render

/-- The path of the ledger of violations. -/
def errorPath (l : Ledgers) : Text := pathOf l.config errorLedgerName

/-- The path of the ledger of fixes. -/
def fixPath (l : Ledgers) : Text := pathOf l.config fixLedgerName

/-- Starts one ledger afresh. -/
def reset (l : Ledgers) (path : Text) (columns : List Text) (run : Run) :
    Except DiskError Unit × Run :=
  match run.act fun d => d.remove path with
  | (.error e, run) => (.error e, run)
  | (.ok (), run) =>
      let header := frame (renderColumns l.config.format l.delimiter columns)
      match run.act fun d => d.writeText path header .utf8 with
      | (.error e, run) => (.error e, run)
      | (.ok (), run) => (.ok (), run.note .debug ("Reset ledger " ++ path))

/-- Starts one ledger afresh if it is kept. -/
def resetIf (l : Ledgers) (active : Bool) (path : Text) (columns : List Text) (run : Run) :
    Except DiskError Unit × Run :=
  if active then l.reset path columns run else (.ok (), run)

/-- Makes the output directory and starts the ledgers that are kept. -/
def prepare (l : Ledgers) (run : Run) : Except DiskError Unit × Run :=
  match run.act fun d => d.makeDirectories l.config.outputDirectory true with
  | (.error e, run) => (.error e, run)
  | (.ok (), run) =>
      match l.resetIf l.config.logErrors.isActive l.errorPath Violation.columns run with
      | (.error e, run) => (.error e, run)
      | (.ok (), run) => l.resetIf l.config.suggest.isActive l.fixPath Fix.columns run

/-- Opens the ledgers of a configuration. -/
def open? (config : Config) (delimiter : Text) (run : Run) : Except OpenError Ledgers × Run :=
  let l : Ledgers := ⟨config, delimiter⟩
  match l.prepare run with
  | (.ok (), run) => (.ok l, run)
  | (.error e, run) => (.error (.ofDisk config.outputDirectory e), run)

/-- The path of a ledger by its name, if it is kept. -/
def path? (l : Ledgers) (name : Text) : Option Text :=
  if name = errorLedgerName && l.config.logErrors.isActive then some l.errorPath
  else if name = fixLedgerName && l.config.suggest.isActive then some l.fixPath
  else none

/-! ## Adding records -/

/-- A record before it is made into a line of these ledgers. -/
def render (l : Ledgers) (r : Record) : Text :=
  r.render l.config.format l.delimiter

/-- Adds a record to a file as one line; one that is written as nothing is left out. A failure is
noted and the run goes on. -/
def append (l : Ledgers) (r : Record) (path : Text) (run : Run) : Run :=
  let rendered := l.render r
  if rendered.isEmpty then run
  else
    match run.act fun d => d.appendText path (frame rendered) .utf8 with
    | (.ok (), run) => run
    | (.error e, run) =>
        run.note .error ("Error happened for writing at file: " ++ path ++ ": " ++ e.message)

/-- Records a fix, if fixes are kept. What has no text is no failure of writing it. -/
def saveFix (l : Ledgers) (f : Fix) (run : Run) : Except Breakdown Unit × Run :=
  if l.config.suggest.isActive then
    if f.IsWritable then (.ok (), l.append f.record l.fixPath run)
    else (.error .integerTooLong, run)
  else (.ok (), run)

/-- Records a violation, if violations are kept. -/
def saveViolation (l : Ledgers) (deep : Bool) (v : Violation) (run : Run) : Run :=
  if l.config.logErrors.isActive then l.append (v.record deep) l.errorPath run else run

end Ledgers
end Nullability
