import Nullability.Json.Reader
import Nullability.Ledger
import Nullability.Text.Decimal

/-!
# Reading a ledger back

* `LedgerView.rows` gives the records of a ledger, each as columns with their values;
* `LedgerView.header` gives the columns alone.

The values of a delimited ledger are assigned to the columns by position, so a value that holds
the delimiter shifts those after it. In a ledger of JSON lines the columns may be any values, and
a value that is no text is shown the way `shown` writes it.
-/

namespace Nullability

/-- Why a ledger cannot be read. -/
inductive LedgerReadError where
  | disk (cause : DiskError)
  | emptyDelimiter
  /-- A line is no JSON. -/
  | malformed
  /-- An integer in a line is too long. -/
  | integerTooLong
  /-- The first line does not name its columns. -/
  | columnsMissing
  /-- What should hold or name the columns cannot. -/
  | columnsUnusable
  /-- A line is no table. -/
  | notRecord
  deriving DecidableEq, Repr

/-- Why a ledger cannot be read of which a line cannot be read. -/
def LedgerReadError.ofReading : Document.ReadError → LedgerReadError
  | .malformed => malformed
  | .integerTooLong => integerTooLong

/-! ## Values as text -/

mutual

/-- A value as text: truth values and null by name, texts in quotes. -/
def shown : Document → Text
  | .null => "None"
  | .bool true => "True"
  | .bool false => "False"
  | .integer n => Text.integerText n
  | .decimal literal => (Text.Binary.ofLiteral literal).text
  | .moment literal => literal
  | .text s => Text.quoted s
  | .list xs => "[" ++ Text.glued ", " (shownItems xs) ++ "]"
  | .table es => "\x7b" ++ Text.glued ", " (shownEntries es) ++ "\x7d"

/-- The items of a list as texts. -/
def shownItems : List Document → List Text
  | [] => []
  | x :: xs => shown x :: shownItems xs

/-- The entries of a table as texts. -/
def shownEntries : List (Text × Document) → List Text
  | [] => []
  | (key, value) :: es => (Text.quoted key ++ ": " ++ shown value) :: shownEntries es

end

/-- A value of a row: a text as it is, and anything else as text. -/
def cellText : Document → Text
  | .text s => s
  | other => shown other

/-! ## Rows -/

/-- A record that was read: its columns in order, each once, with their values. -/
abbrev Row := List (Document × Text)

/-- Whether two values are the same as columns. Numbers are compared by value, and a truth value is
the same as the number for it. -/
def sameColumn : Document → Document → Bool
  | .null, .null => true
  | .bool b, .bool c => b == c
  | .bool b, .integer n => n == (if b then 1 else 0)
  | .integer n, .bool b => n == (if b then 1 else 0)
  | .integer m, .integer n => m == n
  | .decimal s, .decimal t => (Text.Binary.ofLiteral s).sameValue (.ofLiteral t)
  | .decimal s, .integer n => (Text.Binary.ofLiteral s).isInteger n
  | .integer n, .decimal s => (Text.Binary.ofLiteral s).isInteger n
  | .decimal s, .bool b => (Text.Binary.ofLiteral s).isInteger (if b then 1 else 0)
  | .bool b, .decimal s => (Text.Binary.ofLiteral s).isInteger (if b then 1 else 0)
  | .text s, .text t => s == t
  | _, _ => false

/-- Whether a value can be a column. -/
def canBeColumn : Document → Bool
  | .list _ => false
  | .table _ => false
  | _ => true

/-- The row with a value at a column: in place of the one that is there, or at the end. -/
def Row.put (column : Document) (value : Text) : Row → Row
  | [] => [(column, value)]
  | (c, v) :: rest =>
      if sameColumn c column then (c, value) :: rest else (c, v) :: Row.put column value rest

/-- The row of some columns and values, where a later value replaces an earlier one. -/
def Row.ofPairs (pairs : List (Document × Text)) : Row :=
  pairs.foldl (fun row (column, value) => row.put column value) []

/-- How a ledger is to be read. -/
structure LedgerView where
  format : LedgerFormat
  delimiter : Text

namespace LedgerView

/-- The pieces of a line between delimiters. -/
def split (view : LedgerView) (line : Text) : Except LedgerReadError (List Text) :=
  if view.delimiter.isEmpty then .error .emptyDelimiter
  else .ok (Text.piecesOf view.delimiter line)

/-- The value that the first line of a ledger of JSON lines names as its columns. -/
def columnsOf (line : Text) : Except LedgerReadError Document :=
  match Json.read? line with
  | .error e => .error (.ofReading e)
  | .ok (.table entries) =>
      match Document.lookup? "columns" entries with
      | some columns => .ok columns
      | none => .error .columnsMissing
  | .ok _ => .error .columnsUnusable

/-- The columns that a value stands for: the items of a list, the characters of a text, the keys
of a table. -/
def columnList : Document → Except LedgerReadError (List Document)
  | .list xs => .ok xs
  | .text s => .ok (s.toList.map fun c => .text (Text.ofList [c]))
  | .table es => .ok (es.map fun (key, _) => .text key)
  | _ => .error .columnsUnusable

/-- The value of a line at a column, as text. A column that the line does not have is empty. -/
def cell (line : Text) (column : Document) : Except LedgerReadError Text :=
  match Json.read? line with
  | .error e => .error (.ofReading e)
  | .ok (.table entries) =>
      match column with
      | .text key => .ok (((Document.lookup? key entries).map cellText).getD "")
      | other => if canBeColumn other then .ok "" else .error .columnsUnusable
  | .ok _ => .error .notRecord

/-- The row of a line of a ledger of JSON lines. -/
def jsonRow (columns : Document) (line : Text) : Except LedgerReadError Row := do
  let list ← columnList columns
  let pairs ← list.mapM fun column => (cell line column).map fun value => (column, value)
  return Row.ofPairs pairs

/-- The rows of the lines of a ledger, of which the first names the columns. -/
def rowsOfLines (view : LedgerView) : List Text → Except LedgerReadError (List Row)
  | [] => .ok []
  | first :: records =>
      match view.format with
      | .jsonLines => do
          let columns ← columnsOf first
          records.mapM (jsonRow columns)
      | .delimited => do
          let columns ← view.split first
          records.mapM fun record => do
            let values ← view.split record
            return Row.ofPairs ((columns.map .text).zip values)

/-- The columns that the first line of a ledger names. -/
def headerOfLines (view : LedgerView) : List Text → Except LedgerReadError (List Document)
  | [] => .ok []
  | first :: _ =>
      match view.format with
      | .jsonLines => (columnsOf first).bind columnList
      | .delimited => (view.split first).map fun names => names.map .text

/-- The lines of a file. -/
def linesAt (disk : Disk) (path : Text) : Except LedgerReadError (List Text) :=
  match disk.readText path .utf8 with
  | .ok s => .ok (Text.linesOf s)
  | .error e => .error (.disk e)

/-- The records of the ledger at a path; empty lines are passed over. -/
def rows (view : LedgerView) (disk : Disk) (path : Text) : Except LedgerReadError (List Row) :=
  (linesAt disk path).bind fun lines => view.rowsOfLines (lines.filter fun line => !line.isEmpty)

/-- The columns of the ledger at a path, which its very first line names. -/
def header (view : LedgerView) (disk : Disk) (path : Text) :
    Except LedgerReadError (List Document) :=
  (linesAt disk path).bind view.headerOfLines

end LedgerView
end Nullability
