import Nullability.Breakdown
import Nullability.Config.Edit
import Nullability.Json.Reader
import Nullability.Run
import Nullability.Toml.Reader

/-!
# Configuration files

* `Draft.write` writes the document of a draft to a file;
* `Config.load?` reads a document: one at a named path, which has to be there and to be a table,
  or else the one in the nearest project file, which may be missing or unusable.

A file whose name ends in `.toml` is TOML, and any other is JSON. The settings of a project file
stand in a section of their own; in a TOML file that is named they may.
-/

namespace Nullability

/-- Why a document cannot be loaded. -/
inductive LoadError where
  /-- The file cannot be read, or is not written in its notation. -/
  | unreadable (path detail : Text)
  /-- The file holds a value that is no table. -/
  | notTable (path : Text)
  /-- An integer in the file is too long, which is no fault of the notation. -/
  | integerTooLong
  /-- A path or the bytes of a file do not allow to look at it. -/
  | raw (cause : DiskError)
  deriving DecidableEq, Repr

/-- The message for a document that cannot be loaded. -/
def LoadError.message : LoadError → Text
  | unreadable path detail => "Error in reading/parsing config at path: " ++ path ++ ": " ++ detail
  | notTable path => "Config at path: " ++ path ++ " is not a key-value document"
  | integerTooLong => Text.tooManyDigits
  | raw cause => cause.message

/-- Why a document cannot be loaded whose text cannot be read, where `malformed` is for a text that
breaks the rules. -/
def LoadError.ofReading (malformed : LoadError) : Document.ReadError → LoadError
  | .malformed => malformed
  | .integerTooLong => integerTooLong

/-! ## Writing -/

/-- Writes the document of a draft to a file and says whether that worked. A failure of the system
is noted, if notices are wanted; any other is given back. A parameter index that is too long has no
text, so that the file is not even opened. -/
def Draft.write (d : Draft) (path : Text) (noted : Bool) (run : Run) :
    Except Breakdown Bool × Run :=
  if Text.IsShort d.paramIndex then
    match run.act fun disk => disk.writeText path (d.toJson ++ "\n") .utf8 with
    | (.ok (), run) => (.ok true, run)
    | (.error e, run) =>
        if e.isSystem then
          let words := "Error happened in writing config at " ++ path ++ ": " ++ e.message
          (.ok false, if noted then run.note .error words else run)
        else (.error (.disk e), run)
  else (.error .integerTooLong, run)

namespace Config

/-! ## Loading -/

/-- The name of a project file. -/
def projectFile : Text := "pyproject.toml"

/-- The section of a project file that holds the settings. -/
def projectSection : List Text := ["tool", "nullfix"]

/-- The table in the section for the settings, which is empty where there is none. -/
def sectionEntries (document : Document) : List (Text × Document) :=
  match document.follow? projectSection with
  | some (.table entries) => entries
  | _ => []

/-- The settings of a TOML file that was named: those in the section, or the whole table if the
section holds none. -/
def namedSettings (document : Document) : Document :=
  match sectionEntries document with
  | [] => document
  | entries => .table entries

/-- What a file in a notation holds, or why it holds nothing. -/
def parseFile (path : Path) (content : ByteArray) : Except LoadError Document :=
  let refuse (detail : Text) := LoadError.unreadable path.render detail
  match Encoding.utf8.decode? content with
  | none => .error (refuse "the bytes are not UTF-8")
  | some text =>
      if FileName.suffix path.name = ".toml" then
        match Toml.read? text with
        | .ok document => .ok (namedSettings document)
        | .error e => .error (.ofReading (refuse "the text is not TOML") e)
      else
        match Json.read? text with
        | .ok (.table entries) => .ok (.table entries)
        | .ok _ => .error (.notTable path.render)
        | .error e => .error (.ofReading (refuse "the text is not JSON") e)

/-- The document at a path. -/
def loadNamed? (disk : Disk) (path : Text) : Except LoadError Document :=
  let target := Path.parse path
  if Disk.isRefused path then .error (.raw (Disk.refusal target.render))
  else
    match disk.readBytes target with
    | .error e => .error (.unreadable target.render e.message)
    | .ok content => parseFile target content

/-- The project file that is nearest above a place: what stands there, which may be a
directory. The place is taken to be one whose path, with the name of the file, the system still
looks up. -/
def nearestProject? (tree : FileTree) (here : Place) : Option Entry :=
  here.way.reverse.findSome? fun p => tree.at? (p ++ [projectFile])

/-- The settings in the nearest project file, which are none where it cannot be used. -/
def discover? (disk : Disk) : Except LoadError Document :=
  -- The nearest file decides, also when nothing can be read from it.
  match nearestProject? disk.tree disk.here with
  | some (.file content) =>
      match Encoding.utf8.decode? content with
      | none => .error (.raw .undecodable)
      | some text =>
          match Toml.read? text with
          | .ok document => .ok (.table (sectionEntries document))
          | .error .malformed => .ok (.table [])
          | .error .integerTooLong => .error .integerTooLong
  | _ => .ok (.table [])

/-- The document at a path, or the settings of the nearest project file. -/
def load? (disk : Disk) (path : Option Text) : Except LoadError Document :=
  match path with
  | some path => loadNamed? disk path
  | none => discover? disk

end Config
end Nullability
