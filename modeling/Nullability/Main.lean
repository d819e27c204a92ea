import Nullability.CommandLine
import Nullability.CommandLine.Arguments
import Nullability.Console
import Nullability.Json.Reader
import Nullability.Source.Reader

/-!
# The program

The thin outer layer: it looks at the files that a command can see, runs the command on them, and
writes back what has changed.

Source files are not parsed here. The tree of a source file is read from a description beside it,
whose name is that of the file with `.tree.json` at the end; a source file without one counts as
one that cannot be parsed.
-/

namespace Nullability

/-- The ending of the name of a description. -/
def descriptionEnding : Text := ".tree.json"

/-- The place of the description of a source file. -/
def descriptionOf (p : Place) : Place :=
  p.dropLast ++ [p.name ++ descriptionEnding]

/-- Reads the trees of source files from the descriptions beside them. -/
def describedParser (tree : FileTree) : SourceModule.Parser := fun p _ =>
  match tree.at? (descriptionOf p) with
  | some (.file content) =>
      ((Encoding.utf8.decode? content).bind fun text => (Json.read? text).toOption).bind
        SourceTree.ofDocument?
  | _ => none

/-- The files that can matter at the directories above a place. -/
def besides (p : Place) : List Place :=
  p.way.flatMap fun q => [q, q ++ [Config.projectFile], q ++ [SourceModule.packageFile]]

/-- The places that a request names. -/
def Request.places (here : Place) (request : Request) : List Place :=
  request.paths.map fun path => Place.ofPath here (Path.parse path)

/-- The places of the ledgers of a configuration. -/
def ledgerPlaces (here : Place) (config : Config) : List Place :=
  [Ledgers.pathOf config errorLedgerName, Ledgers.pathOf config fixLedgerName].map fun path =>
    Place.ofPath here (Path.parse path)

/-- The configuration of a request, as far as it says where the ledgers are. -/
def Request.config? (disk : Disk) : Request → Option Config
  | .explore r =>
      ((Config.load? disk r.config).toOption).map fun document =>
        Config.ofDocument document r.autoFix
  | _ => none

/-! ## Looking and writing back -/

/-- Adds what stands at a place, and at the places above it, to a tree. -/
def look (tree : FileTree) (p : Place) : IO FileTree := do
  let top ← IO.currentDir
  p.way.foldlM (fun tree q => do
    let file := top / q.render.chars
    if ← file.isDir then return tree.put q .directory
    else if ← file.pathExists then return tree.put q (.file (← IO.FS.readBinFile file))
    else return tree) tree

/-- Adds everything below a place to a tree. -/
partial def lookBelow (tree : FileTree) (p : Place) : IO FileTree := do
  let file := (← IO.currentDir) / p.render.chars
  let tree ← look tree p
  if ← file.isDir then
    let look (tree : FileTree) (entry : IO.FS.DirEntry) :=
      lookBelow tree (p ++ [.ofString entry.fileName])
    (← file.readDir).foldlM look tree
  else return tree

/-- Carries one change out. -/
def carryOut (change : Place × Option Entry) : IO Unit := do
  let path := change.1.render.chars
  match change.2 with
  | some .directory => IO.FS.createDirAll path
  | some (.file content) => IO.FS.writeBinFile path content
  | none => IO.FS.removeFile path

/-- Looks at the files that a request can see. -/
def lookFor (here : Place) (request : Request) : IO Disk := do
  let named := request.places here
  let tree ← (besides here ++ named.flatMap besides).foldlM look .empty
  let tree ← match request with
    | .explore _ => named.foldlM lookBelow tree
    | _ => pure tree
  let disk : Disk := ⟨tree, here, []⟩
  let ledgers := ((request.config? disk).map (ledgerPlaces here)).getD []
  return { disk with tree := ← ledgers.foldlM look tree }

end Nullability

open Nullability in
/-- Runs the command that the arguments name, and ends with its exit code. -/
def main (args : List String) : IO UInt32 := do
  let here := Path.namesOf (.ofString (← IO.currentDir).toString)
  let args := args.map Text.ofString
  match Request.ofArguments? Arguments.reader args with
  | .error _ =>
      IO.eprintln CommandLine.usage.chars
      return UInt32.ofNat unusableCode
  | .ok .help =>
      IO.println CommandLine.usage.chars
      return 0
  | .ok request =>
      let disk ← lookFor here request
      let (ending, run) :=
        CommandLine.run Arguments.reader (describedParser disk.tree) args (.on disk)
      for change in (disk.tree.changes run.disk.tree).reverse do
        carryOut change
      for notice in run.notices do
        ((Console.default.plain notice).map (IO.eprintln ·.chars)).getD (pure ())
      if let .broken cause := ending then IO.eprintln cause.message.chars
      return UInt32.ofNat ending.code
