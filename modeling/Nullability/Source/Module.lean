import Nullability.Disk
import Nullability.Site
import Nullability.Source.Tree

/-!
# Modules

A source file under its dotted name, and how both are found on a disk.

* `SourceModule` is a tree with a name and the path of the file, which a tree that was given
  without a file lacks;
* `ModuleHome.unit?` is the package and the address of a module, where its file has one;
* `moduleName` is the dotted name of a file: the names of the directories above it as long as they
  are packages, and its own name unless it stands for the package itself;
* `SourceModule.load?` reads a file and gives it to a parser.
-/

namespace Nullability

/-- A path as seen from a directory, with `..` followed by name alone. -/
def Path.absolute (here : Place) (path : Path) : Path :=
  ⟨if path.slashes = 2 then 2 else 1, Place.ofPath here path⟩

namespace ModuleHome

/-- The path of the file as text. -/
def path? (h : ModuleHome) : Option Text :=
  h.file.map Path.render

/-- The package of a module: the module itself, or what its name says before the last dot. -/
def package (h : ModuleHome) : Text :=
  if h.isPackage then h.name else Text.ofList (Text.beforeLast '.' h.name.toList)

/-- The address of the file. -/
def uri (h : ModuleHome) : Text :=
  (h.file.map fun path => Place.uri path.segments).getD ""

/-- Whether the path of the file is one that no file can have. -/
def hasUnusablePath (h : ModuleHome) : Bool :=
  (h.path?.map Disk.isRefused).getD false

/-- Why the path of the file is one that no file can have. -/
def refusal (h : ModuleHome) : DiskError :=
  Disk.refusal (h.path?.getD "")

/-- The file as a part of locations. A path that no file can have has no address. -/
def unit? (h : ModuleHome) : Except DiskError SourceUnit :=
  if h.hasUnusablePath then .error h.refusal else .ok ⟨h.package, h.uri⟩

/-- The path of what stands on a line of the file. -/
def pathAt? (h : ModuleHome) (line : Option Int) : Option Text :=
  line.bind fun _ => h.path?

end ModuleHome

/-- A source file under a dotted name. -/
structure SourceModule where
  name : Text
  file : Option Path
  tree : SourceTree

namespace SourceModule

/-- The name of the file that stands for the package it is in. -/
def packageStem : Text := "__init__"

/-- The file that makes a directory a package. -/
def packageFile : Text := "__init__.py"

/-- A dotted name without the part for a file that stands for its package. -/
def withoutPackageStem (name : Text) : Text :=
  let ending := (.char '.' :: packageStem.toList)
  if ending.isSuffixOf name.toList then
    Text.ofList (name.toList.take (name.toList.length - ending.length))
  else name

/-- The module of a tree that is given with a name and perhaps a path. -/
def ofTree (name : Text) (here : Place) (path : Option Text) (tree : SourceTree) :
    SourceModule where
  name := withoutPackageStem name
  file := path.map fun text => (Path.parse text).absolute here
  tree := tree

/-- What the module is besides its tree. -/
def home (m : SourceModule) : ModuleHome :=
  ⟨m.name, m.tree.isPackage, m.file⟩

/-! ## Names on a disk -/

/-- The names of the directories above a place that are packages, without a break, the outermost
first. The directory is taken to be one whose path, with the name of the file, the system still
looks up. -/
def packageChain (disk : Disk) (directory : Place) : List Text :=
  let inner := (List.range directory.length).reverse.map fun n => directory.take (n + 1)
  let packages := inner.takeWhile fun p => (disk.tree.at? (p ++ [packageFile])).isSome
  (packages.map Place.name).reverse

/-- The dotted name of the file at the end of a path. -/
def moduleName (disk : Disk) (path : Path) : Text :=
  let stem := FileName.stem path.name
  let own := if stem = packageStem then [] else [stem]
  let parts := packageChain disk (Place.ofPath disk.here path).dropLast ++ own
  -- Outside of packages, the file that stands for one has nothing else to be named by.
  let dotted := Text.glued "." parts
  if dotted.isEmpty then stem else dotted

/-- A parser: the tree of the file at a place with some text, if the text can be parsed. -/
abbrev Parser := Place → Text → Option SourceTree

/-- The module that the content of a file is parsed to. There is none where the bytes are no text
and where the text cannot be parsed. -/
def ofContent? (parser : Parser) (disk : Disk) (path : Path) (content : ByteArray) :
    Option SourceModule :=
  match Encoding.utf8.decode? content with
  | none => none
  | some source =>
      let unified := Text.ofList (Text.unifyNewlines source.toList)
      (parser (Place.ofPath disk.here path) unified).map
        (ofTree (moduleName disk path) disk.here (some path.render))

/-- Reads and parses a file. There is no module where no file stands, but a path that is too long
cannot even be asked about. -/
def load? (parser : Parser) (disk : Disk) (text : Text) :
    Except DiskError (Option SourceModule) :=
  if Disk.isRefused text then .ok none
  else
    let path := Path.parse text
    match disk.readBytes path with
    | .error (.system .nameTooLong path) => .error (.system .nameTooLong path)
    | .error _ => .ok none
    | .ok content => .ok (ofContent? parser disk path content)

end SourceModule
end Nullability
