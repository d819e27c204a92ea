import Nullability.FileTree
import Nullability.Text.Encoding
import Nullability.Text.Line
import Nullability.Text.Numeral
import Nullability.Text.Quoted

/-!
# File operations

A `Disk` is a file tree with a working directory, on which single operations can be made to
fail. Each operation takes a path as text and gives its result with the disk after it; one that
fails says why, and `DiskError.isSystem` tells what the system refused from what the text of a
path or of a file does not allow.
-/

namespace Nullability

/-- The operations that can be made to fail. -/
inductive DiskOperation where
  | makeDirectories
  | remove
  | readText
  | writeText
  | appendText
  deriving DecidableEq, Repr

/-- Why a file operation failed. -/
inductive DiskError where
  | system (cause : SystemError) (path : Text)
  /-- The path holds a null character. -/
  | nullInPath
  /-- The bytes of the file are no text in the encoding. -/
  | undecodable
  /-- The encoding does not cover the text, or the system has no bytes for the path. -/
  | unencodable (complaint : Text)
  /-- A failure asked for, as one of the system or not. -/
  | injected (fromSystem : Bool) (message : Text)
  deriving DecidableEq, Repr

namespace DiskError

/-- Whether the system refused the operation. -/
def isSystem : DiskError → Bool
  | system _ _ => true
  | injected fromSystem _ => fromSystem
  | _ => false

/-- The message for a failure. -/
def message : DiskError → Text
  | system cause path =>
      "[Errno " ++ Text.integerText cause.code ++ "] " ++ cause.words ++ ": " ++ Text.quoted path
  | nullInPath => "embedded null byte"
  | undecodable => "the bytes of the file are no text in its encoding"
  | unencodable complaint => complaint
  | injected _ text => text

end DiskError

/-- A file tree, a working directory, and the failures that are asked for. -/
structure Disk where
  tree : FileTree
  here : Place
  faults : List (DiskOperation × DiskError)

namespace Disk

/-- The failure asked for on an operation. -/
def fault? (d : Disk) (operation : DiskOperation) : Option DiskError :=
  d.faults.lookup operation

/-- The disk on which an operation fails from now on. -/
def withFault (d : Disk) (operation : DiskOperation) (e : DiskError) : Disk :=
  { d with faults := (operation, e) :: d.faults }

/-- The directory that a path starts from. -/
def start (d : Disk) (path : Path) : Place :=
  if path.isAbsolute then [] else d.here

/-- The length in bytes that the text of a path may have. -/
def longestPath : Nat := 4095

/-- Whether the text of a path is longer than the system takes. -/
def isTooLong (path : Text) : Bool :=
  longestPath < path.nameSize

/-- The place that a path leads to. -/
def locate (d : Disk) (path : Path) : Except SystemError Place :=
  if isTooLong path.render then .error .nameTooLong
  else d.tree.walk (d.start path) path.segments

/-- What stands at the end of a path, if anything does. -/
def entry? (d : Disk) (path : Path) : Option Entry :=
  match d.locate path with
  | .ok p => d.tree.at? p
  | .error _ => none

/-- Whether a text cannot be a path. -/
def isRefused (path : Text) : Bool :=
  path.toList.any fun c => !c.isNameable

theorem isRefused_eq_false_iff {path : Text} :
    isRefused path = false ↔ ∀ c ∈ path.toList, c.isNameable = true := by
  simp [isRefused]

/-- Why a text cannot be a path: there are no bytes for some code points in a row, or one of them is
null. -/
def refusal (path : Text) : DiskError :=
  let named := path.toList.takeWhile Letter.hasNameBytes
  match (path.toList.drop named.length).takeWhile fun c => !c.isChar with
  | [] => .nullInPath
  | halves => .unencodable (Encoding.utf8.complaintAt named.length halves)

theorem refusal_cases (path : Text) :
    refusal path = .nullInPath ∨ ∃ complaint, refusal path = .unencodable complaint := by
  dsimp only [refusal]
  split
  · exact Or.inl rfl
  · exact Or.inr ⟨_, rfl⟩

@[simp]
theorem isSystem_refusal (path : Text) : (refusal path).isSystem = false := by
  rcases refusal_cases path with h | ⟨complaint, h⟩ <;> rw [h] <;> rfl

/-! ## Reading -/

/-- The bytes of the file at the end of a path. -/
def readBytes (d : Disk) (path : Path) : Except DiskError ByteArray :=
  let refuse (cause : SystemError) := DiskError.system cause path.render
  match d.locate path with
  | .error cause => .error (refuse cause)
  | .ok p =>
      match d.tree.at? p with
      | none => .error (refuse .notFound)
      | some .directory => .error (refuse .isDirectory)
      | some (.file content) => .ok content

/-- The text of a file, in which every line ends in a line feed. -/
def readText (d : Disk) (path : Text) (encoding : Encoding) : Except DiskError Text :=
  match d.fault? .readText with
  | some e => .error e
  | none =>
      let target := Path.parse path
      if isRefused path then .error (refusal target.render)
      else
        match d.readBytes target with
        | .error e => .error e
        | .ok content =>
            match encoding.decode? content with
            | none => .error .undecodable
            | some s => .ok (Text.ofList (Text.unifyNewlines s.toList))

/-! ## Writing -/

/-- Opens the file at a place for writing, which makes it if it is missing; gives what it
holds. -/
def openFile (d : Disk) (p : Place) : Except SystemError ByteArray :=
  match d.tree.at? p with
  | none => .ok .empty
  | some .directory => .error .isDirectory
  | some (.file content) => .ok content

/-- The disk with a file at a place. -/
def store (d : Disk) (p : Place) (content : ByteArray) : Disk :=
  { d with tree := d.tree.put p (.file content) }

/-- Puts a text in place of what a file holds. A text that the encoding does not cover leaves the
file empty. -/
def writeText (d : Disk) (path content : Text) (encoding : Encoding) :
    Except DiskError Unit × Disk :=
  match d.fault? .writeText with
  | some e => (.error e, d)
  | none =>
      let target := Path.parse path
      if isRefused path then (.error (refusal target.render), d)
      else
        match (d.locate target).bind fun p => (d.openFile p).map fun _ => p with
        | .error cause => (.error (.system cause target.render), d)
        | .ok p =>
            -- The file is emptied before the text is encoded.
            match encoding.encode? content with
            | some bytes => (.ok (), d.store p bytes)
            | none => (.error (.unencodable (encoding.complaint content)), d.store p .empty)

/-- The place that a path leads to when it is followed as written, where a slash at its end asks
for a directory. -/
def locateWritten (d : Disk) (path : Text) : Except SystemError Place :=
  let start := d.start (Path.parse path)
  let names := Path.namesOf path
  if path.isEmpty then .error .notFound
  else if isTooLong path then .error .nameTooLong
  else if path.toList.getLast? = some (.char '/') then
    -- The last name is not looked at, but there has to be a directory for it.
    match d.tree.walk start names.dropLast with
    | .error cause => .error cause
    | .ok p =>
        match d.tree.at? p with
        | none => .error .notFound
        | some (.file _) => .error .notDirectory
        | some .directory => .error .isDirectory
  else d.tree.walk start names

/-- Adds a text to the end of a file, which is made if it is missing. -/
def appendText (d : Disk) (path content : Text) (encoding : Encoding) :
    Except DiskError Unit × Disk :=
  match d.fault? .appendText with
  | some e => (.error e, d)
  | none =>
      if isRefused path then (.error (refusal path), d)
      else
        match (d.locateWritten path).bind fun p => (d.openFile p).map fun old => (p, old) with
        | .error cause => (.error (.system cause path), d)
        | .ok (p, old) =>
            -- The file is made before the text is encoded.
            match encoding.encode? content with
            | some bytes => (.ok (), d.store p (old ++ bytes))
            | none => (.error (.unencodable (encoding.complaint content)), d.store p old)

/-! ## Directories -/

/-- Makes the directory that segments lead to from a place, and every one on the way that is
missing. One that is there already is accepted on the way, and at the end if `existing` says so. -/
def makeAlong (existing : Bool) :
    FileTree → Place → List Text → Except SystemError Unit × FileTree
  | t, p, [] =>
      match t.at? p with
      | none => (.ok (), t.put p .directory)
      | some .directory => (if existing then .ok () else .error .alreadyExists, t)
      | some (.file _) => (.error .alreadyExists, t)
  | t, p, segment :: rest =>
      match t.at? p with
      | some (.file _) => (.error .notDirectory, t)
      | found =>
          let t := if found.isSome then t else t.put p .directory
          if FileTree.longestName < segment.nameSize then (.error .nameTooLong, t)
          else makeAlong existing t (p.step segment) rest

/-- Makes a directory and those above it that are missing. -/
def makeDirectories (d : Disk) (path : Text) (existing : Bool) :
    Except DiskError Unit × Disk :=
  match d.fault? .makeDirectories with
  | some e => (.error e, d)
  | none =>
      let target := Path.parse path
      if isRefused path then (.error (refusal target.render), d)
      else if isTooLong target.render then (.error (.system .nameTooLong target.render), d)
      else
        match makeAlong existing d.tree (d.start target) target.segments with
        | (.ok (), tree) => (.ok (), { d with tree })
        | (.error cause, tree) => (.error (.system cause target.render), { d with tree })

/-! ## Removing -/

/-- The tree without the file at the end of a path. -/
def withoutFile (d : Disk) (target : Path) : Except SystemError FileTree :=
  match d.locate target with
  | .error cause => .error cause
  | .ok p =>
      match d.tree.at? p with
      | none => .error .notFound
      | some .directory => .error .isDirectory
      | some (.file _) => .ok (d.tree.erase p)

/-- The tree without the directory at the end of a path and everything below it. -/
def withoutDirectory (d : Disk) (target : Path) : Except SystemError FileTree :=
  match d.locate target with
  | .error cause => .error cause
  | .ok p =>
      match d.tree.at? p with
      | none => .error .notFound
      | some (.file _) => .error .notDirectory
      | some .directory => .ok (d.tree.prune p)

/-- The disk with the tree that is left, if something is. -/
def leave (d : Disk) (target : Path) (left : Except SystemError FileTree) :
    Except DiskError Unit × Disk :=
  match left with
  | .ok tree => (.ok (), { d with tree })
  | .error cause => (.error (.system cause target.render), d)

/-- Removes a file, which has to be there. -/
def delete (d : Disk) (path : Text) : Except DiskError Unit × Disk :=
  if isRefused path then (.error (refusal (Path.parse path).render), d)
  else d.leave (Path.parse path) (d.withoutFile (Path.parse path))

/-- Removes a directory, which has to be there, and everything below it. -/
def deleteDirectory (d : Disk) (path : Text) : Except DiskError Unit × Disk :=
  if isRefused path then (.error (refusal (Path.parse path).render), d)
  else d.leave (Path.parse path) (d.withoutDirectory (Path.parse path))

/-- Removes a file; one that is missing is no failure. -/
def remove (d : Disk) (path : Text) : Except DiskError Unit × Disk :=
  match d.fault? .remove with
  | some e => (.error e, d)
  | none =>
      match d.delete path with
      | (.error (.system .notFound _), _) => (.ok (), d)
      | outcome => outcome

/-! ## Source files -/

/-- The ending of the files that are looked for. -/
def sourceEnding : Text := ".py"

/-- The absolute paths of the source files that a path stands for, in ascending order: of a
directory, everything below it with the ending; of anything else, itself if it has the ending. -/
def sourceFiles (d : Disk) (path : Text) : Except DiskError (List Text) :=
  let p := Place.ofPath d.here (Path.parse path)
  if isRefused path then .error (refusal p.render)
  else
    -- A path that is too long cannot even be asked about.
    match d.locate ⟨1, p⟩ with
    | .error .nameTooLong => .error (.system .nameTooLong p.render)
    | _ =>
        if d.tree.isDirectory p then
          let found := (d.tree.below p).filter fun q =>
            sourceEnding.toList.isSuffixOf q.name.toList
          .ok (NameSet.ofList (found.map Place.render)).toList
        else if FileName.suffix p.name = sourceEnding then .ok [p.render]
        else .ok []

end Disk
end Nullability
