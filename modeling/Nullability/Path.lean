import Nullability.Text.Pieces

/-!
# Paths

A path as it is written: how many slashes it starts with and the segments between slashes, where
empty segments and `.` are left out and `..` is kept.

* `Path.parse` and `Path.render` go between a path and its text;
* `Path.joined` puts paths together, where an absolute one discards what precedes it;
* `Place` is an absolute position in the file tree, and `Place.follow` goes from one along
  segments by name alone.
-/

namespace Nullability

/-- A path as it is written. -/
structure Path where
  /-- The slashes at the start that count: none, one, or exactly two. -/
  slashes : Nat
  segments : List Text
  deriving DecidableEq, Repr

namespace Path

/-- How many of the slashes at the start of a text count. -/
def leadingSlashes (cs : List Letter) : Nat :=
  match (cs.takeWhile (· == .char '/')).length with
  | 0 => 0
  | 2 => 2
  | _ => 1

/-- The texts between the slashes of a path, the empty ones left out. -/
def namesOf (s : Text) : List Text :=
  (Text.piecesOf "/" s).filter fun name => !name.isEmpty

/-- The path that a text stands for. -/
def parse (s : Text) : Path :=
  ⟨leadingSlashes s.toList, (namesOf s).filter fun name => name != "."⟩

/-- The text of a path; a path without anything in it is a dot. -/
def render (p : Path) : Text :=
  if p.slashes = 0 && p.segments.isEmpty then "."
  else Text.ofList (List.replicate p.slashes '/') ++ Text.glued "/" p.segments

/-- Whether the path starts at the top of the file tree. -/
def isAbsolute (p : Path) : Bool :=
  p.slashes != 0

/-- The second path as seen from the first. -/
def join (p q : Path) : Path :=
  if q.isAbsolute then q else ⟨p.slashes, p.segments ++ q.segments⟩

/-- The path that several texts make together. -/
def joined (texts : List Text) : Path :=
  (texts.map parse).foldl join ⟨0, []⟩

/-- The last segment. -/
def name (p : Path) : Text :=
  p.segments.getLast?.getD ""

end Path

/-! ## File names -/

namespace FileName

/-- The ending of a file name from its last dot on, and nothing if that dot is at either end. -/
def suffix (name : Text) : Text :=
  let ending := Text.afterLast '.' name.toList
  if name.toList.contains '.' && !ending.isEmpty && ending.length + 1 < name.toList.length then
    Text.ofList (.char '.' :: ending)
  else ""

/-- The file name without its ending. -/
def stem (name : Text) : Text :=
  Text.ofList (name.toList.take (name.toList.length - (suffix name).toList.length))

end FileName

/-! ## Places -/

/-- A position in the file tree: the names on the way from the top. -/
abbrev Place := List Text

namespace Place

/-- One step from a directory: up, or down to a name; a dot stays. -/
def step (p : Place) (segment : Text) : Place :=
  if segment = ".." then p.dropLast else if segment = "." then p else p ++ [segment]

/-- The places on the way to a place, from the top to the place itself. -/
def way (p : Place) : List Place :=
  (List.range (p.length + 1)).map fun n => p.take n

/-- The place at the end of the segments, by name alone. -/
def follow (p : Place) (segments : List Text) : Place :=
  segments.foldl step p

/-- The absolute path of a place, as text. -/
def render (p : Place) : Text :=
  "/" ++ Text.glued "/" p

/-- The last name of a place. -/
def name (p : Place) : Text :=
  p.getLast?.getD ""

/-- The place that a path leads to from a directory, by name alone. -/
def ofPath (here : Place) (path : Path) : Place :=
  follow (if path.isAbsolute then [] else here) path.segments

/-- A byte of an address: letters, digits and four marks stand for themselves. -/
def uriByte (b : UInt8) : List Letter :=
  let c := Char.ofNat b.toNat
  if c.isAlphanum || c == '_' || c == '.' || c == '-' || c == '~' || c == '/' then [c]
  else
    let digit (n : Nat) : Letter := Char.ofNat (if n < 10 then 0x30 + n else 0x37 + n)
    ['%', digit (b.toNat / 16), digit (b.toNat % 16)]

/-- The address of the file at a place. -/
def uri (p : Place) : Text :=
  "file://" ++ Text.ofList (p.render.nameBytes.flatMap uriByte)

end Place
end Nullability
