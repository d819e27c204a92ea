import Nullability.NameSet
import Nullability.Path

/-!
# File trees

The directories and files below the top of a file system, without links.

* `FileTree.at?` is the view: what stands at a place;
* `put` and `erase` change one place, as `at?_put` and `at?_erase` say;
* `FileTree.walk` follows segments the way a file system does, where every step leaves a
  directory that is there.
-/

namespace Nullability

/-- What can stand at a place. -/
inductive Entry where
  | directory
  | file (content : ByteArray)

/-- Two files are the same if their bytes are. -/
instance : DecidableEq Entry
  | .directory, .directory => isTrue rfl
  | .directory, .file _ => isFalse (by simp)
  | .file _, .directory => isFalse (by simp)
  | .file a, .file b =>
      decidable_of_iff (a.data = b.data) (by rw [Entry.file.injEq, ByteArray.ext_iff])

/-- Why the system refuses to follow a path or to act on its end. -/
inductive SystemError where
  | notFound
  | alreadyExists
  | notDirectory
  | isDirectory
  | nameTooLong
  deriving DecidableEq, Repr

/-- The number of an error. -/
def SystemError.code : SystemError → Nat
  | notFound => 2
  | alreadyExists => 17
  | notDirectory => 20
  | isDirectory => 21
  | nameTooLong => 36

/-- The words for an error. -/
def SystemError.words : SystemError → Text
  | notFound => "No such file or directory"
  | alreadyExists => "File exists"
  | notDirectory => "Not a directory"
  | isDirectory => "Is a directory"
  | nameTooLong => "File name too long"

/-- A tree of directories and files; the top is always there. -/
structure FileTree where
  entries : List (Place × Entry)

namespace FileTree

/-- The tree with nothing in it. -/
def empty : FileTree := ⟨[]⟩

/-- The entry listed for a place. -/
def listed? (p : Place) : List (Place × Entry) → Option Entry
  | [] => none
  | (q, e) :: rest => if q = p then some e else listed? p rest

/-- What stands at a place. -/
def at? (t : FileTree) (p : Place) : Option Entry :=
  if p = [] then some .directory else listed? p t.entries

/-- Whether a directory stands at a place. -/
def isDirectory (t : FileTree) (p : Place) : Bool :=
  t.at? p = some .directory

/-- The tree without what stands at a place. -/
def erase (t : FileTree) (p : Place) : FileTree :=
  ⟨t.entries.filter fun entry => entry.1 ≠ p⟩

/-- The tree with an entry at a place. -/
def put (t : FileTree) (p : Place) (e : Entry) : FileTree :=
  ⟨(p, e) :: (t.erase p).entries⟩

/-- The tree without a place and everything below it. -/
def prune (t : FileTree) (p : Place) : FileTree :=
  ⟨t.entries.filter fun entry => !p.isPrefixOf entry.1⟩

/-- The places below a directory at which something stands. -/
def below (t : FileTree) (p : Place) : List Place :=
  (t.entries.map Prod.fst).filter fun q => p.isPrefixOf q && p != q

/-- The tree with directories on the way to a place wherever nothing stands. -/
def ensure (t : FileTree) (p : Place) : FileTree :=
  p.way.foldl (fun t q => if (t.at? q).isSome then t else t.put q .directory) t

/-- What has to be done to a tree to make another one of it: the entries to be put at places, and
the places to be cleared. -/
def changes (before after : FileTree) : List (Place × Option Entry) :=
  (after.entries.filter fun (p, e) => before.at? p ≠ some e).map (fun (p, e) => (p, some e)) ++
    (before.entries.filter fun (p, _) => (after.at? p).isNone).map fun (p, _) => (p, none)

/-! ## Following a path -/

/-- The length in bytes that a name may have. -/
def longestName : Nat := 255

/-- The place at the end of the segments. Every step is taken from a directory; what stands at
the end, if anything, is not looked at. -/
def walk (t : FileTree) : Place → List Text → Except SystemError Place
  | p, [] => .ok p
  | p, segment :: rest =>
      match t.at? p with
      | none => .error .notFound
      | some (.file _) => .error .notDirectory
      | some .directory =>
          if longestName < segment.nameSize then .error .nameTooLong
          else t.walk (p.step segment) rest

/-! ## What one change does to the view -/

theorem listed?_filter (p q : Place) (entries : List (Place × Entry)) :
    listed? q (entries.filter fun entry => entry.1 ≠ p) =
      if q = p then none else listed? q entries := by
  induction entries with
  | nil => simp [listed?]
  | cons entry rest ih =>
      obtain ⟨r, e⟩ := entry
      by_cases hr : r = p
      · subst hr
        by_cases hq : q = r
        · subst hq
          simpa [listed?] using ih
        · simpa [listed?, hq, Ne.symm hq] using ih
      · by_cases hq : r = q
        · subst hq
          simp [listed?, hr]
        · simpa [listed?, hr, hq] using ih

theorem at?_erase (t : FileTree) (p : Place) {q : Place} (h : q ≠ []) :
    (t.erase p).at? q = if q = p then none else t.at? q := by
  rw [at?, if_neg h, at?, if_neg h]
  exact listed?_filter p q t.entries

theorem at?_put (t : FileTree) (p : Place) (e : Entry) {q : Place} (h : q ≠ []) :
    (t.put p e).at? q = if q = p then some e else t.at? q := by
  by_cases hq : q = p
  · subst hq
    simp [at?, put, listed?, h]
  · have rest := t.at?_erase p h
    rw [if_neg hq] at rest ⊢
    rw [← rest]
    simp [at?, put, listed?, h, Ne.symm hq]

theorem at?_top (t : FileTree) : t.at? [] = some .directory := rfl

end FileTree
end Nullability
