import Nullability.Disk
import Nullability.Proofs.Path.Rendering

/-!
# What file operations change

Each operation on a disk changes little, and the files that a path leads to depend on little. Two
relations say so:

* `Disk.AltersFile p`: at most the file at the place `p` is made, changed or removed;
* `Disk.AddsDirectories`: at most some directories are made where nothing stood.

`remove_ok` and `makeDirectories_adds` place these two operations in one of them. Those that put a
text into a file have a module of their own.
-/

namespace Nullability

namespace FileTree

/-- The content of the file at a place, if a file stands there. -/
def file? (t : FileTree) (p : Place) : Option ByteArray :=
  match t.at? p with
  | some (.file content) => some content
  | _ => none

theorem file?_congr {t t' : FileTree} {p : Place} (h : t'.at? p = t.at? p) :
    t'.file? p = t.file? p := by
  simp [file?, h]

/-! ## Walking -/

/-- A walk that arrives has gone by name alone. -/
theorem walk_eq_follow {t : FileTree} {p q : Place} {segments : List Text}
    (h : t.walk p segments = .ok q) : q = p.follow segments := by
  induction segments generalizing p with
  | nil =>
      have : p = q := by simpa [walk] using h
      simp [Place.follow, this]
  | cons segment rest ih =>
      rw [walk] at h
      split at h
      · cases h
      · cases h
      · split at h
        · cases h
        · exact ih h

/-- More directories do not stop a walk. -/
theorem walk_mono {t t' : FileTree} (hdir : ∀ q, t.at? q = some .directory →
    t'.at? q = some .directory) {p q : Place} {segments : List Text}
    (h : t.walk p segments = .ok q) : t'.walk p segments = .ok q := by
  induction segments generalizing p with
  | nil => exact h
  | cons segment rest ih =>
      rw [walk] at h ⊢
      cases hp : t.at? p with
      | none =>
          rw [hp] at h
          cases h
      | some entry =>
          cases entry with
          | file content =>
              rw [hp] at h
              cases h
          | directory =>
              rw [hp] at h
              rw [hdir p hp]
              by_cases hlong : longestName < segment.nameSize
              · simp [hlong] at h
              · simp only [hlong, if_false] at h ⊢
                exact ih h

end FileTree

namespace Disk

variable {d d' d'' : Disk} {p : Place}

/-- The place that a path leads to by name. -/
def placeOf (d : Disk) (path : Text) : Place :=
  Place.ofPath d.here (Path.parse path)

theorem fault?_of_clear (h : d.faults = []) (operation : DiskOperation) :
    d.fault? operation = none := by
  rw [fault?, h, List.lookup_nil]

theorem locate_eq_ofPath {path : Path} {q : Place} (h : d.locate path = .ok q) :
    q = Place.ofPath d.here path := by
  unfold locate at h
  split at h
  · cases h
  · exact FileTree.walk_eq_follow h

theorem readBytes_eq_ok_iff {path : Path} {content : ByteArray} :
    d.readBytes path = .ok content ↔
      d.locate path = .ok (Place.ofPath d.here path) ∧
        d.tree.at? (Place.ofPath d.here path) = some (.file content) := by
  unfold readBytes
  cases hlocate : d.locate path with
  | error cause => simp
  | ok q =>
      obtain rfl := locate_eq_ofPath hlocate
      cases hentry : d.tree.at? (Place.ofPath d.here path) with
      | none => simp [hentry]
      | some entry => cases entry <;> simp [hentry]

/-! ## Changing one file -/

/-- The second disk differs from the first at most by the file at a place. -/
structure AltersFile (p : Place) (d d' : Disk) : Prop where
  here : d'.here = d.here
  faults : d'.faults = d.faults
  before : d.tree.at? p ≠ some .directory
  after : d'.tree.at? p ≠ some .directory
  elsewhere : ∀ q, q ≠ p → d'.tree.at? q = d.tree.at? q

namespace AltersFile

theorem trans (h : AltersFile p d d') (h' : AltersFile p d' d'') : AltersFile p d d'' where
  here := h'.here.trans h.here
  faults := h'.faults.trans h.faults
  before := h.before
  after := h'.after
  elsewhere q hq := (h'.elsewhere q hq).trans (h.elsewhere q hq)

theorem directory (h : AltersFile p d d') {q : Place} (hq : d.tree.at? q = some .directory) :
    d'.tree.at? q = some .directory := by
  have hne : q ≠ p := by
    rintro rfl
    exact h.before hq
  rw [h.elsewhere q hne, hq]

theorem locate (h : AltersFile p d d') {path : Path} {q : Place} (hq : d.locate path = .ok q) :
    d'.locate path = .ok q := by
  unfold Disk.locate at hq ⊢
  split at hq
  · cases hq
  · next hshort =>
    have hstart : d'.start path = d.start path := by simp [start, h.here]
    rw [if_neg hshort, hstart]
    exact FileTree.walk_mono (fun _ => h.directory) hq

/-- A file at another place reads as before. -/
theorem readBytes (h : AltersFile p d d') {path : Path} {content : ByteArray}
    (hne : Place.ofPath d.here path ≠ p) (hread : d.readBytes path = .ok content) :
    d'.readBytes path = .ok content := by
  rcases readBytes_eq_ok_iff.1 hread with ⟨hlocate, hentry⟩
  rw [readBytes_eq_ok_iff, h.here]
  exact ⟨h.locate hlocate, by rw [h.elsewhere _ hne, hentry]⟩

end AltersFile

theorem at?_store_self (hp : d.tree.at? p ≠ some .directory) (content : ByteArray) :
    (d.store p content).tree.at? p = some (.file content) := by
  have hne : p ≠ [] := by
    rintro rfl
    exact hp d.tree.at?_top
  simp [store, FileTree.at?_put _ _ _ hne]

theorem store_alters (hp : d.tree.at? p ≠ some .directory) (content : ByteArray) :
    AltersFile p d (d.store p content) where
  here := rfl
  faults := rfl
  before := hp
  after := by simp [at?_store_self hp]
  elsewhere q hq := by
    by_cases htop : q = []
    · subst htop
      rfl
    · simp [store, FileTree.at?_put _ _ _ htop, hq]

theorem erase_alters (hp : d.tree.at? p ≠ some .directory) :
    AltersFile p d { d with tree := d.tree.erase p } where
  here := rfl
  faults := rfl
  before := hp
  after := by
    have hne : p ≠ [] := by
      rintro rfl
      exact hp d.tree.at?_top
    simp [FileTree.at?_erase _ _ hne]
  elsewhere q hq := by
    by_cases htop : q = []
    · subst htop
      rfl
    · simp [FileTree.at?_erase _ _ htop, hq]

/-- What is stored at the place of a path is read at that path. -/
theorem readBytes_store {path : Path} {content : ByteArray}
    (hlocate : d.locate path = .ok (Place.ofPath d.here path))
    (hentry : d.tree.at? (Place.ofPath d.here path) ≠ some .directory) :
    (d.store (Place.ofPath d.here path) content).readBytes path = .ok content := by
  rw [readBytes_eq_ok_iff]
  exact ⟨(store_alters hentry content).locate hlocate, at?_store_self hentry content⟩

/-! ## The operations -/

/-- A file that is removed leaves every other file alone. -/
theorem remove_ok {path : Text} (h : d.remove path = (.ok (), d')) :
    d' = d ∨ AltersFile (d.placeOf path) d d' := by
  unfold remove at h
  cases hfault : d.fault? .remove with
  | some e => simp [hfault] at h
  | none =>
      by_cases hnull : isRefused path = true
      · rcases refusal_cases (Path.parse path).render with href | ⟨complaint, href⟩ <;>
          simp [hfault, delete, hnull, href] at h
      · cases hlocate : d.locate (Path.parse path) with
        | error cause =>
            -- A file that is not there counts as removed.
            left
            cases cause <;> simp [hfault, delete, hnull, withoutFile, hlocate, leave] at h
            exact h.symm
        | ok q =>
            obtain rfl := locate_eq_ofPath hlocate
            cases hentry : d.tree.at? (Place.ofPath d.here (Path.parse path)) with
            | none =>
                left
                simp [hfault, delete, hnull, withoutFile, hlocate, hentry, leave] at h
                exact h.symm
            | some entry =>
                cases entry with
                | directory =>
                    simp [hfault, delete, hnull, withoutFile, hlocate, hentry, leave] at h
                | file content =>
                    right
                    simp [hfault, delete, hnull, withoutFile, hlocate, hentry, leave] at h
                    subst h
                    exact erase_alters (by simp [placeOf, hentry])

/-! ## Making directories -/

/-- The second disk differs from the first at most by directories where nothing stood. -/
structure AddsDirectories (d d' : Disk) : Prop where
  here : d'.here = d.here
  faults : d'.faults = d.faults
  entries : ∀ q, d'.tree.at? q = d.tree.at? q ∨
    d.tree.at? q = none ∧ d'.tree.at? q = some .directory

theorem AddsDirectories.file? (h : AddsDirectories d d') (q : Place) :
    d'.tree.file? q = d.tree.file? q := by
  rcases h.entries q with heq | ⟨hnone, hdir⟩
  · exact FileTree.file?_congr heq
  · simp [FileTree.file?, hnone, hdir]

theorem put_directory_entries {t : FileTree} (hp : t.at? p = none) (q : Place) :
    (t.put p .directory).at? q = t.at? q ∨
      t.at? q = none ∧ (t.put p .directory).at? q = some .directory := by
  by_cases htop : q = []
  · subst htop
    exact Or.inl rfl
  · by_cases hq : q = p
    · subst hq
      exact Or.inr ⟨hp, by simp [FileTree.at?_put _ _ _ htop]⟩
    · exact Or.inl (by simp [FileTree.at?_put _ _ _ htop, hq])

theorem makeAlong_entries (existing : Bool) (t : FileTree) (p : Place) (segments : List Text)
    (q : Place) : (makeAlong existing t p segments).2.at? q = t.at? q ∨
      t.at? q = none ∧ (makeAlong existing t p segments).2.at? q = some .directory := by
  induction segments generalizing t p with
  | nil =>
      cases hp : t.at? p with
      | none => simpa [makeAlong, hp] using put_directory_entries hp q
      | some entry => cases entry <;> simp [makeAlong, hp]
  | cons segment rest ih =>
      cases hp : t.at? p with
      | none =>
          have hput := put_directory_entries hp q
          by_cases hlong : FileTree.longestName < segment.nameSize
          · simpa [makeAlong, hp, hlong] using hput
          · -- The directory that is made here is one of those that the rest of the way may make.
            have hrest := ih (t.put p .directory) (p.step segment)
            simp only [makeAlong, hp, hlong, Option.isSome_none, if_false, Bool.false_eq_true]
            rcases hrest with heq | ⟨hnone, hdir⟩
            · rw [heq]
              exact hput
            · rcases hput with heq | ⟨-, hdir'⟩
              · exact Or.inr ⟨heq ▸ hnone, hdir⟩
              · rw [hnone] at hdir'
                cases hdir'
      | some entry =>
          cases entry with
          | file content => simp [makeAlong, hp]
          | directory =>
              by_cases hlong : FileTree.longestName < segment.nameSize
              · simp [makeAlong, hp, hlong]
              · simpa [makeAlong, hp, hlong] using ih t (p.step segment)

theorem makeDirectories_adds (d : Disk) (path : Text) (existing : Bool) :
    AddsDirectories d (d.makeDirectories path existing).2 := by
  have hsame : AddsDirectories d d := ⟨rfl, rfl, fun _ => Or.inl rfl⟩
  unfold makeDirectories
  split
  · exact hsame
  · split
    · exact hsame
    · dsimp only
      split
      · exact hsame
      · have hentries := makeAlong_entries existing d.tree (d.start (Path.parse path))
          (Path.parse path).segments
        split
        · next heq =>
          rw [heq] at hentries
          exact ⟨rfl, rfl, hentries⟩
        · next heq =>
          rw [heq] at hentries
          exact ⟨rfl, rfl, hentries⟩

end Disk
end Nullability
