import Nullability.Proofs.Disk.Directories
import Nullability.Proofs.Disk.Sources
import Nullability.Proofs.Source.Loading

/-!
# Paths that lead to a place

* `IsFileName`: the names that things in a directory can have;
* `Disk.LeadsTo`: a path leads to a place, and what is read there is what stands there;
* `IsReachable`, `IsReachable.leadsTo_render`: what the absolute path of a place leads to;
* `FileTree.IsProper`, `Disk.Spells.name_eq`: where every file stands in a directory, a path to it
  ends in the name of the file.
-/

namespace Nullability

/-- A name that something in a directory can have: it is no mark of a path, none is in it, and each
character of it has bytes that a name can have. -/
structure IsFileName (name : Text) : Prop where
  nonempty : name ≠ ""
  here : name ≠ "."
  up : name ≠ ".."
  slash : .char '/' ∉ name.toList
  nameable : ∀ c ∈ name.toList, c.isNameable = true

instance (name : Text) : Decidable (IsFileName name) :=
  decidable_of_iff (name ≠ "" ∧ name ≠ "." ∧ name ≠ ".." ∧ .char '/' ∉ name.toList ∧
      ∀ c ∈ name.toList, c.isNameable = true)
    ⟨fun ⟨nonempty, here, up, slash, nameable⟩ => ⟨nonempty, here, up, slash, nameable⟩,
      fun h => ⟨h.nonempty, h.here, h.up, h.slash, h.nameable⟩⟩

theorem Place.step_of_isFileName {name : Text} (h : IsFileName name) (p : Place) :
    p.step name = p ++ [name] := by
  rw [step, if_neg h.up, if_neg h.here]

/-- Names lead down to what they name. -/
theorem Place.follow_of_isFileName {names : List Text} (h : ∀ name ∈ names, IsFileName name)
    (p : Place) : p.follow names = p ++ names := by
  induction names generalizing p with
  | nil => simp [follow]
  | cons name rest ih =>
      have hname := h name List.mem_cons_self
      have hrest : ∀ s ∈ rest, IsFileName s := fun s hs => h s (List.mem_cons_of_mem _ hs)
      calc
        p.follow (name :: rest) = (p.step name).follow rest := rfl
        _ = p.step name ++ rest := ih hrest _
        _ = p ++ name :: rest := by rw [step_of_isFileName hname, List.append_assoc]; rfl

/-- Behind a way one more step can be taken, whatever it leads to. -/
theorem FileTree.IsWay.walk_concat {t : FileTree} {p : Place} {segments : List Text}
    {name : Text} (h : t.IsWay p segments) (hname : ¬ longestName < name.nameSize) :
    t.walk p (segments ++ [name]) = .ok ((p.follow segments).step name) := by
  induction segments generalizing p with
  | nil =>
      have hp : t.at? p = some .directory := h.stops p (Place.mem_stops_self p _)
      simp [FileTree.walk, hp, hname, Place.follow]
  | cons segment rest ih =>
      have hp : t.at? p = some .directory := h.stops p (Place.mem_stops_self p _)
      have hshort := h.names segment List.mem_cons_self
      rw [List.cons_append, FileTree.walk, hp]
      simpa [hshort, Place.follow] using ih h.tail

namespace Disk

variable {d : Disk} {path name : Text} {p q : Place}

/-- A path leads to a place, and ends in the name of it. -/
structure LeadsTo (d : Disk) (path : Text) (q : Place) : Prop where
  usable : isRefused path = false
  locate : d.locate (Path.parse path) = .ok q
  name : (Path.parse path).name = q.name

theorem LeadsTo.readBytes_file (h : d.LeadsTo path q) {content : ByteArray}
    (hentry : d.tree.at? q = some (.file content)) :
    d.readBytes (Path.parse path) = .ok content := by
  simp [readBytes, h.locate, hentry]

theorem LeadsTo.readBytes_directory (h : d.LeadsTo path q)
    (hentry : d.tree.at? q = some .directory) :
    d.readBytes (Path.parse path) =
      .error (.system .isDirectory (Path.parse path).render) := by
  simp [readBytes, h.locate, hentry]

/-- What stands in a directory can be asked for by its absolute path: there are directories all the
way, the names are names of files, and nothing is too long. -/
structure IsReachable (d : Disk) (p : Place) (name : Text) : Prop where
  way : d.tree.IsWay [] p
  names : ∀ s ∈ p ++ [name], IsFileName s
  short : ¬ FileTree.longestName < name.nameSize
  takes : isTooLong (Place.render (p ++ [name])) = false

/-- The absolute path of what can be reached leads there. -/
theorem IsReachable.leadsTo_render (h : d.IsReachable p name) :
    d.LeadsTo (Place.render (p ++ [name])) (p ++ [name]) := by
  have hrender : Place.render (p ++ [name]) = Path.render ⟨1, p ++ [name]⟩ := by
    simp [Place.render, Path.render]
    rfl
  have hparse : Path.parse (Place.render (p ++ [name])) = ⟨1, p ++ [name]⟩ := by
    rw [hrender]
    refine Path.parse_render ⟨by simp, ?_⟩ (by simp)
    intro s hs
    exact ⟨(h.names s hs).nonempty, (h.names s hs).here, (h.names s hs).slash⟩
  refine ⟨?_, ?_, ?_⟩
  · rw [hrender]
    exact Path.isRefused_render fun s hs => (h.names s hs).nameable
  · have hwalk : d.tree.walk [] (p ++ [name]) = .ok (p ++ [name]) := by
      have hp : ∀ s ∈ p, IsFileName s := fun s hs => h.names s (List.mem_append_left _ hs)
      have hname : IsFileName name := h.names name (by simp)
      rw [h.way.walk_concat h.short, Place.follow_of_isFileName hp, Place.step_of_isFileName hname,
        List.nil_append]
    simp [locate, hparse, ← hrender, h.takes, start, Path.isAbsolute, hwalk]
  · simp [hparse, Path.name, Place.name]

end Disk

/-! ## Trees as they are found -/

/-- Everything stands in a directory, under a name that it can have there. -/
structure FileTree.IsProper (t : FileTree) : Prop where
  above : ∀ p name, (t.at? (p ++ [name])).isSome = true → t.at? p = some .directory
  names : ∀ p name, (t.at? (p ++ [name])).isSome = true → IsFileName name

namespace FileTree

variable {t : FileTree} {p q : Place}

/-- It is enough to look at what is listed. -/
theorem isProper_of_entries (h : ∀ entry ∈ t.entries, entry.1 ≠ [] →
    t.at? entry.1.dropLast = some .directory ∧ IsFileName entry.1.name) : t.IsProper := by
  have hlisted : ∀ p name, (t.at? (p ++ [name])).isSome = true →
      t.at? p = some .directory ∧ IsFileName name := by
    intro p name hentry
    rcases List.mem_map.1 ((isSome_at?_iff (by simp)).1 hentry) with ⟨entry, hmem, hplace⟩
    have hproper := h entry hmem (by simp [hplace])
    simpa [hplace, Place.name] using hproper
  exact ⟨fun p name hentry => (hlisted p name hentry).1,
    fun p name hentry => (hlisted p name hentry).2⟩

/-- All the way to a place names stand for themselves. -/
theorem IsProper.isFileName (h : t.IsProper) (hq : (t.at? q).isSome = true) :
    ∀ s ∈ q, IsFileName s := by
  induction q using List.reverseRecOn with
  | nil => simp
  | append_singleton p name ih =>
      intro s hs
      rcases List.mem_append.1 hs with hs | hs
      · exact ih (by simp [h.above p name hq]) s hs
      · obtain rfl := List.mem_singleton.1 hs
        exact h.names p s hq

/-- The last step of a walk is taken from a directory. -/
theorem walk_concat_ok {segments : List Text} {name : Text}
    (h : t.walk p (segments ++ [name]) = .ok q) :
    ∃ r, t.at? r = some .directory ∧ q = r.step name := by
  induction segments generalizing p with
  | nil =>
      rw [List.nil_append, walk] at h
      split at h
      · cases h
      · cases h
      · next hp =>
        split at h
        · cases h
        · exact ⟨p, hp, by simpa [walk] using h.symm⟩
  | cons segment rest ih =>
      rw [List.cons_append, walk] at h
      split at h
      · cases h
      · cases h
      · split at h
        · cases h
        · exact ih h

end FileTree

namespace Disk

variable {d : Disk} {text : Text} {q : Place} {content : ByteArray}

/-- The system follows a path to a place, from the directory that it works in. -/
structure Spells (d : Disk) (text : Text) (q : Place) : Prop where
  usable : isRefused text = false
  here : d.tree.at? d.here = some .directory
  locate : d.locate (Path.parse text) = .ok q

theorem Spells.ofPath_eq (h : d.Spells text q) : Place.ofPath d.here (Path.parse text) = q :=
  (locate_eq_ofPath h.locate).symm

theorem Spells.readBytes_eq (h : d.Spells text q) (hfile : d.tree.at? q = some (.file content)) :
    d.readBytes (Path.parse text) = .ok content := by
  simp [readBytes, h.locate, hfile]

/-- A path to a file ends in the name of the file: a step up would lead to a directory, and so would
a path without any name in it. -/
theorem Spells.name_eq (h : d.Spells text q) (hproper : d.tree.IsProper)
    (hfile : d.tree.at? q = some (.file content)) : (Path.parse text).name = q.name := by
  have hwalk : d.tree.walk (d.start (Path.parse text)) (Path.parse text).segments = .ok q := by
    have hlocate := h.locate
    unfold Disk.locate at hlocate
    split at hlocate
    · cases hlocate
    · exact hlocate
  rcases List.eq_nil_or_concat' (Path.parse text).segments with hnone | ⟨segments, name, hsegments⟩
  · -- Without a name the path leads to where it starts, which is a directory.
    have hstart : d.tree.at? (d.start (Path.parse text)) = some .directory := by
      unfold start
      split
      · rfl
      · exact h.here
    rw [hnone, FileTree.walk] at hwalk
    cases hwalk
    rw [hstart] at hfile
    cases hfile
  · rw [hsegments] at hwalk
    rcases FileTree.walk_concat_ok hwalk with ⟨r, hr, rfl⟩
    have hdot : name ≠ "." := ((Path.isNormal_parse text).segments name (by simp [hsegments])).2.1
    by_cases hup : name = ".."
    · -- A step up leads to what has something in it, which no file has.
      exfalso
      rw [Place.step, if_pos hup] at hfile
      rcases List.eq_nil_or_concat' r with rfl | ⟨above, last, rfl⟩
      · cases hfile
      · rw [List.dropLast_concat, hproper.above above last (by simp [hr])] at hfile
        cases hfile
    · simp [Path.name, hsegments, Place.step, hup, hdot, Place.name]

end Disk
end Nullability
