import Nullability.Proofs.Disk.Failures

/-!
# Directories that are made

A directory is made along a path, with everything that is missing on the way. No other place
changes, and what was made once need not be made again.

* `Place.stops`: the places that segments lead through;
* `FileTree.IsWay`: each of them is a directory;
* `at?_makeDirectories`: nothing but the stops of a path changes;
* `makeDirectories_ok`, `HasDirectory.makeDirectories`: where a directory was made it stands, and
  making it again changes nothing.
-/

namespace Nullability

/-- The places that segments lead through, from where they start to where they end. -/
def Place.stops (p : Place) (segments : List Text) : List Place :=
  segments.scanl Place.step p

namespace Place

theorem stops_nil (p : Place) : p.stops [] = [p] := by
  simp [stops]

theorem stops_cons (p : Place) (segment : Text) (rest : List Text) :
    p.stops (segment :: rest) = p :: (p.step segment).stops rest := by
  simp [stops]

theorem mem_stops_self (p : Place) (segments : List Text) : p ∈ p.stops segments := by
  cases segments <;> simp [stops]

theorem follow_mem_stops (p : Place) (segments : List Text) :
    p.follow segments ∈ p.stops segments := by
  induction segments generalizing p with
  | nil => simp [stops_nil, follow]
  | cons segment rest ih =>
      rw [stops_cons]
      exact List.mem_cons_of_mem _ (ih (p.step segment))

end Place

/-! ## Ways through a tree -/

namespace FileTree

variable {t t' : FileTree} {p q : Place} {segments : List Text}

theorem at?_put_of_ne (e : Entry) (h : q ≠ p) : (t.put p e).at? q = t.at? q := by
  by_cases htop : q = []
  · subst htop
    rfl
  · rw [at?_put _ _ _ htop, if_neg h]

theorem at?_put_directory (t : FileTree) (p : Place) :
    (t.put p .directory).at? p = some .directory := by
  by_cases htop : p = []
  · subst htop
    rfl
  · rw [at?_put _ _ _ htop, if_pos rfl]

/-- Segments lead from a place through directories only, and none is too long for the system. -/
structure IsWay (t : FileTree) (p : Place) (segments : List Text) : Prop where
  stops : ∀ q ∈ p.stops segments, t.at? q = some .directory
  names : ∀ s ∈ segments, ¬ longestName < s.nameSize

namespace IsWay

theorem tail {segment : Text} {rest : List Text} (h : t.IsWay p (segment :: rest)) :
    t.IsWay (p.step segment) rest where
  stops q hq := h.stops q (by simp [Place.stops_cons, hq])
  names s hs := h.names s (List.mem_cons_of_mem _ hs)

theorem mono (h : t.IsWay p segments)
    (hdir : ∀ q, t.at? q = some .directory → t'.at? q = some .directory) :
    t'.IsWay p segments where
  stops q hq := hdir q (h.stops q hq)
  names := h.names

theorem walk (h : t.IsWay p segments) : t.walk p segments = .ok (p.follow segments) := by
  induction segments generalizing p with
  | nil => rfl
  | cons segment rest ih =>
      have hp : t.at? p = some .directory := h.stops p (Place.mem_stops_self p _)
      have hshort := h.names segment List.mem_cons_self
      rw [FileTree.walk, hp]
      simpa [hshort, Place.follow] using ih h.tail

end IsWay
end FileTree

namespace Disk

variable {d d' : Disk} {path : Text} {t t' : FileTree} {p q : Place} {segments : List Text}
  {existing : Bool}

theorem at?_makeAlong (hq : q ∉ p.stops segments) :
    (makeAlong existing t p segments).2.at? q = t.at? q := by
  induction segments generalizing t p with
  | nil =>
      have hne : q ≠ p := by simpa [Place.stops_nil] using hq
      cases hp : t.at? p with
      | none => simpa [makeAlong, hp] using FileTree.at?_put_of_ne _ hne
      | some entry => cases entry <;> simp [makeAlong, hp]
  | cons segment rest ih =>
      -- The first stop may be made, and whether or not the name behind it is too long, the place
      -- is none of the later stops either.
      rw [Place.stops_cons, List.mem_cons, not_or] at hq
      have hput : (t.put p .directory).at? q = t.at? q := FileTree.at?_put_of_ne _ hq.1
      cases hp : t.at? p with
      | none =>
          by_cases hlong : FileTree.longestName < segment.nameSize
          · simpa [makeAlong, hp, hlong] using hput
          · simpa [makeAlong, hp, hlong] using (ih hq.2).trans hput
      | some entry =>
          cases entry with
          | file content => simp [makeAlong, hp]
          | directory =>
              by_cases hlong : FileTree.longestName < segment.nameSize
              · simp [makeAlong, hp, hlong]
              · simpa [makeAlong, hp, hlong] using ih (t := t) hq.2

/-- A directory stays one while others are made. -/
theorem at?_makeAlong_directory (h : t.at? q = some .directory) :
    (makeAlong existing t p segments).2.at? q = some .directory := by
  rcases makeAlong_entries existing t p segments q with heq | ⟨hnone, -⟩
  · rw [heq, h]
  · rw [hnone] at h
    cases h

/-- Where more than one directory is made, the first is one when the others are made, whether it was
there or not. -/
theorem makeAlong_cons_ok {segment : Text} {rest : List Text}
    (h : makeAlong true t p (segment :: rest) = (.ok (), t')) :
    ∃ made : FileTree, made.at? p = some .directory ∧
      ¬ FileTree.longestName < segment.nameSize ∧
        makeAlong true made (p.step segment) rest = (.ok (), t') := by
  by_cases hlong : FileTree.longestName < segment.nameSize
  · cases hp : t.at? p with
    | none => simp [makeAlong, hp, hlong] at h
    | some entry => cases entry <;> simp [makeAlong, hp, hlong] at h
  · cases hp : t.at? p with
    | none =>
        refine ⟨t.put p .directory, FileTree.at?_put_directory t p, hlong, ?_⟩
        simpa [makeAlong, hp, hlong] using h
    | some entry =>
        cases entry with
        | file content => simp [makeAlong, hp] at h
        | directory => exact ⟨t, hp, hlong, by simpa [makeAlong, hp, hlong] using h⟩

theorem makeAlong_ok (h : makeAlong true t p segments = (.ok (), t')) : t'.IsWay p segments := by
  induction segments generalizing t p with
  | nil =>
      refine ⟨?_, by simp⟩
      intro q hq
      obtain rfl : q = p := by simpa [Place.stops_nil] using hq
      cases hp : t.at? q with
      | none =>
          obtain rfl : t.put q .directory = t' := by simpa [makeAlong, hp] using h
          exact FileTree.at?_put_directory t q
      | some entry =>
          cases entry with
          | file content => simp [makeAlong, hp] at h
          | directory =>
              obtain rfl : t = t' := by simpa [makeAlong, hp] using h
              exact hp
  | cons segment rest ih =>
      -- The later stops are those of the rest of the way. The first one was a directory before the
      -- rest was made, and none goes away.
      rcases makeAlong_cons_ok h with ⟨made, hdir, hshort, hrest⟩
      have hway := ih hrest
      have hfirst : t'.at? p = some .directory := by
        have hstays : (makeAlong true made (p.step segment) rest).2.at? p = some .directory :=
          at?_makeAlong_directory hdir
        rwa [hrest] at hstays
      refine ⟨?_, ?_⟩
      · intro q hq
        rw [Place.stops_cons] at hq
        rcases List.mem_cons.1 hq with rfl | hq
        · exact hfirst
        · exact hway.stops q hq
      · intro s hs
        rcases List.mem_cons.1 hs with rfl | hs
        · exact hshort
        · exact hway.names s hs

/-- Along a way there is nothing to make. -/
theorem makeAlong_of_isWay (h : t.IsWay p segments) :
    makeAlong true t p segments = (.ok (), t) := by
  induction segments generalizing p with
  | nil =>
      have hp : t.at? p = some .directory := h.stops p (Place.mem_stops_self p _)
      simp [makeAlong, hp]
  | cons segment rest ih =>
      have hp : t.at? p = some .directory := h.stops p (Place.mem_stops_self p _)
      have hshort := h.names segment List.mem_cons_self
      simpa [makeAlong, hp, hshort] using ih h.tail

/-! ## Making directories -/

/-- The places that a path leads through. -/
def stopsOf (d : Disk) (path : Text) : List Place :=
  (d.start (Path.parse path)).stops (Path.parse path).segments

/-- A path leads through directories to a directory, and the system takes it. -/
structure HasDirectory (d : Disk) (path : Text) : Prop where
  usable : isRefused path = false
  short : isTooLong (Path.parse path).render = false
  way : d.tree.IsWay (d.start (Path.parse path)) (Path.parse path).segments

/-- Making a directory changes nothing but the places that its path leads through. -/
theorem at?_makeDirectories (hq : q ∉ d.stopsOf path) :
    (d.makeDirectories path existing).2.tree.at? q = d.tree.at? q := by
  have halong : (makeAlong existing d.tree (d.start (Path.parse path))
      (Path.parse path).segments).2.at? q = d.tree.at? q := at?_makeAlong hq
  -- What is refused before anything is made leaves the tree as it is.
  unfold makeDirectories
  split
  · rfl
  · split
    · rfl
    · dsimp only
      split
      · rfl
      · split
        · next heq =>
          rw [heq] at halong
          exact halong
        · next heq =>
          rw [heq] at halong
          exact halong

theorem makeDirectories_ok (h : d.makeDirectories path true = (.ok (), d')) :
    d.fault? .makeDirectories = none ∧ d'.HasDirectory path := by
  have hhere : d'.here = d.here := by
    have hadds := makeDirectories_adds d path true
    rw [h] at hadds
    exact hadds.here
  unfold makeDirectories at h
  cases hfault : d.fault? .makeDirectories with
  | some e => simp [hfault] at h
  | none =>
      cases hnull : isRefused path with
      | true => simp [hfault, hnull] at h
      | false =>
          cases hlong : isTooLong (Path.parse path).render with
          | true => simp [hfault, hnull, hlong] at h
          | false =>
              -- Nothing is refused at once, so what is left is to make the way.
              simp only [hfault, hnull, hlong, Bool.false_eq_true, if_false] at h
              split at h
              · next tree hmade =>
                cases h
                exact ⟨rfl, hnull, hlong, makeAlong_ok hmade⟩
              · cases h

namespace HasDirectory

theorem makeDirectories (h : d.HasDirectory path) (hfault : d.fault? .makeDirectories = none) :
    d.makeDirectories path true = (.ok (), d) := by
  have hmade := makeAlong_of_isWay h.way
  simp [Disk.makeDirectories, hfault, h.usable, h.short, hmade]

theorem entry? (h : d.HasDirectory path) : d.entry? (Path.parse path) = some .directory := by
  have hwalk := h.way.walk
  have hend := h.way.stops _ (Place.follow_mem_stops _ _)
  simp [Disk.entry?, locate, h.short, hwalk, hend]

theorem mono (h : d.HasDirectory path) (hhere : d'.here = d.here)
    (hdir : ∀ q, d.tree.at? q = some .directory → d'.tree.at? q = some .directory) :
    d'.HasDirectory path where
  usable := h.usable
  short := h.short
  way := by
    have hstart : d'.start (Path.parse path) = d.start (Path.parse path) := by simp [start, hhere]
    rw [hstart]
    exact h.way.mono hdir

end HasDirectory

end Disk
end Nullability
