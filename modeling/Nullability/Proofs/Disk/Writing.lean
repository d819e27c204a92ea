import Nullability.Proofs.Disk.Effects

/-!
# Texts that are put into a file

A text goes into the file at a path as a whole or not at all. If the file can be opened but the
encoding does not cover the text, the file is there all the same, without it.

* `Disk.IsOpenTo`: what an operation needs to open the file at a path;
* `writeText_cases`, `appendText_cases`: the three ways in which either operation can end;
* `Disk.Gains`: what the file at a place held is followed by some bytes, and nothing else changed.
-/

namespace Nullability

/-- What the file at a place holds, which is nothing where no file stands. -/
def FileTree.contentAt (t : FileTree) (p : Place) : ByteArray :=
  (t.file? p).getD .empty

namespace Disk

variable {d d' : Disk} {p : Place} {path s : Text}

/-- The file at a path can be opened for an operation: no failure was asked for, the way to the file
is there, and it is not a directory that stands in its place. -/
structure IsOpenTo (d : Disk) (operation : DiskOperation) (path : Text) : Prop where
  fault : d.fault? operation = none
  usable : isRefused path = false
  way : d.locate (Path.parse path) = .ok (d.placeOf path)
  entry : d.tree.at? (d.placeOf path) ≠ some .directory

theorem openFile_of_ne_directory (h : d.tree.at? p ≠ some .directory) :
    d.openFile p = .ok (d.tree.contentAt p) := by
  unfold openFile FileTree.contentAt FileTree.file?
  cases hentry : d.tree.at? p with
  | none => rfl
  | some entry =>
      cases entry with
      | directory => exact absurd hentry h
      | file content => rfl

/-! ## In place of what a file holds -/

/-- The text is written, or the file is left empty, or the disk stays as it is. -/
theorem writeText_cases (d : Disk) (path s : Text) :
    (d.IsOpenTo .writeText path ∧ Encoding.utf8.covers s = true ∧
      d.writeText path s .utf8 = (.ok (), d.store (d.placeOf path) s.toUTF8)) ∨
    (d.IsOpenTo .writeText path ∧ Encoding.utf8.covers s = false ∧
      d.writeText path s .utf8 =
        (.error (.unencodable (Encoding.utf8.complaint s)), d.store (d.placeOf path) .empty)) ∨
    ¬ d.IsOpenTo .writeText path ∧ ∃ e, d.writeText path s .utf8 = (.error e, d) := by
  unfold writeText
  cases hfault : d.fault? .writeText with
  | some e =>
      refine Or.inr (Or.inr ⟨fun hopen => ?_, e, rfl⟩)
      rw [hopen.fault] at hfault
      cases hfault
  | none =>
      cases hnull : isRefused path with
      | true =>
          refine Or.inr (Or.inr ⟨fun hopen => ?_, _, rfl⟩)
          rw [hopen.usable] at hnull
          cases hnull
      | false =>
          cases hlocate : d.locate (Path.parse path) with
          | error cause =>
              refine Or.inr (Or.inr ⟨fun hopen => ?_, .system cause (Path.parse path).render, ?_⟩)
              · rw [hopen.way] at hlocate
                cases hlocate
              · simp [hlocate, Except.bind]
          | ok q =>
              obtain rfl : q = d.placeOf path := locate_eq_ofPath hlocate
              by_cases hentry : d.tree.at? (d.placeOf path) = some .directory
              · refine Or.inr (Or.inr ⟨fun hopen => hopen.entry hentry,
                  .system .isDirectory (Path.parse path).render, ?_⟩)
                simp [hlocate, Except.bind, Except.map, openFile, hentry]
              · have hopen : d.IsOpenTo .writeText path := ⟨hfault, hnull, hlocate, hentry⟩
                -- The file is open; whether the text has its bytes decides the rest.
                cases hcovers : Encoding.utf8.covers s with
                | true =>
                    refine Or.inl ⟨hopen, rfl, ?_⟩
                    simp [hlocate, Except.bind, Except.map, openFile_of_ne_directory hentry,
                      Encoding.encode?, hcovers, Encoding.bytesOf]
                | false =>
                    refine Or.inr (Or.inl ⟨hopen, rfl, ?_⟩)
                    simp [hlocate, Except.bind, Except.map, openFile_of_ne_directory hentry,
                      Encoding.encode?, hcovers]

/-- A text that is written is read back, and no other file changes. -/
theorem writeText_ok (h : d.writeText path s .utf8 = (.ok (), d')) :
    isRefused path = false ∧ Encoding.utf8.covers s = true ∧ AltersFile (d.placeOf path) d d' ∧
      d'.readBytes (Path.parse path) = .ok s.toUTF8 := by
  rcases writeText_cases d path s with
    ⟨hopen, hcovers, hwrite⟩ | ⟨-, -, hwrite⟩ | ⟨-, e, hwrite⟩
  · obtain rfl : d.store (d.placeOf path) s.toUTF8 = d' := by
      rw [hwrite] at h
      simpa using h
    exact ⟨hopen.usable, hcovers, store_alters hopen.entry _,
      readBytes_store hopen.way hopen.entry⟩
  · simp [hwrite] at h
  · simp [hwrite] at h

theorem writeText_of_isOpenTo (hopen : d.IsOpenTo .writeText path)
    (hcovers : Encoding.utf8.covers s = true) :
    d.writeText path s .utf8 = (.ok (), d.store (d.placeOf path) s.toUTF8) := by
  rcases writeText_cases d path s with ⟨-, -, hwrite⟩ | ⟨-, hnot, -⟩ | ⟨hclosed, -⟩
  · exact hwrite
  · rw [hcovers] at hnot
    cases hnot
  · exact absurd hopen hclosed

/-- A text that cannot be written leaves everything as it was, or its file empty. -/
theorem writeText_error {e : DiskError} (h : d.writeText path s .utf8 = (.error e, d')) :
    d' = d ∨ Encoding.utf8.covers s = false ∧ AltersFile (d.placeOf path) d d' := by
  rcases writeText_cases d path s with
    ⟨-, -, hwrite⟩ | ⟨hopen, hcovers, hwrite⟩ | ⟨-, e, hwrite⟩
  · simp [hwrite] at h
  · right
    obtain rfl : d.store (d.placeOf path) .empty = d' := by
      rw [hwrite] at h
      exact (Prod.ext_iff.1 h).2
    exact ⟨hcovers, store_alters hopen.entry _⟩
  · left
    rw [hwrite] at h
    exact (Prod.ext_iff.1 h).2.symm

/-! ## Behind what a file holds -/

/-- The second disk differs from the first by some bytes behind what the file at a place held. The
file is made if none stood there. -/
structure Gains (p : Place) (bytes : ByteArray) (d d' : Disk) : Prop extends AltersFile p d d' where
  content : d'.tree.at? p = some (.file (d.tree.contentAt p ++ bytes))

theorem gains_store (h : d.tree.at? p ≠ some .directory) (bytes : ByteArray) :
    Gains p bytes d (d.store p (d.tree.contentAt p ++ bytes)) :=
  ⟨store_alters h _, at?_store_self h _⟩

/-- The text of a normal path is followed as written to where the path leads. -/
theorem locateWritten_render {path : Path} (hpath : path.IsNormal) (hne : path.segments ≠ []) :
    d.locateWritten path.render = d.locate path := by
  have hnonempty : path.render.isEmpty = false := by
    simpa using Path.render_ne_empty hpath hne
  simp [locateWritten, locate, Path.parse_render hpath hne, Path.namesOf_render hpath hne,
    hnonempty, Path.getLast?_render_ne hpath hne]

/-- The text is added, or the file is there without it, or the disk stays as it is. -/
theorem appendText_cases (hway : d.locateWritten path = d.locate (Path.parse path)) (s : Text) :
    (d.IsOpenTo .appendText path ∧ Encoding.utf8.covers s = true ∧
      ∃ d', d.appendText path s .utf8 = (.ok (), d') ∧ Gains (d.placeOf path) s.toUTF8 d d') ∨
    (d.IsOpenTo .appendText path ∧ Encoding.utf8.covers s = false ∧
      ∃ d', d.appendText path s .utf8 = (.error (.unencodable (Encoding.utf8.complaint s)), d') ∧
        Gains (d.placeOf path) .empty d d') ∨
    ¬ d.IsOpenTo .appendText path ∧ ∃ e, d.appendText path s .utf8 = (.error e, d) := by
  unfold appendText
  rw [hway]
  cases hfault : d.fault? .appendText with
  | some e =>
      refine Or.inr (Or.inr ⟨fun hopen => ?_, e, rfl⟩)
      rw [hopen.fault] at hfault
      cases hfault
  | none =>
      cases hnull : isRefused path with
      | true =>
          refine Or.inr (Or.inr ⟨fun hopen => ?_, _, rfl⟩)
          rw [hopen.usable] at hnull
          cases hnull
      | false =>
          cases hlocate : d.locate (Path.parse path) with
          | error cause =>
              refine Or.inr (Or.inr ⟨fun hopen => ?_, _, rfl⟩)
              rw [hopen.way] at hlocate
              cases hlocate
          | ok q =>
              obtain rfl : q = d.placeOf path := locate_eq_ofPath hlocate
              by_cases hentry : d.tree.at? (d.placeOf path) = some .directory
              · refine Or.inr (Or.inr ⟨fun hopen => hopen.entry hentry,
                  .system .isDirectory path, ?_⟩)
                simp [Except.bind, Except.map, openFile, hentry]
              · have hopen : d.IsOpenTo .appendText path := ⟨hfault, hnull, hlocate, hentry⟩
                -- The file is made when it is opened, before the text is encoded.
                cases hcovers : Encoding.utf8.covers s with
                | true =>
                    refine Or.inl ⟨hopen, rfl, _, ?_, gains_store hentry s.toUTF8⟩
                    simp [Except.bind, Except.map, openFile_of_ne_directory hentry,
                      Encoding.encode?, hcovers, Encoding.bytesOf]
                | false =>
                    refine Or.inr (Or.inl ⟨hopen, rfl, _, ?_, gains_store hentry .empty⟩)
                    simp [Except.bind, Except.map, openFile_of_ne_directory hentry,
                      Encoding.encode?, hcovers]

end Disk
end Nullability
