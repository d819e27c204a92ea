import Nullability.Proofs.Disk.Writing

/-!
# What does not depend on the contents of files

Where a path leads is settled by the directories, and what is read at its end by one file.

* `Disk.AltersContents`: the second disk differs from the first at most by what some files hold;
* `Disk.Takes`: the path is not too long for the system;
* `locate_eq`, `readBytes_eq`: paths lead to the same places on both, and other files are read
  alike;
* `Disk.Alike`, `rewrite_alike`: a file that is removed and written again with what it held leaves
  the disk as it was.
-/

namespace Nullability

namespace Disk

variable {altered : Place → Prop} {d d' : Disk}

/-- The second disk differs from the first at most by what the files at some places hold. -/
structure AltersContents (altered : Place → Prop) (d d' : Disk) : Prop where
  here : d'.here = d.here
  files : ∀ q, altered q →
    (∃ content, d.tree.at? q = some (.file content)) ∧
      ∃ content, d'.tree.at? q = some (.file content)
  elsewhere : ∀ q, ¬ altered q → d'.tree.at? q = d.tree.at? q

/-- The system takes a path, whether or not anything stands at the end of it. -/
def Takes (d : Disk) (path : Path) : Prop :=
  d.locate path ≠ .error .nameTooLong

instance (d : Disk) (path : Path) : Decidable (d.Takes path) :=
  inferInstanceAs (Decidable (_ ≠ _))

/-- Only a path that the system does not take is refused for its length. -/
theorem readBytes_ne_nameTooLong {path : Path} (h : d.Takes path) (text : Text) :
    d.readBytes path ≠ .error (.system .nameTooLong text) := by
  intro hread
  unfold readBytes at hread
  unfold Takes at h
  cases hlocate : d.locate path with
  | error cause =>
      rw [hlocate] at hread h
      cases hread
      exact h rfl
  | ok q =>
      simp only [hlocate] at hread
      split at hread <;> cases hread

namespace AltersContents

theorem isSome_at? (h : AltersContents altered d d') (q : Place) :
    (d'.tree.at? q).isSome = (d.tree.at? q).isSome := by
  by_cases hq : altered q
  · rcases h.files q hq with ⟨⟨_, hold⟩, _, hnew⟩
    simp [hold, hnew]
  · rw [h.elsewhere q hq]

theorem walk_eq (h : AltersContents altered d d') (p : Place) (segments : List Text) :
    d'.tree.walk p segments = d.tree.walk p segments := by
  induction segments generalizing p with
  | nil => rfl
  | cons segment rest ih =>
      by_cases hp : altered p
      · -- A walk does not go on from a file, whatever the file holds.
        rcases h.files p hp with ⟨⟨_, hold⟩, _, hnew⟩
        simp only [FileTree.walk, hold, hnew]
      · simp only [FileTree.walk, h.elsewhere p hp, ih]

theorem locate_eq (h : AltersContents altered d d') (path : Path) :
    d'.locate path = d.locate path := by
  simp only [locate, start, h.here, h.walk_eq]

/-- At a place that is not altered everything reads as before, failures included. -/
theorem readBytes_eq (h : AltersContents altered d d') {path : Path}
    (hpath : ¬ altered (Place.ofPath d.here path)) : d'.readBytes path = d.readBytes path := by
  unfold readBytes
  rw [h.locate_eq]
  cases hlocate : d.locate path with
  | error cause => rfl
  | ok q =>
      obtain rfl := locate_eq_ofPath hlocate
      simp only [h.elsewhere _ hpath]

end AltersContents

/-! ## Disks that are alike -/

/-- The same stands everywhere on both disks, and the same failures are asked for. -/
structure Alike (d d' : Disk) : Prop where
  here : d'.here = d.here
  faults : d'.faults = d.faults
  entries : ∀ q, d'.tree.at? q = d.tree.at? q

namespace Alike

variable {d'' : Disk}

theorem refl (d : Disk) : d.Alike d :=
  ⟨rfl, rfl, fun _ => rfl⟩

theorem trans (h : d.Alike d') (h' : d'.Alike d'') : d.Alike d'' where
  here := h'.here.trans h.here
  faults := h'.faults.trans h.faults
  entries q := (h'.entries q).trans (h.entries q)

theorem fault?_eq (h : d.Alike d') (operation : DiskOperation) :
    d'.fault? operation = d.fault? operation := by
  rw [fault?, h.faults, fault?]

theorem readBytes_eq (h : d.Alike d') (path : Path) : d'.readBytes path = d.readBytes path := by
  have halters : AltersContents (fun _ => False) d d' :=
    ⟨h.here, fun _ hnone => hnone.elim, fun q _ => h.entries q⟩
  exact halters.readBytes_eq id

end Alike

/-! ## Writing a file again -/

section Again

variable {path s : Text} {content : ByteArray}

theorem remove_of_readBytes (hfault : d.fault? .remove = none) (hnull : isRefused path = false)
    (hread : d.readBytes (Path.parse path) = .ok content) :
    d.remove path = (.ok (), { d with tree := d.tree.erase (d.placeOf path) }) := by
  rcases readBytes_eq_ok_iff.1 hread with ⟨hlocate, hentry⟩
  simp [remove, hfault, delete, hnull, withoutFile, hlocate, hentry, leave, placeOf]

/-- A file that is removed and written with what it held is as it was. -/
theorem rewrite_alike (hremove : d.fault? .remove = none) (hwrite : d.fault? .writeText = none)
    (hnull : isRefused path = false) (hcovers : Encoding.utf8.covers s = true)
    (hread : d.readBytes (Path.parse path) = .ok s.toUTF8) :
    ∃ d₁ d₂, d.remove path = (.ok (), d₁) ∧ d₁.writeText path s .utf8 = (.ok (), d₂) ∧
      d.Alike d₂ := by
  rcases readBytes_eq_ok_iff.1 hread with ⟨hlocate, hentry⟩
  have hplace : Place.ofPath d.here (Path.parse path) = d.placeOf path := rfl
  rw [hplace] at hlocate hentry
  have herased := erase_alters (d := d) (p := d.placeOf path) (by simp [hentry])
  have hne : d.placeOf path ≠ [] := by
    intro htop
    rw [htop, FileTree.at?_top] at hentry
    cases hentry
  -- In between nothing stands at the place, where a file can be made again.
  have hgone : (d.tree.erase (d.placeOf path)).at? (d.placeOf path) = none := by
    rw [FileTree.at?_erase _ _ hne, if_pos rfl]
  let erased : Disk := { d with tree := d.tree.erase (d.placeOf path) }
  have hclear : erased.tree.at? (d.placeOf path) ≠ some .directory := by simp [erased, hgone]
  have hopen : erased.IsOpenTo .writeText path := ⟨hwrite, hnull, herased.locate hlocate, hclear⟩
  refine ⟨erased, erased.store (d.placeOf path) s.toUTF8, remove_of_readBytes hremove hnull hread,
    writeText_of_isOpenTo hopen hcovers, rfl, rfl, ?_⟩
  intro q
  by_cases hq : q = d.placeOf path
  · subst hq
    rw [hentry]
    exact at?_store_self hclear s.toUTF8
  · exact ((store_alters hclear _).elsewhere q hq).trans (herased.elsewhere q hq)

end Again

end Disk
end Nullability
