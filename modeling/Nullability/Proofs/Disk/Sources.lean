import Nullability.Proofs.Disk.Contents

/-!
# The source files of a path

* `Disk.IsSource`: the paths that are to be visited for a place;
* `sourceFiles_eq`: these are listed, each once and in ascending order;
* `IsSource.isAbsolute`, `IsSource.suffix`: the text of each is absolute and has the ending, and
  `ofPath_of_suffix` says where such a path leads.
-/

namespace Nullability

/-! ## File names -/

/-- The suffix of a file name is what the name ends in. -/
theorem FileName.suffix_isSuffix (name : Text) : (suffix name).toList <:+ name.toList := by
  unfold suffix
  dsimp only
  split
  · next h =>
    have hdot : .char '.' ∈ name.toList := by
      simp only [Bool.and_eq_true, List.contains_iff_mem] at h
      exact h.1.1
    simpa using Text.cons_afterLast_suffix hdot
  · simp

namespace FileTree

theorem isSome_at?_iff {t : FileTree} {q : Place} (hq : q ≠ []) :
    (t.at? q).isSome = true ↔ q ∈ t.entries.map Prod.fst := by
  have hlisted : ∀ entries : List (Place × Entry),
      (listed? q entries).isSome = true ↔ q ∈ entries.map Prod.fst := by
    intro entries
    induction entries with
    | nil => simp [listed?]
    | cons entry rest ih =>
        obtain ⟨p, e⟩ := entry
        by_cases hp : p = q
        · simp [listed?, hp]
        · simp only [listed?, if_neg hp, ih, List.map_cons, List.mem_cons, Ne.symm hp, false_or]
  rw [at?, if_neg hq, hlisted]

theorem mem_below_iff {t : FileTree} {p q : Place} :
    q ∈ t.below p ↔ (t.at? q).isSome = true ∧ p <+: q ∧ q ≠ p := by
  have hmem : q ∈ t.below p ↔ q ∈ t.entries.map Prod.fst ∧ p <+: q ∧ q ≠ p := by
    simp only [below, List.mem_filter, Bool.and_eq_true, List.isPrefixOf_iff_prefix, bne_iff_ne,
      ne_comm (a := q)]
  rw [hmem]
  refine and_congr_left ?_
  rintro ⟨hbelow, hne⟩
  refine (isSome_at?_iff ?_).symm
  rintro rfl
  exact hne (List.prefix_nil.1 hbelow).symm

end FileTree

namespace Disk

variable {d : Disk} {p : Place} {text : Text}

/-- The texts of the paths that are to be visited for a place: of a directory, everything below it
whose name has the ending; of anything else, the place itself if its name has the suffix. -/
inductive IsSource (d : Disk) (p : Place) : Text → Prop where
  | below {q : Place} (hdir : d.tree.at? p = some .directory)
      (hentry : (d.tree.at? q).isSome = true) (hbelow : p <+: q) (hne : q ≠ p)
      (hname : sourceEnding.toList <:+ q.name.toList) : IsSource d p q.render
  | self (hdir : d.tree.at? p ≠ some .directory)
      (hsuffix : FileName.suffix p.name = sourceEnding) : IsSource d p p.render

theorem sourceFiles_eq (hnull : isRefused text = false) (htakes : d.Takes ⟨1, d.placeOf text⟩) :
    ∃ files, d.sourceFiles text = .ok files ∧ files.Pairwise (· < ·) ∧
      ∀ file, file ∈ files ↔ d.IsSource (d.placeOf text) file := by
  have hplace : Place.ofPath d.here (Path.parse text) = d.placeOf text := rfl
  unfold sourceFiles
  rw [if_neg (by simp [hnull])]
  simp only [hplace]
  split
  · next h => exact absurd h htakes
  · by_cases hdir : d.tree.at? (d.placeOf text) = some .directory
    · have hdirectory : d.tree.isDirectory (d.placeOf text) = true := by
        simpa [FileTree.isDirectory] using hdir
      rw [if_pos hdirectory]
      refine ⟨_, rfl, NameSet.ascending _, ?_⟩
      intro file
      rw [NameSet.mem_ofList, List.mem_map]
      constructor
      · rintro ⟨q, hq, rfl⟩
        rcases List.mem_filter.1 hq with ⟨hbelow, hname⟩
        rcases FileTree.mem_below_iff.1 hbelow with ⟨hentry, hway, hne⟩
        exact .below hdir hentry hway hne (List.isSuffixOf_iff_suffix.1 hname)
      · intro hsource
        cases hsource with
        | @below q _ hentry hbelow hne hname =>
            refine ⟨q, List.mem_filter.2 ⟨?_, List.isSuffixOf_iff_suffix.2 hname⟩, rfl⟩
            exact FileTree.mem_below_iff.2 ⟨hentry, hbelow, hne⟩
        | self hfile _ => exact absurd hdir hfile
    · -- The target itself is the only file in question, and its name decides.
      have hdirectory : d.tree.isDirectory (d.placeOf text) = false := by
        simpa [FileTree.isDirectory] using hdir
      have hself : ∀ file, d.IsSource (d.placeOf text) file ↔
          FileName.suffix (d.placeOf text).name = sourceEnding ∧
            file = (d.placeOf text).render := by
        intro file
        constructor
        · rintro (⟨hdir', -⟩ | ⟨-, hsuffix⟩)
          · exact absurd hdir' hdir
          · exact ⟨hsuffix, rfl⟩
        · rintro ⟨hsuffix, rfl⟩
          exact .self hdir hsuffix
      rw [if_neg (by simp [hdirectory])]
      by_cases hsuffix : FileName.suffix (d.placeOf text).name = sourceEnding
      · rw [if_pos hsuffix]
        exact ⟨_, rfl, List.pairwise_singleton _ _, fun file => by simp [hself, hsuffix]⟩
      · rw [if_neg hsuffix]
        exact ⟨_, rfl, .nil, fun file => by simp [hself, hsuffix]⟩

theorem isSource_iff_mem (hnull : isRefused text = false) (htakes : d.Takes ⟨1, d.placeOf text⟩)
    {files : List Text} (h : d.sourceFiles text = .ok files) (file : Text) :
    d.IsSource (d.placeOf text) file ↔ file ∈ files := by
  rcases sourceFiles_eq hnull htakes with ⟨found, hfound, -, hmem⟩
  rw [h] at hfound
  cases hfound
  exact (hmem file).symm

/-! ## Where the path of a source file leads -/

theorem toList_render (p : Place) :
    p.render.toList = .char '/' :: Text.glue [.char '/'] (p.map Text.toList) := by
  simp [Place.render, Text.glued]

/-- The text of a place ends in what its last name ends in. -/
theorem suffix_render (h : sourceEnding.toList <:+ p.name.toList) :
    sourceEnding.toList <:+ p.render.toList := by
  rcases List.eq_nil_or_concat' p with rfl | ⟨above, name, rfl⟩
  · exact absurd h (by decide)
  · have hname : Place.name (above ++ [name]) = name := by simp [Place.name]
    rw [hname] at h
    rw [toList_render, List.map_append, List.map_singleton]
    exact (h.trans (Text.suffix_glue_concat _ _)).trans (List.suffix_cons _ _)

theorem IsSource.suffix (h : d.IsSource p text) : sourceEnding.toList <:+ text.toList := by
  cases h with
  | below _ _ _ _ hname => exact suffix_render hname
  | self _ hsuffix =>
      refine suffix_render ?_
      rw [← hsuffix]
      exact FileName.suffix_isSuffix _

theorem IsSource.isAbsolute (h : d.IsSource p text) : (Path.parse text).isAbsolute = true := by
  obtain ⟨q, rfl⟩ : ∃ q : Place, text = q.render := by
    cases h with
    | below => exact ⟨_, rfl⟩
    | self => exact ⟨_, rfl⟩
  have hslashes : ∀ cs, Path.leadingSlashes (.char '/' :: cs) ≠ 0 := by
    intro cs
    unfold Path.leadingSlashes
    split <;> simp_all
  simpa [Path.isAbsolute, Path.parse, toList_render] using hslashes _

/-- A name with the ending stands for itself in a path. -/
theorem ordinary_of_suffix {name : Text} (h : sourceEnding.toList <:+ name.toList) :
    name.isEmpty = false ∧ name ≠ "." ∧ name ≠ ".." := by
  refine ⟨?_, ?_, ?_⟩
  · rw [Text.isEmpty_eq_false_iff]
    rintro rfl
    exact absurd h (by decide)
  · rintro rfl
    exact absurd h (by decide)
  · rintro rfl
    exact absurd h (by decide)

/-- A path whose text has the ending ends in a name with the ending. -/
theorem segments_of_suffix (h : sourceEnding.toList <:+ text.toList) :
    ∃ above name, (Path.parse text).segments = above ++ [name] ∧
      sourceEnding.toList <:+ name.toList := by
  -- The ending has no slash, so it stands in the last name, which is not dropped for it.
  rcases Text.suffix_last_piece (c := '/') h (by decide) with ⟨init, last, hpieces, hlast⟩
  have hname : sourceEnding.toList <:+ (Text.ofList last).toList := by simpa using hlast
  rcases ordinary_of_suffix hname with ⟨hempty, hdot, -⟩
  refine ⟨((init.map Text.ofList).filter fun name => !name.isEmpty).filter
    fun name => name != ".", Text.ofList last, ?_, hname⟩
  unfold Path.parse Path.namesOf Text.piecesOf
  simp [hpieces, hempty, hdot]

/-- The place that such a path leads to has a name with the ending. -/
theorem ofPath_of_suffix (h : sourceEnding.toList <:+ text.toList) (here : Place) :
    ∃ above name, Place.ofPath here (Path.parse text) = above ++ [name] ∧
      sourceEnding.toList <:+ name.toList := by
  rcases segments_of_suffix h with ⟨above, name, hsegments, hname⟩
  rcases ordinary_of_suffix hname with ⟨-, hdot, hup⟩
  refine ⟨Place.ofPath here ⟨(Path.parse text).slashes, above⟩, name, ?_, hname⟩
  simp [Place.ofPath, Place.follow, Path.isAbsolute, hsegments, Place.step, hup, hdot]

end Disk
end Nullability
