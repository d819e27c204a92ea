import Nullability.Proofs.Disk.Directories
import Nullability.Source.Module

/-!
# Packages above a file

The name of a module is put together on a climb from the directory of its file: as long as the
directory is a package, its name goes in front and the climb goes on above it.

* `FileTree.IsPackage`, `FileTree.Climbs`: the climb, which never ends where the top is a package,
  since the directory above the top is the top;
* `FileTree.IsChain`: the packages around a directory without a break, as many as there are, of
  which there is one list only (`IsChain.unique`);
* `climbs_iff`: where the top is no package, the climb ends and comes back with the chain.
-/

namespace Nullability

namespace FileTree

variable {t : FileTree}

/-- A directory is a package if what makes it one stands in it. -/
def IsPackage (t : FileTree) (directory : Place) : Prop :=
  (t.at? (directory ++ [SourceModule.packageFile])).isSome = true

instance (t : FileTree) (directory : Place) : Decidable (t.IsPackage directory) :=
  inferInstanceAs (Decidable (_ = true))

/-- The climb from a directory, with the names so far, ends with some names. -/
inductive Climbs (t : FileTree) : Place → List Text → List Text → Prop where
  | stop {directory : Place} {names : List Text} (h : ¬ t.IsPackage directory) :
      Climbs t directory names names
  | up {directory : Place} {names result : List Text} (h : t.IsPackage directory)
      (habove : Climbs t directory.dropLast (directory.name :: names) result) :
      Climbs t directory names result

/-- The names behind a directory are those of packages, one in the other, and the directory itself
is none. -/
structure IsChain (t : FileTree) (base : Place) (chain : List Text) : Prop where
  packages : ∀ inner, inner ≠ [] → inner <+: chain → t.IsPackage (base ++ inner)
  outside : ¬ t.IsPackage base

theorem isChain_nil {base : Place} (h : ¬ t.IsPackage base) : t.IsChain base [] where
  packages _ hne hinner := absurd (List.prefix_nil.1 hinner) hne
  outside := h

theorem IsChain.concat {base : Place} {chain : List Text} {name : Text}
    (h : t.IsChain base chain) (hpackage : t.IsPackage (base ++ (chain ++ [name]))) :
    t.IsChain base (chain ++ [name]) where
  packages inner hne hinner := by
    rcases List.prefix_concat_iff.1 hinner with rfl | hinner
    · exact hpackage
    · exact h.packages inner hne hinner
  outside := h.outside

/-- No two chains lead to one directory. -/
theorem IsChain.unique {base base' : Place} {chain chain' : List Text} (h : t.IsChain base chain)
    (h' : t.IsChain base' chain') (heq : base ++ chain = base' ++ chain') : chain = chain' := by
  -- Of two chains the longer one would have the start of the shorter one for a package.
  rcases List.append_eq_append_iff.1 heq with ⟨inner, rfl, rfl⟩ | ⟨inner, rfl, rfl⟩
  · have hinner : inner = [] := by
      by_contra hne
      exact h'.outside (h.packages inner hne (List.prefix_append _ _))
    rw [hinner, List.nil_append]
  · have hinner : inner = [] := by
      by_contra hne
      exact h.outside (h'.packages inner hne (List.prefix_append _ _))
    rw [hinner, List.nil_append]

end FileTree

namespace SourceModule

variable {d : Disk} {directory : Place} {name : Text}

theorem packageChain_concat (d : Disk) (directory : Place) (name : Text) :
    packageChain d (directory ++ [name]) =
      if d.tree.IsPackage (directory ++ [name]) then packageChain d directory ++ [name]
      else [] := by
  -- Around a directory and the one above it stand the same directories.
  have htake : (List.range directory.length).reverse.map
      (fun n => (directory ++ [name]).take (n + 1)) =
        (List.range directory.length).reverse.map fun n => directory.take (n + 1) := by
    refine List.map_congr_left ?_
    intro n hn
    exact List.take_append_of_le_length (List.mem_range.1 (List.mem_reverse.1 hn))
  have hwhole : (directory ++ [name]).take (directory.length + 1) = directory ++ [name] :=
    List.take_of_length_le (by simp)
  unfold packageChain
  rw [List.length_append, List.length_singleton, List.range_succ, List.reverse_concat]
  simp only [List.map_cons, htake, hwhole, List.takeWhile_cons]
  split
  · next h => simp [show d.tree.IsPackage (directory ++ [name]) from h, Place.name]
  · next h => simp [show ¬ d.tree.IsPackage (directory ++ [name]) from h]

/-- What a module is named by is the chain of packages around its directory. -/
theorem isChain_packageChain (htop : ¬ d.tree.IsPackage []) (directory : Place) :
    ∃ base, directory = base ++ packageChain d directory ∧
      d.tree.IsChain base (packageChain d directory) := by
  induction directory using List.reverseRecOn with
  | nil => exact ⟨[], rfl, FileTree.isChain_nil htop⟩
  | append_singleton above name ih =>
      rw [packageChain_concat]
      split
      · next hpackage =>
        rcases ih with ⟨base, habove, hchain⟩
        have hplace : above ++ [name] = base ++ (packageChain d above ++ [name]) := by
          rw [← List.append_assoc, ← habove]
        exact ⟨base, hplace, hchain.concat (hplace ▸ hpackage)⟩
      · next hpackage => exact ⟨above ++ [name], by simp, FileTree.isChain_nil hpackage⟩

/-- No package is around a directory that is none itself. -/
theorem packageChain_eq_nil_iff (htop : ¬ d.tree.IsPackage []) :
    packageChain d directory = [] ↔ ¬ d.tree.IsPackage directory := by
  rcases List.eq_nil_or_concat' directory with rfl | ⟨above, name, rfl⟩
  · exact ⟨fun _ => htop, fun _ => rfl⟩
  · rw [packageChain_concat]
    split
    · next hpackage => simp [hpackage]
    · next hpackage => simp [hpackage]

/-- The climb ends, and what it comes back with is the chain in front of the names that it started
with. -/
theorem climbs_iff (htop : ¬ d.tree.IsPackage []) {names result : List Text} :
    d.tree.Climbs directory names result ↔ result = packageChain d directory ++ names := by
  induction directory using List.reverseRecOn generalizing names with
  | nil =>
      constructor
      · intro h
        cases h with
        | stop => rfl
        | up h => exact absurd h htop
      · rintro rfl
        exact .stop htop
  | append_singleton above name ih =>
      have hname : Place.name (above ++ [name]) = name := by simp [Place.name]
      rw [packageChain_concat]
      by_cases hpackage : d.tree.IsPackage (above ++ [name])
      · -- A package takes one turn of the climb, which goes on above it.
        have hstep : d.tree.Climbs (above ++ [name]) names result ↔
            d.tree.Climbs above (name :: names) result := by
          constructor
          · intro h
            cases h with
            | stop h => exact absurd hpackage h
            | up _ habove => simpa [hname] using habove
          · intro h
            exact .up hpackage (by simpa [hname] using h)
        rw [hstep, ih, if_pos hpackage, List.append_assoc, List.singleton_append]
      · rw [if_neg hpackage, List.nil_append]
        constructor
        · intro h
          cases h with
          | stop => rfl
          | up h => exact absurd h hpackage
        · rintro rfl
          exact .stop hpackage

end SourceModule
end Nullability
