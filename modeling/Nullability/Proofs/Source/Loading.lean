import Nullability.Proofs.Disk.Contents
import Nullability.Proofs.Ledger.Failures
import Nullability.Source.Module

/-!
# Loading modules

* `SourceModule.load?_eq`: what a file is loaded as depends on no other file's contents;
* `load?_eq_found?`: loading gives a result wherever the system takes the path;
* `hasUnusablePath_of_load?`: a module that is loaded from an absolute path stands in a file that
  has an address.
-/

namespace Nullability

/-! ## Null characters in places -/

/-- Following segments brings in no other names. -/
theorem Place.mem_follow {p : Place} {segments : List Text} {s : Text}
    (h : s ∈ p.follow segments) : s ∈ p ∨ s ∈ segments := by
  induction segments generalizing p with
  | nil => exact Or.inl h
  | cons segment rest ih =>
      rcases ih (p := p.step segment) h with hstep | hrest
      · unfold step at hstep
        split at hstep
        · exact Or.inl (List.mem_of_mem_dropLast hstep)
        · split at hstep
          · exact Or.inl hstep
          · simp only [List.mem_append, List.mem_singleton] at hstep
            rcases hstep with hp | rfl
            · exact Or.inl hp
            · exact Or.inr List.mem_cons_self
      · exact Or.inr (List.mem_cons_of_mem _ hrest)

theorem Path.isRefused_render {path : Path}
    (h : ∀ s ∈ path.segments, ∀ c ∈ s.toList, c.isNameable = true) :
    Disk.isRefused path.render = false := by
  refine Disk.isRefused_eq_false_iff.2 fun c hc => ?_
  by_cases hslash : c = '/'
  · rw [hslash]
    decide
  · by_cases hne : path.segments = []
    · have hdot : c = '.' ∨ c = '/' := by
        unfold render at hc
        split at hc
        · simpa using Or.inl hc
        · have hslashes : path.slashes ≠ 0 ∧ c = '/' := by simpa [hne, Text.glued] using hc
          exact Or.inr hslashes.2
      rcases hdot with rfl | rfl <;> decide
    · rcases (mem_render_iff hne hslash).1 hc with ⟨s, hs, hmem⟩
      exact h s hs c hmem

namespace SourceModule

variable {parser : Parser} {altered : Place → Prop} {d d' : Disk} {text : Text}
  {m : SourceModule}

/-! ## What loading depends on -/

theorem packageChain_eq (h : Disk.AltersContents altered d d') (directory : Place) :
    packageChain d' directory = packageChain d directory := by
  simp only [packageChain, h.isSome_at?]

theorem moduleName_eq (h : Disk.AltersContents altered d d') (path : Path) :
    moduleName d' path = moduleName d path := by
  rw [moduleName, packageChain_eq h, h.here]
  rfl

theorem load?_eq (h : Disk.AltersContents altered d d') (htext : ¬ altered (d.placeOf text)) :
    load? parser d' text = load? parser d text := by
  simp only [load?, h.readBytes_eq htext, ofContent?, moduleName_eq h, h.here]

/-- The module that a file is loaded as, if it can be parsed. -/
def found? (parser : Parser) (d : Disk) (text : Text) : Option SourceModule :=
  match load? parser d text with
  | .ok found => found
  | .error _ => none

/-- A path that the system takes leads to a module or to none. -/
theorem load?_eq_found? (parser : Parser) (h : d.Takes (Path.parse text)) :
    load? parser d text = .ok (found? parser d text) := by
  have hrefused : ∀ e, load? parser d text ≠ .error e := by
    intro e hload
    unfold load? at hload
    split at hload
    · cases hload
    · dsimp only at hload
      split at hload
      · next hread => exact Disk.readBytes_ne_nameTooLong h _ hread
      · cases hload
      · cases hload
  unfold found?
  cases hload : load? parser d text with
  | ok found => rfl
  | error e => exact absurd hload (hrefused e)

/-! ## Where a loaded module stands -/

theorem of_load? (h : load? parser d text = .ok (some m)) :
    Disk.isRefused text = false ∧ m.file = some ((Path.parse text).absolute d.here) ∧
      ∃ q source, parser q source = some m.tree := by
  unfold load? at h
  split at h
  · cases h
  · next hnull =>
    dsimp only at h
    split at h
    · cases h
    · cases h
    · next content _ =>
      have hcontent : ofContent? parser d (Path.parse text) content = some m := by
        simpa using h
      unfold ofContent? at hcontent
      split at hcontent
      · cases hcontent
      · rcases Option.map_eq_some_iff.1 hcontent with ⟨tree, htree, rfl⟩
        refine ⟨by simpa using hnull, ?_, _, _, htree⟩
        simp [ofTree, Path.parse_render_parse]

theorem hasUnusablePath_of_load? (h : load? parser d text = .ok (some m))
    (habsolute : (Path.parse text).isAbsolute = true) : m.home.hasUnusablePath = false := by
  rcases of_load? h with ⟨hnull, hfile, -⟩
  -- The names of an absolute path come from its own text alone, which can be a path.
  have hsegments : ∀ s ∈ ((Path.parse text).absolute d.here).segments, ∀ c ∈ s.toList,
      c.isNameable = true := by
    intro s hs c hc
    have hplace : s ∈ Place.follow [] (Path.parse text).segments := by
      simpa [Path.absolute, Place.ofPath, habsolute] using hs
    have hparse : s ∈ (Path.parse text).segments := by simpa using Place.mem_follow hplace
    exact Disk.isRefused_eq_false_iff.1 hnull c (Path.mem_of_mem_segments_parse hparse hc)
  simp [home, ModuleHome.hasUnusablePath, ModuleHome.path?, hfile, Path.isRefused_render hsegments]

/-- The classes from elsewhere in the trees of a parser stand in modules that were read from a file,
or in ones without a file. -/
def Parser.NamesFiles (parser : Parser) : Prop :=
  ∀ q source tree, parser q source = some tree → ∀ c ∈ tree.classes, ∀ name home,
    c.origin = .foreign name home → home.hasUnusablePath = false

end SourceModule
end Nullability
