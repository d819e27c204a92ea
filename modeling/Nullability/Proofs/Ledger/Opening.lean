import Nullability.Proofs.Disk.Contents
import Nullability.Proofs.Disk.Directories
import Nullability.Proofs.Ledger.Failures

/-!
# What opening touches

Opening makes the output directory and starts the ledgers that are kept. It owns nothing else, so
nothing else changes, however it ends.

* `Ledgers.Prepares`: what may differ after opening, and `prepares_openingActions` that nothing else
  does;
* `Ledgers.Fresh`: how the disk is left where opening succeeds;
* `openingActions_again`: opening once more finds everything as it would leave it;
* `open?_owned`: all of it, by the way in which opening ends.
-/

namespace Nullability
namespace Ledgers

variable {l : Ledgers} {d d' d'' : Disk} {channel : Channel}

/-! ## What may change -/

/-- The second disk differs from the first at most by directories on the way to the output
directory, where nothing stood, and by the ledgers that are kept. -/
structure Prepares (l : Ledgers) (d d' : Disk) : Prop where
  here : d'.here = d.here
  faults : d'.faults = d.faults
  directories : ∀ q, d.tree.at? q = some .directory → d'.tree.at? q = some .directory
  elsewhere : ∀ q, ¬ l.IsKeptAt d q → d'.tree.at? q = d.tree.at? q ∨
    q ∈ d.stopsOf l.config.outputDirectory ∧ d.tree.at? q = none ∧
      d'.tree.at? q = some .directory

namespace Prepares

theorem refl (l : Ledgers) (d : Disk) : l.Prepares d d :=
  ⟨rfl, rfl, fun _ h => h, fun _ _ => Or.inl rfl⟩

theorem trans (h : l.Prepares d d') (h' : l.Prepares d' d'') : l.Prepares d d'' where
  here := h'.here.trans h.here
  faults := h'.faults.trans h.faults
  directories q hq := h'.directories q (h.directories q hq)
  elsewhere q hq := by
    have hstops : d'.stopsOf l.config.outputDirectory = d.stopsOf l.config.outputDirectory := by
      simp [Disk.stopsOf, Disk.start, h.here]
    rcases h.elsewhere q hq with hsame | ⟨hstop, hnone, hmade⟩
    · rcases h'.elsewhere q (by rwa [isKeptAt_congr h.here]) with hsame' | ⟨hstop, hnone, hmade⟩
      · exact Or.inl (hsame'.trans hsame)
      · exact Or.inr ⟨hstops ▸ hstop, hsame ▸ hnone, hmade⟩
    · -- A directory that was made stays one.
      exact Or.inr ⟨hstop, hnone, h'.directories q hmade⟩

theorem of_altersFile (hkept : channel.isKept l.config = true)
    (h : Disk.AltersFile (d.placeOf (channel.path l)) d d') : l.Prepares d d' where
  here := h.here
  faults := h.faults
  directories _ := h.directory
  elsewhere q hq := Or.inl (h.elsewhere q fun hplace => hq ⟨channel, hkept, hplace⟩)

theorem file?_eq (h : l.Prepares d d') {q : Place} (hq : ¬ l.IsKeptAt d q) :
    d'.tree.file? q = d.tree.file? q := by
  rcases h.elsewhere q hq with hsame | ⟨-, hnone, hmade⟩
  · exact FileTree.file?_congr hsame
  · simp [FileTree.file?, hnone, hmade]

end Prepares

theorem prepares_makeDirectories (l : Ledgers) (d : Disk) :
    l.Prepares d (d.makeDirectories l.config.outputDirectory true).2 := by
  have hadds := Disk.makeDirectories_adds d l.config.outputDirectory true
  refine ⟨hadds.here, hadds.faults, ?_, ?_⟩
  · intro q hq
    rcases hadds.entries q with hsame | ⟨hnone, -⟩
    · rw [hsame, hq]
    · rw [hnone] at hq
      cases hq
  · intro q _
    by_cases hstop : q ∈ d.stopsOf l.config.outputDirectory
    · exact (hadds.entries q).imp id fun hmade => ⟨hstop, hmade⟩
    · exact Or.inl (Disk.at?_makeDirectories hstop)

theorem prepares_remove (hkept : channel.isKept l.config = true) (d : Disk) :
    l.Prepares d (d.remove (channel.path l)).2 := by
  cases hremove : d.remove (channel.path l) with
  | mk result after =>
      cases result with
      | error e =>
          rw [Disk.remove_error hremove]
          exact .refl l d
      | ok _ =>
          rcases Disk.remove_ok hremove with rfl | halters
          · exact .refl l after
          · exact .of_altersFile hkept halters

theorem prepares_writeText (hkept : channel.isKept l.config = true) (s : Text) (d : Disk) :
    l.Prepares d (d.writeText (channel.path l) s .utf8).2 := by
  cases hwrite : d.writeText (channel.path l) s .utf8 with
  | mk result after =>
      cases result with
      | error e =>
          rcases Disk.writeText_error hwrite with rfl | ⟨-, halters⟩
          · exact .refl l after
          · exact .of_altersFile hkept halters
      | ok _ => exact .of_altersFile hkept (Disk.writeText_ok hwrite).2.2.1

/-- Whether it succeeds or fails, each operation of opening touches only what opening owns. -/
theorem prepares_of_mem {operation : Disk.Action} (h : operation ∈ l.openingActions) (d : Disk) :
    l.Prepares d (operation d).2 := by
  have hreset : ∀ channel : Channel, operation ∈ l.resetActions channel →
      l.Prepares d (operation d).2 := by
    intro channel hmem
    unfold resetActions at hmem
    split at hmem
    · next hkept =>
      rcases List.mem_cons.1 hmem with rfl | hmem
      · exact prepares_remove hkept d
      · obtain rfl := List.mem_singleton.1 hmem
        exact prepares_writeText hkept _ d
    · cases hmem
  rcases List.mem_cons.1 h with rfl | h
  · exact prepares_makeDirectories l d
  · rcases List.mem_append.1 h with h | h
    · exact hreset .violations h
    · exact hreset .fixes h

theorem prepares_openingActions (l : Ledgers) (d : Disk) :
    l.Prepares d (Disk.inTurn l.openingActions d).2 :=
  Disk.inTurn_keeps (Prepares.refl l) Prepares.trans (fun _ hmem => prepares_of_mem hmem) d

theorem prepares_open (config : Config) (delimiter : Text) (run : Run) :
    Prepares ⟨config, delimiter⟩ run.disk (open? config delimiter run).2.disk := by
  rw [disk_open?]
  exact prepares_openingActions _ run.disk

/-! ## Where opening succeeds -/

/-- The output directory is there, every ledger that is kept holds the line with its columns and
nothing else, and no failure is asked for that would stop opening. -/
structure Fresh (l : Ledgers) (d : Disk) : Prop where
  make : d.fault? .makeDirectories = none
  directory : d.HasDirectory l.config.outputDirectory
  remove : ∀ channel : Channel, channel.isKept l.config = true → d.fault? .remove = none
  write : ∀ channel : Channel, channel.isKept l.config = true → d.fault? .writeText = none
  usable : ∀ channel : Channel, channel.isKept l.config = true →
    Disk.isRefused (channel.path l) = false
  covered : ∀ channel : Channel, channel.isKept l.config = true →
    Encoding.utf8.covers (l.heading channel) = true
  heading : ∀ channel : Channel, channel.isKept l.config = true →
    d.readBytes (Path.parse (channel.path l)) = .ok (l.heading channel).toUTF8

theorem Fresh.congr (h : l.Fresh d) (halike : d.Alike d') : l.Fresh d' where
  make := by rw [halike.fault?_eq, h.make]
  directory := h.directory.mono halike.here fun q hq => by rw [halike.entries, hq]
  remove channel hkept := by rw [halike.fault?_eq, h.remove channel hkept]
  write channel hkept := by rw [halike.fault?_eq, h.write channel hkept]
  usable := h.usable
  covered := h.covered
  heading channel hkept := by rw [halike.readBytes_eq, h.heading channel hkept]

section Succeeding

variable {config : Config} {delimiter : Text} {run run' : Run}

theorem inTurn_of_open (h : open? config delimiter run = (.ok l, run')) :
    Disk.inTurn l.openingActions run.disk = (.ok (), run'.disk) := by
  rw [← prepare_eq_inTurn, (open?_ok h).2]

/-- Making the output directory comes first, and nothing after it takes a directory away. -/
theorem hasDirectory_of_inTurn (h : Disk.inTurn l.openingActions d = (.ok (), d')) :
    d.fault? .makeDirectories = none ∧ d'.HasDirectory l.config.outputDirectory := by
  cases hmake : d.makeDirectories l.config.outputDirectory true with
  | mk result made =>
      cases result with
      | error e => simp [openingActions, Disk.inTurn, hmake] at h
      | ok _ =>
          have hrest : Disk.inTurn (l.resetActions .violations ++ l.resetActions .fixes) made =
              (.ok (), d') := by
            simpa [openingActions, Disk.inTurn, hmake] using h
          have hkeeps := Disk.inTurn_keeps (Prepares.refl l) Prepares.trans
            (fun operation hmem => prepares_of_mem (List.mem_cons_of_mem _ hmem)) made
          rw [hrest] at hkeeps
          rcases Disk.makeDirectories_ok hmake with ⟨hfault, hdirectory⟩
          exact ⟨hfault, hdirectory.mono hkeeps.here hkeeps.directories⟩

theorem reset_of_inTurn (h : Disk.inTurn l.openingActions d = (.ok (), d'))
    (hkept : channel.isKept l.config = true) :
    d.fault? .remove = none ∧ d.fault? .writeText = none ∧
      Encoding.utf8.covers (l.heading channel) = true := by
  have hmem : ∀ operation ∈ l.resetActions channel, operation ∈ l.openingActions := by
    intro operation hoperation
    refine List.mem_cons_of_mem _ (List.mem_append.2 ?_)
    cases channel with
    | violations => exact Or.inl hoperation
    | fixes => exact Or.inr hoperation
  have hsucceeds : ∀ operation ∈ l.resetActions channel, ∃ d₁ d₂, l.Prepares d d₁ ∧
      operation d₁ = (.ok (), d₂) := fun operation hoperation =>
    Disk.exists_of_inTurn_ok (Prepares.refl l) Prepares.trans (fun _ => prepares_of_mem) h
      (hmem operation hoperation)
  rw [resetActions, if_pos hkept] at hsucceeds
  rcases hsucceeds _ List.mem_cons_self with ⟨d₁, _, hprepares₁, hremove⟩
  rcases hsucceeds _ (List.mem_cons_of_mem _ List.mem_cons_self) with ⟨d₂, _, hprepares₂, hwrite⟩
  -- The failures that are asked for are the same on every disk on the way.
  have hfault₁ := Disk.fault?_of_remove hremove
  have hfault₂ := Disk.fault?_of_writeText hwrite
  rw [Disk.fault?, hprepares₁.faults] at hfault₁
  rw [Disk.fault?, hprepares₂.faults] at hfault₂
  exact ⟨hfault₁, hfault₂, (Disk.writeText_ok hwrite).2.1⟩

theorem fresh_of_open (h : open? config delimiter run = (.ok l, run')) : l.Fresh run'.disk := by
  have hturn := inTurn_of_open h
  have hholds := holds_of_open h
  have hfault : ∀ operation, run'.disk.fault? operation = run.disk.fault? operation := by
    intro operation
    rw [Disk.fault?, hholds.faults, Disk.fault?]
  rcases hasDirectory_of_inTurn hturn with ⟨hmake, hdirectory⟩
  refine ⟨by rw [hfault, hmake], hdirectory, ?_, ?_, hholds.usable,
    fun channel hkept => (reset_of_inTurn hturn hkept).2.2, ?_⟩
  · intro channel hkept
    rw [hfault, (reset_of_inTurn hturn hkept).1]
  · intro channel hkept
    rw [hfault, (reset_of_inTurn hturn hkept).2.1]
  · intro channel hkept
    have hread := hholds.kept channel hkept
    rw [Channel.parse_path, hread]
    simp [written, heading, Text.join]

end Succeeding

/-! ## Opening once more -/

theorem resetActions_again (h : l.Fresh d) (channel : Channel) :
    ∃ d', Disk.inTurn (l.resetActions channel) d = (.ok (), d') ∧ d.Alike d' := by
  unfold resetActions
  split
  · next hkept =>
    rcases Disk.rewrite_alike (h.remove channel hkept) (h.write channel hkept)
      (h.usable channel hkept) (h.covered channel hkept) (h.heading channel hkept) with
      ⟨d₁, d₂, hremove, hwrite, halike⟩
    refine ⟨d₂, ?_, halike⟩
    simp [Disk.inTurn, hremove, hwrite]
  · exact ⟨d, rfl, .refl d⟩

/-- Opening ledgers that are open already leaves everything as it is. -/
theorem openingActions_again (h : l.Fresh d) :
    ∃ d', Disk.inTurn l.openingActions d = (.ok (), d') ∧ d.Alike d' := by
  have hmake := h.directory.makeDirectories h.make
  rcases resetActions_again h .violations with ⟨d₁, hfirst, halike⟩
  rcases resetActions_again (h.congr halike) .fixes with ⟨d₂, hsecond, halike'⟩
  refine ⟨d₂, ?_, halike.trans halike'⟩
  simp [openingActions, Disk.inTurn, hmake, Disk.inTurn_append, hfirst, hsecond]

/-! ## How opening ends -/

/-- However opening ends, nothing changes but the ledgers that are kept and, where nothing stood,
directories on the way to the output directory; the file of a ledger that is not kept stays. Where
it succeeds, the output directory is there, each ledger that is kept holds the line with its columns
and nothing else, and opening once more succeeds and leaves everything as it is. Where the output
directory cannot be made, opening fails for that and no file changes at all. -/
theorem open?_owned (config : Config) (delimiter : Text) (run : Run) :
    let l : Ledgers := ⟨config, delimiter⟩
    let opened := open? config delimiter run
    (∀ q, ¬ l.IsKeptAt run.disk q →
      opened.2.disk.tree.at? q = run.disk.tree.at? q ∨
        q ∈ run.disk.stopsOf config.outputDirectory ∧ run.disk.tree.at? q = none ∧
          opened.2.disk.tree.at? q = some .directory) ∧
    (∀ channel : Channel, channel.isKept config = false →
      opened.2.disk.tree.file? (run.disk.placeOf (channel.path l)) =
        run.disk.tree.file? (run.disk.placeOf (channel.path l))) ∧
    (∀ l', opened.1 = .ok l' → l' = l ∧
      opened.2.disk.entry? (Path.parse config.outputDirectory) = some .directory ∧
      (∀ channel : Channel, channel.isKept config = true →
        opened.2.disk.readBytes (Path.parse (channel.path l)) =
          .ok (frame (renderColumns config.format delimiter channel.columns)).toUTF8) ∧
      ∃ again, open? config delimiter opened.2 = (.ok l, again) ∧
        ∀ q, again.disk.tree.at? q = opened.2.disk.tree.at? q) ∧
    ∀ e, (run.disk.makeDirectories config.outputDirectory true).1 = .error e →
      opened.1 = .error (.ofDisk config.outputDirectory e) ∧
        ∀ q, opened.2.disk.tree.file? q = run.disk.tree.file? q := by
  intro l opened
  have hprepares : l.Prepares run.disk opened.2.disk := prepares_open config delimiter run
  refine ⟨hprepares.elsewhere, ?_, ?_, ?_⟩
  · intro channel hunkept
    exact hprepares.file?_eq (not_isKeptAt_of_unkept hunkept run.disk)
  · intro l' hok
    have hopen : open? config delimiter run = (.ok l', opened.2) := Prod.ext hok rfl
    obtain rfl : l' = l := (open?_ok hopen).1
    -- What a first opening leaves is all that a second one asks of the disk.
    have hfresh := fresh_of_open hopen
    refine ⟨rfl, hfresh.directory.entry?, hfresh.heading, ?_⟩
    rcases openingActions_again hfresh with ⟨d', hturn, halike⟩
    refine ⟨(open? config delimiter opened.2).2, Prod.ext ?_ rfl, ?_⟩
    · rw [fst_open?, hturn]
    · intro q
      rw [disk_open?, hturn, halike.entries]
  · intro e hmake
    have hadds := Disk.makeDirectories_adds run.disk config.outputDirectory true
    rcases hmade : run.disk.makeDirectories config.outputDirectory true with ⟨result, after⟩
    rw [hmade] at hmake hadds
    obtain rfl : result = .error e := hmake
    have hturn : Disk.inTurn l.openingActions run.disk = (.error e, after) := by
      simp [l, openingActions, Disk.inTurn, hmade]
    refine ⟨?_, fun q => ?_⟩
    · rw [fst_open?, hturn]
    · rw [disk_open?, hturn, hadds.file?]

/-- With a directory where the ledger of fixes should stand, opening fails when the ledger of
violations is already started afresh. -/
example :
    let config := { Config.disabled with
      logErrors := .shallow, suggest := .shallow, outputDirectory := "out" }
    let disk : Disk := ⟨⟨[(["out"], .directory), (["out", "fixes.csv"], .directory),
      (["out", "errors.csv"], .file ("stale" : Text).toUTF8)]⟩, [], []⟩
    let opened := open? config "$*$" (Run.on disk)
    opened.1.toOption.isSome = false ∧ opened.2.disk.tree.at? ["out", "errors.csv"] =
      some (.file ("message_type$*$message$*$encClass$*$encMethod\n" : Text).toUTF8) := by
  decide +kernel

end Ledgers
end Nullability
