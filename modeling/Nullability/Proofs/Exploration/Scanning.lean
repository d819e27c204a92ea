import Nullability.CommandLine
import Nullability.Proofs.Disk.Sources
import Nullability.Proofs.Exploration.Findings
import Nullability.Proofs.Ledger.Framing
import Nullability.Proofs.Source.Loading

/-!
# Scanning

A scan visits the source files of its target one after the other. The ledgers, which are the only
files it writes to, are never among them, so what a file is parsed to does not depend on when it is
visited.

* `Ledgers.Confined`: nothing but kept ledgers and notices of little weight changes;
* `Ledgers.Scanning`: the invariant of a scan, after some of the files;
* `scanning_exploreFile`, `scanning_exploreFiles`: one file keeps it, and so do all;
* `scan_eq`: a scan comes to its end, with the fixes of all its files.
-/

namespace Nullability

namespace Ledgers

variable {l : Ledgers} {d d' : Disk} {run run₁ run₂ : Run} {records : Channel → List Record}

/-! ## Places of ledgers -/

/-- The names of the ledgers do not have the ending of source files. -/
theorem not_isKeptAt {text : Text} (h : Disk.sourceEnding.toList <:+ text.toList) (d : Disk) :
    ¬ l.IsKeptAt d (d.placeOf text) := by
  rintro ⟨channel, -, hplace⟩
  -- At the place of a ledger the last name would be the name of the ledger.
  rcases Disk.ofPath_of_suffix h d.here with ⟨above, name, hname, hsuffix⟩
  rw [Disk.placeOf, hname, Channel.placeOf_path] at hplace
  obtain rfl : name = channel.name := by
    simpa using congrArg List.getLast? hplace
  cases channel <;> exact absurd hsuffix (by decide)

theorem Holds.entry {first : Disk} (h : l.Holds first d records) {channel : Channel}
    (hkept : channel.isKept l.config = true) : d.tree.at? (d.placeOf (channel.path l)) =
      some (.file (l.written channel (records channel)).toUTF8) := by
  have hplace : d.placeOf (channel.path l) = Place.ofPath d.here (channel.joined l) := by
    rw [Disk.placeOf, Channel.parse_path]
  rw [hplace]
  exact (Disk.readBytes_eq_ok_iff.1 (h.kept channel hkept)).2

theorem Holds.exists_file {first : Disk} (h : l.Holds first d records) {q : Place}
    (hq : l.IsKeptAt d q) : ∃ content, d.tree.at? q = some (.file content) := by
  obtain ⟨channel, hkept, hplace⟩ := hq
  rw [hplace]
  exact ⟨_, h.entry hkept⟩

/-! ## What exploring leaves alone -/

/-- The later run differs from the earlier one at most by ledgers that are kept, and by notices that
tell of an error or help to find one. -/
structure Confined (l : Ledgers) (before after : Run) : Prop where
  here : after.disk.here = before.disk.here
  elsewhere : ∀ q, ¬ l.IsKeptAt before.disk q → after.disk.tree.at? q = before.disk.tree.at? q
  said : ∀ level, level ≠ .debug → level ≠ .error → after.said level = before.said level

namespace Confined

theorem refl (l : Ledgers) (run : Run) : l.Confined run run :=
  ⟨rfl, fun _ _ => rfl, fun _ _ _ => rfl⟩

theorem trans (h : l.Confined run run₁) (h' : l.Confined run₁ run₂) : l.Confined run run₂ where
  here := h'.here.trans h.here
  elsewhere q hq := by
    rw [← h.elsewhere q hq]
    exact h'.elsewhere q (by rwa [isKeptAt_congr h.here])
  said level hdebug herror := (h'.said level hdebug herror).trans (h.said level hdebug herror)

theorem debug (l : Ledgers) (run : Run) (message : Text) :
    l.Confined run (run.note .debug message) where
  here := rfl
  elsewhere _ _ := rfl
  said _ hdebug _ := Run.said_note_of_ne hdebug.symm run message

theorem of_keeps {channel : Channel} {r : Record}
    (h : l.Keeps channel r (run.disk.placeOf (channel.path l)) run run₁) : l.Confined run run₁ := by
  cases h with
  | unkept _ hsame =>
      rw [hsame]
      exact refl l run
  | added hkept _ _ hdisk hnotices =>
      refine ⟨hdisk.here, ?_, fun level _ _ => Run.said_congr hnotices level⟩
      intro q hq
      exact hdisk.elsewhere q fun hplace => hq ⟨channel, hkept, hplace⟩
  | uncovered hkept _ _ hdisk hnotices =>
      refine ⟨hdisk.here, ?_, fun _ _ herror => Run.said_of_append hnotices herror.symm⟩
      intro q hq
      exact hdisk.elsewhere q fun hplace => hq ⟨channel, hkept, hplace⟩
  | refused e _ _ hdisk hnotices =>
      exact ⟨by rw [hdisk], fun _ _ => by rw [hdisk], fun _ _ herror =>
        Run.said_of_append hnotices herror.symm⟩

theorem of_concludes {v : Violation}
    (h : l.Concludes v (run.disk.placeOf (Channel.fixes.path l)) run run₁) :
    l.Confined run run₁ := by
  cases h with
  | failed _ _ hsame =>
      rw [hsame]
      exact refl l run
  | nothing _ hnote =>
      rw [hnote]
      exact debug l run _
  | fixed f kept _ hkeeps hnote =>
      rw [hnote]
      exact (of_keeps hkeeps).trans (debug l kept _)

theorem report (v : Violation) (run : Run) : l.Confined run (l.report v run).2 := by
  rcases keeps_concludes_report l v run with ⟨reported, hkeeps, hconcludes⟩
  exact (of_keeps hkeeps).trans (of_concludes hconcludes)

end Confined

/-- The later run is confined to what the earlier one may touch. Where no failure is asked for,
ledgers that are made of their records gain those of the new ones that they can hold, and each of
the others is told of by one error. -/
structure Advances (l : Ledgers) (records : Channel → List Record) (before after : Run) : Prop
    extends l.Confined before after where
  holds : ∀ {first old}, first.faults = [] → l.Holds first before.disk old →
    l.Holds first after.disk fun channel => old channel ++ l.held (records channel)
  errors : ∀ {first old}, first.faults = [] → l.Holds first before.disk old →
    (after.said .error).Perm (before.said .error ++
      (l.refusals .violations (records .violations) ++ l.refusals .fixes (records .fixes)))

/-- What is said of the records of two parts is what is said of them together, up to order: within
each part, the errors about the two ledgers come mixed. -/
theorem errors_trans {records' : Channel → List Record} {said₀ said₁ said₂ : List Text}
    (h : said₁.Perm
      (said₀ ++ (l.refusals .violations (records .violations) ++
        l.refusals .fixes (records .fixes))))
    (h' : said₂.Perm
      (said₁ ++ (l.refusals .violations (records' .violations) ++
        l.refusals .fixes (records' .fixes)))) :
    said₂.Perm (said₀ ++
      (l.refusals .violations (records .violations ++ records' .violations) ++
        l.refusals .fixes (records .fixes ++ records' .fixes))) := by
  refine h'.trans ((h.append_right _).trans ?_)
  rw [refusals_append, refusals_append]
  simp only [List.append_assoc]
  refine List.Perm.append_left _ (List.Perm.append_left _ ?_)
  rw [← List.append_assoc, ← List.append_assoc]
  exact List.perm_append_comm.append_right _

theorem Advances.trans {records' : Channel → List Record} (h : l.Advances records run run₁)
    (h' : l.Advances records' run₁ run₂) :
    l.Advances (fun channel => records channel ++ records' channel) run run₂ where
  toConfined := h.toConfined.trans h'.toConfined
  holds hclear hholds := (h'.holds hclear (h.holds hclear hholds)).congr rfl fun _ => by
    rw [held_append, List.append_assoc]
  errors hclear hholds :=
    errors_trans (h.errors hclear hholds) (h'.errors hclear (h.holds hclear hholds))

theorem tracks_advances (l : Ledgers) : l.Tracks l.Advances where
  refl run := ⟨.refl l run, fun _ h => h.congr rfl fun _ => List.append_nil _,
    fun _ _ => by simp [refusals]⟩
  trans := Advances.trans
  report v message run := by
    have hnoted : ∀ {first old}, l.Holds first run.disk old →
        l.Holds first (run.note .debug message).disk old := id
    refine ⟨(Confined.debug l run message).trans (.report v _), ?_, ?_⟩
    · intro first old hclear hholds
      exact holds_perform hclear (hnoted hholds) (.report v)
    · intro first old hclear hholds
      have hsaid := said_perform hclear (hnoted hholds) (.report v)
      rw [Run.said_note_of_ne (by decide)] at hsaid
      rw [hsaid]
      rfl

/-- The fixes that a module leads to. -/
def fixesIn (l : Ledgers) (m : SourceModule) : List Fix :=
  m.tree.conditionals.filterMap (l.fixAt? m)

/-- Where all files have addresses, exploring comes to its end. -/
theorem explore_of_hasAddresses {m : SourceModule} (h : m.HasAddresses) (run : Run) :
    l.explore m run = (.ok (l.fixesIn m), (l.explore m run).2) ∧
      l.Advances (l.recordsAt m m.tree.conditionals) run (l.explore m run).2 := by
  rcases (tracks_advances l).exploreAll m m.tree.conditionals run with
    ⟨reached, hreaches, hadvances⟩
  cases hreaches with
  | all hreached hanswer =>
      subst hreached
      exact ⟨Prod.ext hanswer rfl, hadvances⟩
  | upTo _ hpath => exact absurd hpath (SourceModule.not_meetsUnusable h _ _)

/-! ## A scan, file by file -/

variable {parser : SourceModule.Parser} {first : Disk} {opened : Run} {files : List Text}
  {target : Place} {text : Text}

/-- The fixes that a file leads to, which are none if it cannot be parsed. -/
def fixesAt (l : Ledgers) (parser : SourceModule.Parser) (d : Disk) (text : Text) : List Fix :=
  ((SourceModule.found? parser d text).map l.fixesIn).getD []

/-- The warning about a file that cannot be parsed. -/
def skipNotice (text : Text) : Text :=
  "Skipping unparseable file: " ++ text

/-- How far a run has come that opened its ledgers on a first disk and has explored some files: the
ledger of fixes is made of the fixes of these files, no other file has changed, each of the files
that cannot be parsed has led to a warning, and each record that no file can hold to an error. -/
structure Scanning (l : Ledgers) (parser : SourceModule.Parser) (first : Disk) (opened : Run)
    (files : List Text) (run : Run) : Prop where
  holds : ∃ records : Channel → List Record,
    records .fixes = (files.flatMap (l.fixesAt parser opened.disk)).map Fix.record ∧
      (l.Holds first run.disk fun channel => l.held (records channel)) ∧
      (run.said .error).Perm (opened.said .error ++
        (l.refusals .violations (records .violations) ++ l.refusals .fixes (records .fixes)))
  alters : Disk.AltersContents (l.IsKeptAt opened.disk) opened.disk run.disk
  warnings : run.said .warning = opened.said .warning ++
    (files.filter fun text => (SourceModule.found? parser opened.disk text).isNone).map skipNotice
  steps : run.said .step = opened.said .step

/-- A scan starts when the ledgers are open. -/
theorem scanning_nil (parser : SourceModule.Parser)
    (h : l.Holds first opened.disk fun _ => []) :
    l.Scanning parser first opened [] opened where
  holds := ⟨fun _ => [], rfl, h, by simp [refusals]⟩
  alters := ⟨rfl, fun _ hq => ⟨h.exists_file hq, h.exists_file hq⟩, fun _ _ => rfl⟩
  warnings := by simp
  steps := rfl

/-- The files of a module that is loaded from an absolute path have addresses. -/
theorem hasAddresses_of_load? {m : SourceModule} (hparser : parser.NamesFiles)
    (hload : SourceModule.load? parser d text = .ok (some m))
    (habsolute : (Path.parse text).isAbsolute = true) : m.HasAddresses := by
  intro c hc
  rcases (SourceModule.of_load? hload).2.2 with ⟨q, source, htree⟩
  unfold SourceModule.homeOf
  cases horigin : c.origin with
  | own name => exact SourceModule.hasUnusablePath_of_load? hload habsolute
  | foreign name home => exact hparser q source _ htree c hc name home horigin

/-- A file that cannot be parsed leads to a warning, and any other one to its fixes. -/
theorem exploreFile_eq (hparser : parser.NamesFiles)
    (hload : SourceModule.load? parser run.disk text = .ok (SourceModule.found? parser d text))
    (habsolute : (Path.parse text).isAbsolute = true) :
    ∃ after, l.exploreFile parser text run = (.ok (l.fixesAt parser d text), after) ∧
      match SourceModule.found? parser d text with
      | none => after = run.note .warning (skipNotice text)
      | some m => m.HasAddresses ∧ after = (l.explore m run).2 := by
  unfold exploreFile fixesAt
  rw [hload]
  cases hfound : SourceModule.found? parser d text with
  | none => exact ⟨_, rfl, rfl⟩
  | some m =>
      rw [hfound] at hload
      have haddresses := hasAddresses_of_load? hparser hload habsolute
      exact ⟨_, (explore_of_hasAddresses haddresses run).1, haddresses, rfl⟩

/-- Every file that is explored brings the scan further. -/
theorem scanning_exploreFile (hparser : parser.NamesFiles) (hclear : first.faults = [])
    (h : l.Scanning parser first opened files run) (hsource : opened.disk.IsSource target text)
    (htakes : opened.disk.Takes (Path.parse text)) :
    ∃ after, l.exploreFile parser text run = (.ok (l.fixesAt parser opened.disk text), after) ∧
      l.Scanning parser first opened (files ++ [text]) after := by
  -- The file has not changed since the ledgers were opened: only ledgers have.
  have hload : SourceModule.load? parser run.disk text =
      .ok (SourceModule.found? parser opened.disk text) := by
    rw [SourceModule.load?_eq h.alters (not_isKeptAt hsource.suffix _),
      SourceModule.load?_eq_found? parser htakes]
  rcases exploreFile_eq (l := l) hparser hload hsource.isAbsolute with ⟨after, hexplore, hafter⟩
  refine ⟨after, hexplore, ?_⟩
  rcases h.holds with ⟨records, hrecords, hholds, herrors⟩
  cases hfound : SourceModule.found? parser opened.disk text with
  | none =>
      rw [hfound] at hafter
      subst hafter
      refine ⟨⟨records, ?_, hholds, ?_⟩, h.alters, ?_, ?_⟩
      · simp [hrecords, fixesAt, hfound]
      · rwa [Run.said_note_of_ne (by decide)]
      · simp [Run.said_note, h.warnings, hfound]
      · rw [Run.said_note_of_ne (by decide), h.steps]
  | some m =>
      rw [hfound] at hafter
      rcases hafter with ⟨haddresses, rfl⟩
      have hadvances := (explore_of_hasAddresses (l := l) haddresses run).2
      have hlater := hadvances.holds hclear hholds
      simp only [← held_append] at hlater
      -- The ledgers are the only files that exploring changes, and they stay files.
      have hhere := hadvances.here.trans h.alters.here
      refine ⟨⟨_, ?_, hlater, ?_⟩, ⟨hhere, ?_, ?_⟩, ?_, ?_⟩
      · simp [hrecords, recordsAt_fixes, fixesAt, fixesIn, hfound]
      · exact errors_trans herrors (hadvances.errors hclear hholds)
      · intro q hq
        exact ⟨(h.alters.files q hq).1, hlater.exists_file (by rwa [isKeptAt_congr hhere])⟩
      · intro q hq
        rw [← h.alters.elsewhere q hq]
        exact hadvances.elsewhere q (by rwa [isKeptAt_congr h.alters.here])
      · rw [hadvances.said .warning (by decide) (by decide), h.warnings]
        simp [hfound]
      · rw [hadvances.said .step (by decide) (by decide), h.steps]

theorem scanning_exploreFiles (hparser : parser.NamesFiles) (hclear : first.faults = [])
    {rest : List Text}
    (h : l.Scanning parser first opened files run)
    (hsource : ∀ text ∈ rest, opened.disk.IsSource target text)
    (htakes : ∀ text ∈ rest, opened.disk.Takes (Path.parse text)) :
    ∃ after, l.exploreFiles parser rest run =
        (.ok (rest.flatMap (l.fixesAt parser opened.disk)), after) ∧
      l.Scanning parser first opened (files ++ rest) after := by
  induction rest generalizing files run with
  | nil => exact ⟨run, rfl, by simpa using h⟩
  | cons text rest ih =>
      rcases scanning_exploreFile hparser hclear h (hsource text List.mem_cons_self)
        (htakes text List.mem_cons_self) with ⟨next, hfirst, hnext⟩
      rcases ih hnext (fun text' htext' => hsource text' (List.mem_cons_of_mem _ htext'))
        (fun text' htext' => htakes text' (List.mem_cons_of_mem _ htext')) with
        ⟨after, hrest, hafter⟩
      refine ⟨after, ?_, by simpa using hafter⟩
      simp only [exploreFiles, hfirst, hrest, List.flatMap_cons]

/-! ## A whole scan -/

/-- A scan comes to its end, unless some path is too long for the system. -/
theorem scan_eq (hparser : parser.NamesFiles) {target : Text} (hclear : first.faults = [])
    (hopened : l.Holds first opened.disk fun _ => []) (hnull : Disk.isRefused target = false)
    (htarget : opened.disk.Takes ⟨1, opened.disk.placeOf target⟩)
    (htakes : ∀ text, opened.disk.IsSource (opened.disk.placeOf target) text →
      opened.disk.Takes (Path.parse text)) :
    ∃ files explored,
      l.scan parser target opened = (.exit 0,
        (l.summary files (files.flatMap (l.fixesAt parser opened.disk))).foldl
          (fun run message => run.note .step message) explored) ∧
      files.Pairwise (· < ·) ∧
      (∀ text, text ∈ files ↔ opened.disk.IsSource (opened.disk.placeOf target) text) ∧
      l.Scanning parser first opened files explored := by
  rcases Disk.sourceFiles_eq hnull htarget with ⟨files, hfiles, hascending, hmem⟩
  rcases scanning_exploreFiles hparser hclear (scanning_nil parser hopened)
    (fun text htext => (hmem text).1 htext)
    (fun text htext => htakes text ((hmem text).1 htext)) with ⟨explored, hexplore, hscanning⟩
  refine ⟨files, explored, ?_, hascending, hmem, hscanning⟩
  unfold scan
  rw [hfiles]
  dsimp only
  rw [hexplore]

/-- The lines of a ledger that holds some records: one for each of them. -/
theorem linesAt_fixes {rs : List Record} (hclear : first.faults = [])
    (h : l.Holds first d records) (hkept : l.config.suggest.isActive = true)
    (hrecords : records .fixes = rs) :
    d.readBytes (Path.parse l.fixPath) = .ok (l.written .fixes rs).toUTF8 ∧
      ∃ header rows, LedgerView.linesAt d l.fixPath = .ok (header :: rows) ∧
        rows.length = rs.length := by
  subst hrecords
  have hread := h.kept .fixes hkept
  refine ⟨?_, ?_⟩
  · rw [← hread]
    exact congrArg d.readBytes (Channel.parse_path l .fixes)
  · have hfault := Disk.fault?_of_clear (h.faults.trans hclear) .readText
    have hlines := linesAt_of_readBytes hfault (h.usable .fixes hkept) (h.covered .fixes hkept)
      hread
    exact ⟨_, _, hlines, by simp⟩

/-- Where no fixes are asked for, no module leads to any. -/
theorem fixesIn_of_inactive (h : l.config.suggest.isActive = false) (m : SourceModule) :
    l.fixesIn m = [] := by
  refine List.filterMap_eq_nil_iff.2 ?_
  intro c _
  cases hfix : l.fixAt? m c with
  | none => rfl
  | some f =>
      cases fixAt?_eq_some_iff.1 hfix with
      | check _ hactive =>
          rw [h] at hactive
          cases hactive

theorem fixesAt_of_inactive (h : l.config.suggest.isActive = false) (d : Disk) (text : Text) :
    l.fixesAt parser d text = [] := by
  unfold fixesAt
  cases SourceModule.found? parser d text with
  | none => rfl
  | some m => exact fixesIn_of_inactive h m

theorem flatMap_fixesAt (l : Ledgers) (parser : SourceModule.Parser) (d : Disk)
    (files : List Text) : files.flatMap (l.fixesAt parser d) =
      (files.filterMap (SourceModule.found? parser d)).flatMap l.fixesIn := by
  induction files with
  | nil => rfl
  | cons text rest ih =>
      cases hfound : SourceModule.found? parser d text <;> simp [fixesAt, hfound, ih]

end Ledgers
end Nullability
