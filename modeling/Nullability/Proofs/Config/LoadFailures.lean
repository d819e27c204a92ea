import Nullability.Proofs.Config.Discovery

/-!
# How loading fails

A file that is named is loaded as a table or refused. What is discovered is best effort, so that it
is a table even where nothing can be used. Both have exceptions.

* `Disk.BreaksDiscovery`: the exceptions of discovery, all of them by the nearest project file;
* `discover?_error_iff`, `discover?_eq_table`: discovery fails in no other way;
* `load?_failures`: how loading ends, whether a file is named or not.
-/

namespace Nullability

/-- Discovery breaks off, and with which failure. -/
inductive Disk.BreaksDiscovery (disk : Disk) : LoadError → Prop where
  /-- The nearest project file has no text in it. -/
  | undecodable {p : Place} {content : ByteArray}
      (hnearest : Config.IsNearest disk.tree disk.here p (.file content))
      (hbytes : Encoding.utf8.decode? content = none) : BreaksDiscovery disk (.raw .undecodable)
  /-- The nearest project file is well formed, but an integer in it cannot be taken in. -/
  | integer {p : Place} {content : ByteArray}
      (hnearest : Config.IsNearest disk.tree disk.here p (.file content))
      (hlong : Config.Holds content Toml.read? (.error .integerTooLong)) :
      BreaksDiscovery disk .integerTooLong

namespace Config

variable {disk : Disk} {path : Text} {document : Document} {e : LoadError}

/-! ## Discovery -/

theorem discover?_of_breaksDiscovery (h : disk.BreaksDiscovery e) : discover? disk = .error e := by
  cases h with
  | undecodable hnearest hbytes =>
      exact discover?_of_undecodable (search_some_iff.2 hnearest) hbytes
  | integer hnearest hlong =>
      exact discover?_of_integerTooLong (search_some_iff.2 hnearest) hlong

/-- Discovery gives a table, unless the nearest project file breaks it off. -/
theorem discover?_cases (disk : Disk) :
    (∃ entries, discover? disk = .ok (.table entries)) ∨ ∃ e, disk.BreaksDiscovery e := by
  rcases exists_search disk.tree disk.here with ⟨end?, hend⟩
  cases end? with
  | none => exact Or.inl ⟨[], discover?_of_none hend⟩
  | some found =>
      obtain ⟨p, entry⟩ := found
      have hnearest := search_some_iff.1 hend
      cases entry with
      | directory => exact Or.inl ⟨[], discover?_of_directory hend⟩
      | file content =>
          rcases holds_cases content Toml.read? with hbytes | hmalformed | hlong | ⟨document, hread⟩
          · exact Or.inr ⟨_, .undecodable hnearest hbytes⟩
          · exact Or.inl ⟨[], discover?_of_malformed hend hmalformed⟩
          · exact Or.inr ⟨_, .integer hnearest hlong⟩
          · exact Or.inl ⟨_, discover?_of_document hend hread⟩

theorem discover?_error_iff : discover? disk = .error e ↔ disk.BreaksDiscovery e := by
  refine ⟨?_, discover?_of_breaksDiscovery⟩
  intro h
  rcases discover?_cases disk with ⟨entries, htable⟩ | ⟨e', hbreaks⟩
  · rw [h] at htable
    cases htable
  · rw [discover?_of_breaksDiscovery hbreaks] at h
    cases h
    exact hbreaks

theorem discover?_eq_table (h : discover? disk = .ok document) :
    ∃ entries, document = .table entries := by
  rcases discover?_cases disk with ⟨entries, htable⟩ | ⟨e, hbreaks⟩
  · rw [h] at htable
    cases htable
    exact ⟨entries, rfl⟩
  · rw [discover?_of_breaksDiscovery hbreaks] at h
    cases h

/-! ## Named files -/

theorem loadNamed?_eq_table (h : loadNamed? disk path = .ok document) :
    ∃ entries, document = .table entries := by
  rcases loadNamed?_cases disk path with ⟨entries, htable⟩ | ⟨e, hrefused, -⟩ | ⟨e, hbreaks⟩
  · rw [h] at htable
    cases htable
    exact ⟨entries, rfl⟩
  · rw [h] at hrefused
    cases hrefused
  · rw [loadNamed?_of_breaksOff hbreaks] at h
    cases h

theorem loadNamed?_error (h : loadNamed? disk path = .error e) :
    e.IsRefusal (Path.parse path).render ∨ disk.BreaksOff path e := by
  rcases loadNamed?_cases disk path with ⟨entries, htable⟩ | ⟨e', hrefused, his⟩ | ⟨e', hbreaks⟩
  · rw [h] at htable
    cases htable
  · rw [h] at hrefused
    cases hrefused
    exact Or.inl his
  · rw [loadNamed?_of_breaksOff hbreaks] at h
    cases h
    exact Or.inr hbreaks

/-! ## Loading -/

/-- Loading a file that is named gives a table or is refused with the path of the file, except for
a path that cannot be asked for and an integer that is too long. Discovery gives a table, the empty
one where the nearest project file cannot be read or parsed, except for one that has no text or an
integer that is too long. -/
theorem load?_failures (disk : Disk) :
    (∀ path? document, load? disk path? = .ok document → ∃ entries, document = .table entries) ∧
      (∀ path e, load? disk (some path) = .error e →
        e.IsRefusal (Path.parse path).render ∨ disk.BreaksOff path e) ∧
      (∀ path e, disk.BreaksOff path e → load? disk (some path) = .error e) ∧
      (∀ e, load? disk none = .error e ↔ disk.BreaksDiscovery e) ∧
      (∀ p, IsNearest disk.tree disk.here p .directory → load? disk none = .ok (.table [])) ∧
      ∀ p content, IsNearest disk.tree disk.here p (.file content) →
        Holds content Toml.read? (.error .malformed) → load? disk none = .ok (.table []) := by
  refine ⟨?_, fun path e => loadNamed?_error, fun path e => loadNamed?_of_breaksOff,
    fun e => discover?_error_iff, ?_, ?_⟩
  · intro path? document h
    cases path? with
    | none => exact discover?_eq_table h
    | some path => exact loadNamed?_eq_table h
  · intro p hnearest
    exact discover?_of_directory (search_some_iff.2 hnearest)
  · intro p content hnearest hread
    exact discover?_of_malformed (search_some_iff.2 hnearest) hread

/-- A project file without a text breaks discovery off, while by name it is refused; and a path
with a null character is not refused either. -/
theorem load?_failures_escape :
    let disk := twoProjects (.file ⟨#[0xff]⟩)
    load? disk none = .error (.raw .undecodable) ∧
      (∃ e, load? disk (some "/work/pyproject.toml") = .error e ∧
        e.IsRefusal "/work/pyproject.toml") ∧
      load? disk (some "a\x00b") = .error (.raw .nullInPath) ∧
      ∀ path, ¬ LoadError.IsRefusal path (.raw .nullInPath) := by
  intro disk
  have hbytes : Encoding.utf8.decode? ⟨#[0xff]⟩ = none := by decide
  have hsearch := search_twoProjects (.file ⟨#[0xff]⟩)
  have hpath := (isReachable_twoProjects (.file ⟨#[0xff]⟩)).leadsTo_render
  rcases parseFile_of_undecodable hbytes (Path.parse "/work/pyproject.toml") with ⟨detail, hrefused⟩
  have hnamed : load? disk (some "/work/pyproject.toml") =
      .error (.unreadable "/work/pyproject.toml" detail) := by
    calc
      load? disk (some "/work/pyproject.toml") =
          parseFile (Path.parse "/work/pyproject.toml") ⟨#[0xff]⟩ :=
        loadNamed?_of_file hpath (search_some_iff.1 hsearch).stands
      _ = .error (.unreadable "/work/pyproject.toml" detail) := hrefused
  exact ⟨discover?_of_undecodable hsearch hbytes, ⟨_, hnamed, rfl⟩, rfl, fun path => id⟩

/-- A directory in place of the nearest project file is no failure. A path at which nothing stands
is refused, and one that cannot be asked for breaks off. -/
theorem load?_failures_absent :
    let disk := twoProjects .directory
    load? disk none = .ok (.table []) ∧
      load? disk (some "a\x00b") = .error (.raw .nullInPath) ∧
      ∀ e, load? disk (some "absent.json") = .error e → e.IsRefusal "absent.json" := by
  intro disk
  rcases load?_failures disk with ⟨-, hrefused, hbreaks, -, hdirectory, -⟩
  have hnearest := search_some_iff.1 (search_twoProjects .directory)
  have hbreak : load? disk (some "a\x00b") = .error (.raw (Disk.refusal "a\x00b")) :=
    hbreaks _ _ (.refused (by decide))
  have hnull : Disk.refusal "a\x00b" = .nullInPath := by decide
  refine ⟨hdirectory _ hnearest, hnull ▸ hbreak, ?_⟩
  intro e h
  rcases hrefused _ _ h with hrefusal | hoff
  · exact hrefusal
  · -- The path can be asked for, and nothing is there to be read.
    cases hoff with
    | refused hrefused => exact absurd hrefused (by decide)
    | integer _ hread _ => cases hread

end Config
end Nullability
