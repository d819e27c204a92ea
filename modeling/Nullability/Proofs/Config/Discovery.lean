import Nullability.Proofs.Config.Files
import Nullability.Proofs.Disk.Reaching
import Nullability.Proofs.Toml.LongIntegers

/-!
# Documents that are discovered

Where no file is named, the settings are those of the nearest project file.

* `Config.Search`: the walk upwards, one directory at a time, and how it ends;
* `search_some_iff`, `search_none_iff`: what it finds is the nearest project file, if there is one;
* `discover?_of_none` to `discover?_of_document`: what is made of the file, by what it holds;
* `ProjectLoads`, `projectLoads`: what is discovered there beside what is loaded from there by name;
* `load?_nearest`: the settings are those of the nearest project file, whatever else there is.
-/

namespace Nullability

/-! ## Ways to places -/

namespace Place

/-- The way to a place ends there. -/
theorem way_eq (p : Place) : p.way = (List.range p.length).map (fun n => p.take n) ++ [p] := by
  rw [way, List.range_succ, List.map_append, List.map_singleton, List.take_length]

theorem way_concat (p : Place) (name : Text) :
    Place.way (p ++ [name]) = p.way ++ [p ++ [name]] := by
  have htake : (List.range (p.length + 1)).map (fun n => (p ++ [name]).take n) = p.way := by
    refine List.map_congr_left ?_
    intro n hn
    exact List.take_append_of_le_length (Nat.lt_succ_iff.1 (List.mem_range.1 hn))
  rw [way_eq, List.length_append, List.length_singleton, htake]

end Place

namespace Config

/-! ## The walk upwards -/

/-- The walk upwards from a place ends so: in a place that has a project file, with what stands
there, or at the top without one. -/
inductive Search (tree : FileTree) : Place → Option (Place × Entry) → Prop where
  | found {here : Place} {entry : Entry} (hentry : tree.at? (here ++ [projectFile]) = some entry) :
      Search tree here (some (here, entry))
  | top (hnone : tree.at? ([] ++ [projectFile]) = none) : Search tree [] none
  | up {above : Place} {name : Text} {end? : Option (Place × Entry)}
      (hnone : tree.at? ((above ++ [name]) ++ [projectFile]) = none)
      (habove : Search tree above end?) : Search tree (above ++ [name]) end?

/-- A place on the way to another has a project file, and none that is nearer has one. -/
structure IsNearest (tree : FileTree) (here p : Place) (entry : Entry) : Prop where
  above : p <+: here
  stands : tree.at? (p ++ [projectFile]) = some entry
  nearer : ∀ q, q <+: here → p <+: q → q ≠ p → tree.at? (q ++ [projectFile]) = none

variable {tree : FileTree} {here p : Place} {entry : Entry} {end? : Option (Place × Entry)}

/-- From everywhere the walk comes to an end. -/
theorem exists_search (tree : FileTree) (here : Place) : ∃ end?, Search tree here end? := by
  induction here using List.reverseRecOn with
  | nil =>
      cases h : tree.at? ([] ++ [projectFile]) with
      | none => exact ⟨_, .top h⟩
      | some entry => exact ⟨_, .found h⟩
  | append_singleton above name ih =>
      cases h : tree.at? ((above ++ [name]) ++ [projectFile]) with
      | none =>
          rcases ih with ⟨end?, habove⟩
          exact ⟨_, .up h habove⟩
      | some entry => exact ⟨_, .found h⟩

theorem nearestProject?_of_entry (h : tree.at? (here ++ [projectFile]) = some entry) :
    nearestProject? tree here = some entry := by
  rw [nearestProject?, Place.way_eq, List.reverse_concat, List.findSome?_cons, h]

theorem nearestProject?_concat {above : Place} {name : Text}
    (h : tree.at? ((above ++ [name]) ++ [projectFile]) = none) :
    nearestProject? tree (above ++ [name]) = nearestProject? tree above := by
  rw [nearestProject?, Place.way_concat, List.reverse_concat, List.findSome?_cons, h]
  rfl

/-- What the loader looks up is where the walk ends. -/
theorem nearestProject?_of_search (h : Search tree here end?) :
    nearestProject? tree here = end?.map Prod.snd := by
  induction h with
  | found hentry => exact nearestProject?_of_entry hentry
  | top hnone =>
      rw [nearestProject?, Place.way_eq, List.reverse_concat, List.findSome?_cons, hnone]
      rfl
  | up hnone _ ih => exact (nearestProject?_concat hnone).trans ih

theorem isNearest_of_search (h : Search tree here (some (p, entry))) :
    IsNearest tree here p entry := by
  -- The induction is on the walk, and each step up passes a place without a project file.
  generalize hend : some (p, entry) = end? at h
  induction h with
  | found hentry =>
      cases hend
      refine ⟨List.prefix_rfl, hentry, ?_⟩
      intro q hq hp hne
      exact absurd (hq.eq_of_length_le hp.length_le) hne
  | top => cases hend
  | @up above name end? hnone _ ih =>
      have hnearest := ih hend
      refine ⟨hnearest.above.trans (List.prefix_append _ _), hnearest.stands, ?_⟩
      intro q hq hp hne
      rcases List.prefix_concat_iff.1 hq with rfl | hq
      · exact hnone
      · exact hnearest.nearer q hq hp hne

theorem none_of_search (h : Search tree here none) {q : Place} (hq : q <+: here) :
    tree.at? (q ++ [projectFile]) = none := by
  generalize hend : none = end? at h
  induction h with
  | found => cases hend
  | top hnone =>
      obtain rfl := List.prefix_nil.1 hq
      exact hnone
  | @up above name end? hnone _ ih =>
      rcases List.prefix_concat_iff.1 hq with rfl | hq
      · exact hnone
      · exact ih hq hend

/-- There is at most one nearest project file. -/
theorem IsNearest.unique {q : Place} {other : Entry} (h : IsNearest tree here p entry)
    (h' : IsNearest tree here q other) : p = q ∧ entry = other := by
  -- Both places are on one way, and the nearer one hides the other.
  have hplace : p = q := by
    by_contra hne
    rcases List.prefix_or_prefix_of_prefix h.above h'.above with hpq | hqp
    · have hnone := h.nearer q h'.above hpq (Ne.symm hne)
      rw [h'.stands] at hnone
      cases hnone
    · have hnone := h'.nearer p h.above hqp hne
      rw [h.stands] at hnone
      cases hnone
  subst hplace
  exact ⟨rfl, Option.some.inj (h.stands.symm.trans h'.stands)⟩

theorem IsNearest.not_none (h : IsNearest tree here p entry)
    (hnone : Search tree here none) : False := by
  have hmissing := none_of_search hnone h.above
  rw [h.stands] at hmissing
  cases hmissing

theorem search_some_iff :
    Search tree here (some (p, entry)) ↔ IsNearest tree here p entry := by
  refine ⟨isNearest_of_search, ?_⟩
  intro h
  -- The walk ends somewhere, and where it ends is nearest, of which there is one.
  rcases exists_search tree here with ⟨end?, hend⟩
  cases end? with
  | none => exact (h.not_none hend).elim
  | some found =>
      rcases h.unique (isNearest_of_search hend) with ⟨rfl, rfl⟩
      exact hend

theorem search_none_iff :
    Search tree here none ↔ ∀ q, q <+: here → tree.at? (q ++ [projectFile]) = none := by
  refine ⟨fun h q hq => none_of_search h hq, ?_⟩
  intro h
  rcases exists_search tree here with ⟨end?, hend⟩
  cases end? with
  | none => exact hend
  | some found =>
      have hnearest := isNearest_of_search hend
      exact absurd (h _ hnearest.above) (by simp [hnearest.stands])

/-- The walk does not end in two ways. -/
theorem Search.unique {other? : Option (Place × Entry)} (h : Search tree here end?)
    (h' : Search tree here other?) : end? = other? := by
  cases end? with
  | none =>
      cases other? with
      | none => rfl
      | some found => exact ((isNearest_of_search h').not_none h).elim
  | some found =>
      cases other? with
      | none => exact ((isNearest_of_search h).not_none h').elim
      | some other =>
          rcases (isNearest_of_search h).unique (isNearest_of_search h') with ⟨hplace, hentry⟩
          exact congrArg some (Prod.ext hplace hentry)

/-! ## What is discovered -/

section Discovered

variable {disk : Disk} {content : ByteArray} {document : Document}
  {entries : List (Text × Document)}

/-- The section of a document for the settings is a table with something in it. -/
structure HasSection (document : Document) (entries : List (Text × Document)) : Prop where
  table : document.follow? projectSection = some (.table entries)
  nonempty : entries ≠ []

theorem sectionEntries_of_hasSection (h : HasSection document entries) :
    sectionEntries document = entries := by
  rw [sectionEntries, h.table]

theorem sectionEntries_eq_nil (h : ∀ entries, ¬ HasSection document entries) :
    sectionEntries document = [] := by
  unfold sectionEntries
  split
  · next entries htable =>
    by_contra hne
    exact h entries ⟨htable, hne⟩
  · rfl

theorem namedSettings_of_hasSection (h : HasSection document entries) :
    namedSettings document = .table entries := by
  unfold namedSettings
  rw [sectionEntries_of_hasSection h]
  split
  · next hnil => exact absurd rfl h.nonempty
  · rfl

theorem namedSettings_eq_self (h : ∀ entries, ¬ HasSection document entries) :
    namedSettings document = document := by
  rw [namedSettings, sectionEntries_eq_nil h]

/-- Disks with the same nearest project file have the same settings. -/
theorem discover?_congr {other : Disk} {other? : Option (Place × Entry)}
    (h : Search disk.tree disk.here end?) (h' : Search other.tree other.here other?)
    (hsame : other?.map Prod.snd = end?.map Prod.snd) : discover? other = discover? disk := by
  simp only [discover?, nearestProject?_of_search h, nearestProject?_of_search h', hsame]

theorem discover?_of_none (h : Search disk.tree disk.here none) :
    discover? disk = .ok (.table []) := by
  simp [discover?, nearestProject?_of_search h]

theorem discover?_of_directory (h : Search disk.tree disk.here (some (p, .directory))) :
    discover? disk = .ok (.table []) := by
  simp [discover?, nearestProject?_of_search h]

theorem discover?_of_undecodable (h : Search disk.tree disk.here (some (p, .file content)))
    (hbytes : Encoding.utf8.decode? content = none) :
    discover? disk = .error (.raw .undecodable) := by
  simp [discover?, nearestProject?_of_search h, hbytes]

theorem discover?_of_malformed (h : Search disk.tree disk.here (some (p, .file content)))
    (hread : Holds content Toml.read? (.error .malformed)) :
    discover? disk = .ok (.table []) := by
  rcases hread with ⟨text, hdecode, htext⟩
  simp [discover?, nearestProject?_of_search h, hdecode, htext]

theorem discover?_of_integerTooLong (h : Search disk.tree disk.here (some (p, .file content)))
    (hread : Holds content Toml.read? (.error .integerTooLong)) :
    discover? disk = .error .integerTooLong := by
  rcases hread with ⟨text, hdecode, htext⟩
  simp [discover?, nearestProject?_of_search h, hdecode, htext]

theorem discover?_of_document (h : Search disk.tree disk.here (some (p, .file content)))
    (hread : Holds content Toml.read? (.ok document)) :
    discover? disk = .ok (.table (sectionEntries document)) := by
  rcases hread with ⟨text, hdecode, htext⟩
  simp [discover?, nearestProject?_of_search h, hdecode, htext]

end Discovered

/-! ## Discovered and named -/

/-- What stands where a project file is looked for, what is discovered there, and what is loaded
from there by name. -/
inductive ProjectLoads (named : Text) :
    Entry → Except LoadError Document → Except LoadError Document → Prop where
  /-- The settings are in their section. -/
  | settings {content : ByteArray} {document : Document} {entries : List (Text × Document)}
      (hread : Holds content Toml.read? (.ok document)) (hsection : HasSection document entries) :
      ProjectLoads named (.file content) (.ok (.table entries)) (.ok (.table entries))
  /-- There is no such section, so by name the whole file counts. -/
  | whole {content : ByteArray} {document : Document}
      (hread : Holds content Toml.read? (.ok document))
      (hnone : ∀ entries, ¬ HasSection document entries) :
      ProjectLoads named (.file content) (.ok (.table [])) (.ok document)
  | directory {e : LoadError} (hrefused : e.IsRefusal named) :
      ProjectLoads named .directory (.ok (.table [])) (.error e)
  | malformed {content : ByteArray} {e : LoadError}
      (hread : Holds content Toml.read? (.error .malformed)) (hrefused : e.IsRefusal named) :
      ProjectLoads named (.file content) (.ok (.table [])) (.error e)
  /-- By name the file is refused, while discovery breaks off. -/
  | undecodable {content : ByteArray} {e : LoadError}
      (hbytes : Encoding.utf8.decode? content = none) (hrefused : e.IsRefusal named) :
      ProjectLoads named (.file content) (.error (.raw .undecodable)) (.error e)
  | integerTooLong {content : ByteArray}
      (hread : Holds content Toml.read? (.error .integerTooLong)) :
      ProjectLoads named (.file content) (.error .integerTooLong) (.error .integerTooLong)

section Named

variable {disk : Disk} {path : Text}

theorem suffix_projectFile : FileName.suffix projectFile = ".toml" := by decide

theorem suffix_of_leadsTo (h : disk.LeadsTo path (p ++ [projectFile])) :
    FileName.suffix (Path.parse path).name = ".toml" := by
  have hname : Place.name (p ++ [projectFile]) = projectFile := by simp [Place.name]
  rw [h.name, hname, suffix_projectFile]

theorem loadNamed?_of_file (h : disk.LeadsTo path (p ++ [projectFile])) {content : ByteArray}
    (hentry : disk.tree.at? (p ++ [projectFile]) = some (.file content)) :
    loadNamed? disk path = parseFile (Path.parse path) content := by
  simp [loadNamed?, h.usable, h.readBytes_file hentry]

/-- At the nearest project file, what is discovered and what is loaded by name stand side by
side. -/
theorem projectLoads (h : Search disk.tree disk.here (some (p, entry)))
    (hpath : disk.LeadsTo path (p ++ [projectFile])) :
    ProjectLoads (Path.parse path).render entry (discover? disk) (loadNamed? disk path) := by
  have hstands := (search_some_iff.1 h).stands
  have htoml := suffix_of_leadsTo hpath
  have hreadAs := readAs_of_toml htoml
  cases entry with
  | directory =>
      have hnamed : loadNamed? disk path = .error (.unreadable (Path.parse path).render
          (DiskError.system .isDirectory (Path.parse path).render).message) := by
        simp [loadNamed?, hpath.usable, hpath.readBytes_directory hstands]
      rw [discover?_of_directory h, hnamed]
      exact .directory rfl
  | file content =>
      -- Both read the same bytes as TOML, so one case of what they hold settles both.
      rw [loadNamed?_of_file hpath hstands]
      rcases holds_cases content Toml.read? with hbytes | hmalformed | hlong | ⟨document, hread⟩
      · rcases parseFile_of_undecodable hbytes (Path.parse path) with ⟨detail, hnamed⟩
        rw [discover?_of_undecodable h hbytes, hnamed]
        exact .undecodable hbytes rfl
      · rcases parseFile_of_malformed (hreadAs ▸ hmalformed) with ⟨detail, hnamed⟩
        rw [discover?_of_malformed h hmalformed, hnamed]
        exact .malformed hmalformed rfl
      · rw [discover?_of_integerTooLong h hlong, parseFile_of_integerTooLong (hreadAs ▸ hlong)]
        exact .integerTooLong hlong
      · rw [discover?_of_document h hread, parseFile_of_toml htoml (hreadAs ▸ hread)]
        by_cases hsection : ∃ entries, HasSection document entries
        · rcases hsection with ⟨entries, hentries⟩
          rw [sectionEntries_of_hasSection hentries, namedSettings_of_hasSection hentries]
          exact .settings hread hentries
        · have hnone : ∀ entries, ¬ HasSection document entries := not_exists.1 hsection
          rw [sectionEntries_eq_nil hnone, namedSettings_eq_self hnone]
          exact .whole hread hnone

end Named

/-! ## Settings without a named file -/

/-- The walk upwards ends in one way, and only the nearest project file counts: whatever else there
is, disks with the same one have the same settings, and without one there are none. A path that
leads to it gives the same settings, except that a file without the section counts as a whole and
that one which cannot be used is refused. Bytes that are no text break discovery off, and an integer
of too many digits both. -/
theorem load?_nearest (disk : Disk) :
    (∃! end?, Search disk.tree disk.here end?) ∧
      (∀ end?, Search disk.tree disk.here end? →
        nearestProject? disk.tree disk.here = end?.map Prod.snd) ∧
      (Search disk.tree disk.here none ↔
        ∀ q, q <+: disk.here → disk.tree.at? (q ++ [projectFile]) = none) ∧
      (∀ p entry, Search disk.tree disk.here (some (p, entry)) ↔
        IsNearest disk.tree disk.here p entry) ∧
      (Search disk.tree disk.here none → load? disk none = .ok (.table [])) ∧
      ∀ p entry, IsNearest disk.tree disk.here p entry →
        (∀ (other : Disk) (q : Place), IsNearest other.tree other.here q entry →
          load? other none = load? disk none) ∧
        (disk.IsReachable p projectFile →
          disk.LeadsTo (Place.render (p ++ [projectFile])) (p ++ [projectFile])) ∧
        ∀ path, disk.LeadsTo path (p ++ [projectFile]) →
          ProjectLoads (Path.parse path).render entry (load? disk none)
            (load? disk (some path)) := by
  refine ⟨?_, fun end? => nearestProject?_of_search, search_none_iff,
    fun p entry => search_some_iff, discover?_of_none, ?_⟩
  · -- There are no more turns upwards than names in the working directory.
    rcases exists_search disk.tree disk.here with ⟨end?, hend⟩
    exact ⟨end?, hend, fun other? hother => hother.unique hend⟩
  · intro p entry hnearest
    have hsearch := search_some_iff.2 hnearest
    refine ⟨?_, Disk.IsReachable.leadsTo_render, ?_⟩
    · intro other q hother
      exact discover?_congr hsearch (search_some_iff.2 hother) rfl
    · intro path hpath
      exact projectLoads hsearch hpath

/-- A disk where what stands in the directory above the working one hides a project file with
settings at the top. -/
def twoProjects (entry : Entry) : Disk where
  tree := ⟨[(["work"], .directory), (["work", "src"], .directory), (["work", projectFile], entry),
    ([projectFile], .file ("[tool.nullfix]\nOPTIMIZED = true\n" : Text).toUTF8)]⟩
  here := ["work", "src"]
  faults := []

theorem search_twoProjects (entry : Entry) :
    Search (twoProjects entry).tree (twoProjects entry).here (some (["work"], entry)) := by
  have hbelow : (twoProjects entry).tree.at?
      ([("work" : Text)] ++ [("src" : Text)] ++ [projectFile]) = none := rfl
  exact .up hbelow (.found rfl)

theorem isReachable_twoProjects (entry : Entry) :
    (twoProjects entry).IsReachable ["work"] projectFile where
  way := by
    refine ⟨?_, by decide⟩
    intro q hq
    have hstops : q = [] ∨ q = ["work"] := by
      simpa [Place.stops, Place.step] using hq
    rcases hstops with rfl | rfl
    · rfl
    · rfl
  names := by
    intro s hs
    have hname : s = "work" ∨ s = projectFile := by simpa using hs
    rcases hname with rfl | rfl
    · exact ⟨by decide, by decide, by decide, by decide, by decide⟩
    · exact ⟨by decide, by decide, by decide, by decide, by decide⟩
  short := by decide
  takes := by decide

theorem render_twoProjects :
    Place.render ((["work"] : Place) ++ [projectFile]) = "/work/pyproject.toml" :=
  rfl

/-- A broken project file hides a good one farther up, and only by name it is refused. -/
theorem load?_nearest_malformed :
    let disk := twoProjects (.file ("= broken\n" : Text).toUTF8)
    load? disk none = .ok (.table []) ∧
      ∃ e, load? disk (some "/work/pyproject.toml") = .error e ∧
        e.IsRefusal "/work/pyproject.toml" := by
  intro disk
  have hbroken : Holds ("= broken\n" : Text).toUTF8 Toml.read? (.error .malformed) :=
    holds_toUTF8 Toml.read? (by decide)
  have hnearest := search_some_iff.1 (search_twoProjects (.file ("= broken\n" : Text).toUTF8))
  rcases (load?_nearest disk).2.2.2.2.2 ["work"] _ hnearest with ⟨-, hleads, hpaths⟩
  have hloads := hpaths _ (hleads (isReachable_twoProjects _))
  rw [render_twoProjects] at hloads
  generalize load? disk none = discovered at hloads ⊢
  generalize load? disk (some "/work/pyproject.toml") = named at hloads ⊢
  -- What the bytes hold leaves one case only.
  cases hloads with
  | settings hread => cases hread.unique hbroken
  | whole hread => cases hread.unique hbroken
  | malformed _ hrefused => exact ⟨rfl, _, rfl, hrefused⟩
  | undecodable hbytes =>
      rcases hbroken with ⟨text, hdecode, -⟩
      rw [hbytes] at hdecode
      cases hdecode
  | integerTooLong hread => cases hread.unique hbroken

theorem load?_twoProjects_of_integerTooLong {content : ByteArray}
    (hlong : Holds content Toml.read? (.error .integerTooLong)) :
    load? (twoProjects (.file content)) none = .error .integerTooLong ∧
      load? (twoProjects (.file content)) (some "/work/pyproject.toml") =
        .error .integerTooLong := by
  have hsearch := search_twoProjects (.file content)
  have hpath := (isReachable_twoProjects (.file content)).leadsTo_render
  rw [render_twoProjects] at hpath
  have hreadAs := readAs_of_toml (suffix_of_leadsTo hpath)
  refine ⟨discover?_of_integerTooLong hsearch hlong, ?_⟩
  rw [load?, loadNamed?_of_file hpath (search_some_iff.1 hsearch).stands,
    parseFile_of_integerTooLong (hreadAs ▸ hlong)]

/-- A project file with an integer of too many digits cannot be used, whether it is discovered or
named. -/
theorem load?_nearest_integerTooLong :
    let text := Text.ofList (Toml.assignment (List.replicate 4301 (.char '1')))
    let disk := twoProjects (.file text.toUTF8)
    Encoding.utf8.decode? text.toUTF8 = some text ∧
      IsNearest disk.tree disk.here ["work"] (.file text.toUTF8) ∧
      load? disk none = .error .integerTooLong ∧
      load? disk (some "/work/pyproject.toml") = .error .integerTooLong := by
  intro text disk
  have hoverlong : Toml.IsOverlong (List.replicate 4301 (.char '1')) :=
    Toml.isOverlong_replicate (by decide)
  have hread : Toml.read? text = .error .integerTooLong := Toml.read?_assignment hoverlong
  have hcovers : Encoding.utf8.covers text = true := Toml.covers_assignment hoverlong
  have hholds := holds_toUTF8 Toml.read? hcovers
  rw [hread] at hholds
  have hnearest := search_some_iff.1 (search_twoProjects (.file text.toUTF8))
  exact ⟨Encoding.decode?_toUTF8 hcovers, hnearest, load?_twoProjects_of_integerTooLong hholds⟩

end Config
end Nullability
