import Nullability.Config.File
import Nullability.Proofs.Disk.Effects

/-!
# Documents of files that are named

What a named file is loaded as goes by its bytes, and by its name for the notation that they are
read in.

* `LoadError.IsRefusal`: the failures that a document is refused with, which name its path;
* `Config.Holds`: bytes that are a text whose reading ends in a given way, and `holds_cases`;
* `parseFile_of_undecodable` to `parseFile_of_json`: one equation for each of these ways;
* `Disk.BreaksOff`: the failures that are no refusals, and when they happen;
* `loadNamed?_cases`: a file that is named is loaded as a table, or refused, or its loading breaks
  off.
-/

namespace Nullability

/-- The failures that the document at a path is refused with. Any other one comes through as what
it is. -/
def LoadError.IsRefusal (path : Text) : LoadError → Prop
  | unreadable named _ => named = path
  | notTable named => named = path
  | integerTooLong => False
  | raw _ => False

/-- A text that is TOML stands for a table. -/
theorem Toml.read?_eq_table {s : Text} {document : Document} (h : read? s = .ok document) :
    ∃ entries, document = .table entries := by
  unfold read? at h
  cases hstate : readStatements? ((unifyLineEnds s.toList).length + 1) State.initial
    (unifyLineEnds s.toList) with
  | error e => simp [hstate, Except.map] at h
  | ok state =>
      refine ⟨state.entries, ?_⟩
      simpa [hstate, Except.map, eq_comm] using h

namespace Config

/-! ## Bytes and what they hold -/

/-- What a text stands for in the notation that the name of its file promises. -/
def readAs (path : Path) (text : Text) : Except Document.ReadError Document :=
  if FileName.suffix path.name = ".toml" then Toml.read? text else Json.read? text

/-- The bytes are a text, and reading it ends so. -/
def Holds (content : ByteArray) (read? : Text → Except Document.ReadError Document)
    (result : Except Document.ReadError Document) : Prop :=
  ∃ text, Encoding.utf8.decode? content = some text ∧ read? text = result

variable {path : Path} {content : ByteArray} {document : Document}

theorem readAs_of_toml (h : FileName.suffix path.name = ".toml") : readAs path = Toml.read? := by
  funext text
  rw [readAs, if_pos h]

/-- Bytes are no text, or a text that breaks the rules, has an integer that is too long, or stands
for a document. -/
theorem holds_cases (content : ByteArray)
    (read? : Text → Except Document.ReadError Document) :
    Encoding.utf8.decode? content = none ∨ Holds content read? (.error .malformed) ∨
      Holds content read? (.error .integerTooLong) ∨
        ∃ document, Holds content read? (.ok document) := by
  cases hdecode : Encoding.utf8.decode? content with
  | none => exact Or.inl rfl
  | some text =>
      cases hread : read? text with
      | ok document => exact Or.inr (Or.inr (Or.inr ⟨document, text, hdecode, hread⟩))
      | error e =>
          cases e with
          | malformed => exact Or.inr (Or.inl ⟨text, hdecode, hread⟩)
          | integerTooLong => exact Or.inr (Or.inr (Or.inl ⟨text, hdecode, hread⟩))

/-- Bytes hold at most one thing. -/
theorem Holds.unique {read? : Text → Except Document.ReadError Document}
    {result other : Except Document.ReadError Document} (h : Holds content read? result)
    (h' : Holds content read? other) : result = other := by
  rcases h with ⟨text, hdecode, rfl⟩
  rcases h' with ⟨text', hdecode', rfl⟩
  rw [hdecode] at hdecode'
  cases hdecode'
  rfl

/-- What is written in UTF-8 holds what its text stands for. -/
theorem holds_toUTF8 (read? : Text → Except Document.ReadError Document) {text : Text}
    (h : Encoding.utf8.covers text = true) : Holds text.toUTF8 read? (read? text) :=
  ⟨text, Encoding.decode?_toUTF8 h, rfl⟩

theorem parseFile_of_undecodable (h : Encoding.utf8.decode? content = none) (path : Path) :
    ∃ detail, parseFile path content = .error (.unreadable path.render detail) := by
  simp [parseFile, h]

theorem parseFile_of_malformed (h : Holds content (readAs path) (.error .malformed)) :
    ∃ detail, parseFile path content = .error (.unreadable path.render detail) := by
  rcases h with ⟨text, hdecode, hread⟩
  unfold readAs at hread
  by_cases htoml : FileName.suffix path.name = ".toml"
  · rw [if_pos htoml] at hread
    simp [parseFile, hdecode, htoml, hread, LoadError.ofReading]
  · rw [if_neg htoml] at hread
    simp [parseFile, hdecode, htoml, hread, LoadError.ofReading]

theorem parseFile_of_integerTooLong (h : Holds content (readAs path) (.error .integerTooLong)) :
    parseFile path content = .error .integerTooLong := by
  rcases h with ⟨text, hdecode, hread⟩
  unfold readAs at hread
  by_cases htoml : FileName.suffix path.name = ".toml"
  · rw [if_pos htoml] at hread
    simp [parseFile, hdecode, htoml, hread, LoadError.ofReading]
  · rw [if_neg htoml] at hread
    simp [parseFile, hdecode, htoml, hread, LoadError.ofReading]

theorem parseFile_of_toml (htoml : FileName.suffix path.name = ".toml")
    (h : Holds content (readAs path) (.ok document)) :
    parseFile path content = .ok (namedSettings document) := by
  rcases h with ⟨text, hdecode, hread⟩
  rw [readAs, if_pos htoml] at hread
  simp [parseFile, hdecode, htoml, hread]

theorem parseFile_of_json (htoml : FileName.suffix path.name ≠ ".toml")
    (h : Holds content (readAs path) (.ok document)) :
    (∃ entries, parseFile path content = .ok (.table entries)) ∨
      parseFile path content = .error (.notTable path.render) := by
  rcases h with ⟨text, hdecode, hread⟩
  rw [readAs, if_neg htoml] at hread
  cases document with
  | table entries => exact Or.inl ⟨entries, by simp [parseFile, hdecode, htoml, hread]⟩
  | _ => exact Or.inr (by simp [parseFile, hdecode, htoml, hread])

/-- The settings of a TOML file are a table like the file itself. -/
theorem namedSettings_eq_table (entries : List (Text × Document)) :
    ∃ found, namedSettings (.table entries) = .table found := by
  unfold namedSettings
  split
  · exact ⟨entries, rfl⟩
  · exact ⟨_, rfl⟩

/-- What a file holds is a table, or it is refused, or an integer in it is too long. -/
theorem parseFile_cases (path : Path) (content : ByteArray) :
    (∃ entries, parseFile path content = .ok (.table entries)) ∨
      (∃ e, parseFile path content = .error e ∧ e.IsRefusal path.render) ∨
        Holds content (readAs path) (.error .integerTooLong) := by
  rcases holds_cases content (readAs path) with hbytes | hmalformed | hlong | ⟨document, hread⟩
  · rcases parseFile_of_undecodable hbytes path with ⟨detail, h⟩
    exact Or.inr (Or.inl ⟨_, h, rfl⟩)
  · rcases parseFile_of_malformed hmalformed with ⟨detail, h⟩
    exact Or.inr (Or.inl ⟨_, h, rfl⟩)
  · exact Or.inr (Or.inr hlong)
  · by_cases htoml : FileName.suffix path.name = ".toml"
    · -- A TOML file is a table as a whole, and so is the section that may stand for it.
      have hsettings := parseFile_of_toml htoml hread
      rw [readAs_of_toml htoml] at hread
      rcases hread with ⟨text, -, htext⟩
      rcases Toml.read?_eq_table htext with ⟨entries, rfl⟩
      rcases namedSettings_eq_table entries with ⟨found, hfound⟩
      exact Or.inl ⟨found, by rw [hsettings, hfound]⟩
    · rcases parseFile_of_json htoml hread with htable | hother
      · exact Or.inl htable
      · exact Or.inr (Or.inl ⟨_, hother, rfl⟩)

end Config

/-! ## Named files -/

/-- Loading a named file breaks off, and with which failure. -/
inductive Disk.BreaksOff (disk : Disk) (path : Text) : LoadError → Prop where
  /-- The path cannot even be asked for. -/
  | refused (hrefused : isRefused path = true) :
      BreaksOff disk path (.raw (refusal (Path.parse path).render))
  /-- The file is there and well formed, but an integer in it cannot be taken in. -/
  | integer {content : ByteArray} (hnull : isRefused path = false)
      (hread : disk.readBytes (Path.parse path) = .ok content)
      (hlong : Config.Holds content (Config.readAs (Path.parse path)) (.error .integerTooLong)) :
      BreaksOff disk path .integerTooLong

namespace Config

variable {disk : Disk} {path : Text} {e : LoadError}

theorem loadNamed?_of_breaksOff (h : disk.BreaksOff path e) :
    loadNamed? disk path = .error e := by
  cases h with
  | refused hrefused => simp [loadNamed?, hrefused]
  | integer hnull hread hlong =>
      simp [loadNamed?, hnull, hread, parseFile_of_integerTooLong hlong]

/-- A file that is named is loaded as a table, or refused with a failure that names its path, or
its loading breaks off. -/
theorem loadNamed?_cases (disk : Disk) (path : Text) :
    (∃ entries, loadNamed? disk path = .ok (.table entries)) ∨
      (∃ e, loadNamed? disk path = .error e ∧ e.IsRefusal (Path.parse path).render) ∨
        ∃ e, disk.BreaksOff path e := by
  cases hnull : Disk.isRefused path with
  | true => exact Or.inr (Or.inr ⟨_, .refused hnull⟩)
  | false =>
      cases hread : disk.readBytes (Path.parse path) with
      | error e =>
          refine Or.inr (Or.inl ⟨.unreadable (Path.parse path).render e.message, ?_, rfl⟩)
          simp [loadNamed?, hnull, hread]
      | ok content =>
          have hload : loadNamed? disk path = parseFile (Path.parse path) content := by
            simp [loadNamed?, hnull, hread]
          rw [hload]
          rcases parseFile_cases (Path.parse path) content with htable | hrefused | hlong
          · exact Or.inl htable
          · exact Or.inr (Or.inl hrefused)
          · exact Or.inr (Or.inr ⟨_, .integer hnull hread hlong⟩)

end Config
end Nullability
