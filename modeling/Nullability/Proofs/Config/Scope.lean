import Nullability.Proofs.Config.Reload

/-!
# Classes in scope

Which classes a configuration acts on whose work list was set from entries, written as a document
and loaded from there. On that way the entries are trimmed, put in order, joined by
commas, cut at commas and trimmed again, and both ends put the wildcard in place of everything.

* `WorkList.Lists`: the names that entries list, said without that way;
* `isNormal_ofText`: a work list that was read is every class, or names in one piece;
* `inScope_ofText_iff`: the classes that a work list leaves out;
* `inScope_listed`: a class is out of scope exactly if there are names, and neither the wildcard
  nor the class is one of them.
-/

namespace Nullability

namespace WorkList

/-- The names that entries list: what is left of the texts between their commas without the blanks
around them, unless nothing is left. -/
def Lists (entries : List Text) (name : Text) : Prop :=
  name ≠ "" ∧ ∃ entry ∈ entries, ∃ piece ∈ Text.piecesOf "," entry, Text.trimmed piece = name

variable {entries : List Text} {name raw : Text}

theorem lists_iff : Lists entries name ↔ name ∈ entriesOf (Text.glued "," entries) := by
  rw [mem_entriesOf_glued]
  simp only [entriesOf, mem_trimmedEntries]
  constructor
  · rintro ⟨hne, entry, hentry, hpiece⟩
    exact ⟨entry, hentry, hne, hpiece⟩
  · rintro ⟨entry, hentry, hne, hpiece⟩
    exact ⟨hne, entry, hentry, hpiece⟩

/-- A work list as it is read: every class, or some names in one piece, none of them the
wildcard. -/
def IsNormal (workList : NameSet) : Prop :=
  workList = NameSet.ofList ["*"] ∨
    workList.toList ≠ [] ∧ ∀ name ∈ workList.toList, IsName name ∧ name ≠ "*"

/-- What a text stands for: every class if it holds no name or the wildcard, and its names
otherwise. -/
theorem ofText_cases (raw : Text) :
    ofText raw = everything ∧ (entriesOf raw = [] ∨ wildcard ∈ entriesOf raw) ∨
      (entriesOf raw ≠ [] ∧ wildcard ∉ entriesOf raw) ∧
        ∀ name, name ∈ (ofText raw).toList ↔ name ∈ entriesOf raw := by
  rw [ofText_eq]
  by_cases hnone : entriesOf raw = []
  · exact Or.inl ⟨by rw [hnone, ofEntries_nil], Or.inl hnone⟩
  · by_cases hall : wildcard ∈ entriesOf raw
    · exact Or.inl ⟨ofEntries_of_wildcard hall, Or.inr hall⟩
    · refine Or.inr ⟨⟨hnone, hall⟩, fun name => ?_⟩
      rw [ofEntries_of_not_wildcard hnone hall, NameSet.mem_ofList]

theorem isNormal_ofText (raw : Text) : IsNormal (ofText raw) := by
  rcases ofText_cases raw with ⟨hall, -⟩ | ⟨⟨hsome, hwildcard⟩, hmem⟩
  · exact Or.inl hall
  · refine Or.inr ⟨?_, ?_⟩
    · rcases List.exists_mem_of_ne_nil _ hsome with ⟨name, hname⟩
      exact List.ne_nil_of_mem ((hmem name).2 hname)
    · intro name hname
      have hentry := (hmem name).1 hname
      refine ⟨isName_of_mem_entriesOf hentry, ?_⟩
      rintro rfl
      exact hwildcard hentry

end WorkList

namespace Config

variable {config : Config} {raw : Text}

/-- The classes that are left out of a work list that was read from a text. -/
theorem inScope_ofText_iff (h : config.workList = WorkList.ofText raw) (className : Text) :
    config.inScope className = false ↔ (∃ name, name ∈ WorkList.entriesOf raw) ∧
      WorkList.wildcard ∉ WorkList.entriesOf raw ∧ className ∉ WorkList.entriesOf raw := by
  have hscope : config.inScope className = false ↔
      WorkList.wildcard ∉ config.workList.toList ∧ className ∉ config.workList.toList := by
    simp [inScope, NameSet.contains]
  rw [hscope, h]
  rcases WorkList.ofText_cases raw with ⟨hall, hnames⟩ | ⟨⟨hsome, hwildcard⟩, hmem⟩
  · -- With every class in scope neither side holds.
    have hin : WorkList.wildcard ∈ (WorkList.ofText raw).toList := by
      rw [hall]
      decide
    constructor
    · rintro ⟨hout, -⟩
      exact absurd hin hout
    · rintro ⟨⟨name, hname⟩, hout, -⟩
      rcases hnames with hnone | hwildcard
      · rw [hnone] at hname
        cases hname
      · exact absurd hwildcard hout
  · rw [hmem, hmem]
    have hexists := List.exists_mem_of_ne_nil _ hsome
    simp [hexists]

end Config

/-- After the work list was set from entries, the document of the draft is loaded with the work list
of the entries joined by commas. A class is out of its scope exactly if the entries list names, but
neither the wildcard nor the class. -/
theorem Config.inScope_listed (d : Draft) (entries : List Text) (master : Bool) :
    ∃ edited, (Edit.workList entries).apply d = .ok edited ∧
      let loaded := ofDocument edited.toDocument master
      (∀ className, loaded.inScope className = false ↔
        (∃ name, WorkList.Lists entries name) ∧ ¬ WorkList.Lists entries "*" ∧
          ¬ WorkList.Lists entries className) ∧
      loaded.workList = WorkList.ofText (Text.glued "," entries) ∧
      WorkList.IsNormal loaded.workList := by
  refine ⟨{ d with workList := Edit.listed entries }, rfl, ?_⟩
  intro loaded
  -- The master switch has no part in the work list.
  have hloaded : loaded.workList =
      WorkList.ofText (WorkList.toText (Edit.listed entries)) := rfl
  have hlist : loaded.workList = WorkList.ofText (Text.glued "," entries) := by
    rw [hloaded, WorkList.ofText_toText_listed]
  refine ⟨?_, hlist, hlist ▸ WorkList.isNormal_ofText _⟩
  intro className
  simp only [WorkList.lists_iff]
  exact inScope_ofText_iff hlist className

end Nullability
