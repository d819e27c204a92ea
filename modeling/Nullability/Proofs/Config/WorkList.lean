import Mathlib.Data.List.Sort
import Nullability.Config.Edit
import Nullability.Proofs.Text.Trimming

/-!
# Work lists as texts

A work list is written as one text and read from one, and the wildcard takes the place of all
other entries. Only the names that a text holds matter for what is read:

* `mem_entriesOf_glued`: entries that are joined hold the names of each of them;
* `ofText_toText`: writing names and reading them again cuts them at commas;
* `ofText_toText_ofText`: a work list that was read is read again from its text;
* `ofText_toText_listed`: a work list put together from entries is read as those entries are,
  joined by commas.
-/

namespace Nullability

theorem NameSet.ext_mem {s t : NameSet} (h : ∀ x, x ∈ s.toList ↔ x ∈ t.toList) : s = t :=
  ext_toList (s.ascending.eq_of_mem_iff t.ascending h)

namespace WorkList

/-- The names between the commas of a text. -/
def entriesOf (raw : Text) : List Text :=
  trimmedEntries (Text.piecesOf "," raw)

/-- The work list with the given names, which is every class if they are none or if the wildcard
is one of them. -/
def ofEntries (entries : List Text) : NameSet :=
  if entries.isEmpty || entries.contains wildcard then everything else NameSet.ofList entries

theorem ofText_eq (raw : Text) : ofText raw = ofEntries (entriesOf raw) := rfl

/-! ## The names in a text -/

theorem mem_trimmedEntries {name : Text} {entries : List Text} :
    name ∈ trimmedEntries entries ↔ name ≠ "" ∧ ∃ e ∈ entries, Text.trimmed e = name := by
  simp [trimmedEntries, and_comm]

/-- A name in a text is what is left of a piece without the blanks around it. -/
theorem mem_entriesOf {name raw : Text} : name ∈ entriesOf raw ↔
    name ≠ "" ∧ name.toList ∈ (Text.pieces [.char ','] raw.toList).map Text.trim := by
  have hpieces : Text.piecesOf "," raw = (Text.pieces [.char ','] raw.toList).map Text.ofList := rfl
  rw [entriesOf, mem_trimmedEntries, hpieces, List.mem_map]
  constructor
  · rintro ⟨hne, e, he, rfl⟩
    rcases List.mem_map.1 he with ⟨piece, hpiece, rfl⟩
    exact ⟨hne, piece, hpiece, by simp [Text.trimmed]⟩
  · rintro ⟨hne, piece, hpiece, hname⟩
    refine ⟨hne, Text.ofList piece, List.mem_map_of_mem hpiece, ?_⟩
    simp [Text.trimmed, hname]

theorem entriesOf_empty : entriesOf "" = [] := by decide

theorem entriesOf_wildcard : entriesOf wildcard = [wildcard] := by decide

/-- The blanks around a text hide none of its names. -/
theorem mem_entriesOf_trimmed {name raw : Text} :
    name ∈ entriesOf (Text.trimmed raw) ↔ name ∈ entriesOf raw := by
  have htrimmed : (Text.trimmed raw).toList = Text.trim raw.toList := by simp [Text.trimmed]
  rw [mem_entriesOf, mem_entriesOf, htrimmed, Text.map_trim_pieces_trim (by decide)]

theorem mem_entriesOf_glued {name : Text} {entries : List Text} :
    name ∈ entriesOf (Text.glued "," entries) ↔ ∃ e ∈ entries, name ∈ entriesOf e := by
  by_cases hne : entries = []
  · subst hne
    have hempty : Text.glued "," [] = "" := rfl
    simp [hempty, entriesOf_empty]
  · have hpieces : Text.pieces [.char ','] (Text.glued "," entries).toList =
        entries.flatMap fun e => Text.pieces [.char ','] e.toList := by
      have hglued : (Text.glued "," entries).toList =
          Text.glue [.char ','] (entries.map Text.toList) := by simp [Text.glued]
      rw [hglued, Text.pieces_glue_eq_flatMap (by simpa using hne), List.flatMap_map]
    simp only [mem_entriesOf, hpieces, List.map_flatMap, List.mem_flatMap]
    constructor
    · rintro ⟨hname, e, he, hmem⟩
      exact ⟨e, he, hname, hmem⟩
    · rintro ⟨e, he, hname, hmem⟩
      exact ⟨hname, e, he, hmem⟩

/-- A name in one piece: not empty, without blanks around it and without a comma in it. -/
structure IsName (name : Text) : Prop where
  ne_empty : name ≠ ""
  trimmed : Text.trimmed name = name
  comma : .char ',' ∉ name.toList

theorem isName_of_mem_entriesOf {name raw : Text} (h : name ∈ entriesOf raw) : IsName name := by
  rcases mem_entriesOf.1 h with ⟨hne, hmem⟩
  rcases List.mem_map.1 hmem with ⟨piece, hpiece, hname⟩
  -- The name was cut out and trimmed once, so neither has anything left to do.
  refine ⟨hne, ?_, ?_⟩
  · rw [Text.trimmed, ← hname, Text.trim_trim, hname, Text.ofList_toList]
  · intro hcomma
    rw [← hname] at hcomma
    exact Text.not_mem_of_mem_pieces hpiece (Text.mem_of_mem_trim hcomma)

/-- A name in a text holds itself and no other name. -/
theorem entriesOf_of_mem {name raw : Text} (h : name ∈ entriesOf raw) (other : Text) :
    other ∈ entriesOf name ↔ other = name := by
  have hname := isName_of_mem_entriesOf h
  have hpieces : Text.pieces [.char ','] name.toList = [name.toList] :=
    (Text.pieces_eq_singleton_iff (by simp) _).2
      (by simpa [Text.singleton_infix_iff] using hname.comma)
  have htrim : Text.trim name.toList = name.toList := by
    rw [← Text.toList_ofList (Text.trim name.toList)]
    exact congrArg Text.toList hname.trimmed
  rw [mem_entriesOf, hpieces, List.map_singleton, htrim, List.mem_singleton, Text.toList_inj]
  constructor
  · rintro ⟨-, rfl⟩
    rfl
  · rintro rfl
    exact ⟨hname.ne_empty, rfl⟩

/-! ## The work list of some names -/

theorem ofEntries_nil : ofEntries [] = everything := rfl

theorem ofEntries_of_wildcard {entries : List Text} (h : wildcard ∈ entries) :
    ofEntries entries = everything := by
  simp [ofEntries, h]

theorem ofEntries_of_not_wildcard {entries : List Text} (hne : entries ≠ [])
    (h : wildcard ∉ entries) : ofEntries entries = NameSet.ofList entries := by
  simp [ofEntries, hne, h]

/-- Which names there are matters, not their order or number. -/
theorem ofEntries_congr {entries others : List Text}
    (h : ∀ name, name ∈ entries ↔ name ∈ others) : ofEntries entries = ofEntries others := by
  have hset : NameSet.ofList entries = NameSet.ofList others :=
    NameSet.ext_mem fun name => by rw [NameSet.mem_ofList, NameSet.mem_ofList, h]
  have hempty : entries = [] ↔ others = [] := by
    simp only [List.eq_nil_iff_forall_not_mem, h]
  simp [ofEntries, hset, hempty, h]

theorem ofText_toText (entries : List Text) :
    ofText (toText entries) = ofEntries (entries.flatMap entriesOf) := by
  rw [ofText_eq]
  by_cases h : wildcard ∈ entries
  · -- The text is the wildcard alone, whatever else there is.
    have hmem : wildcard ∈ entries.flatMap entriesOf := by
      refine List.mem_flatMap.2 ⟨wildcard, h, ?_⟩
      simp [entriesOf_wildcard]
    rw [ofEntries_of_wildcard hmem]
    have htext : toText entries = wildcard := by simp [toText, h]
    rw [htext, entriesOf_wildcard]
    exact ofEntries_of_wildcard (by simp)
  · have htext : toText entries = Text.glued "," entries := by simp [toText, h]
    rw [htext]
    apply ofEntries_congr
    intro name
    rw [mem_entriesOf_glued, List.mem_flatMap]

theorem ofText_toText_wildcard : ofText (toText [wildcard]) = everything := by
  have htext : toText [wildcard] = wildcard := by simp [toText]
  rw [htext, ofText_eq, entriesOf_wildcard]
  exact ofEntries_of_wildcard (by simp)

/-! ## Reading what was written -/

theorem toList_everything : everything.toList = [wildcard] := rfl

theorem ofText_toText_ofText (raw : Text) :
    ofText (toText (ofText raw).toList) = ofText raw := by
  rw [ofText_eq raw]
  by_cases hne : entriesOf raw = []
  · rw [hne, ofEntries_nil, toList_everything, ofText_toText_wildcard]
  by_cases h : wildcard ∈ entriesOf raw
  · rw [ofEntries_of_wildcard h, toList_everything, ofText_toText_wildcard]
  · have hset := ofEntries_of_not_wildcard hne h
    rw [hset, ofText_toText]
    refine Eq.trans ?_ hset
    -- Each member is one name of the text, so cutting it at commas changes nothing.
    apply ofEntries_congr
    intro name
    rw [List.mem_flatMap]
    constructor
    · rintro ⟨member, hmember, hname⟩
      rw [NameSet.mem_ofList] at hmember
      rwa [(entriesOf_of_mem hmember name).1 hname]
    · intro hname
      exact ⟨name, NameSet.mem_ofList.2 hname, (entriesOf_of_mem hname name).2 rfl⟩

/-- Entries hold the same names with the blanks around them and without, and an entry that is
dropped holds none. -/
theorem mem_flatMap_trimmedEntries {name : Text} {entries : List Text} :
    name ∈ (trimmedEntries entries).flatMap entriesOf ↔ ∃ e ∈ entries, name ∈ entriesOf e := by
  rw [List.mem_flatMap]
  constructor
  · rintro ⟨trimmed, htrimmed, hname⟩
    rcases mem_trimmedEntries.1 htrimmed with ⟨-, e, he, rfl⟩
    exact ⟨e, he, mem_entriesOf_trimmed.1 hname⟩
  · rintro ⟨e, he, hname⟩
    have hname : name ∈ entriesOf (Text.trimmed e) := mem_entriesOf_trimmed.2 hname
    have hne : Text.trimmed e ≠ "" := by
      intro hempty
      rw [hempty, entriesOf_empty] at hname
      cases hname
    exact ⟨Text.trimmed e, mem_trimmedEntries.2 ⟨hne, e, he, rfl⟩, hname⟩

/-- A work list put together from entries is read as those entries are, joined by commas. -/
theorem ofText_toText_listed (entries : List Text) :
    ofText (toText (Edit.listed entries)) = ofText (Text.glued "," entries) := by
  have hglued : ofText (Text.glued "," entries) =
      ofEntries ((trimmedEntries entries).flatMap entriesOf) := by
    rw [ofText_eq]
    apply ofEntries_congr
    intro name
    rw [mem_entriesOf_glued, mem_flatMap_trimmedEntries]
  rw [hglued]
  by_cases hempty : (NameSet.ofList (trimmedEntries entries)).isEmpty = true
  · have hnone : trimmedEntries entries = [] := by
      apply List.eq_nil_iff_forall_not_mem.2
      intro name hname
      have hmem := NameSet.mem_ofList.2 hname
      rw [List.isEmpty_iff.1 hempty] at hmem
      cases hmem
    have hlisted : Edit.listed entries = [wildcard] := by simp [Edit.listed, hempty]
    rw [hlisted, hnone, ofText_toText_wildcard, List.flatMap_nil, ofEntries_nil]
  · have hlisted : Edit.listed entries = (NameSet.ofList (trimmedEntries entries)).toList := by
      simp [Edit.listed, hempty]
    rw [hlisted, ofText_toText]
    apply ofEntries_congr
    intro name
    simp only [List.mem_flatMap, NameSet.mem_ofList]

end WorkList
end Nullability
