import Mathlib.Data.Set.Basic
import Nullability.Marker
import Nullability.Proofs.Text.Trimming

/-!
# Markers go by their simple names

A configured marker is compared with what is written on a declaration in three ways: by its
qualified name, by its simple name, and by its simple name behind a dot. Together they ask one
thing, whether both end in the same simple name.

* `Marker.names_iff`: the name in a written marker, without what may stand around it;
* `Marker.denotedBy_iff`: a marker is denoted by what is written with its simple name;
* `Marker.denotedBy_wrapped`: no marker goes without a text that denotes it;
* `Marker.simpleName_decides`: hence simple names are all by which markers are told apart, and all
  that counts of what is written on a declaration.
-/

namespace Nullability
namespace Marker

/-! ## The name in a written marker -/

/-- A text, and what is left of it without an `@` that it starts with. A second one stays. -/
inductive DropsAt : List Letter → List Letter → Prop where
  | marked (rest : List Letter) : DropsAt (.char '@' :: rest) rest
  | plain {cs : List Letter} (h : ¬ [.char '@'] <+: cs) : DropsAt cs cs

/-- A text, and what is left of it without a `()` that it ends with. A second one stays. -/
inductive DropsCall : List Letter → List Letter → Prop where
  | called (front : List Letter) : DropsCall (front ++ [.char '(', .char ')']) front
  | plain {cs : List Letter} (h : ¬ [.char '(', .char ')'] <:+ cs) : DropsCall cs cs

/-- A written marker, and the name in it. The blanks around the marker go before its `@` and its
`()`, so blanks inside of these stay. -/
inductive Names (written : Text) (name : List Letter) : Prop where
  | unwrapped {core rest : List Letter} (hcore : Text.Trims written.toList core)
      (hrest : DropsAt core rest) (hname : DropsCall rest name)

theorem dropAt_eq_self {cs : List Letter} (h : ¬ [.char '@'] <+: cs) : dropAt cs = cs := by
  unfold dropAt
  split
  · next rest => exact absurd ⟨rest, rfl⟩ h
  · rfl

theorem dropsAt_iff {cs rest : List Letter} : DropsAt cs rest ↔ dropAt cs = rest := by
  constructor
  · intro h
    cases h with
    | marked => rfl
    | plain h => exact dropAt_eq_self h
  · rintro rfl
    by_cases h : [.char '@'] <+: cs
    · rcases h with ⟨rest, rfl⟩
      exact .marked rest
    · rw [dropAt_eq_self h]
      exact .plain h

theorem dropCall_append (front : List Letter) :
    dropCall (front ++ [.char '(', .char ')']) = front := by
  simp [dropCall]

theorem dropCall_eq_self {cs : List Letter} (h : ¬ [.char '(', .char ')'] <:+ cs) :
    dropCall cs = cs := by
  simp [dropCall, List.isSuffixOf_iff_suffix, h]

theorem dropsCall_iff {cs front : List Letter} : DropsCall cs front ↔ dropCall cs = front := by
  constructor
  · intro h
    cases h with
    | called => exact dropCall_append front
    | plain h => exact dropCall_eq_self h
  · rintro rfl
    by_cases h : [.char '(', .char ')'] <:+ cs
    · rcases h with ⟨front, rfl⟩
      rw [dropCall_append]
      exact .called front
    · rw [dropCall_eq_self h]
      exact .plain h

/-- There is one name in a written marker. -/
theorem names_iff {written : Text} {name : List Letter} :
    Names written name ↔ writtenName written = name := by
  constructor
  · rintro ⟨hcore, hrest, hname⟩
    rw [writtenName, Text.trims_iff.1 hcore, dropsAt_iff.1 hrest, dropsCall_iff.1 hname]
  · rintro rfl
    exact .unwrapped (Text.trims_iff.2 rfl) (dropsAt_iff.2 rfl) (dropsCall_iff.2 rfl)

/-! ## Simple names -/

variable {m n : Marker} {written simple : Text}

/-- The part after the last dot of the name in a written marker. -/
def simpleNameIn (written : Text) : Text :=
  Text.ofList (Text.afterLast '.' (writtenName written))

theorem simpleName_eq_iff :
    m.simpleName = simple ↔ Text.LastPart '.' m.name.toList simple.toList :=
  Text.ofList_afterLast_eq_iff

theorem simpleNameIn_eq_iff : simpleNameIn written = simple ↔
    ∃ name, Names written name ∧ Text.LastPart '.' name simple.toList := by
  rw [simpleNameIn, Text.ofList_afterLast_eq_iff]
  constructor
  · intro h
    exact ⟨_, names_iff.2 rfl, h⟩
  · rintro ⟨name, hname, h⟩
    rwa [names_iff.1 hname]

/-- The three ways to denote a marker. -/
theorem denotedBy_eq_true_iff : m.denotedBy written = true ↔
    writtenName written = m.name.toList ∨ writtenName written = m.simpleName.toList ∨
      .char '.' :: m.simpleName.toList <:+ writtenName written := by
  simp [denotedBy, List.isSuffixOf_iff_suffix, or_assoc]

/-- A marker is denoted by what is written with its simple name, and by nothing else. -/
theorem denotedBy_iff : m.denotedBy written = true ↔ simpleNameIn written = m.simpleName := by
  have hpart : Text.LastPart '.' m.name.toList m.simpleName.toList := simpleName_eq_iff.1 rfl
  rw [denotedBy_eq_true_iff, simpleNameIn, Text.ofList_afterLast_eq_iff]
  constructor
  · rintro (hqualified | hsimple | hdotted)
    · rw [hqualified]
      exact hpart
    · rw [hsimple]
      exact .whole hpart.not_mem
    · rcases hdotted with ⟨before, hwritten⟩
      rw [← hwritten]
      exact .behind before hpart.not_mem
  · -- The qualified name is not needed here: it ends in the simple name like all others.
    intro h
    exact Or.inr h.eq_or_suffix

/-! ## Markers that are told apart -/

/-- Any text is the name in some written marker: between an `@` and a `()` it keeps even the blanks
at its ends. -/
theorem names_wrapped (name : Text) : Names ("@" ++ name ++ "()") name.toList := by
  have htext : ("@" ++ name ++ "()" : Text).toList =
      .char '@' :: (name.toList ++ [.char '(', .char ')']) := by simp
  have hcore : Text.IsTrimmed (.char '@' :: (name.toList ++ [.char '(', .char ')'])) := by
    constructor
    · intro c hc
      obtain rfl : .char '@' = c := by simpa using hc
      decide
    · intro c hc
      have hends := List.getLast?_append_of_ne_nil (.char '@' :: name.toList)
        (List.cons_ne_nil (.char '(') [.char ')'])
      obtain rfl : .char ')' = c := by simpa [List.cons_append] using hends.symm.trans hc
      decide
  refine .unwrapped (Text.trims_iff.2 ?_) (.marked _) (.called name.toList)
  rw [htext, Text.trim_eq_self hcore]

theorem denotedBy_wrapped (m : Marker) : m.denotedBy ("@" ++ m.name ++ "()") = true := by
  rw [denotedBy_iff, simpleNameIn_eq_iff]
  exact ⟨m.name.toList, names_wrapped m.name, simpleName_eq_iff.1 rfl⟩

theorem denotedBy_congr (h : m.simpleName = n.simpleName) (written : Text) :
    m.denotedBy written = n.denotedBy written := by
  rw [Bool.eq_iff_iff, denotedBy_iff, denotedBy_iff, h]

/-- Two markers with a text in common have one simple name. -/
theorem simpleName_eq_of_denotedBy (hm : m.denotedBy written = true)
    (hn : n.denotedBy written = true) : m.simpleName = n.simpleName := by
  rw [← denotedBy_iff.1 hm, denotedBy_iff.1 hn]

theorem simpleName_eq_iff_forall_denotedBy :
    m.simpleName = n.simpleName ↔ ∀ written, m.denotedBy written = n.denotedBy written := by
  constructor
  · exact denotedBy_congr
  · intro h
    have hm := denotedBy_wrapped m
    exact simpleName_eq_of_denotedBy hm ((h _).symm.trans hm)

theorem simpleName_ne_iff_forall_not_denotedBy :
    m.simpleName ≠ n.simpleName ↔
      ∀ written, ¬ (m.denotedBy written = true ∧ n.denotedBy written = true) := by
  constructor
  · rintro hne written ⟨hm, hn⟩
    exact hne (simpleName_eq_of_denotedBy hm hn)
  · intro h heq
    have hm := denotedBy_wrapped m
    exact h _ ⟨hm, (denotedBy_congr heq _).symm.trans hm⟩

/-! ## Declarations that are told apart -/

/-- The simple names of what is written on a declaration. -/
def simpleNamesIn (written : List Text) : Set Text :=
  {simple | ∃ text ∈ written, simpleNameIn text = simple}

theorem any_denotedBy_iff {texts : List Text} :
    texts.any m.denotedBy = true ↔ m.simpleName ∈ simpleNamesIn texts := by
  rw [List.any_eq_true]
  constructor
  · rintro ⟨text, hmem, h⟩
    exact ⟨text, hmem, denotedBy_iff.1 h⟩
  · rintro ⟨text, hmem, h⟩
    exact ⟨text, hmem, denotedBy_iff.2 h⟩

/-- A simple name is a name itself, and its own simple name. -/
theorem simpleName_simpleNameIn (written : Text) :
    (Marker.mk (simpleNameIn written)).simpleName = simpleNameIn written := by
  rcases simpleNameIn_eq_iff.1 (rfl : simpleNameIn written = simpleNameIn written) with
    ⟨name, -, hpart⟩
  exact simpleName_eq_iff.2 (.whole hpart.not_mem)

theorem simpleNamesIn_subset {these those : List Text}
    (h : ∀ m : Marker, these.any m.denotedBy = those.any m.denotedBy) :
    simpleNamesIn these ⊆ simpleNamesIn those := by
  rintro simple ⟨text, hmem, rfl⟩
  have hthese : these.any (Marker.mk (simpleNameIn text)).denotedBy = true :=
    any_denotedBy_iff.2 ⟨text, hmem, (simpleName_simpleNameIn text).symm⟩
  rw [h, any_denotedBy_iff, simpleName_simpleNameIn] at hthese
  exact hthese

theorem simpleNamesIn_eq_iff {these those : List Text} :
    simpleNamesIn these = simpleNamesIn those ↔
      ∀ m : Marker, these.any m.denotedBy = those.any m.denotedBy := by
  constructor
  · intro h m
    rw [Bool.eq_iff_iff, any_denotedBy_iff, any_denotedBy_iff, h]
  · intro h
    exact Set.Subset.antisymm (simpleNamesIn_subset h) (simpleNamesIn_subset fun m => (h m).symm)

/-- A marker is denoted by what is written exactly when the name in it, without the blanks around,
one `@` and one `()`, has the marker's part after the last dot. So markers with one simple name are
denoted by the same texts and markers with two by no common one. A declaration carries a marker
exactly when its simple name is written there, so two declarations carry the same markers, whichever
are configured, exactly when the same simple names are written on them. -/
theorem simpleName_decides :
    (∀ written simple, simpleNameIn written = simple ↔
      ∃ name, Names written name ∧ Text.LastPart '.' name simple.toList) ∧
    (∀ (m : Marker) simple, m.simpleName = simple ↔
      Text.LastPart '.' m.name.toList simple.toList) ∧
    (∀ (m : Marker) written, m.denotedBy written = true ↔ simpleNameIn written = m.simpleName) ∧
    (∀ m n : Marker, m.simpleName = n.simpleName ↔
      ∀ written, m.denotedBy written = n.denotedBy written) ∧
    (∀ m n : Marker, m.simpleName ≠ n.simpleName ↔
      ∀ written, ¬ (m.denotedBy written = true ∧ n.denotedBy written = true)) ∧
    (∀ (markers : Markers) texts,
      (markers.carriesNullable texts = true ↔
        markers.nullable.simpleName ∈ simpleNamesIn texts) ∧
      (markers.carriesNonNull texts = true ↔
        markers.nonNull.simpleName ∈ simpleNamesIn texts)) ∧
    ∀ these those : List Text, simpleNamesIn these = simpleNamesIn those ↔
      ∀ markers : Markers, markers.carriesNullable these = markers.carriesNullable those ∧
        markers.carriesNonNull these = markers.carriesNonNull those := by
  refine ⟨fun _ _ => simpleNameIn_eq_iff, fun _ _ => simpleName_eq_iff, fun _ _ => denotedBy_iff,
    fun _ _ => simpleName_eq_iff_forall_denotedBy,
    fun _ _ => simpleName_ne_iff_forall_not_denotedBy,
    fun _ _ => ⟨any_denotedBy_iff, any_denotedBy_iff⟩, fun these those => ?_⟩
  rw [simpleNamesIn_eq_iff]
  constructor
  · intro h markers
    exact ⟨h markers.nullable, h markers.nonNull⟩
  · -- Each marker is the nullable one of some pair.
    intro h m
    exact (h ⟨m, m⟩).1

/-- Only one `@` goes, and a name may end in its dot. -/
example : simpleNameIn " @shop.Nullable()\n" = "Nullable" ∧
    simpleNameIn "@@Nullable()()" = "@Nullable()" ∧ simpleNameIn "@shop.Nullable.()" = "" := by
  decide

end Marker
end Nullability
