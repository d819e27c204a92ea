import Nullability.Source.Site

/-!
# Fields of source trees

What the searches through a source tree find, stated without reference to how they search.

* `Expression.SaysFinal`: a type is final at its head or as what metadata is added to, at any depth;
* `Expression.HasMetadata`: what a type adds to another one;
* `SourceClass.Declares`, `SourceTree.DeclaredFirst`: the declaration of a field in a class, and the
  first one in a lineage;
* `SourceClass.IsFinalField`: a field with a final type on one of its declarations.

`isFinal_iff`, `hasMetadata_iff`, `declarationOf?_eq_some_iff`, `resolve?_eq_some_iff` and
`isFinal_fieldSymbol_iff` say that the searches agree with them.
-/

namespace Nullability

/-! ## Final types -/

namespace Expression

/-- The text of a type without its parameters. -/
def headText : Expression → Text
  | subscript _ head _ => head.text
  | e => e.text

/-- The first of the parameters of a type, where there are several or only one. -/
def firstParameter : Expression → Expression
  | tuple _ (first :: _) => first
  | e => e

/-- A type that says that what it belongs to is assigned once. -/
inductive SaysFinal : Expression → Prop where
  | head {e : Expression} (h : e.headText ∈ finalHeads) : SaysFinal e
  | annotated {text : Text} {head index : Expression} (hhead : head.text ∈ annotatedHeads)
      (h : SaysFinal index.firstParameter) : SaysFinal (.subscript text head index)

theorem saysFinal_subscript_iff {text : Text} {head index : Expression} :
    (subscript text head index).SaysFinal ↔
      head.text ∈ finalHeads ∨ head.text ∈ annotatedHeads ∧ index.firstParameter.SaysFinal := by
  constructor
  · intro h
    cases h with
    | head h => exact Or.inl h
    | annotated hhead h => exact Or.inr ⟨hhead, h⟩
  · rintro (h | ⟨hhead, h⟩)
    · exact .head h
    · exact .annotated hhead h

/-- Only a type with parameters can be final without being so at its head. -/
theorem saysFinal_iff_of_plain {e : Expression}
    (h : ∀ text head index, e ≠ subscript text head index) :
    e.SaysFinal ↔ e.headText ∈ finalHeads := by
  constructor
  · intro hfinal
    cases hfinal with
    | head hhead => exact hhead
    | annotated => exact absurd rfl (h _ _ _)
  · exact .head

/-- A type is found to be final exactly when it says so. -/
theorem isFinal_iff (e : Expression) : e.isFinal = true ↔ e.SaysFinal := by
  fun_induction isFinal e with
  | case1 text head t first rest ih =>
      simp [saysFinal_subscript_iff, firstParameter, ih]
  | case2 text head index hindex ih =>
      -- The only parameter is itself what metadata is added to.
      have hfirst : index.firstParameter = index := by
        unfold firstParameter
        split
        · next t first rest => exact absurd rfl (hindex t first rest)
        · rfl
      simp [saysFinal_subscript_iff, hfirst, ih]
  | case3 e _ hplain =>
      cases e with
      | subscript text head index => exact absurd rfl (hplain text head index)
      | _ => simp [saysFinal_iff_of_plain, headText]

/-! ## Metadata -/

/-- A type that adds metadata to another one: to the first of its parameters, by all the others. -/
inductive Annotates : Expression → List Expression → Prop where
  | behind {text inner : Text} {head first : Expression} {rest : List Expression}
      (hhead : head.text ∈ annotatedHeads) :
      Annotates (.subscript text head (.tuple inner (first :: rest))) rest

/-- The texts of the metadata that a type adds, in order; there are none of a type that adds none.
-/
inductive HasMetadata (e : Expression) : List Text → Prop where
  | added {rest : List Expression} (h : e.Annotates rest) : HasMetadata e (rest.map text)
  | plain (h : ∀ rest, ¬ e.Annotates rest) : HasMetadata e []

theorem metadata_of_annotates {e : Expression} {rest : List Expression} (h : e.Annotates rest) :
    e.metadata = rest.map text := by
  cases h with
  | behind hhead => simp [metadata, hhead]

theorem metadata_of_plain {e : Expression} (h : ∀ rest, ¬ e.Annotates rest) :
    e.metadata = [] := by
  unfold metadata
  split
  · next text head inner items =>
    split
    · next hhead =>
      -- Behind the head of such a type there is not even a first parameter.
      cases items with
      | nil => rfl
      | cons first rest => exact absurd (.behind (by simpa using hhead)) (h rest)
    · rfl
  · rfl

/-- What a type is found to add is what it adds. -/
theorem hasMetadata_iff {e : Expression} {metadata : List Text} :
    e.HasMetadata metadata ↔ metadata = e.metadata := by
  constructor
  · intro h
    cases h with
    | added hrest => exact (metadata_of_annotates hrest).symm
    | plain hplain => exact (metadata_of_plain hplain).symm
  · rintro rfl
    by_cases hadded : ∃ rest, e.Annotates rest
    · rcases hadded with ⟨rest, hrest⟩
      rw [metadata_of_annotates hrest]
      exact .added hrest
    · have hplain : ∀ rest, ¬ e.Annotates rest := fun rest hrest => hadded ⟨rest, hrest⟩
      rw [metadata_of_plain hplain]
      exact .plain hplain

end Expression

/-! ## Declarations of a field -/

/-- How a class declares a field: by the first assignment to the bare name in its body, or else,
where there is none, by the first declaration on an instance. -/
inductive SourceClass.Declares (c : SourceClass) (field : Text) (declaration : Declaration) :
    Prop where
  | inBody {before after : List Declaration}
      (hlocals : Declarations.of c.locals field = before ++ declaration :: after)
      (hfirst : ∀ other ∈ before, other.isAssignment = false)
      (hassignment : declaration.isAssignment = true) : Declares c field declaration
  | onInstance {after : List Declaration}
      (hlocals : ∀ other ∈ Declarations.of c.locals field, other.isAssignment = false)
      (hinstance : Declarations.of c.instanceFields field = declaration :: after) :
      Declares c field declaration

theorem SourceClass.declarationOf?_eq_some_iff {c : SourceClass} {field : Text}
    {declaration : Declaration} :
    c.declarationOf? field = some declaration ↔ c.Declares field declaration := by
  rw [declarationOf?, Option.or_eq_some_iff, List.find?_eq_some_iff_append, List.find?_eq_none,
    List.head?_eq_some_iff]
  constructor
  · rintro (⟨hassignment, before, after, hlocals, hfirst⟩ | ⟨hlocals, after, hinstance⟩)
    · exact .inBody hlocals (by simpa using hfirst) hassignment
    · exact .onInstance (by simpa using hlocals) hinstance
  · intro h
    cases h with
    | @inBody before after hlocals hfirst hassignment =>
        exact Or.inl ⟨hassignment, before, after, hlocals, by simpa using hfirst⟩
    | @onInstance after hlocals hinstance =>
        exact Or.inr ⟨by simpa using hlocals, after, hinstance⟩

/-- The first class of the lineage of a class that declares a field, with its declaration. -/
def SourceTree.DeclaredFirst (t : SourceTree) (c : SourceClass) (field : Text)
    (owner : SourceClass) (declaration : Declaration) : Prop :=
  ∃ before after, t.lineage c = before ++ owner :: after ∧
    (∀ other ∈ before, ∀ declaration, ¬ other.Declares field declaration) ∧
      owner.Declares field declaration

theorem SourceTree.resolve?_eq_some_iff {t : SourceTree} {c owner : SourceClass} {field : Text}
    {declaration : Declaration} :
    t.resolve? c field = some (owner, declaration) ↔
      t.DeclaredFirst c field owner declaration := by
  rw [resolve?, List.findSome?_eq_some_iff]
  constructor
  · rintro ⟨before, d, after, hlineage, hd, hbefore⟩
    rcases Option.map_eq_some_iff.1 hd with ⟨found, hfound, hpair⟩
    cases hpair
    refine ⟨before, after, hlineage, ?_, SourceClass.declarationOf?_eq_some_iff.1 hfound⟩
    intro other hother declared hdeclares
    have hnone := hbefore other hother
    rw [SourceClass.declarationOf?_eq_some_iff.2 hdeclares] at hnone
    cases hnone
  · rintro ⟨before, after, hlineage, hbefore, hdeclares⟩
    refine ⟨before, owner, after, hlineage, ?_, ?_⟩
    · rw [SourceClass.declarationOf?_eq_some_iff.2 hdeclares, Option.map_some]
    · intro other hother
      rw [Option.map_eq_none_iff, Option.eq_none_iff_forall_ne_some]
      intro declared hdeclared
      exact hbefore other hother declared (SourceClass.declarationOf?_eq_some_iff.1 hdeclared)

/-! ## Final fields -/

/-- A field is final if the type on one of its declarations in the class says so. -/
def SourceClass.IsFinalField (c : SourceClass) (field : Text) : Prop :=
  ∃ declaration ∈ Declarations.of c.locals field ++ Declarations.of c.instanceFields field,
    ∃ type, declaration.declaredType = some type ∧ type.SaysFinal

theorem Symbol.isFinal_declared (name : Text) (types : List Expression) :
    (Symbol.declared name types).isFinal = types.any Expression.isFinal := by
  cases hany : types.any Expression.isFinal with
  | false => simp only [declared, isFinal, hany]; decide
  | true => simp only [declared, isFinal, hany]; decide

/-- The symbol of a field is final exactly when the field is. -/
theorem SourceClass.isFinal_fieldSymbol_iff {c : SourceClass} {field : Text} :
    (c.fieldSymbol field).isFinal = true ↔ c.IsFinalField field := by
  simp only [fieldSymbol, Symbol.isFinal_declared, IsFinalField, Declarations.typesOf,
    ← List.filterMap_append, List.any_eq_true, List.mem_filterMap, Expression.isFinal_iff]
  constructor
  · rintro ⟨type, ⟨declaration, hmem, htype⟩, hfinal⟩
    exact ⟨declaration, hmem, type, htype, hfinal⟩
  · rintro ⟨declaration, hmem, type, htype, hfinal⟩
    exact ⟨type, ⟨declaration, hmem, htype⟩, hfinal⟩

end Nullability
