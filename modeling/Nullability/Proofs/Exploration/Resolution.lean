import Nullability.Proofs.Exploration.Findings

/-!
# The declaration that a location stands at

A field is looked for twice: from the class in whose method it is checked, to ask whether its
declaration can get a marker, and from the class that was found, for the location of the field. Both
searches end at the same declaration.

* `SourceClass.HasField`: a class declares a field at all;
* `SourceTree.resolve?_eq_none_iff`: what it takes for a search to find nothing;
* `SourceModule.Locates`: the location of a field in a class stands at a declaration;
* `resolve?_locates`: the location is that of the declaration that was found and asked about.
-/

namespace Nullability

/-! ## Whether a field is declared -/

/-- The body of the class assigns to the bare name, or something declares it on an instance. -/
def SourceClass.HasField (c : SourceClass) (field : Text) : Prop :=
  (∃ declaration ∈ Declarations.of c.locals field, declaration.isAssignment = true) ∨
    Declarations.of c.instanceFields field ≠ []

theorem SourceClass.declarationOf?_eq_none_iff {c : SourceClass} {field : Text} :
    c.declarationOf? field = none ↔ ¬ c.HasField field := by
  simp [declarationOf?, HasField, Option.or_eq_none_iff]

theorem SourceTree.resolve?_eq_none_iff {t : SourceTree} {c : SourceClass} {field : Text} :
    t.resolve? c field = none ↔ ∀ d ∈ t.lineage c, ¬ d.HasField field := by
  simp only [resolve?, List.findSome?_eq_none_iff, Option.map_eq_none_iff,
    SourceClass.declarationOf?_eq_none_iff]

/-! ## Where a field stands -/

namespace SourceModule

variable {m : SourceModule} {c owner : SourceClass} {field : Text} {declaration : Declaration}

/-- The location of a field in a class carries the line and the column of a declaration. There is
one wherever the file of the class has an address. -/
def Locates (m : SourceModule) (owner : SourceClass) (field : Text) (declaration : Declaration) :
    Prop :=
  m.fieldSite? owner field = (m.homeOf owner).unit?.map fun unit =>
    .ofField unit (some (m.className owner)) (some (owner.fieldSymbol field)) declaration.line
      declaration.column

/-- From the class that was found the search ends at once. -/
theorem locates_of_resolve? (h : m.tree.resolve? c field = some (owner, declaration)) :
    m.Locates owner field declaration := by
  have hagain := SourceTree.resolve?_resolved h
  simp only [Locates, fieldSite?, hagain]

/-- The search for a field from a class finds nothing exactly when neither the class nor one of its
ancestors declares it by an assignment in its body or on an instance. Otherwise it ends in the first
of them that does, at the first assignment in the body of that class or else at the first
declaration on an instance. Looking again from there gives the same class and the same declaration.
The location of the field is that of this declaration, and at a conditional it is that of the
declaration of which it was asked whether it can get a marker. -/
theorem resolve?_locates (m : SourceModule) (c : SourceClass) (field : Text) :
    (m.tree.resolve? c field = none ↔ ∀ d ∈ m.tree.lineage c, ¬ d.HasField field) ∧
    (∀ owner declaration, m.tree.resolve? c field = some (owner, declaration) ↔
      m.tree.DeclaredFirst c field owner declaration) ∧
    (∀ owner declaration, m.tree.resolve? c field = some (owner, declaration) →
      m.tree.resolve? owner field = some (owner, declaration) ∧
        m.Locates owner field declaration) ∧
    ∀ (l : Ledgers) (check : Conditional) (owner : SourceClass),
      l.fixableField? m check = some (owner, field) →
        ∃ around declaration, m.tree.nullCheck? check = some ⟨around, field⟩ ∧
          m.tree.resolve? around field = some (owner, declaration) ∧
          l.config.canFix (some m.declarationPath?) (some (owner, declaration)) = true ∧
          m.Locates owner field declaration := by
  refine ⟨SourceTree.resolve?_eq_none_iff,
    fun owner declaration => SourceTree.resolve?_eq_some_iff,
    fun owner declaration h => ⟨SourceTree.resolve?_resolved h, locates_of_resolve? h⟩, ?_⟩
  intro l check owner hfixable
  rcases Ledgers.fixableField?_eq_some_iff.1 hfixable with
    ⟨around, declaration, hcheck, hresolve, hcan⟩
  exact ⟨around, declaration, hcheck, hresolve, canFix_iff.2 hcan, locates_of_resolve? hresolve⟩

/-- A method or an import under the name of a field is no declaration of it. -/
example :
    let method : Declaration := ⟨false, some 3, some 4, none⟩
    let assigned : Declaration := ⟨true, some 5, some 4, none⟩
    let base : SourceClass := ⟨.own "Base", none, none, [], [("owner", [method, assigned])], []⟩
    let child : SourceClass := ⟨.own "Child", none, none, [0], [("owner", [method])], []⟩
    let t : SourceTree := ⟨false, [base, child], [], []⟩
    (t.resolve? child "owner").map (fun found => (found.1.origin, found.2.line)) =
      some (.own "Base", some 5) := by
  decide

end SourceModule
end Nullability
