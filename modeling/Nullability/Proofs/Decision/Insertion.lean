import Nullability.Proofs.Decision.Table

/-!
# What a fix for insertion says about its site

An outcome of insertion says that the marker is absent. This file says for which violations that
holds:

* `decide?_insert`: a fix for a result is for insertion only where the method does not carry the
  nullable marker. For every other violation the nullable marker plays no part in the decision:
  whichever it is, the fix is for insertion;
* `decide?_insert_present` is a field that carries the marker and gets a fix for insertion.
-/

namespace Nullability

/-- What is written on the declaration that a site belongs to: on the method of a result, and
otherwise on the target. -/
def Location.declared (l : Location) : List Text :=
  match l.member with
  | .result method => method.markers
  | _ => (l.target.map Symbol.markers).getD []

namespace Config

variable {config : Config} {v : Violation}

/-- The configuration with another nullable marker. -/
def withNullable (config : Config) (nullable : Marker) : Config :=
  { config with markers := ⟨nullable, config.markers.nonNull⟩ }

/-- A result gets a fix for insertion only where its method does not carry the marker. -/
theorem not_carriesNullable_of_ruling
    (hkind : v.kind = .returnNullable ∨ v.kind = .wrongOverrideReturn)
    (h : Ruling config v (some .insert)) :
    config.markers.carriesNullable v.location.declared = false := by
  cases h with
  | @unmarked method _ hsite hplain habsent =>
      have hdeclared : v.location.declared = method.markers := by
        simp [Location.declared, hsite]
      rw [hdeclared]
      exact carries_eq_false_iff.2 habsent
  | overridden hother => simp [hother] at hkind
  | passed hother => simp [hother] at hkind
  | assigned hother => rcases hother with hother | hother <;> simp [hother] at hkind

/-- Away from results the table does not read the nullable marker. -/
theorem ruling_withNullable (hresult : v.kind ≠ .returnNullable)
    (hoverride : v.kind ≠ .wrongOverrideReturn) (nullable : Marker)
    (h : Ruling config v (some .insert)) :
    Ruling (config.withNullable nullable) v (some .insert) := by
  cases h with
  | unmarked hkind =>
      rcases hkind with hkind | hkind
      · exact absurd hkind hresult
      · exact absurd hkind hoverride
  | overridden hkind hsite => exact .overridden hkind hsite
  | passed hkind hwiden => exact .passed hkind hwiden
  | assigned hkind hsite hopen => exact .assigned hkind hsite hopen

/-- A fix for insertion is for a result that does not carry the nullable marker, or for another
site, where every nullable marker would lead to such a fix, carried or not. -/
theorem decide?_insert {fix : Fix} (h : config.decide? v = .ok (some fix))
    (hinsert : fix.inject = true) :
    (v.kind = .returnNullable ∨ v.kind = .wrongOverrideReturn →
      config.markers.carriesNullable fix.location.declared = false) ∧
    (v.kind ≠ .returnNullable → v.kind ≠ .wrongOverrideReturn → ∀ nullable : Marker,
      (config.withNullable nullable).decide? v =
        .ok (some { fix with marker := nullable.name })) := by
  rcases decide?_eq_some_iff.1 h with ⟨hgate, howner, outcome, hruling, rfl⟩
  have houtcome : outcome = .insert := by simpa [Fix.inject] using hinsert
  subst houtcome
  constructor
  · intro hkind
    exact not_carriesNullable_of_ruling hkind hruling
  · intro hresult hoverride nullable
    refine decide?_eq_some_iff.2 ⟨hgate, howner, .insert, ?_, rfl⟩
    exact ruling_withNullable hresult hoverride nullable hruling

/-- A method that carries other markers gets a fix for insertion on its result, and a field gets
one for a nullable marker that it carries already. -/
theorem decide?_insert_optional :
    let config := { disabled with suggest := .shallow }
    let site (member : Member) (target : Option Symbol) : Location :=
      ⟨⟨"shop", "file:///shop.py"⟩, some ⟨"shop.Basket"⟩, member, target, 0, none, none⟩
    let method : Method := ⟨"total", [Symbol.bare "self"], ["override", "@Cached()"]⟩
    let field : Symbol := ⟨"owner", ["@Optional"], NameSet.empty⟩
    let onResult : Fix :=
      ⟨site (.result method) none, "javax.annotation.Nullable", "RETURN_NULLABLE", .insert⟩
    let onField : Fix :=
      ⟨site .field (some field), "javax.annotation.Nullable", "FIELD_NO_INIT", .insert⟩
    config.decide? ⟨.returnNullable, "m", onResult.location⟩ = .ok (some onResult) ∧
      config.decide? ⟨.fieldNoInit, "m", onField.location⟩ = .ok (some onField) ∧
      onResult.inject = true ∧ onField.inject = true ∧
      config.markers.carriesNullable onResult.location.declared = false ∧
      (config.withNullable ⟨"typing.Optional"⟩).decide? ⟨.fieldNoInit, "m", onField.location⟩ =
        .ok (some { onField with marker := "typing.Optional" }) := by
  intro config site method field onResult onField
  have hresult : config.decide? ⟨.returnNullable, "m", onResult.location⟩ =
      .ok (some onResult) := by
    have hgate : ¬ config.PassesOver onResult.location := by
      rw [passesOver_iff (v := ⟨.returnNullable, "m", onResult.location⟩) rfl]
      decide
    refine decide?_eq_some_iff.2 ⟨hgate, by decide, .insert, ?_, rfl⟩
    exact .unmarked (Or.inl rfl) rfl (by decide) (by decide)
  -- The markers of a field are never asked for, so that evaluation gets through.
  have hfield : config.decide? ⟨.fieldNoInit, "m", onField.location⟩ = .ok (some onField) := rfl
  exact ⟨hresult, hfield, rfl, rfl, (decide?_insert hresult rfl).1 (Or.inl rfl),
    (decide?_insert hfield rfl).2 (by decide) (by decide) ⟨"typing.Optional"⟩⟩

/-- A field whose declaration says that it may hold null gets a fix for insertion. -/
theorem decide?_insert_present :
    let config := { disabled with suggest := .shallow }
    let field : Symbol := ⟨"total", ["Nullable"], NameSet.empty⟩
    let location := Location.ofField ⟨"shop", "file:///shop.py"⟩ (some ⟨"shop.Basket"⟩)
      (some field) none none
    ∃ fix, config.decide? ⟨.fieldNoInit, "Must be nullable", location⟩ = .ok (some fix) ∧
      fix.inject = true ∧ config.markers.carriesNullable fix.location.declared = true :=
  ⟨_, rfl, rfl, by decide⟩

end Config
end Nullability
