import Nullability.Proofs.Decision.Table
import Nullability.Proofs.Site.Construction

/-!
# Which parameter a fix is for

A fix for a parameter is written with a position, and the position is of use only where it is that
of a declared parameter. This file says for which fixes it is:

* `Location.NamesParameter` is a location whose position is that of its own symbol;
* `decide?_parameter`: a fix for a passed null names a parameter unless it is for a local
  variable, and a fix for an override names one unless the symbol is not declared;
* `decide?_parameter_astray` has a fix of each of the two exceptions.

The two handlers check different things. The one for a passed null looks the symbol up and never
asks for the kind of the site; the one for an override asks for the kind and never looks up.
-/

namespace Nullability

/-! ## Locations -/

namespace Location

/-- The location is a parameter, and at its position its method declares its target. -/
def NamesParameter (l : Location) : Prop :=
  ∃ method symbol, l.member = .parameter method ∧ l.target = some symbol ∧
    0 ≤ l.index ∧ l.index < method.parameters.length ∧
      method.parameters[l.index.toNat]? = some symbol

/-- The target is one of the parameters of the method around the site. -/
def DeclaresTarget (l : Location) : Prop :=
  ∃ method symbol, l.method? = some method ∧ l.target = some symbol ∧ symbol ∈ method.parameters

variable {l : Location}

theorem namesParameter_of_declaresTarget (hkind : l.kind = .parameter) (h : l.DeclaresTarget) :
    l.NamesParameter := by
  rcases kind_eq_parameter_iff.1 hkind with ⟨method, hmember⟩
  rcases h with ⟨around, symbol, haround, htarget, hmem⟩
  -- A parameter has one method: the one its position is in and the one around it.
  have hsame : method = around := by
    simpa [method?, Member.method?, hmember] using haround
  subst hsame
  rcases Method.indexOf_of_mem hmem with ⟨i, hindexOf, hi, hself⟩
  have hindex : l.index = i := by simp [index, hmember, htarget, hindexOf]
  refine ⟨method, symbol, hmember, htarget, ?_⟩
  rw [hindex]
  exact ⟨Int.natCast_nonneg i, Int.ofNat_lt.2 hi, by simpa using hself⟩

theorem index_of_not_declaresTarget (hkind : l.kind = .parameter) (h : ¬ l.DeclaresTarget) :
    l.index = -1 := by
  rcases kind_eq_parameter_iff.1 hkind with ⟨method, hmember⟩
  cases htarget : l.target with
  | none => simp [index, hmember, htarget]
  | some symbol =>
      have habsent : symbol ∉ method.parameters := by
        intro hmem
        exact h ⟨method, symbol, by simp [method?, Member.method?, hmember], htarget, hmem⟩
      simp [index, hmember, htarget, Method.indexOf_eq_neg_one_iff.2 habsent]

/-- Only parameters and local variables can have a declared parameter as their target. -/
theorem kind_of_declaresTarget (hbuilt : l.IsBuilt) (h : l.DeclaresTarget) :
    l.kind = .parameter ∨ l.kind = .localVariable := by
  rcases h with ⟨method, symbol, hmethod, htarget, -⟩
  cases hkind : l.kind with
  | field =>
      have hnone := (method?_eq_none_iff l).2 hkind
      rw [hmethod] at hnone
      cases hnone
  | parameter => exact Or.inl rfl
  | result =>
      rw [hbuilt.target_eq_none hkind] at htarget
      cases htarget
  | localVariable => exact Or.inr rfl

end Location

/-! ## Fixes -/

variable {config : Config} {v : Violation}

theorem declaresTarget_of_ruling {outcome : Outcome} (hkind : v.kind = .passNullable)
    (h : Ruling config v (some outcome)) : v.location.DeclaresTarget := by
  cases h with
  | passed _ hwiden =>
      rcases hwiden with ⟨method, symbol, hmethod, htarget, hmem, -⟩
      exact ⟨method, symbol, hmethod, htarget, hmem⟩
  | conflicting hother => simp [hkind] at hother
  | compatible hother => simp [hkind] at hother
  | unmarked hother => simp [hkind] at hother
  | overridden hother => simp [hkind] at hother
  | assigned hother => simp [hkind] at hother

theorem kind_of_ruling {outcome : Outcome} (hkind : v.kind = .wrongOverrideParam)
    (h : Ruling config v (some outcome)) : v.location.kind = .parameter := by
  cases h with
  | overridden _ hsite => exact hsite
  | conflicting hother => simp [hkind] at hother
  | compatible hother => simp [hkind] at hother
  | unmarked hother => simp [hkind] at hother
  | passed hother => simp [hkind] at hother
  | assigned hother => simp [hkind] at hother

/-- A fix for a passed null is for a declared parameter: it names it, or else the site is a local
variable. A fix for an override is for a parameter: it names it where it is declared, and stands
at `-1` where it is not. -/
theorem Config.decide?_parameter {fix : Fix} (hbuilt : v.location.IsBuilt)
    (h : config.decide? v = .ok (some fix)) :
    fix.location = v.location ∧
    (v.kind = .passNullable → fix.location.DeclaresTarget ∧
      (fix.location.NamesParameter ∨
        fix.location.kind = .localVariable ∧ fix.location.index = 0)) ∧
    (v.kind = .wrongOverrideParam → fix.location.kind = .parameter ∧
      (fix.location.DeclaresTarget → fix.location.NamesParameter) ∧
      (¬ fix.location.DeclaresTarget → fix.location.index = -1)) := by
  rcases decide?_eq_some_iff.1 h with ⟨-, -, outcome, hruling, rfl⟩
  refine ⟨rfl, ?_, ?_⟩
  · intro hpass
    have hdeclared := declaresTarget_of_ruling hpass hruling
    refine ⟨hdeclared, ?_⟩
    rcases Location.kind_of_declaresTarget hbuilt hdeclared with hparameter | hlocal
    · exact Or.inl (Location.namesParameter_of_declaresTarget hparameter hdeclared)
    · have hother : v.location.kind ≠ .parameter := by simp [hlocal]
      have hindex := Location.index_eq_givenIndex hother
      rw [hbuilt.givenIndex_eq_zero] at hindex
      exact Or.inr ⟨hlocal, hindex⟩
  · intro hoverride
    have hparameter := kind_of_ruling hoverride hruling
    exact ⟨hparameter, Location.namesParameter_of_declaresTarget hparameter,
      Location.index_of_not_declaresTarget hparameter⟩

/-- The second parameter of a method gets a fix at its position for both kinds. -/
theorem Config.decide?_parameter_second :
    let config := { disabled with suggest := .shallow }
    let item := Symbol.bare "item"
    let method : Method := ⟨"add_item", [Symbol.bare "self", item], []⟩
    let location : Location :=
      ⟨⟨"shop", "file:///shop.py"⟩, some ⟨"shop.Basket"⟩, .parameter method, some item, 0,
        none, none⟩
    let fix (reason : Text) : Fix :=
      ⟨location, "javax.annotation.Nullable", reason, .insert⟩
    location.IsBuilt ∧
      config.decide? ⟨.passNullable, "m", location⟩ = .ok (some (fix "PASS_NULLABLE")) ∧
      config.decide? ⟨.wrongOverrideParam, "m", location⟩ =
        .ok (some (fix "WRONG_OVERRIDE_PARAM")) ∧
      location.DeclaresTarget ∧ location.NamesParameter ∧ location.index = 1 := by
  intro config item method location fix
  have hmade : Location.ofParameter? ⟨"shop", "file:///shop.py"⟩ (some ⟨"shop.Basket"⟩)
      (some method) (some item) none none = .ok location := rfl
  have hbuilt : location.IsBuilt := .parameter hmade
  have hpass : config.decide? ⟨.passNullable, "m", location⟩ =
      .ok (some (fix "PASS_NULLABLE")) := rfl
  have hoverride : config.decide? ⟨.wrongOverrideParam, "m", location⟩ =
      .ok (some (fix "WRONG_OVERRIDE_PARAM")) := rfl
  have hdeclared := ((decide?_parameter hbuilt hpass).2.1 rfl).1
  have hnames := ((decide?_parameter hbuilt hoverride).2.2 rfl).2.1 hdeclared
  exact ⟨hbuilt, hpass, hoverride, hdeclared, hnames, rfl⟩

/-- A fix for an override at `-1`, and a fix for a passed null at a local variable that is equal
to a parameter. -/
theorem Config.decide?_parameter_astray :
    let config := { disabled with suggest := .shallow }
    let item := Symbol.bare "item"
    let method : Method := ⟨"add_item", [Symbol.bare "self", item], []⟩
    let source : SourceUnit := ⟨"shop", "file:///shop.py"⟩
    let owner : Option ClassName := some ⟨"shop.Basket"⟩
    (∃ location fix, Location.ofParameter? source owner (some method) (some (Symbol.bare "ghost"))
        none none = .ok location ∧
      config.decide? ⟨.wrongOverrideParam, "m", location⟩ = .ok (some fix) ∧
      fix.inject = true ∧ fix.location.index = -1 ∧ ¬ fix.location.NamesParameter) ∧
    (∃ location fix, Location.ofLocal? source owner (some method) (some item)
        none none = .ok location ∧
      config.decide? ⟨.passNullable, "m", location⟩ = .ok (some fix) ∧
      fix.inject = true ∧ fix.location.kind = .localVariable ∧
      ¬ fix.location.NamesParameter) := by
  intro config item method source owner
  constructor
  · refine ⟨_, _, rfl, rfl, rfl, rfl, ?_⟩
    rintro ⟨_, _, -, -, hindex, -⟩
    revert hindex
    decide
  · refine ⟨_, _, rfl, rfl, rfl, rfl, ?_⟩
    rintro ⟨_, _, hmember, -⟩
    cases hmember

end Nullability
