import Nullability.Ledger
import Nullability.Proofs.Decision.Table
import Nullability.Proofs.Site.Construction

/-!
# Decisions and the identity of a site

Two locations are the same site wherever they stand in the file. A decision is about the site: it
reads nothing of a location that its identity leaves out, and nothing of the message.

* `Fix.Agrees`: fixes that differ at most in where their site stands in the file;
* `outcome?_congr`, `passesOver_congr`: what each part of a decision reads of a violation;
* `index_of_sameSite`: the position, which a line of a ledger shows, follows from the site as long
  as a factory made the location;
* `decide?_of_sameSite`: the same answer, and the same line, for the same kind at the same site.
-/

namespace Nullability

/-! ## The site of a location -/

namespace Location

variable {l r : Location}

theorem sameSite_iff : l.sameSite r = true ↔
    l.source = r.source ∧ l.owner = r.owner ∧ l.member = r.member ∧ l.target = r.target := by
  simp [sameSite, and_assoc]

/-- The position is no part of the identity, but a factory leaves it no choice. -/
theorem index_of_sameSite (hl : l.IsBuilt) (hr : r.IsBuilt) (h : l.sameSite r = true) :
    l.index = r.index := by
  rcases sameSite_iff.1 h with ⟨-, -, hmember, htarget⟩
  by_cases hparameter : l.kind = .parameter
  · rcases kind_eq_parameter_iff.1 hparameter with ⟨m, hl⟩
    have hr : r.member = .parameter m := hmember.symm.trans hl
    simp only [index, hl, hr, htarget]
    cases r.target <;> rfl
  · have hother : r.kind ≠ .parameter := by
      rwa [kind, ← hmember]
    rw [index_eq_givenIndex hparameter, index_eq_givenIndex hother, hl.givenIndex_eq_zero,
      hr.givenIndex_eq_zero]

theorem values_of_sameSite (h : l.sameSite r = true) (hindex : l.index = r.index) :
    l.values = r.values := by
  rcases sameSite_iff.1 h with ⟨hsource, howner, hmember, htarget⟩
  simp only [values, kind, method?, hsource, howner, hmember, htarget, hindex]

end Location

/-! ## What a decision reads -/

namespace Config

variable {config : Config} {v w : Violation}

theorem passesOver_congr {l r : Location} (howner : l.owner = r.owner) :
    config.PassesOver l ↔ config.PassesOver r := by
  simp only [PassesOver, howner]

theorem decide?_of_ownerless (h : ¬ config.PassesOver v.location)
    (howner : v.location.owner = none) : config.decide? v = .error .ownerMissing := by
  have hactive : config.suggest.isActive = true := by
    simpa using fun hoff => h (Or.inl hoff)
  simp [decide?, hactive, howner]

/-- The choice by kind reads the kind of the violation, and the member and the target of the
location. -/
theorem outcome?_congr (hkind : v.kind = w.kind) (hmember : v.location.member = w.location.member)
    (htarget : v.location.target = w.location.target) : config.outcome? v = config.outcome? w := by
  have hresult : config.resultOutcome? v.location = config.resultOutcome? w.location := by
    simp only [resultOutcome?, Location.kind, hmember]
  have hparameter : parameterOutcome? v.location = parameterOutcome? w.location := by
    simp only [parameterOutcome?, Location.kind, hmember]
  have hpassed : config.passedOutcome v.location = config.passedOutcome w.location := by
    simp only [passedOutcome, Location.method?, hmember, htarget]
  have hfield : fieldOutcome? v.location = fieldOutcome? w.location := by
    simp only [fieldOutcome?, Location.kind, hmember, htarget]
  simp only [outcome?, hkind, hresult, hparameter, hpassed, hfield]

end Config

/-! ## Fixes -/

namespace Fix

variable {f g : Fix}

/-- The fixes propose the same marker, for the same reason and to the same effect, at the same
site. -/
structure Agrees (f g : Fix) : Prop where
  site : f.location.sameSite g.location = true
  marker : f.marker = g.marker
  reason : f.reason = g.reason
  outcome : f.outcome = g.outcome

/-- Fixes with one outcome for one kind of violation at one site. -/
theorem agrees_of_sameSite {v w : Violation} (marker : Text) (outcome : Outcome)
    (hkind : v.kind = w.kind) (hsite : v.location.sameSite w.location = true) :
    Agrees ⟨v.location, marker, v.kind.label, outcome⟩
      ⟨w.location, marker, w.kind.label, outcome⟩ :=
  ⟨hsite, rfl, congrArg ViolationKind.label hkind, rfl⟩

theorem Agrees.record_eq (h : f.Agrees g) (hindex : f.location.index = g.location.index) :
    f.record = g.record := by
  have hvalues := Location.values_of_sameSite h.site hindex
  have hinject : f.inject = g.inject := by rw [inject, inject, h.outcome]
  simp only [record, values, h.marker, h.reason, hinject, hvalues]

end Fix

/-- Violations of one kind at one site get the same answer, whatever their messages are and wherever
their locations stand in the file: nothing, a complaint with the same text, or fixes that agree. If
factories made the locations, the fixes are written as the same line. Only a location without a
class gets none of these. -/
theorem Config.decide?_of_sameSite (config : Config) {v w : Violation} (hkind : v.kind = w.kind)
    (hsite : v.location.sameSite w.location = true) :
    (config.decide? v = .ok none ∧ config.decide? w = .ok none) ∨
    (∃ kind handler, config.decide? v = .error (.incompatible kind handler) ∧
      config.decide? w = .error (.incompatible kind handler)) ∨
    (∃ f g, config.decide? v = .ok (some f) ∧ config.decide? w = .ok (some g) ∧ f.Agrees g ∧
      (v.location.IsBuilt → w.location.IsBuilt → ∀ format delimiter,
        frame (f.record.render format delimiter) = frame (g.record.render format delimiter))) ∨
    (v.location.owner = none ∧ w.location.owner = none ∧
      config.decide? v = .error .ownerMissing ∧ config.decide? w = .error .ownerMissing) := by
  rcases Location.sameSite_iff.1 hsite with ⟨-, howner, hmember, htarget⟩
  by_cases hgate : config.PassesOver v.location
  · have hgate' := (passesOver_congr howner).1 hgate
    exact Or.inl ⟨decide?_of_passesOver hgate, decide?_of_passesOver hgate'⟩
  have hgate' : ¬ config.PassesOver w.location := fun h => hgate ((passesOver_congr howner).2 h)
  -- Behind the gates only a location without a class does not get to the choice by kind.
  cases hv : v.location.owner with
  | none =>
      have hw : w.location.owner = none := howner.symm.trans hv
      exact Or.inr (Or.inr (Or.inr ⟨rfl, hw, decide?_of_ownerless hgate hv,
        decide?_of_ownerless hgate' hw⟩))
  | some owner =>
      have hw : w.location.owner = some owner := howner.symm.trans hv
      have hsame : config.outcome? v = config.outcome? w := outcome?_congr hkind hmember htarget
      rw [decide?_of_not_passesOver hgate hv, decide?_of_not_passesOver hgate' hw, propose?,
        propose?, ← hsame]
      -- One outcome or one complaint serves for both, so only the fixes still differ.
      rcases ruling_or_misplaced config v with ⟨outcome, hruling⟩ | ⟨handler, hmisplaced⟩
      · rw [outcome?_of_ruling hruling]
        cases outcome with
        | none => exact Or.inl ⟨rfl, rfl⟩
        | some outcome =>
            have hagrees := Fix.agrees_of_sameSite config.markers.nullable.name outcome hkind hsite
            refine Or.inr (Or.inr (Or.inl ⟨_, _, rfl, rfl, hagrees, ?_⟩))
            intro hvbuilt hwbuilt format delimiter
            rw [hagrees.record_eq (Location.index_of_sameSite hvbuilt hwbuilt hsite)]
      · rw [outcome?_of_misplaced hmisplaced]
        exact Or.inr (Or.inl ⟨_, _, rfl, rfl⟩)

/-- Two reports of one parameter, on different lines and with different messages: the fixes differ,
but agree, and are written as one line that shows the position of the parameter. -/
theorem Config.decide?_of_sameSite_parameter :
    let config := { disabled with suggest := .shallow }
    let item := Symbol.bare "item"
    let method : Method := ⟨"add_item", [Symbol.bare "self", item], []⟩
    let location (line : Int) : Location :=
      ⟨⟨"shop", "file:///shop.py"⟩, some ⟨"shop.Basket"⟩, .parameter method, some item, 0,
        some line, none⟩
    let v : Violation := ⟨.passNullable, "null is passed", location 3⟩
    let w : Violation := ⟨.passNullable, "None is passed", location 99⟩
    (v.kind = w.kind ∧ v.location.sameSite w.location = true ∧
      v.location.IsBuilt ∧ w.location.IsBuilt) ∧
    ∃ f g, config.decide? v = .ok (some f) ∧ config.decide? w = .ok (some g) ∧ f ≠ g ∧
      f.Agrees g ∧ frame (f.record.render .delimited "$*$") =
        frame (g.record.render .delimited "$*$") := by
  intro config item method location v w
  have hsite : v.location.sameSite w.location = true := by decide
  have hbuilt (line : Int) : (location line).IsBuilt := by
    have hmade : Location.ofParameter? ⟨"shop", "file:///shop.py"⟩ (some ⟨"shop.Basket"⟩)
        (some method) (some item) (some line) none = .ok (location line) := rfl
    exact .parameter hmade
  have hv : config.decide? v =
      .ok (some ⟨location 3, "javax.annotation.Nullable", "PASS_NULLABLE", .insert⟩) := rfl
  have hw : config.decide? w =
      .ok (some ⟨location 99, "javax.annotation.Nullable", "PASS_NULLABLE", .insert⟩) := rfl
  refine ⟨⟨rfl, hsite, hbuilt 3, hbuilt 99⟩, _, _, hv, hw, by decide, ?_⟩
  -- Of the four ways in which two decisions can agree, only that of two fixes is left.
  have hanswer := decide?_of_sameSite config (v := v) (w := w) rfl hsite
  rw [hv, hw] at hanswer
  rcases hanswer with ⟨h, -⟩ | ⟨_, _, h, -⟩ | ⟨f, g, hf, hg, hagrees, hlines⟩ | ⟨h, -⟩
  · cases h
  · cases h
  · cases hf
    cases hg
    exact ⟨hagrees, hlines (hbuilt 3) (hbuilt 99) .delimited "$*$"⟩
  · cases h

/-- Loose parts may give a field a position, and then one site has two lines. -/
example :
    let location (i : Int) : Location :=
      ⟨⟨"shop", ""⟩, some ⟨"shop.Basket"⟩, .field, some (.bare "total"), i, none, none⟩
    (location 0).sameSite (location 5) = true ∧ (location 0).values ≠ (location 5).values := by
  decide +kernel

end Nullability
