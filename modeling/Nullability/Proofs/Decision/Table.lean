import Nullability.Decision
import Nullability.Proofs.Site.Position

/-!
# The decision table

What `Config.decide?` gives for every configuration and every violation, stated without reference
to how it is computed:

1. `Config.PassesOver` says when nothing is decided, whatever the violation is;
2. `Misplaced` lists the violations whose site the handler cannot mark;
3. `Ruling` lists the outcomes of all others.

`ruling_or_misplaced` says that the table is complete, `outcome?_of_ruling` and
`outcome?_of_misplaced` that the choice by kind follows it, and `decide?_table` puts the gates in
front.
-/

namespace Nullability

/-! ## Predicates of the table -/

/-- Nothing is suggested at all, or the class is synthetic or out of the work list. -/
def Config.PassesOver (config : Config) (location : Location) : Prop :=
  config.suggest.isActive = false ∨ ∃ owner, location.owner = some owner ∧
    (owner.qualified.toList.head? = some (.char '<') ∨
      owner.simple.toList.head? = some (.char '<') ∨
      WorkList.wildcard ∉ config.workList.toList ∧
        owner.qualified ∉ config.workList.toList)

/-- The target is a declared parameter of the method and nothing on it says that it never holds
null. -/
def Config.CanWiden (config : Config) (location : Location) : Prop :=
  ∃ method symbol, location.method? = some method ∧ location.target = some symbol ∧
    symbol ∈ method.parameters ∧
      ∀ written ∈ symbol.markers, config.markers.nonNull.denotedBy written = false

/-- The target is there and may be assigned again. -/
def Location.IsReassignable (location : Location) : Prop :=
  ∃ symbol, location.target = some symbol ∧ .ofString "final" ∉ symbol.modifiers.toList

/-- The violations at sites that their handler cannot mark, with the name of the handler. -/
inductive Misplaced (v : Violation) : Text → Prop where
  | result (hkind : v.kind = .returnNullable ∨ v.kind = .wrongOverrideReturn)
      (hsite : v.location.kind ≠ .result) : Misplaced v "add_return_nullable_fix"
  | parameter (hkind : v.kind = .wrongOverrideParam) (hsite : v.location.kind ≠ .parameter) :
      Misplaced v "add_param_nullable_fix"
  | field (hkind : v.kind = .fieldNoInit ∨ v.kind = .assignFieldNullable)
      (hsite : v.location.kind ≠ .field) : Misplaced v "add_field_nullable_fix"

/-- The outcomes of the violations at all other sites. -/
inductive Ruling (config : Config) (v : Violation) : Option Outcome → Prop where
  | conflicting {method : Method}
      (hkind : v.kind = .returnNullable ∨ v.kind = .wrongOverrideReturn)
      (hsite : v.location.member = .result method)
      (h : ∃ written ∈ method.markers, config.markers.nonNull.denotedBy written = true) :
      Ruling config v (some .alreadyConflicting)
  | compatible {method : Method}
      (hkind : v.kind = .returnNullable ∨ v.kind = .wrongOverrideReturn)
      (hsite : v.location.member = .result method)
      (hplain : ∀ written ∈ method.markers, config.markers.nonNull.denotedBy written = false)
      (h : ∃ written ∈ method.markers, config.markers.nullable.denotedBy written = true) :
      Ruling config v (some .alreadyCompatible)
  | unmarked {method : Method}
      (hkind : v.kind = .returnNullable ∨ v.kind = .wrongOverrideReturn)
      (hsite : v.location.member = .result method)
      (hplain : ∀ written ∈ method.markers, config.markers.nonNull.denotedBy written = false)
      (h : ∀ written ∈ method.markers, config.markers.nullable.denotedBy written = false) :
      Ruling config v (some .insert)
  | overridden (hkind : v.kind = .wrongOverrideParam) (hsite : v.location.kind = .parameter) :
      Ruling config v (some .insert)
  | passed (hkind : v.kind = .passNullable) (h : config.CanWiden v.location) :
      Ruling config v (some .insert)
  | refused (hkind : v.kind = .passNullable) (h : ¬ config.CanWiden v.location) :
      Ruling config v none
  | assigned (hkind : v.kind = .fieldNoInit ∨ v.kind = .assignFieldNullable)
      (hsite : v.location.kind = .field) (h : v.location.IsReassignable) :
      Ruling config v (some .insert)
  | settled (hkind : v.kind = .fieldNoInit ∨ v.kind = .assignFieldNullable)
      (hsite : v.location.kind = .field) (h : ¬ v.location.IsReassignable) : Ruling config v none
  | unresolved
      (hkind : v.kind ∉ [.returnNullable, .wrongOverrideReturn, .wrongOverrideParam, .passNullable,
        .fieldNoInit, .assignFieldNullable]) : Ruling config v none

/-! ## What the parts of a decision ask -/

theorem carries_iff {marker : Marker} {markers : List Text} :
    markers.any marker.denotedBy = true ↔ ∃ written ∈ markers, marker.denotedBy written = true :=
  List.any_eq_true

theorem carries_eq_false_iff {marker : Marker} {markers : List Text} :
    markers.any marker.denotedBy = false ↔
      ∀ written ∈ markers, marker.denotedBy written = false := by
  simp

theorem passedOutcome_of_canWiden {config : Config} {location : Location}
    (h : config.CanWiden location) : config.passedOutcome location = some .insert := by
  rcases h with ⟨method, symbol, hmethod, htarget, hmem, hplain⟩
  have hcarries : config.markers.carriesNonNull symbol.markers = false :=
    carries_eq_false_iff.2 hplain
  simp [Config.passedOutcome, hmethod, htarget, Method.parameter?_eq, hmem, hcarries]

theorem passedOutcome_of_not_canWiden {config : Config} {location : Location}
    (h : ¬ config.CanWiden location) : config.passedOutcome location = none := by
  cases hmethod : location.method? with
  | none => simp [Config.passedOutcome, hmethod]
  | some method =>
      cases htarget : location.target with
      | none => simp [Config.passedOutcome, hmethod, htarget]
      | some symbol =>
          by_cases hmem : symbol ∈ method.parameters
          · cases hcarries : config.markers.carriesNonNull symbol.markers with
            | true =>
                simp [Config.passedOutcome, hmethod, htarget, Method.parameter?_eq, hmem, hcarries]
            | false =>
                have hplain := carries_eq_false_iff.1 hcarries
                exact absurd ⟨method, symbol, hmethod, htarget, hmem, hplain⟩ h
          · simp [Config.passedOutcome, hmethod, htarget, Method.parameter?_eq, hmem]

theorem fieldOutcome?_of_isReassignable {location : Location} (hsite : location.kind = .field)
    (h : location.IsReassignable) : Config.fieldOutcome? location = .ok (some .insert) := by
  rcases h with ⟨symbol, htarget, hfinal⟩
  have hopen : symbol.isFinal = false := by simpa [Symbol.isFinal, NameSet.contains] using hfinal
  simp [Config.fieldOutcome?, hsite, htarget, hopen]

theorem fieldOutcome?_of_not_isReassignable {location : Location}
    (hsite : location.kind = .field) (h : ¬ location.IsReassignable) :
    Config.fieldOutcome? location = .ok none := by
  cases htarget : location.target with
  | none => simp [Config.fieldOutcome?, hsite, htarget]
  | some symbol =>
      cases hfinal : symbol.isFinal with
      | true => simp [Config.fieldOutcome?, hsite, htarget, hfinal]
      | false =>
          have hopen : .ofString "final" ∉ symbol.modifiers.toList := by
            simpa [Symbol.isFinal, NameSet.contains] using hfinal
          exact absurd ⟨symbol, htarget, hopen⟩ h

theorem kind_eq_result_iff {location : Location} :
    location.kind = .result ↔ ∃ method, location.member = .result method := by
  cases hmember : location.member <;> simp [Location.kind, Member.kind, hmember]

/-! ## The choice by kind -/

variable {config : Config} {v : Violation}

/-- What a ruling says is what is chosen. -/
theorem outcome?_of_ruling {outcome : Option Outcome} (h : Ruling config v outcome) :
    config.outcome? v = .ok outcome := by
  -- The kinds of one ruling go the same way; each is followed through its handler.
  cases h with
  | @conflicting method hkind hsite h =>
      have hcarries : config.markers.carriesNonNull method.markers = true := carries_iff.2 h
      rcases hkind with hkind | hkind <;>
        simp [Config.outcome?, hkind, Config.resultOutcome?, hsite, hcarries, Except.map]
  | @compatible method hkind hsite hplain h =>
      have hnone : config.markers.carriesNonNull method.markers = false :=
        carries_eq_false_iff.2 hplain
      have hcarries : config.markers.carriesNullable method.markers = true := carries_iff.2 h
      rcases hkind with hkind | hkind <;>
        simp [Config.outcome?, hkind, Config.resultOutcome?, hsite, hnone, hcarries, Except.map]
  | @unmarked method hkind hsite hplain h =>
      have hnone : config.markers.carriesNonNull method.markers = false :=
        carries_eq_false_iff.2 hplain
      have hopen : config.markers.carriesNullable method.markers = false :=
        carries_eq_false_iff.2 h
      rcases hkind with hkind | hkind <;>
        simp [Config.outcome?, hkind, Config.resultOutcome?, hsite, hnone, hopen, Except.map]
  | overridden hkind hsite =>
      simp [Config.outcome?, hkind, Config.parameterOutcome?, hsite, Except.map]
  | passed hkind h => simp [Config.outcome?, hkind, passedOutcome_of_canWiden h]
  | refused hkind h => simp [Config.outcome?, hkind, passedOutcome_of_not_canWiden h]
  | assigned hkind hsite h =>
      have hfield := fieldOutcome?_of_isReassignable hsite h
      rcases hkind with hkind | hkind <;> simp [Config.outcome?, hkind, hfield]
  | settled hkind hsite h =>
      have hfield := fieldOutcome?_of_not_isReassignable hsite h
      rcases hkind with hkind | hkind <;> simp [Config.outcome?, hkind, hfield]
  | unresolved hkind =>
      unfold Config.outcome?
      cases hv : v.kind <;> simp_all

/-- A site that cannot be marked is reported with the handler that refuses it. -/
theorem outcome?_of_misplaced {handler : Text} (h : Misplaced v handler) :
    config.outcome? v = .error (.incompatible v.location.kind handler) := by
  -- Each handler looks at the member before anything else, so the markers do not matter.
  cases h with
  | result hkind hsite =>
      have hmember : ∀ method, v.location.member ≠ .result method := by
        intro method hmember
        exact hsite (kind_eq_result_iff.2 ⟨method, hmember⟩)
      have hrefused : config.resultOutcome? v.location =
          .error (.incompatible v.location.kind "add_return_nullable_fix") := by
        unfold Config.resultOutcome?
        split
        · next method hresult => exact absurd hresult (hmember method)
        · rfl
      rcases hkind with hkind | hkind <;>
        simp [Config.outcome?, hkind, hrefused, Except.map]
  | parameter hkind hsite =>
      have hrefused : Config.parameterOutcome? v.location =
          .error (.incompatible v.location.kind "add_param_nullable_fix") := by
        unfold Config.parameterOutcome?
        split
        · next hparameter => exact absurd hparameter hsite
        · rfl
      simp [Config.outcome?, hkind, hrefused, Except.map]
  | field hkind hsite =>
      have hrefused : Config.fieldOutcome? v.location =
          .error (.incompatible v.location.kind "add_field_nullable_fix") := by
        unfold Config.fieldOutcome?
        split
        · next hfield => exact absurd hfield hsite
        · rfl
      rcases hkind with hkind | hkind <;> simp [Config.outcome?, hkind, hrefused]

theorem ruling_of_result {method : Method}
    (hkind : v.kind = .returnNullable ∨ v.kind = .wrongOverrideReturn)
    (hsite : v.location.member = .result method) : ∃ outcome, Ruling config v outcome := by
  cases hnonNull : config.markers.carriesNonNull method.markers with
  | true => exact ⟨_, Ruling.conflicting hkind hsite (carries_iff.1 hnonNull)⟩
  | false =>
      have hplain := carries_eq_false_iff.1 hnonNull
      cases hnullable : config.markers.carriesNullable method.markers with
      | true => exact ⟨_, Ruling.compatible hkind hsite hplain (carries_iff.1 hnullable)⟩
      | false => exact ⟨_, Ruling.unmarked hkind hsite hplain (carries_eq_false_iff.1 hnullable)⟩

theorem ruling_of_field (hkind : v.kind = .fieldNoInit ∨ v.kind = .assignFieldNullable)
    (hsite : v.location.kind = .field) : ∃ outcome, Ruling config v outcome := by
  by_cases h : v.location.IsReassignable
  · exact ⟨_, Ruling.assigned hkind hsite h⟩
  · exact ⟨_, Ruling.settled hkind hsite h⟩

/-- The table has a ruling for every violation whose site can be marked. -/
theorem ruling_or_misplaced (config : Config) (v : Violation) :
    (∃ outcome, Ruling config v outcome) ∨ ∃ handler, Misplaced v handler := by
  -- The kinds are gone through in the order of the handlers; what is left has no handler.
  by_cases hresult : v.kind = .returnNullable ∨ v.kind = .wrongOverrideReturn
  · by_cases hsite : v.location.kind = .result
    · rcases kind_eq_result_iff.1 hsite with ⟨method, hmember⟩
      exact Or.inl (ruling_of_result hresult hmember)
    · exact Or.inr ⟨_, Misplaced.result hresult hsite⟩
  by_cases hparameter : v.kind = .wrongOverrideParam
  · by_cases hsite : v.location.kind = .parameter
    · exact Or.inl ⟨_, Ruling.overridden hparameter hsite⟩
    · exact Or.inr ⟨_, Misplaced.parameter hparameter hsite⟩
  by_cases hpass : v.kind = .passNullable
  · by_cases h : config.CanWiden v.location
    · exact Or.inl ⟨_, Ruling.passed hpass h⟩
    · exact Or.inl ⟨_, Ruling.refused hpass h⟩
  by_cases hfield : v.kind = .fieldNoInit ∨ v.kind = .assignFieldNullable
  · by_cases hsite : v.location.kind = .field
    · exact Or.inl (ruling_of_field hfield hsite)
    · exact Or.inr ⟨_, Misplaced.field hfield hsite⟩
  · refine Or.inl ⟨_, Ruling.unresolved ?_⟩
    simp only [not_or] at hresult hfield
    simp [hresult, hparameter, hpass, hfield]

theorem outcome?_eq_ok_iff {outcome : Option Outcome} :
    config.outcome? v = .ok outcome ↔ Ruling config v outcome := by
  constructor
  · intro h
    -- Since the table is complete, what was chosen can only be what it says.
    rcases ruling_or_misplaced config v with ⟨other, hruling⟩ | ⟨handler, hmisplaced⟩
    · rw [outcome?_of_ruling hruling] at h
      cases h
      exact hruling
    · rw [outcome?_of_misplaced hmisplaced] at h
      cases h
  · exact outcome?_of_ruling

theorem outcome?_eq_error_iff {e : DecisionError} :
    config.outcome? v = .error e ↔
      ∃ handler, Misplaced v handler ∧ e = .incompatible v.location.kind handler := by
  constructor
  · intro h
    rcases ruling_or_misplaced config v with ⟨outcome, hruling⟩ | ⟨handler, hmisplaced⟩
    · rw [outcome?_of_ruling hruling] at h
      cases h
    · rw [outcome?_of_misplaced hmisplaced] at h
      cases h
      exact ⟨handler, hmisplaced, rfl⟩
  · rintro ⟨handler, hmisplaced, rfl⟩
    exact outcome?_of_misplaced hmisplaced

/-! ## The gates -/

theorem ClassName.isAnonymous_iff (owner : ClassName) : owner.isAnonymous = true ↔
    owner.qualified.toList.head? = some (.char '<') ∨
      owner.simple.toList.head? = some (.char '<') := by
  simp [ClassName.isAnonymous, or_comm]

theorem Config.inScope_iff (config : Config) (name : Text) : config.inScope name = true ↔
    WorkList.wildcard ∈ config.workList.toList ∨ name ∈ config.workList.toList := by
  simp [Config.inScope, NameSet.contains]

theorem passesOver_iff {owner : ClassName} (howner : v.location.owner = some owner) :
    config.PassesOver v.location ↔ config.suggest.isActive = false ∨
      (owner.isAnonymous || !config.inScope owner.qualified) = true := by
  have hscope : config.inScope owner.qualified = false ↔
      WorkList.wildcard ∉ config.workList.toList ∧ owner.qualified ∉ config.workList.toList := by
    rw [← not_or, ← Config.inScope_iff, Bool.not_eq_true]
  simp only [Config.PassesOver, howner, Option.some.injEq, exists_eq_left', Bool.or_eq_true,
    ClassName.isAnonymous_iff, Bool.not_eq_true', hscope, or_assoc]

theorem decide?_of_passesOver (h : config.PassesOver v.location) :
    config.decide? v = .ok none := by
  cases hactive : config.suggest.isActive with
  | false => simp [Config.decide?, hactive]
  | true =>
      have howner : ∃ owner, v.location.owner = some owner := by
        rcases h with hoff | ⟨owner, howner, -⟩
        · rw [hactive] at hoff
          cases hoff
        · exact ⟨owner, howner⟩
      rcases howner with ⟨owner, howner⟩
      rcases (passesOver_iff howner).1 h with hoff | hgate
      · rw [hactive] at hoff
        cases hoff
      · simp only [Config.decide?, hactive, howner, hgate]
        rfl

/-- Behind the gates the choice by kind decides. -/
theorem decide?_of_not_passesOver {owner : ClassName} (h : ¬ config.PassesOver v.location)
    (howner : v.location.owner = some owner) : config.decide? v = config.propose? v := by
  rw [passesOver_iff howner, not_or] at h
  rcases h with ⟨hactive, hgate⟩
  have hactive : config.suggest.isActive = true := by simpa using hactive
  have hgate : (owner.isAnonymous || !config.inScope owner.qualified) = false := by
    simpa using hgate
  simp only [Config.decide?, hactive, howner, hgate]
  rfl

/-- A fix is given exactly where nothing passes the location over, its class is known and the
table has an outcome; the fix says where, which marker, why and with what outcome. -/
theorem decide?_eq_some_iff {fix : Fix} : config.decide? v = .ok (some fix) ↔
    ¬ config.PassesOver v.location ∧ v.location.owner ≠ none ∧
      ∃ outcome, Ruling config v (some outcome) ∧
        fix = ⟨v.location, config.markers.nullable.name, v.kind.label, outcome⟩ := by
  by_cases hgate : config.PassesOver v.location
  · simp [decide?_of_passesOver hgate, hgate]
  cases howner : v.location.owner with
  | none =>
      have hactive : config.suggest.isActive ≠ false := fun hoff => hgate (Or.inl hoff)
      simp [Config.decide?, hactive, howner]
  | some owner =>
      rw [decide?_of_not_passesOver hgate howner, Config.propose?]
      simp only [← outcome?_eq_ok_iff]
      cases houtcome : config.outcome? v with
      | error e => simp [Except.map]
      | ok outcome => cases outcome <;> simp [Except.map, hgate, eq_comm]

/-- The decision for every configuration and every violation. Nothing is decided when the gates
pass the location over, whatever the kinds are. Otherwise the errors are those of the misplaced
violations, and the fixes are the rulings, with the location of the violation, the name of
the nullable marker and the word for the kind. A location without a class is an error of its
own. -/
theorem Config.decide?_table (config : Config) (v : Violation) :
    (config.PassesOver v.location → config.decide? v = .ok none) ∧
      (¬ config.PassesOver v.location → v.location.owner = none →
        config.decide? v = .error .ownerMissing) ∧
      (¬ config.PassesOver v.location → v.location.owner ≠ none →
        (∀ e, config.decide? v = .error e ↔
          ∃ handler, Misplaced v handler ∧ e = .incompatible v.location.kind handler) ∧
        (∀ fix, config.decide? v = .ok fix ↔
          ∃ outcome, Ruling config v outcome ∧ fix = outcome.map fun outcome =>
            ⟨v.location, config.markers.nullable.name, v.kind.label, outcome⟩)) := by
  refine ⟨decide?_of_passesOver, ?_, ?_⟩
  · intro hgate howner
    have hactive : config.suggest.isActive = true := by
      cases hactive : config.suggest.isActive with
      | true => rfl
      | false => exact absurd (Or.inl hactive) hgate
    simp [Config.decide?, hactive, howner]
  · intro hgate howner
    rcases Option.ne_none_iff_exists'.1 howner with ⟨owner, howner⟩
    rw [decide?_of_not_passesOver hgate howner, Config.propose?]
    -- Behind the gates a decision is the outcome for the kind, with a fix made around it.
    constructor
    · intro e
      have hiff := @outcome?_eq_error_iff config v e
      rw [← hiff]
      cases config.outcome? v <;> simp [Except.map]
    · intro fix
      simp only [← outcome?_eq_ok_iff]
      cases config.outcome? v <;> simp [Except.map, eq_comm]

end Nullability
