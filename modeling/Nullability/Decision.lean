import Nullability.Config
import Nullability.Record

/-!
# Decisions

What a violation leads to: a fix, nothing, or a complaint that its site is of the wrong kind.

* `Config.propose?` is the choice by the kind of violation;
* `Config.decide?` asks first whether the class is acted on at all.

Both read the configuration and the location only.
-/

namespace Nullability

/-- Why no decision is reached. -/
inductive DecisionError where
  /-- The site is of a kind that the handler of this violation cannot mark. -/
  | incompatible (kind : SiteKind) (handler : Text)
  /-- The location lacks the class around it. -/
  | ownerMissing
  deriving DecidableEq, Repr

/-- The message for a site of the wrong kind. -/
def DecisionError.message : DecisionError → Text
  | incompatible kind handler =>
      "Incompatible Fix Call: Cannot fix location type: " ++ kind.label ++
        " with this method: " ++ handler
  | ownerMissing => "the location has no class"

namespace Config

/-- The outcome for a result that may be null: what its method already carries decides. -/
def resultOutcome? (config : Config) (location : Location) : Except DecisionError Outcome :=
  match location.member with
  | .result method =>
      -- The opposite marker wins over a marker that is there already.
      if config.markers.carriesNonNull method.markers then .ok .alreadyConflicting
      else if config.markers.carriesNullable method.markers then .ok .alreadyCompatible
      else .ok .insert
  | _ => .error (.incompatible location.kind "add_return_nullable_fix")

/-- The outcome for a parameter that an override widens. -/
def parameterOutcome? (location : Location) : Except DecisionError Outcome :=
  match location.kind with
  | .parameter => .ok .insert
  | kind => .error (.incompatible kind "add_param_nullable_fix")

/-- The outcome for a parameter that null is passed to: none unless the symbol is a declared
parameter without the opposite marker. -/
def passedOutcome (config : Config) (location : Location) : Option Outcome :=
  match location.method?, location.target with
  | some method, some symbol =>
      match method.parameter? symbol with
      | some parameter =>
          if config.markers.carriesNonNull parameter.markers then none else some .insert
      | none => none
  | _, _ => none

/-- The outcome for a field: none for one that is assigned only once. -/
def fieldOutcome? (location : Location) : Except DecisionError (Option Outcome) :=
  match location.kind with
  | .field =>
      match location.target with
      | some symbol => .ok (if symbol.isFinal then none else some .insert)
      | none => .ok none
  | kind => .error (.incompatible kind "add_field_nullable_fix")

/-- The outcome for a violation; kinds that no marker can resolve have none. -/
def outcome? (config : Config) (violation : Violation) :
    Except DecisionError (Option Outcome) :=
  let location := violation.location
  match violation.kind with
  | .returnNullable | .wrongOverrideReturn => (config.resultOutcome? location).map some
  | .wrongOverrideParam => (parameterOutcome? location).map some
  | .passNullable => .ok (config.passedOutcome location)
  | .fieldNoInit | .assignFieldNullable => fieldOutcome? location
  | _ => .ok none

/-- The fix for a violation, whatever its class. -/
def propose? (config : Config) (violation : Violation) : Except DecisionError (Option Fix) :=
  (config.outcome? violation).map fun outcome =>
    outcome.map fun outcome =>
      { location := violation.location
        marker := config.markers.nullable.name
        reason := violation.kind.label
        outcome }

/-- The fix for a violation in a class that is acted on. -/
def decide? (config : Config) (violation : Violation) : Except DecisionError (Option Fix) :=
  -- Whether anything is suggested at all comes first, whatever the location lacks.
  if !config.suggest.isActive then .ok none
  else
    match violation.location.owner with
    | none => .error .ownerMissing
    | some owner =>
        if owner.isAnonymous || !config.inScope owner.qualified then .ok none
        else config.propose? violation

end Config
end Nullability
