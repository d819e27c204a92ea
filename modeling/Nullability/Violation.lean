import Nullability.Site

/-!
# Violations

What a nullability analyser reports: a kind out of a closed set, a message for people, and the
site it is about.
-/

namespace Nullability

/-- The ways in which code can break its nullability contract. -/
inductive ViolationKind where
  | dereferenceNullable
  | returnNullable
  | passNullable
  | assignFieldNullable
  | wrongOverrideReturn
  | wrongOverrideParam
  | methodNoInit
  | fieldNoInit
  | unboxNullable
  | fieldReadBeforeInit
  | invalidMarkerValue
  | castNonNullArgument
  | getOnEmptyOptional
  | switchExpressionNullable
  | nullableVarargs
  | preconditionNotSatisfied
  | postconditionNotSatisfied
  | wrongOverridePrecondition
  | wrongOverridePostcondition
  deriving DecidableEq, Repr

namespace ViolationKind

/-- All kinds. -/
def all : List ViolationKind :=
  [dereferenceNullable, returnNullable, passNullable, assignFieldNullable, wrongOverrideReturn,
   wrongOverrideParam, methodNoInit, fieldNoInit, unboxNullable, fieldReadBeforeInit,
   invalidMarkerValue, castNonNullArgument, getOnEmptyOptional, switchExpressionNullable,
   nullableVarargs, preconditionNotSatisfied, postconditionNotSatisfied,
   wrongOverridePrecondition, wrongOverridePostcondition]

/-- The word for a kind in records and messages. -/
def label : ViolationKind → Text
  | dereferenceNullable => "DEREFERENCE_NULLABLE"
  | returnNullable => "RETURN_NULLABLE"
  | passNullable => "PASS_NULLABLE"
  | assignFieldNullable => "ASSIGN_FIELD_NULLABLE"
  | wrongOverrideReturn => "WRONG_OVERRIDE_RETURN"
  | wrongOverrideParam => "WRONG_OVERRIDE_PARAM"
  | methodNoInit => "METHOD_NO_INIT"
  | fieldNoInit => "FIELD_NO_INIT"
  | unboxNullable => "UNBOX_NULLABLE"
  | fieldReadBeforeInit => "NONNULL_FIELD_READ_BEFORE_INIT"
  | invalidMarkerValue => "ANNOTATION_VALUE_INVALID"
  | castNonNullArgument => "CAST_TO_NONNULL_ARG_NONNULL"
  | getOnEmptyOptional => "GET_ON_EMPTY_OPTIONAL"
  | switchExpressionNullable => "SWITCH_EXPRESSION_NULLABLE"
  | nullableVarargs => "NULLABLE_VARARGS_UNSUPPORTED"
  | preconditionNotSatisfied => "PRECONDITION_NOT_SATISFIED"
  | postconditionNotSatisfied => "POSTCONDITION_NOT_SATISFIED"
  | wrongOverridePrecondition => "WRONG_OVERRIDE_PRECONDITION"
  | wrongOverridePostcondition => "WRONG_OVERRIDE_POSTCONDITION"

/-- The kind that a word stands for. -/
def ofLabel? (label : Text) : Option ViolationKind :=
  all.find? fun k => k.label = label

theorem mem_all (k : ViolationKind) : k ∈ all := by
  cases k <;> decide

end ViolationKind

/-- One finding of the analyser. -/
structure Violation where
  kind : ViolationKind
  message : Text
  location : Location
  deriving DecidableEq, Repr

end Nullability
