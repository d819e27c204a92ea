import Nullability.Text.Letter

/-!
# Expressions of a source text

The expressions that declarations and tests are made of, as far as their form matters. Every
expression comes with its text; only a few forms have parts.

* `Expression.metadata`: what a type such as `Annotated[T, m]` says besides the type;
* `Expression.isFinal`: whether a type says that what it belongs to is assigned once.
-/

namespace Nullability

/-- An expression with its text. -/
inductive Expression where
  | name (text : Text) (identifier : Text)
  | constant (text : Text) (isNone : Bool)
  | member (text : Text) (receiver : Expression) (field : Text)
  | subscript (text : Text) (head index : Expression)
  | tuple (text : Text) (items : List Expression)
  /-- A chain of comparisons: the first operand, and each operator with the operand after it. -/
  | comparison (text : Text) (left : Expression) (rest : List (Text × Expression))
  | other (text : Text)
  deriving Inhabited, Repr

namespace Expression

/-- The text of an expression. -/
def text : Expression → Text
  | name t _ => t
  | constant t _ => t
  | member t _ _ => t
  | subscript t _ _ => t
  | tuple t _ => t
  | comparison t _ _ => t
  | other t => t

/-- Whether the expression is the literal for no value. -/
def isNone : Expression → Bool
  | constant _ isNone => isNone
  | _ => false

/-! ## Types -/

/-- The types that say that what they belong to is assigned once. -/
def finalHeads : List Text :=
  ["Final", "typing.Final", "typing_extensions.Final"]

/-- The types that add metadata to another type. -/
def annotatedHeads : List Text :=
  ["Annotated", "typing.Annotated", "typing_extensions.Annotated"]

/-- What a type adds to the type that it is about. -/
def metadata : Expression → List Text
  | subscript _ head (tuple _ items) =>
      if annotatedHeads.contains head.text then (items.drop 1).map text else []
  | _ => []

/-- Whether a type is final, at its head or as what metadata is added to. -/
def isFinal : Expression → Bool
  | subscript _ head (tuple _ (first :: _)) =>
      finalHeads.contains head.text ||
        (annotatedHeads.contains head.text && isFinal first)
  | subscript _ head index =>
      finalHeads.contains head.text || (annotatedHeads.contains head.text && isFinal index)
  | e => finalHeads.contains e.text

end Expression
end Nullability
