import Nullability.Source.Tree

/-!
# Null checks

A conditional in a method that compares a field of the method's own object with the literal for no
value says that the field may hold none. Only a single comparison counts, by one of two operators,
in either order of the operands; everything else is left alone rather than guessed at.

* `Expression.comparedToNone?` is the operand beside the literal;
* `Expression.fieldOfName?` takes the access to a field of a name apart;
* `SourceTree.nullCheck?` puts both together with the method around the conditional.
-/

namespace Nullability

/-- A field that is checked, and the class in whose method it is. -/
structure NullCheck where
  owner : SourceClass
  field : Text

/-- The operators that compare a value with none. -/
def nullOperators : List Text := ["==", "is"]

namespace Expression

/-- What a single comparison compares with the literal for no value. -/
def comparedToNone? : Expression → Option Expression
  | comparison _ left [(operator, right)] =>
      if nullOperators.contains operator then
        -- Where both operands are the literal, the left one counts as compared.
        if right.isNone then some left else if left.isNone then some right else none
      else none
  | _ => none

/-- The name and the field, if the expression is a field of a bare name. -/
def fieldOfName? : Expression → Option (Text × Text)
  | member _ (name _ identifier) field => some (identifier, field)
  | _ => none

end Expression

namespace SourceTree

/-- The method in which a conditional stands, with the class that it belongs to. -/
def methodAround? (t : SourceTree) (c : Conditional) : Option (SourceClass × SourceFunction) := do
  let f ← t.functions[← c.frame]?
  let owner ← t.classes[← f.owner]?
  if f.kind = .method then some (owner, f) else none

/-- The null check that a conditional is. -/
def nullCheck? (t : SourceTree) (c : Conditional) : Option NullCheck := do
  let (name, field) ← (← c.test.comparedToNone?).fieldOfName?
  let (owner, method) ← t.methodAround? c
  let self ← method.positional.head?
  if name = self.name then some ⟨owner, field⟩ else none

end SourceTree
end Nullability
