import Nullability.Source.Tree

/-!
# Signatures

The parameters of a function as its parser lists them: the names of each group, and beside them
the types that are written on them. A list of types may be shorter than its list of names.

* `Parameter.paired` gives every name of a group the type at its place;
* `SourceFunction.withSignature` is a function with the parameters of a signature.
-/

namespace Nullability

/-- The parameters of a function in groups, with names and types in lists of their own. -/
structure Signature where
  positionalOnly : List Text
  positionalOnlyTypes : List (Option Expression)
  regular : List Text
  regularTypes : List (Option Expression)
  variadic : Option Text
  variadicType : Option Expression
  keywordOnly : List Text
  keywordOnlyTypes : List (Option Expression)
  keywordVariadic : Option Text
  keywordVariadicType : Option Expression
  deriving Inhabited, Repr

/-- The parameters of a group. Where the types end early, the other parameters have none. -/
def Parameter.paired (names : List Text) (types : List (Option Expression)) : List Parameter :=
  names.zipWith Parameter.mk (types ++ List.replicate (names.length - types.length) none)

/-- The function with the parameters of a signature in place of its own. -/
def SourceFunction.withSignature (f : SourceFunction) (s : Signature) : SourceFunction :=
  { f with
    positionalOnly := Parameter.paired s.positionalOnly s.positionalOnlyTypes
    regular := Parameter.paired s.regular s.regularTypes
    variadic := s.variadic.map fun name => ⟨name, s.variadicType⟩
    keywordOnly := Parameter.paired s.keywordOnly s.keywordOnlyTypes
    keywordVariadic := s.keywordVariadic.map fun name => ⟨name, s.keywordVariadicType⟩ }

end Nullability
