import Nullability.Path
import Nullability.Source.Expression

/-!
# Source trees

What is known of one source file: its classes, its functions and the conditionals in it. Classes
and functions refer to each other by position.

* `SourceTree.lineage` is a class followed by its ancestors;
* `SourceTree.resolve?` finds the class that declares a field, with the declaration;
* `resolve?_resolved`: looking again from the class that was found gives the same answer.
-/

namespace Nullability

/-- A place where a name is declared. -/
structure Declaration where
  /-- Whether it assigns to the bare name. -/
  isAssignment : Bool
  line : Option Int
  column : Option Int
  /-- The type written with it. -/
  declaredType : Option Expression
  deriving Inhabited, Repr

/-- The names declared somewhere, each with its declarations in order. -/
abbrev Declarations := List (Text × List Declaration)

/-- The declarations of a name. -/
def Declarations.of (declarations : Declarations) (name : Text) : List Declaration :=
  (declarations.lookup name).getD []

/-- What a module is besides its tree: its dotted name, whether it is a package, and the path of its
file, which a module that was made without one lacks. -/
structure ModuleHome where
  name : Text
  isPackage : Bool
  file : Option Path
  deriving DecidableEq, Repr

/-- Where a class comes from. -/
inductive ClassOrigin where
  /-- From the file itself, under a name that is unique in it. -/
  | own (name : Text)
  /-- From another module, with its whole name. -/
  | foreign (name : Text) (home : ModuleHome)
  deriving DecidableEq, Repr

instance : Inhabited ClassOrigin := ⟨.own ""⟩

/-- A class. -/
structure SourceClass where
  origin : ClassOrigin
  line : Option Int
  column : Option Int
  /-- The positions of the classes it inherits from, the closest first. -/
  ancestors : List Nat
  /-- What its body declares. -/
  locals : Declarations
  /-- What its methods declare on an instance. -/
  instanceFields : Declarations
  deriving Inhabited, Repr

/-- A parameter with the type written on it. -/
structure Parameter where
  name : Text
  declaredType : Option Expression
  deriving Inhabited, Repr

/-- What a function is to the class around it. -/
inductive FunctionKind where
  | method
  | classMethod
  | staticMethod
  | free
  deriving DecidableEq, Repr, Inhabited

/-- A function with its parameters in groups. -/
structure SourceFunction where
  name : Text
  kind : FunctionKind
  /-- The position of the class in whose body it stands. -/
  owner : Option Nat
  line : Option Int
  column : Option Int
  decorators : List Text
  returns : Option Expression
  positionalOnly : List Parameter
  regular : List Parameter
  variadic : Option Parameter
  keywordOnly : List Parameter
  keywordVariadic : Option Parameter
  locals : Declarations
  deriving Inhabited, Repr

/-- The parameters that can be given by position, in order. -/
def SourceFunction.positional (f : SourceFunction) : List Parameter :=
  f.positionalOnly ++ f.regular

/-- All parameters, in the order in which a signature lists them. -/
def SourceFunction.parameters (f : SourceFunction) : List Parameter :=
  f.positional ++ f.variadic.toList ++ f.keywordOnly ++ f.keywordVariadic.toList

/-- A conditional statement. -/
structure Conditional where
  line : Int
  test : Expression
  /-- The position of the innermost scope around it, where that is a function. -/
  frame : Option Nat
  deriving Inhabited, Repr

/-- A source file. -/
structure SourceTree where
  isPackage : Bool
  classes : List SourceClass
  functions : List SourceFunction
  conditionals : List Conditional
  deriving Inhabited, Repr

/-! ## Fields -/

/-- The declaration of a field in a class: the first assignment in its body, or else the first
on an instance. -/
def SourceClass.declarationOf? (c : SourceClass) (field : Text) : Option Declaration :=
  ((Declarations.of c.locals field).find? Declaration.isAssignment).or
    (Declarations.of c.instanceFields field).head?

namespace SourceTree

/-- A class and the classes it inherits from, the closest first. -/
def lineage (t : SourceTree) (c : SourceClass) : List SourceClass :=
  c :: c.ancestors.filterMap fun i => t.classes[i]?

/-- The first class of a lineage that declares a field, with the declaration. -/
def resolve? (t : SourceTree) (c : SourceClass) (field : Text) :
    Option (SourceClass × Declaration) :=
  (t.lineage c).findSome? fun d => (d.declarationOf? field).map fun declaration => (d, declaration)

/-- A class that declares a field is the first of its own lineage to do so. -/
theorem resolve?_of_declares {t : SourceTree} {c : SourceClass} {field : Text}
    {declaration : Declaration} (h : c.declarationOf? field = some declaration) :
    t.resolve? c field = some (c, declaration) := by
  simp [resolve?, lineage, h]

/-- A class that was found for a field declares it so. -/
theorem declares_of_resolve? {t : SourceTree} {c d : SourceClass} {field : Text}
    {declaration : Declaration} (h : t.resolve? c field = some (d, declaration)) :
    d.declarationOf? field = some declaration := by
  obtain ⟨e, _, he⟩ := List.exists_of_findSome?_eq_some h
  obtain ⟨found, hf, hp⟩ := Option.map_eq_some_iff.1 he
  cases hp
  exact hf

theorem resolve?_resolved {t : SourceTree} {c d : SourceClass} {field : Text}
    {declaration : Declaration} (h : t.resolve? c field = some (d, declaration)) :
    t.resolve? d field = some (d, declaration) :=
  resolve?_of_declares (declares_of_resolve? h)

end SourceTree
end Nullability
