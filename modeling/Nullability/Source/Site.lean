import Nullability.Source.Module

/-!
# Sites of a module

The locations of fields, parameters, results and local variables of a source tree, with what is
written on their declarations.

* `Symbol.declared`: a type that is written on a declaration is one marker, and the metadata in it
  are further ones;
* `SourceModule.fieldSite?`, `parameterSite?`, `resultSite?` and `localSite?` are the locations,
  which what stands in a file without an address lacks;
* `SourceModule.homeOf` is the module that a class stands in, which need not be the one that is
  looked at.
-/

namespace Nullability

/-- The modifiers of what is assigned once. -/
def finalModifiers : NameSet := NameSet.ofList ["final"]

/-- A symbol on whose declarations types are written. -/
def Symbol.declared (name : Text) (types : List Expression) : Symbol where
  name := name
  markers := types.flatMap fun type => type.text :: type.metadata
  modifiers := if types.any Expression.isFinal then finalModifiers else NameSet.empty

/-- The types written on the declarations of a name. -/
def Declarations.typesOf (declarations : Declarations) (name : Text) : List Expression :=
  (Declarations.of declarations name).filterMap Declaration.declaredType

/-- A parameter as a symbol. -/
def Parameter.symbol (p : Parameter) : Symbol :=
  .declared p.name p.declaredType.toList

/-- A field as a symbol, with what all its declarations in the class say. -/
def SourceClass.fieldSymbol (c : SourceClass) (field : Text) : Symbol :=
  .declared field
    (Declarations.typesOf c.locals field ++ Declarations.typesOf c.instanceFields field)

/-- Whether a class comes from another module. -/
def SourceClass.isForeign (c : SourceClass) : Bool :=
  match c.origin with
  | .own _ => false
  | .foreign _ _ => true

namespace SourceFunction

/-- A function as a method. -/
def asMethod (f : SourceFunction) : Method where
  name := f.name
  parameters := f.parameters.map Parameter.symbol
  markers := f.decorators ++ (f.returns.map Expression.metadata).getD []

/-- The first parameter of a name, or a bare symbol where there is none. -/
def parameterSymbol (f : SourceFunction) (name : Text) : Symbol :=
  (f.asMethod.parameters.find? fun s => s.name = name).getD (.bare name)

/-- A local variable as a symbol. -/
def localSymbol (f : SourceFunction) (name : Text) : Symbol :=
  .declared name (Declarations.typesOf f.locals name)

end SourceFunction

namespace SourceModule

/-- The whole name of a class. -/
def className (m : SourceModule) (c : SourceClass) : ClassName :=
  match c.origin with
  | .own name => ⟨m.name ++ "." ++ name⟩
  | .foreign name _ => ⟨name⟩

/-- The module that a class stands in, with everything that is declared in it. -/
def homeOf (m : SourceModule) (c : SourceClass) : ModuleHome :=
  match c.origin with
  | .own _ => m.home
  | .foreign _ home => home

/-- The path of a class. -/
def classPath? (m : SourceModule) (c : SourceClass) : Option Text :=
  (m.homeOf c).pathAt? c.line

/-- The path of a declaration in a class. -/
def declarationPath? (m : SourceModule) (found : SourceClass × Declaration) : Option Text :=
  (m.homeOf found.1).pathAt? found.2.line

/-- The class around a function. A function outside of classes is addressed by its module. -/
def ownerOf (m : SourceModule) (f : SourceFunction) : ClassName :=
  match f.owner.bind fun i => m.tree.classes[i]? with
  | some c => m.className c
  | none => ⟨m.name⟩

/-! ## Locations -/

/-- A field of a class, which stands where it is declared, or else where the class does. -/
def fieldSite? (m : SourceModule) (c : SourceClass) (field : Text) :
    Except DiskError Location :=
  let (line, column) :=
    match m.tree.resolve? c field with
    | some (_, declaration) => (declaration.line, declaration.column)
    | none => (c.line, c.column)
  (m.homeOf c).unit?.map fun unit =>
    .ofField unit (some (m.className c)) (some (c.fieldSymbol field)) line column

/-- A site that belongs to a function. -/
def siteIn? (m : SourceModule) (f : SourceFunction) (member : Member) (target : Option Symbol) :
    Except DiskError Location :=
  m.home.unit?.map fun unit =>
    { source := unit
      owner := some (m.ownerOf f)
      member := member
      target := target
      givenIndex := 0
      line := f.line
      column := f.column }

/-- A parameter of a function. -/
def parameterSite? (m : SourceModule) (f : SourceFunction) (name : Text) :
    Except DiskError Location :=
  m.siteIn? f (.parameter f.asMethod) (some (f.parameterSymbol name))

/-- The result of a function. -/
def resultSite? (m : SourceModule) (f : SourceFunction) : Except DiskError Location :=
  m.siteIn? f (.result f.asMethod) none

/-- A local variable of a function. -/
def localSite? (m : SourceModule) (f : SourceFunction) (name : Text) :
    Except DiskError Location :=
  m.siteIn? f (.localVariable f.asMethod) (some (f.localSymbol name))

end SourceModule
end Nullability
