import Nullability.NameSet
import Nullability.Text.Pieces
import Nullability.Text.Quoted
import Nullability.Text.Numeral

/-!
# Sites

The places in a program that a nullability marker can be attached to, described by names alone.

* `Symbol`, `Method`, `ClassName` and `SourceUnit` are the parts;
* `Member` says which of four kinds a site has, with its method where there is one;
* `Location` is a site, `Location.build?` makes one from loose parts or says which do not fit, and
  `Location.ofParts?` does so where the kind itself may be no kind.

The position of a parameter is computed from the method and the symbol, never stored, so it
cannot disagree with them. Two locations are the same site when `Location.sameSite` holds; where
in the file they stand is not part of that.
-/

namespace Nullability

/-- The word for a part that is missing. -/
def nullWord : Text := "null"

/-- The string, or the word for a missing part when there is nothing in it. -/
def orNull (s : Text) : Text :=
  if s.isEmpty then nullWord else s

/-! ## Parts -/

/-- The file that a site lives in: its package and its address. -/
structure SourceUnit where
  package : Text
  uri : Text
  deriving DecidableEq, Repr

/-- A qualified class name. -/
structure ClassName where
  qualified : Text
  deriving DecidableEq, Repr

/-- The part of the name after its last dot. -/
def ClassName.simple (c : ClassName) : Text :=
  Text.ofList (Text.afterLast '.' c.qualified.toList)

/-- A name that does not come from the source text; such names start with `<`. -/
def ClassName.isAnonymous (c : ClassName) : Bool :=
  c.simple.toList.head? == some (.char '<') || c.qualified.toList.head? == some (.char '<')

/-- A field, a parameter or a local variable, with what is written on its declaration. -/
structure Symbol where
  name : Text
  markers : List Text
  modifiers : NameSet
  deriving DecidableEq, Repr

/-- A symbol of which only the name is known. -/
def Symbol.bare (name : Text) : Symbol :=
  ⟨name, [], NameSet.empty⟩

/-- Whether the symbol may be assigned only once. -/
def Symbol.isFinal (s : Symbol) : Bool :=
  s.modifiers.contains "final"

/-- A method with its parameters and what is written on its declaration. -/
structure Method where
  name : Text
  parameters : List Symbol
  markers : List Text
  deriving DecidableEq, Repr

/-- The name of the method with the names of its parameters. -/
def Method.signature (m : Method) : Text :=
  m.name ++ "(" ++ Text.glued ", " (m.parameters.map Symbol.name) ++ ")"

/-- The position of the first parameter that is this symbol. -/
def Method.position? (m : Method) (s : Symbol) : Option Nat :=
  m.parameters.findIdx? fun p => p = s

/-- The first parameter that is this symbol. -/
def Method.parameter? (m : Method) (s : Symbol) : Option Symbol :=
  (m.position? s).bind fun i => m.parameters[i]?

/-- The position as a number, where a symbol that is no parameter stands at `-1`. -/
def Method.indexOf (m : Method) (s : Symbol) : Int :=
  match m.position? s with
  | some i => i
  | none => -1

/-! ## Kinds of sites -/

/-- The four kinds of sites. -/
inductive SiteKind where
  | field
  | parameter
  | result
  | localVariable
  deriving DecidableEq, Repr

/-- The word for a kind in records and messages. -/
def SiteKind.label : SiteKind → Text
  | field => "CLASS_FIELD"
  | parameter => "METHOD_PARAM"
  | result => "METHOD_RETURN"
  | localVariable => "METHOD_LOCAL_VAR"

/-- The kind that a word stands for. -/
def SiteKind.ofLabel? (label : Text) : Option SiteKind :=
  [field, parameter, result, localVariable].find? fun k => k.label = label

/-- What is given as the kind of a site. -/
inductive GivenKind where
  | known (kind : SiteKind)
  /-- A text, which is no kind even where it is the word for one. -/
  | other (given : Text)
  deriving DecidableEq, Repr

/-- What of a class a site belongs to: the class itself, or one of its methods. -/
inductive Member where
  | field
  | parameter (method : Method)
  | result (method : Method)
  | localVariable (method : Method)
  deriving DecidableEq, Repr

/-- The kind of a member. -/
def Member.kind : Member → SiteKind
  | field => .field
  | parameter _ => .parameter
  | result _ => .result
  | localVariable _ => .localVariable

/-- The method of a member, which a field does not have. -/
def Member.method? : Member → Option Method
  | field => none
  | parameter m => some m
  | result m => some m
  | localVariable m => some m

/-! ## Locations -/

/-- A site: where a marker would be written. -/
structure Location where
  source : SourceUnit
  /-- The class around the site; a location made from loose parts may lack it. -/
  owner : Option ClassName
  member : Member
  /-- The symbol to be marked; a result has none. -/
  target : Option Symbol
  /-- The position given for a site that is not a parameter. -/
  givenIndex : Int
  line : Option Int
  column : Option Int
  deriving DecidableEq, Repr

/-- Why loose parts do not make a location. -/
inductive LocationError where
  /-- The kind is some other text, quoted in the message. -/
  | unknownKind (given : Text)
  | fieldInMethod
  | methodMissing (kind : SiteKind)
  deriving DecidableEq, Repr

/-- The message for parts that do not fit. -/
def LocationError.message : LocationError → Text
  | unknownKind given => "Location.kind must be a LocationKind, got " ++ Text.quoted given
  | fieldInMethod => "A CLASS_FIELD location cannot have an enclosing method"
  | methodMissing kind => "A " ++ kind.label ++ " location requires its enclosing method"

namespace Location

/-- The kind of the site. -/
def kind (l : Location) : SiteKind :=
  l.member.kind

/-- The method around the site. -/
def method? (l : Location) : Option Method :=
  l.member.method?

/-- The position of the site in the parameter list of its method. A parameter stands where its
symbol stands, and at `-1` when the method does not declare it. -/
def index (l : Location) : Int :=
  match l.member, l.target with
  | .parameter m, some s => m.indexOf s
  | .parameter _, none => -1
  | _, _ => l.givenIndex

/-- The member that a kind and a method make. -/
def member? (kind : SiteKind) (method : Option Method) : Except LocationError Member :=
  match kind, method with
  | .field, none => .ok .field
  | .field, some _ => .error .fieldInMethod
  | .parameter, some m => .ok (.parameter m)
  | .result, some m => .ok (.result m)
  | .localVariable, some m => .ok (.localVariable m)
  | kind, none => .error (.methodMissing kind)

/-- A location from loose parts. -/
def build? (kind : SiteKind) (source : SourceUnit) (owner : Option ClassName)
    (method : Option Method) (target : Option Symbol) (givenIndex : Int)
    (line column : Option Int) : Except LocationError Location :=
  (member? kind method).map fun member =>
    { source, owner, member, target, givenIndex, line, column }

/-- A location from loose parts, of which the kind is looked at first. -/
def ofParts? (kind : GivenKind) (source : SourceUnit) (owner : Option ClassName)
    (method : Option Method) (target : Option Symbol) (givenIndex : Int)
    (line column : Option Int) : Except LocationError Location :=
  match kind with
  | .other given => .error (.unknownKind given)
  | .known kind => build? kind source owner method target givenIndex line column

/-- A field of a class. -/
def ofField (source : SourceUnit) (owner : Option ClassName) (target : Option Symbol)
    (line column : Option Int) : Location :=
  { source, owner, member := .field, target, givenIndex := 0, line, column }

/-- A parameter of a method. -/
def ofParameter? (source : SourceUnit) (owner : Option ClassName) (method : Option Method)
    (target : Option Symbol) (line column : Option Int) : Except LocationError Location :=
  build? .parameter source owner method target 0 line column

/-- The result of a method. -/
def ofResult? (source : SourceUnit) (owner : Option ClassName) (method : Option Method)
    (line column : Option Int) : Except LocationError Location :=
  build? .result source owner method none 0 line column

/-- A local variable of a method. -/
def ofLocal? (source : SourceUnit) (owner : Option ClassName) (method : Option Method)
    (target : Option Symbol) (line column : Option Int) : Except LocationError Location :=
  build? .localVariable source owner method target 0 line column

/-- Whether two locations are the same site, wherever they stand in the file. -/
def sameSite (l r : Location) : Bool :=
  l.source = r.source && l.owner = r.owner && l.member = r.member && l.target = r.target

/-- The sites among some locations, each by the first location of it. -/
def distinct (ls : List Location) : List Location :=
  ls.foldl (fun seen l => if seen.any (sameSite l) then seen else seen ++ [l]) []

/-! ## As a record -/

/-- The columns of a written location. -/
def columns : List Text :=
  ["location", "pkg", "class", "method", "param", "index", "uri"]

/-- The values of a written location, one a column. -/
def values (l : Location) : List Text :=
  [l.kind.label, orNull l.source.package,
   (l.owner.map ClassName.qualified).getD nullWord,
   (l.method?.map Method.signature).getD nullWord,
   (l.target.map Symbol.name).getD nullWord,
   Text.integerText l.index, orNull l.source.uri]

theorem length_values (l : Location) : l.values.length = columns.length := rfl

/-- A field belongs to no method, and every other site to one. -/
theorem method?_eq_none_iff (l : Location) : l.method? = none ↔ l.kind = .field := by
  cases h : l.member <;> simp [method?, kind, Member.method?, Member.kind, h]

end Location
end Nullability
