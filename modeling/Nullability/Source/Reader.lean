import Nullability.Document.Parts
import Nullability.Source.Signature

/-!
# Reading a source tree

A source tree is handed over as a key-value document with the keys `package`, `classes`,
`functions` and `ifs`, and `SourceTree.ofDocument?` reads one. Parts that are missing are empty,
so reading fails only for a document that is no table.
-/

namespace Nullability

/-- Reads an expression. -/
def Expression.ofDocument (d : Document) : Expression :=
  let text := d.textAt "text"
  let inner (key : Text) : Expression :=
    match _h : d.part? key with
    | some part => ofDocument part
    | none => .other ""
  let node := d.textAt "node"
  if node = "Name" then .name text (d.textAt "name")
  else if node = "Const" then .constant text (d.truthAt "none")
  else if node = "Attribute" then .member text (inner "expr") (d.textAt "attr")
  else if node = "Subscript" then .subscript text (inner "value") (inner "slice")
  else if node = "Tuple" then
    .tuple text ((d.itemsAt "elts").attach.map fun ⟨item, _⟩ => ofDocument item)
  else if node = "Compare" then
    .comparison text (inner "left") ((d.itemsAt "ops").attach.map fun ⟨step, _⟩ =>
      (((step.items.head?.bind Document.asText?).getD ""),
        match _h : step.items[1]? with
        | some operand => ofDocument operand
        | none => .other ""))
  else .other text
termination_by sizeOf d
decreasing_by
  · exact Document.sizeOf_part? _h
  · rename_i hitem
    exact Document.sizeOf_itemsAt hitem
  · rename_i hstep
    have := Document.sizeOf_itemsAt hstep
    have := Document.sizeOf_items (List.mem_of_getElem? _h)
    omega

/-- Reads a declaration. -/
def Declaration.ofDocument (d : Document) : Declaration where
  isAssignment := d.textAt "node" = "AssignName"
  line := d.integerAt? "line"
  column := d.integerAt? "column"
  declaredType := (d.part? "annotation").map Expression.ofDocument

/-- Reads the declarations at a key. -/
def Declarations.ofDocument (d : Document) (key : Text) : Declarations :=
  (d.entriesAt key).map fun (name, found) => (name, found.items.map Declaration.ofDocument)

/-- Reads the module that a class from elsewhere stands in. -/
def ModuleHome.ofDocument (d : Document) : ModuleHome where
  name := d.textAt "module"
  isPackage := d.truthAt "package"
  file := (d.textAt? "path").map Path.parse

/-- Reads a class. -/
def SourceClass.ofDocument (d : Document) : SourceClass where
  origin :=
    match d.textAt? "foreign" with
    | some name => .foreign name (ModuleHome.ofDocument d)
    | none => .own (d.textAt "qual")
  line := d.integerAt? "line"
  column := d.integerAt? "column"
  ancestors := (d.itemsAt "ancestors").filterMap fun i => i.asInteger?.map Int.toNat
  locals := Declarations.ofDocument d "locals"
  instanceFields := Declarations.ofDocument d "instance_attrs"

/-- The kind of function that a word stands for. -/
def FunctionKind.ofWord (word : Text) : FunctionKind :=
  if word = "method" then .method
  else if word = "classmethod" then .classMethod
  else if word = "staticmethod" then .staticMethod
  else .free

/-- Reads the parameters of a function, each of which comes with its type. -/
def Signature.ofDocument (d : Document) : Signature :=
  let name (p : Document) := p.textAt "name"
  let type (p : Document) := (p.part? "annotation").map Expression.ofDocument
  { positionalOnly := (d.itemsAt "posonly").map name
    positionalOnlyTypes := (d.itemsAt "posonly").map type
    regular := (d.itemsAt "args").map name
    regularTypes := (d.itemsAt "args").map type
    variadic := (d.part? "vararg").map name
    variadicType := (d.part? "vararg").bind type
    keywordOnly := (d.itemsAt "kwonly").map name
    keywordOnlyTypes := (d.itemsAt "kwonly").map type
    keywordVariadic := (d.part? "kwarg").map name
    keywordVariadicType := (d.part? "kwarg").bind type }

/-- Reads a function. -/
def SourceFunction.ofDocument (d : Document) : SourceFunction :=
  let unsigned : SourceFunction :=
    { (default : SourceFunction) with
      name := d.textAt "name"
      kind := .ofWord (d.textAt "type")
      owner := d.positionAt? "class"
      line := d.integerAt? "line"
      column := d.integerAt? "column"
      decorators := (d.itemsAt "decorators").filterMap Document.asText?
      returns := (d.part? "returns").map Expression.ofDocument
      locals := Declarations.ofDocument d "locals" }
  unsigned.withSignature (.ofDocument d)

/-- The kinds of scope that are functions with a name. -/
def Conditional.functionScopes : List Text :=
  ["FunctionDef", "AsyncFunctionDef"]

/-- Reads a conditional. -/
def Conditional.ofDocument (d : Document) : Conditional :=
  let scope := (d.part? "frame").getD .null
  { line := (d.integerAt? "line").getD 0
    test := ((d.part? "test").map Expression.ofDocument).getD (.other "")
    frame :=
      if functionScopes.contains (scope.textAt "node") then scope.positionAt? "function"
      else none }

/-- Reads a source tree. -/
def SourceTree.ofDocument? (d : Document) : Option SourceTree :=
  match d with
  | .table _ =>
      some {
        isPackage := d.truthAt "package"
        classes := (d.itemsAt "classes").map SourceClass.ofDocument
        functions := (d.itemsAt "functions").map SourceFunction.ofDocument
        conditionals := (d.itemsAt "ifs").map Conditional.ofDocument }
  | _ => none

end Nullability
