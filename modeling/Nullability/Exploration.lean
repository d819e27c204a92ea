import Nullability.Advice
import Nullability.Source.NullCheck
import Nullability.Source.Site

/-!
# Exploring modules

The null checks of a module, each acted on as if an analyser had reported that the field needs a
marker.

* `Ledgers.exploreAt` acts on one conditional;
* `Ledgers.explore` acts on all of them in order and gives the fixes that come of it.
-/

namespace Nullability

/-- The message of a violation that a null check stands for. -/
def nullCheckMessage : Text := "Must be nullable"

/-- The violation that a null check of a field stands for. -/
def SourceModule.nullCheckViolation? (m : SourceModule) (c : SourceClass) (field : Text) :
    Except DiskError Violation :=
  (m.fieldSite? c field).map fun site => ⟨.fieldNoInit, nullCheckMessage, site⟩

/-- The notice that a null check was found. -/
def SourceModule.nullCheckNotice (m : SourceModule) (c : SourceClass) (field : Text)
    (line : Int) : Text :=
  "Null check on " ++ (m.className c).qualified ++ "." ++ field ++ " at line " ++
    Text.integerText line

namespace Ledgers

/-- The class that declares the field that a conditional checks, and the field, if a marker can be
proposed for the declaration. -/
def fixableField? (l : Ledgers) (m : SourceModule) (c : Conditional) :
    Option (SourceClass × Text) := do
  let check ← m.tree.nullCheck? c
  let found ← m.tree.resolve? check.owner check.field
  if l.config.canFix (some m.declarationPath?) (some found) then some (found.1, check.field)
  else none

/-- Acts on one conditional, and gives the fix that comes of it. -/
def exploreAt (l : Ledgers) (m : SourceModule) (c : Conditional) (run : Run) :
    Except Breakdown (Option Fix) × Run :=
  match l.fixableField? m c with
  | none => (.ok none, run)
  | some (owner, field) =>
      match m.nullCheckViolation? owner field with
      | .error e => (.error (.disk e), run)
      | .ok violation =>
          l.report violation (run.note .debug (m.nullCheckNotice owner field c.line))

/-- Acts on conditionals one after the other, and gives the fixes in their order. -/
def exploreAll (l : Ledgers) (m : SourceModule) :
    List Conditional → Run → Except Breakdown (List Fix) × Run
  | [], run => (.ok [], run)
  | c :: rest, run =>
      match l.exploreAt m c run with
      | (.error e, run) => (.error e, run)
      | (.ok found, run) =>
          match l.exploreAll m rest run with
          | (.error e, run) => (.error e, run)
          | (.ok fixes, run) => (.ok (found.toList ++ fixes), run)

/-- Acts on all conditionals of a module. -/
def explore (l : Ledgers) (m : SourceModule) (run : Run) :
    Except Breakdown (List Fix) × Run :=
  l.exploreAll m m.tree.conditionals run

end Ledgers
end Nullability
