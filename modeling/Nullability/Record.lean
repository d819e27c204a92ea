import Nullability.Violation

/-!
# Records

What the ledgers hold: a record has columns and one value a column.

* `Fix.record` is a proposed marker at a site;
* `Violation.record` is a reported violation, with its class and method where these are wanted;
* `Record.display` writes the values between delimiters.
-/

namespace Nullability

/-- A row for a ledger. -/
structure Record where
  columns : List Text
  values : List Text
  deriving DecidableEq, Repr

/-- The values with the delimiter between them. -/
def Record.display (delimiter : Text) (r : Record) : Text :=
  Text.glued delimiter r.values

/-- The columns with the delimiter between them. -/
def Record.header (delimiter : Text) (r : Record) : Text :=
  Text.glued delimiter r.columns

/-! ## Fixes -/

/-- What a proposed marker means for the text at its site. -/
inductive Outcome where
  /-- The marker is absent and has to be written. -/
  | insert
  /-- The site carries the proposed marker already. -/
  | alreadyCompatible
  /-- The site carries the opposite marker; the proposal only records that. -/
  | alreadyConflicting
  deriving DecidableEq, Repr

/-- The word for an outcome. -/
def Outcome.label : Outcome → Text
  | insert => "insert"
  | alreadyCompatible => "already_compatible"
  | alreadyConflicting => "already_conflicting"

/-- The outcome that a word stands for. -/
def Outcome.ofLabel? (label : Text) : Option Outcome :=
  [insert, alreadyCompatible, alreadyConflicting].find? fun o => o.label = label

/-- A proposed marker at one site. -/
structure Fix where
  location : Location
  /-- The qualified name of the marker. -/
  marker : Text
  /-- The word for the kind of violation that led to it. -/
  reason : Text
  outcome : Outcome
  deriving DecidableEq, Repr

namespace Fix

/-- Whether the marker has to be written. -/
def inject (f : Fix) : Bool :=
  f.outcome = .insert

/-- The columns of a written fix. -/
def columns : List Text :=
  ("reason" : Text) :: Location.columns ++ (["annotation", "inject"] : List Text)

/-- The values of a written fix, one a column. -/
def values (f : Fix) : List Text :=
  f.reason :: f.location.values ++ [f.marker, if f.inject then "true" else "false"]

/-- The fix as a row of its ledger. -/
def record (f : Fix) : Record :=
  ⟨columns, f.values⟩

/-- An index with too many digits has no text, and then neither has the fix. -/
def IsWritable (f : Fix) : Prop :=
  Text.IsShort f.location.index

instance (f : Fix) : Decidable f.IsWritable :=
  inferInstanceAs (Decidable (Text.IsShort _))

theorem length_values (f : Fix) : f.values.length = columns.length := rfl

end Fix

/-! ## Violations -/

namespace Violation

/-- The columns of a written violation. -/
def columns : List Text :=
  ["message_type", "message", "encClass", "encMethod"]

/-- The text of the class around a site, where a missing one has a word of its own. -/
def ownerText (l : Location) : Text :=
  (l.owner.map ClassName.qualified).getD "None"

/-- The values of a written violation, one a column; class and method only when `deep`. -/
def values (deep : Bool) (v : Violation) : List Text :=
  let owner := if deep then ownerText v.location else nullWord
  let method :=
    if deep then (v.location.method?.map Method.signature).getD nullWord else nullWord
  [v.kind.label, v.message, owner, method]

/-- The violation as a row of its ledger. -/
def record (deep : Bool) (v : Violation) : Record :=
  ⟨columns, v.values deep⟩

theorem length_values (deep : Bool) (v : Violation) :
    (v.values deep).length = columns.length := rfl

end Violation
end Nullability
