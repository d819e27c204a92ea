import Nullability.Exploration

/-!
# Suggestions

The message that a checker shows at a conditional whose field should carry a marker. There is one
for each fix that writes a marker, and none otherwise.
-/

namespace Nullability

/-- A message at a line of a file. -/
structure Suggestion where
  line : Int
  field : Text
  className : Text
  marker : Text
  deriving DecidableEq, Repr

namespace Suggestion

/-- The name under which the message can be switched off. -/
def label : Text := "nullable-field-suggested"

/-- The parts of the message, in the order in which its text names them. -/
def parts (s : Suggestion) : List Text :=
  [s.field, s.className, s.marker]

/-- The text of the message. -/
def message (s : Suggestion) : Text :=
  "Field '" ++ s.field ++ "' of '" ++ s.className ++
    "' is checked against None; annotate it with " ++ s.marker

/-- The message for a fix, at the line of the conditional that led to it. -/
def ofFix (line : Int) (f : Fix) : Suggestion where
  line := line
  field := (f.location.target.map Symbol.name).getD ""
  className := (f.location.owner.map ClassName.qualified).getD ""
  marker := f.marker

end Suggestion

/-- Acts on one conditional, and gives the message that comes of it. -/
def Ledgers.suggestAt (l : Ledgers) (m : SourceModule) (c : Conditional) (run : Run) :
    Except Breakdown (Option Suggestion) × Run :=
  match l.exploreAt m c run with
  | (.error e, run) => (.error e, run)
  | (.ok found, run) => (.ok ((found.filter Fix.inject).map (Suggestion.ofFix c.line)), run)

end Nullability
