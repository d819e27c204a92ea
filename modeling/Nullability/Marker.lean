import Nullability.Text.Blank
import Nullability.Text.Pieces
import Nullability.Text.Quoted

/-!
# Nullability markers

The qualified names that say whether a declaration may hold null, and how one is recognised on a
declaration.

* `Marker.denotedBy` compares a configured name with what is written on a declaration;
* `Markers` is the configured pair of opposite markers.

A written marker may be qualified or not, and may carry a leading `@` and a trailing `()`.
-/

namespace Nullability

/-- A qualified marker name. -/
structure Marker where
  name : Text
  deriving DecidableEq, Repr

namespace Marker

/-- The part of the name after its last dot. -/
def simpleName (m : Marker) : Text :=
  Text.ofList (Text.afterLast '.' m.name.toList)

/-- The text without one leading `@`. -/
def dropAt : List Letter → List Letter
  | .char '@' :: rest => rest
  | cs => cs

/-- The text without one trailing `()`. -/
def dropCall (cs : List Letter) : List Letter :=
  if [.char '(', .char ')'].isSuffixOf cs then cs.take (cs.length - 2) else cs

/-- The name in a written marker: without blanks, `@` and `()`. -/
def writtenName (written : Text) : List Letter :=
  dropCall (dropAt (Text.trim written.toList))

/-- Whether what is written on a declaration denotes this marker. -/
def denotedBy (m : Marker) (written : Text) : Bool :=
  let text := writtenName written
  text == m.name.toList || text == m.simpleName.toList ||
    (.char '.' :: m.simpleName.toList).isSuffixOf text

end Marker

/-- The two markers of opposite meaning. -/
structure Markers where
  nullable : Marker
  nonNull : Marker
  deriving DecidableEq, Repr

namespace Markers

/-- The markers that hold unless others are configured. -/
def default : Markers :=
  ⟨⟨"javax.annotation.Nullable"⟩, ⟨"javax.annotation.Nonnull"⟩⟩

/-- Whether something written on a declaration says that it never holds null. -/
def carriesNonNull (m : Markers) (written : List Text) : Bool :=
  written.any m.nonNull.denotedBy

/-- Whether something written on a declaration says that it may hold null. -/
def carriesNullable (m : Markers) (written : List Text) : Bool :=
  written.any m.nullable.denotedBy

/-- The pair as it is shown in messages. -/
def shown (m : Markers) : Text :=
  "AnnotationFactory(nullable=" ++ Text.quoted m.nullable.name ++
    ", nonnull=" ++ Text.quoted m.nonNull.name ++ ")"

end Markers
end Nullability
