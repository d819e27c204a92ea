import Nullability.Decision
import Nullability.Disk

/-!
# Failures without an answer

What breaks the work off instead of becoming a notice: a failure of the disk that no message covers,
a violation at a site of the wrong kind, and an integer that is too long to be read or written.
-/

namespace Nullability

/-- A failure that there is no answer to. -/
inductive Breakdown where
  | disk (cause : DiskError)
  | decision (cause : DecisionError)
  /-- An integer has too many digits. -/
  | integerTooLong
  deriving DecidableEq, Repr

/-- The message for a failure that there is no answer to. -/
def Breakdown.message : Breakdown → Text
  | disk cause => cause.message
  | decision cause => cause.message
  | integerTooLong => Text.tooManyDigits

end Nullability
