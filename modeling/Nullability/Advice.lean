import Nullability.Decision
import Nullability.Ledger

/-!
# Acting on violations

* `Ledgers.fix` decides on a violation and records the fix that comes of it;
* `Ledgers.report` records the violation first.

The answer of both is `Config.answer?`, whatever the disk makes of the records.
-/

namespace Nullability
namespace Ledgers

/-- The notice that nothing comes of a violation. -/
def noFixNotice (v : Violation) : Text :=
  "No fix for " ++ v.kind.label ++ " at " ++ Violation.ownerText v.location

/-- What a fix is applied to: its symbol, or else its method. -/
def targetText (l : Location) : Text :=
  match l.target, l.method? with
  | some symbol, _ => symbol.name
  | none, some method => method.signature
  | none, none => "None"

/-- The notice that a fix came of a violation. -/
def fixNotice (f : Fix) : Text :=
  "Fix " ++ f.reason ++ ": " ++ f.marker ++ " on " ++ f.location.kind.label ++ " " ++
    targetText f.location ++ " (" ++ f.outcome.label ++ ")"

/-- Records what a decision gave. -/
def conclude (l : Ledgers) (v : Violation) (decision : Option Fix) (run : Run) :
    Except Breakdown (Option Fix) × Run :=
  match decision with
  | none => (.ok none, run.note .debug (noFixNotice v))
  | some f =>
      match l.saveFix f run with
      | (.ok (), run) => (.ok (some f), run.note .debug (fixNotice f))
      | (.error e, run) => (.error e, run)

/-- Decides on a violation and records the fix that comes of it. -/
def fix (l : Ledgers) (v : Violation) (run : Run) : Except Breakdown (Option Fix) × Run :=
  match l.config.decide? v with
  | .ok decision => l.conclude v decision run
  | .error e => (.error (.decision e), run)

/-- Records a violation if violations are kept, then decides on it. -/
def report (l : Ledgers) (v : Violation) (run : Run) : Except Breakdown (Option Fix) × Run :=
  l.fix v (l.saveViolation l.config.logErrors.isDeep v run)

end Ledgers

/-! ## The answer -/

/-- What is answered to a violation: the decision on it, unless that is a fix without a text. -/
def Config.answer? (config : Config) (v : Violation) : Except Breakdown (Option Fix) :=
  match config.decide? v with
  | .ok none => .ok none
  | .ok (some f) => if f.IsWritable then .ok (some f) else .error .integerTooLong
  | .error e => .error (.decision e)

namespace Config

variable {config : Config} {v : Violation}

theorem isActive_of_decide? {f : Fix} (h : config.decide? v = .ok (some f)) :
    config.suggest.isActive = true := by
  cases hactive : config.suggest.isActive with
  | true => rfl
  | false => simp [decide?, hactive] at h

end Config

namespace Ledgers

theorem fst_fix (l : Ledgers) (v : Violation) (run : Run) :
    (l.fix v run).1 = l.config.answer? v := by
  unfold fix Config.answer?
  cases hdecide : l.config.decide? v with
  | error e => rfl
  | ok decision =>
      cases decision with
      | none => rfl
      | some f =>
          -- Fixes are decided on only where they are kept.
          have hactive := Config.isActive_of_decide? hdecide
          by_cases hwritable : f.IsWritable <;> simp [conclude, saveFix, hactive, hwritable]

theorem fst_report (l : Ledgers) (v : Violation) (run : Run) :
    (l.report v run).1 = l.config.answer? v :=
  l.fst_fix v _

end Ledgers
end Nullability
