import Nullability.Disk

/-!
# The state of a run

What a run changes: the disk, and the notices it gives on the way, oldest first.
-/

namespace Nullability

/-- How much a notice matters. -/
inductive NoticeLevel where
  | handshake
  | step
  | error
  | warning
  | debug
  deriving DecidableEq, Repr

/-- A message for the person who started the run. -/
structure Notice where
  level : NoticeLevel
  message : Text
  deriving DecidableEq, Repr

/-- The disk and the notices given so far. -/
structure Run where
  disk : Disk
  notices : List Notice

namespace Run

/-- A run that starts on a disk. -/
def on (disk : Disk) : Run := ⟨disk, []⟩

/-- The run after one more notice. -/
def note (run : Run) (level : NoticeLevel) (message : Text) : Run :=
  { run with notices := run.notices ++ [⟨level, message⟩] }

/-- The run after a file operation, with what the operation gave. -/
def act {α : Type} (run : Run) (operation : Disk → Except DiskError α × Disk) :
    Except DiskError α × Run :=
  let (result, disk) := operation run.disk
  (result, { run with disk })

end Run
end Nullability
