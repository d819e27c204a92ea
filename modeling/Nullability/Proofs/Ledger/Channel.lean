import Nullability.Ledger
import Nullability.Proofs.Disk.Effects
import Nullability.Proofs.Text.Lines

/-!
# The two channels of a ledger directory

What is recorded goes into one of two files, which differ in their mode, their name and their
columns only. `Channel` names them, so that everything about opening and adding is said once.

* `Takes` is what is recorded in a channel, and `Takes.label` says that it is never all blank;
* `parse_path`, `placeOf_path`: where the file of a channel stands;
* `placeOf_path_injective`: the two files never stand in the same place;
* `saveFix_of_isWritable`, `saveViolation_eq_keep`: both ways of recording are `Ledgers.keep`.
-/

namespace Nullability

/-- The ledger of violations and the ledger of fixes. -/
inductive Channel where
  | violations
  | fixes
  deriving DecidableEq, Repr

namespace Channel

/-- Whether the ledger is kept. -/
def isKept (config : Config) : Channel → Bool
  | violations => config.logErrors.isActive
  | fixes => config.suggest.isActive

def name : Channel → Text
  | violations => errorLedgerName
  | fixes => fixLedgerName

def columns : Channel → List Text
  | violations => Violation.columns
  | fixes => Fix.columns

def path (l : Ledgers) (channel : Channel) : Text :=
  Ledgers.pathOf l.config channel.name

/-- The path before it is made into a text. -/
def joined (l : Ledgers) (channel : Channel) : Path :=
  Path.joined [l.config.outputDirectory, channel.name]

/-! ## What a ledger is for -/

/-- The records that go into a ledger. -/
def Takes : Channel → Record → Prop
  | violations, r => ∃ (v : Violation) (deep : Bool), r = v.record deep
  | fixes, r => ∃ f : Fix, r = f.record

theorem takes_violation (v : Violation) (deep : Bool) : violations.Takes (v.record deep) :=
  ⟨v, deep, rfl⟩

theorem takes_fix (f : Fix) : fixes.Takes f.record :=
  ⟨f, rfl⟩

namespace Takes

variable {channel : Channel} {r : Record}

theorem columns_eq (h : channel.Takes r) : r.columns = channel.columns := by
  cases channel with
  | violations =>
      rcases h with ⟨v, deep, rfl⟩
      rfl
  | fixes =>
      rcases h with ⟨f, rfl⟩
      rfl

theorem length_values (h : channel.Takes r) : r.values.length = channel.columns.length := by
  cases channel with
  | violations =>
      rcases h with ⟨v, deep, rfl⟩
      exact v.length_values deep
  | fixes =>
      rcases h with ⟨f, rfl⟩
      exact f.length_values

/-- One of the values is a word of the program itself. -/
theorem label (h : channel.Takes r) : ∃ value ∈ r.values,
    value.toList ≠ [] ∧ Text.IsPlain value.toList := by
  cases channel with
  | violations =>
      rcases h with ⟨v, deep, rfl⟩
      refine ⟨v.kind.label, by simp [Violation.record, Violation.values], ?_⟩
      cases v.kind <;> decide +kernel
  | fixes =>
      rcases h with ⟨f, rfl⟩
      refine ⟨f.location.kind.label, by simp [Fix.record, Fix.values, Location.values], ?_⟩
      cases f.location.kind <;> decide +kernel

end Takes

/-! ## Where a ledger stands -/

variable (l : Ledgers) (channel : Channel)

theorem parse_name : Path.parse channel.name = ⟨0, [channel.name]⟩ := by
  cases channel <;> decide +kernel

theorem joined_eq : channel.joined l =
    ⟨(Path.joined [l.config.outputDirectory]).slashes,
      (Path.joined [l.config.outputDirectory]).segments ++ [channel.name]⟩ := by
  simp [joined, Path.joined, parse_name, Path.join, Path.isAbsolute]

theorem segments_joined_ne_nil : (channel.joined l).segments ≠ [] := by
  simp [joined_eq]

theorem isNormal_joined : (channel.joined l).IsNormal :=
  Path.isNormal_joined _

theorem parse_path : Path.parse (channel.path l) = channel.joined l :=
  Path.parse_render (isNormal_joined l channel) (segments_joined_ne_nil l channel)

/-- A ledger stands in the output directory under its name. -/
theorem placeOf_path (d : Disk) : d.placeOf (channel.path l) =
    Place.ofPath d.here (Path.joined [l.config.outputDirectory]) ++ [channel.name] := by
  have hplain : channel.name ≠ ".." ∧ channel.name ≠ "." := by
    cases channel <;> decide
  rw [Disk.placeOf, parse_path, joined_eq]
  simp [Place.ofPath, Place.follow, Path.isAbsolute, Place.step, hplain]

theorem placeOf_path_injective {l : Ledgers} {d : Disk} {channel other : Channel}
    (h : d.placeOf (channel.path l) = d.placeOf (other.path l)) : channel = other := by
  rw [placeOf_path, placeOf_path] at h
  have hname : channel.name = other.name := by
    simpa using List.append_cancel_left h
  cases channel <;> cases other
  · rfl
  · exact absurd hname (by decide)
  · exact absurd hname (by decide)
  · rfl

end Channel

/-! ## Opening and adding by channel -/

namespace Ledgers

/-- Records something in one of the ledgers, if it is kept. -/
def keep (l : Ledgers) (channel : Channel) (r : Record) (run : Run) : Run :=
  if channel.isKept l.config then l.append r (channel.path l) run else run

theorem saveFix_of_isWritable {f : Fix} (h : f.IsWritable) (l : Ledgers) (run : Run) :
    l.saveFix f run = (.ok (), l.keep .fixes f.record run) := by
  unfold saveFix keep Channel.isKept
  by_cases hactive : l.config.suggest.isActive = true
  · rw [if_pos hactive, if_pos h, if_pos hactive]
    rfl
  · rw [if_neg hactive, if_neg hactive]

/-- A fix without a text is an error where fixes are kept, and nothing is recorded. -/
theorem saveFix_of_not_isWritable {f : Fix} (h : ¬ f.IsWritable) (l : Ledgers) (run : Run) :
    l.saveFix f run =
      (if l.config.suggest.isActive then .error .integerTooLong else .ok (), run) := by
  by_cases hactive : l.config.suggest.isActive = true <;> simp [saveFix, hactive, h]

theorem saveViolation_eq_keep (l : Ledgers) (deep : Bool) (v : Violation) (run : Run) :
    l.saveViolation deep v run = l.keep .violations (v.record deep) run := rfl

/-- Starts one of the ledgers afresh, if it is kept. -/
def resetChannel (l : Ledgers) (channel : Channel) (run : Run) : Except DiskError Unit × Run :=
  l.resetIf (channel.isKept l.config) (channel.path l) channel.columns run

/-- The line with the columns of a ledger, at the beginning of its file. -/
def heading (l : Ledgers) (channel : Channel) : Text :=
  frame (renderColumns l.config.format l.delimiter channel.columns)

/-! ## The places of ledgers -/

/-- A ledger that is kept stands at a place. -/
def IsKeptAt (l : Ledgers) (d : Disk) (q : Place) : Prop :=
  ∃ channel : Channel, channel.isKept l.config = true ∧ q = d.placeOf (channel.path l)

variable {l : Ledgers} {d d' : Disk}

theorem isKeptAt_congr (h : d'.here = d.here) : l.IsKeptAt d' = l.IsKeptAt d := by
  funext q
  simp only [IsKeptAt, Disk.placeOf, h]

theorem not_isKeptAt_of_unkept {channel : Channel} (h : channel.isKept l.config = false)
    (d : Disk) : ¬ l.IsKeptAt d (d.placeOf (channel.path l)) := by
  rintro ⟨other, hkept, hplace⟩
  rw [← Channel.placeOf_path_injective hplace, h] at hkept
  cases hkept

end Ledgers
end Nullability
