import Nullability.Proofs.Config.Setting
import Nullability.Proofs.Exploration.Findings
import Nullability.Proofs.Ledger.Opening

/-!
# Silent runs

A configuration that keeps no ledger silences everything that is done with its ledgers. The master
switch makes every configuration one of these, whatever its document asks for.

* `Config.IsSilent`, and `isSilent_ofDocument` for the master switch;
* `Activity`: what is done with open ledgers, calls and null checks in any order;
* `disk_perform`, `disk_performEach`: no activity touches the disk, and no sequence of them does;
* `silent_without_master`: what that leaves of a run.
-/

namespace Nullability

/-! ## Silent configurations -/

/-- No ledger is kept. -/
def Config.IsSilent (config : Config) : Prop :=
  ∀ channel : Channel, channel.isKept config = false

namespace Config

variable {config : Config}

theorem isSilent_ofDocument (document : Document) : (ofDocument document false).IsSilent := by
  intro channel
  rw [ofDocument_false]
  cases channel <;> rfl

/-- With the master switch on, the document has its way. -/
example :
    let document : Document := .table [("SUGGEST", .table [("ACTIVE", .bool true)]),
      ("LOG_ERROR", .table [("ACTIVE", .bool true), ("DEEP", .bool true)])]
    ∀ channel ∈ [Channel.violations, .fixes],
      channel.isKept (ofDocument document true) = true := by
  decide +kernel

theorem IsSilent.isActive_suggest (h : config.IsSilent) : config.suggest.isActive = false :=
  h .fixes

/-- The gate comes before everything that could be complained of, even before a location that lacks
its class. -/
theorem IsSilent.decide?_eq (h : config.IsSilent) (v : Violation) :
    config.decide? v = .ok none := by
  simp [decide?, h.isActive_suggest]

end Config

/-! ## What is done with open ledgers -/

/-- A call, or acting on one null check of a module or on all of them. -/
inductive Activity where
  | call (c : Call)
  | exploreAt (m : SourceModule) (c : Conditional)
  | explore (m : SourceModule)

/-- The run after an activity, whatever its answer is. -/
def Activity.perform (l : Ledgers) (run : Run) : Activity → Run
  | call c => (c.perform l run).2
  | exploreAt m c => (l.exploreAt m c run).2
  | explore m => (l.explore m run).2

namespace Ledgers

/-- The run after some activities, one after the other. -/
def performEach (l : Ledgers) (activities : List Activity) (run : Run) : Run :=
  activities.foldl (Activity.perform l) run

variable {l : Ledgers}

section Silent

variable (h : l.config.IsSilent)
include h

theorem keep_of_silent (channel : Channel) (r : Record) (run : Run) :
    l.keep channel r run = run := by
  simp [keep, h channel]

theorem fix_of_silent (v : Violation) (run : Run) :
    l.fix v run = (.ok none, run.note .debug (noFixNotice v)) := by
  simp [fix, h.decide?_eq v, conclude]

theorem report_of_silent (v : Violation) (run : Run) :
    l.report v run = (.ok none, run.note .debug (noFixNotice v)) := by
  rw [report, saveViolation_eq_keep, keep_of_silent h, fix_of_silent h]

theorem exploreAt_of_silent (m : SourceModule) (c : Conditional) (run : Run) :
    l.exploreAt m c run = (.ok none, run) := by
  cases hfixable : l.fixableField? m c with
  | none => simp [exploreAt, hfixable]
  | some found =>
      -- A declaration can only be marked where fixes are suggested at all.
      rcases fixableField?_eq_some_iff.1 hfixable with ⟨-, -, -, -, hactive, -⟩
      rw [h.isActive_suggest] at hactive
      cases hactive

theorem exploreAll_of_silent (m : SourceModule) (cs : List Conditional) (run : Run) :
    l.exploreAll m cs run = (.ok [], run) := by
  induction cs with
  | nil => rfl
  | cons c rest ih =>
      rw [exploreAll_cons_of_ok (exploreAt_of_silent h m c run), ih]
      rfl

theorem disk_perform (activity : Activity) (run : Run) :
    (activity.perform l run).disk = run.disk := by
  -- A call can touch the disk by the two ways of recording only, and both are shut.
  cases activity with
  | call c =>
      cases c with
      | report v => simp [Activity.perform, Call.perform, report_of_silent h, Run.note]
      | fix v => simp [Activity.perform, Call.perform, fix_of_silent h, Run.note]
      | decide v => rfl
      | propose v => rfl
      | saveFix f =>
          by_cases hwritable : f.IsWritable <;>
            simp [Activity.perform, Call.perform, saveFix_of_isWritable,
              saveFix_of_not_isWritable, hwritable, keep_of_silent h]
      | saveViolation v deep =>
          simp [Activity.perform, Call.perform, saveViolation_eq_keep, keep_of_silent h]
  | exploreAt m c => simp [Activity.perform, exploreAt_of_silent h]
  | explore m => simp [Activity.perform, explore, exploreAll_of_silent h]

theorem disk_performEach (activities : List Activity) (run : Run) :
    (l.performEach activities run).disk = run.disk := by
  induction activities generalizing run with
  | nil => rfl
  | cons activity rest ih =>
      rw [performEach, List.foldl_cons]
      exact (ih (activity.perform l run)).trans (disk_perform h activity run)

theorem path?_of_silent (name : Text) : l.path? name = none := by
  have hsuggest : l.config.suggest.isActive = false := h .fixes
  have hlog : l.config.logErrors.isActive = false := h .violations
  simp [path?, hsuggest, hlog]

end Silent

/-! ## The master switch -/

/-- Without the master switch, opening changes no file and makes nothing but directories on the way
to the output directory. Nothing that is done with the ledgers after that, in any order, changes the
disk at all; every decision, report and null check is answered with nothing, and never with an
error; and no ledger has a path. -/
theorem silent_without_master (document : Document) (delimiter : Text) (run : Run) :
    let config := Config.ofDocument document false
    let l : Ledgers := ⟨config, delimiter⟩
    let opened := open? config delimiter run
    (∀ l', opened.1 = .ok l' → l' = l) ∧
    (∀ q, opened.2.disk.tree.file? q = run.disk.tree.file? q) ∧
    (∀ q, opened.2.disk.tree.at? q = run.disk.tree.at? q ∨
      q ∈ run.disk.stopsOf config.outputDirectory ∧ run.disk.tree.at? q = none ∧
        opened.2.disk.tree.at? q = some .directory) ∧
    (∀ activities : List Activity,
      let now := l.performEach activities opened.2
      now.disk = opened.2.disk ∧
      (∀ v, config.decide? v = .ok none ∧ (l.fix v now).1 = .ok none ∧
        (l.report v now).1 = .ok none) ∧
      ∀ m, (∀ c, (l.exploreAt m c now).1 = .ok none) ∧ (l.explore m now).1 = .ok []) ∧
    ∀ name, l.path? name = none := by
  intro config l opened
  have hsilent : config.IsSilent := Config.isSilent_ofDocument document
  -- No ledger is kept anywhere, so that opening can only have made directories.
  have hunkept : ∀ q, ¬ l.IsKeptAt run.disk q := by
    rintro q ⟨channel, hkept, -⟩
    rw [hsilent channel] at hkept
    cases hkept
  have hprepares : l.Prepares run.disk opened.2.disk := prepares_open config delimiter run
  refine ⟨?_, ?_, ?_, ?_, path?_of_silent hsilent⟩
  · intro l' hok
    exact (open?_ok (Prod.ext hok rfl)).1
  · exact fun q => hprepares.file?_eq (hunkept q)
  · exact fun q => hprepares.elsewhere q (hunkept q)
  · intro activities now
    refine ⟨disk_performEach hsilent activities opened.2, fun v => ?_, fun m => ⟨fun c => ?_, ?_⟩⟩
    · exact ⟨hsilent.decide?_eq v, by rw [fix_of_silent hsilent], by rw [report_of_silent hsilent]⟩
    · rw [exploreAt_of_silent hsilent]
    · rw [explore, exploreAll_of_silent hsilent]

end Ledgers
end Nullability
