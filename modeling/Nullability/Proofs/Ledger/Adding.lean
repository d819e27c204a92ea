import Nullability.Proofs.Ledger.Session

/-!
# Adding to ledgers whatever happens to the disk

A line is added as a whole or not at all. This file follows open ledgers over any number of events:
calls, failures that are asked for on the way, and files and directories that others remove.

* `Ledgers.Concludes`: what acting on a violation comes to, and `concludes_fix` that it always
  comes to that;
* `history_sound`: every step of every history keeps or refuses each record as a whole, and the
  answers in it are those of the configuration.
-/

namespace Nullability

/-! ## Files that others remove -/

namespace Disk

theorem leave_here (d : Disk) (target : Path) (left : Except SystemError FileTree) :
    (d.leave target left).2.here = d.here := by
  cases left <;> rfl

theorem delete_here (d : Disk) (path : Text) : (d.delete path).2.here = d.here := by
  unfold delete
  split
  · rfl
  · exact leave_here d _ _

theorem deleteDirectory_here (d : Disk) (path : Text) :
    (d.deleteDirectory path).2.here = d.here := by
  unfold deleteDirectory
  split
  · rfl
  · exact leave_here d _ _

end Disk

/-! ## Acting on a violation -/

namespace Ledgers

variable {l : Ledgers} {home : Place} {run run' : Run}

/-- What acting on a violation comes to: an error changes nothing, and otherwise the fix is
recorded, if there is one, and a notice says what was decided. -/
inductive Concludes (l : Ledgers) (v : Violation) (home : Place) (run run' : Run) : Prop where
  | failed (e : Breakdown) (hanswer : l.config.answer? v = .error e) (hsame : run' = run)
  | nothing (hanswer : l.config.answer? v = .ok none)
      (hnote : run' = run.note .debug (noFixNotice v))
  | fixed (f : Fix) (kept : Run) (hanswer : l.config.answer? v = .ok (some f))
      (hkeeps : l.Keeps .fixes f.record home run kept)
      (hnote : run' = kept.note .debug (fixNotice f))

theorem Concludes.here {v : Violation} (h : l.Concludes v home run run') :
    run'.disk.here = run.disk.here := by
  cases h with
  | failed _ _ hsame => rw [hsame]
  | nothing _ hnote => rw [hnote, Run.note]
  | fixed _ _ _ hkeeps hnote =>
      rw [hnote, Run.note]
      exact hkeeps.here

theorem concludes_fix (v : Violation) (hhome : run.disk.placeOf (Channel.fixes.path l) = home) :
    l.Concludes v home run (l.fix v run).2 := by
  cases hdecide : l.config.decide? v with
  | error e =>
      exact .failed (.decision e) (by simp [Config.answer?, hdecide]) (by simp [fix, hdecide])
  | ok decision =>
      cases decision with
      | none =>
          exact .nothing (by simp [Config.answer?, hdecide]) (by simp [fix, hdecide, conclude])
      | some f =>
          have hactive := Config.isActive_of_decide? hdecide
          by_cases hwritable : f.IsWritable
          · refine .fixed f (l.keep .fixes f.record run)
              (by simp [Config.answer?, hdecide, hwritable])
              (keeps_keep (Channel.takes_fix f) hhome) ?_
            simp [fix, hdecide, conclude, saveFix_of_isWritable hwritable]
          · refine .failed .integerTooLong (by simp [Config.answer?, hdecide, hwritable]) ?_
            simp [fix, hdecide, conclude, saveFix_of_not_isWritable hwritable, hactive]

/-- A violation that is reported goes to one ledger, and the fix that comes of it to the other. -/
theorem keeps_concludes_report (l : Ledgers) (v : Violation) (run : Run) :
    ∃ reported,
      l.Keeps .violations (v.record l.config.logErrors.isDeep)
        (run.disk.placeOf (Channel.violations.path l)) run reported ∧
      l.Concludes v (reported.disk.placeOf (Channel.fixes.path l)) reported (l.report v run).2 := by
  refine ⟨l.saveViolation l.config.logErrors.isDeep v run, ?_, concludes_fix v rfl⟩
  rw [saveViolation_eq_keep]
  exact keeps_keep (Channel.takes_violation v _) rfl

end Ledgers

/-! ## Histories -/

/-- What can happen while ledgers are open: a call, a failure that is asked for or all of them taken
back, and a file or a directory that somebody else removes. -/
inductive Event where
  | call (call : Call)
  | fail (operation : DiskOperation) (e : DiskError)
  | clear
  | delete (path : Text)
  | deleteDirectory (path : Text)

namespace Event

/-- The answer to an event, if it is a call, and the run after it. -/
def perform (l : Ledgers) (run : Run) :
    Event → Option (Except Breakdown (Option Fix)) × Run
  | call c => (some (c.perform l run).1, (c.perform l run).2)
  | fail operation e => (none, { run with disk := run.disk.withFault operation e })
  | clear => (none, { run with disk := { run.disk with faults := [] } })
  | delete path => (none, (run.act fun d => d.delete path).2)
  | deleteDirectory path => (none, (run.act fun d => d.deleteDirectory path).2)

/-- The answer as far as the configuration alone gives it. Recording something has nothing to
answer, unless it is a fix without a text. -/
def answer (config : Config) : Event → Option (Except Breakdown (Option Fix))
  | call (.report v) | call (.fix v) => some (config.answer? v)
  | call (.decide v) => some ((config.decide? v).mapError .decision)
  | call (.propose v) => some ((config.propose? v).mapError .decision)
  | call (.saveFix f) =>
      some (if config.suggest.isActive = true ∧ ¬ f.IsWritable then .error .integerTooLong
        else .ok none)
  | call (.saveViolation _ _) => some (.ok none)
  | _ => none

end Event

/-- One event with the run before it, the answer to it and the run after it. -/
structure Step where
  event : Event
  before : Run
  answer : Option (Except Breakdown (Option Fix))
  after : Run

/-- The answer is that of the configuration, what a call records is kept or refused as a whole, and
a call changes nothing else. What happens outside of calls gives no notice. -/
def Step.IsSound (l : Ledgers) (home : Channel → Place) (s : Step) : Prop :=
  s.answer = s.event.answer l.config ∧
    match s.event with
    | .call (.report v) => ∃ reported,
        l.Keeps .violations (v.record l.config.logErrors.isDeep) (home .violations) s.before
          reported ∧
        l.Concludes v (home .fixes) reported s.after
    | .call (.fix v) => l.Concludes v (home .fixes) s.before s.after
    | .call (.decide _) | .call (.propose _) => s.after = s.before
    | .call (.saveFix f) =>
        (f.IsWritable → l.Keeps .fixes f.record (home .fixes) s.before s.after) ∧
        (¬ f.IsWritable → s.after = s.before)
    | .call (.saveViolation v deep) =>
        l.Keeps .violations (v.record deep) (home .violations) s.before s.after
    | _ => s.after.notices = s.before.notices

namespace Ledgers

/-- The steps of some events, one after the other. -/
def history (l : Ledgers) : List Event → Run → List Step
  | [], _ => []
  | event :: rest, run =>
      ⟨event, run, (event.perform l run).1, (event.perform l run).2⟩ ::
        l.history rest (event.perform l run).2

variable {l : Ledgers} {home : Channel → Place} {run : Run}

theorem isSound_perform_call (hhome : ∀ channel, run.disk.placeOf (channel.path l) = home channel)
    (call : Call) :
    Step.IsSound l home ⟨.call call, run, some (call.perform l run).1, (call.perform l run).2⟩ ∧
      (call.perform l run).2.disk.here = run.disk.here := by
  cases call with
  | report v =>
      have hkeeps := keeps_keep (Channel.takes_violation v l.config.logErrors.isDeep)
        (hhome .violations)
      rw [← saveViolation_eq_keep] at hkeeps
      -- The ledger of fixes stands where it stood before the violation was recorded.
      have hfixes : (l.saveViolation l.config.logErrors.isDeep v run).disk.placeOf
          (Channel.fixes.path l) = home .fixes := by
        rw [← hhome .fixes, Disk.placeOf, Disk.placeOf, hkeeps.here]
      have hconcludes := concludes_fix v hfixes
      exact ⟨⟨congrArg some (l.fst_report v run), _, hkeeps, hconcludes⟩,
        hconcludes.here.trans hkeeps.here⟩
  | fix v =>
      have hconcludes := concludes_fix v (hhome .fixes)
      exact ⟨⟨congrArg some (l.fst_fix v run), hconcludes⟩, hconcludes.here⟩
  | decide v => exact ⟨⟨rfl, rfl⟩, rfl⟩
  | propose v => exact ⟨⟨rfl, rfl⟩, rfl⟩
  | saveFix f =>
      by_cases hwritable : f.IsWritable
      · have hkeeps := keeps_keep (Channel.takes_fix f) (hhome .fixes)
        have hrun : ((Call.saveFix f).perform l run).2 = l.keep .fixes f.record run := by
          simp [Call.perform, saveFix_of_isWritable hwritable]
        rw [hrun]
        refine ⟨⟨?_, fun _ => hkeeps, fun hnot => absurd hwritable hnot⟩, hkeeps.here⟩
        simp [Event.answer, Call.perform, saveFix_of_isWritable hwritable, hwritable, Except.map]
      · have hrun : ((Call.saveFix f).perform l run).2 = run := by
          simp [Call.perform, saveFix_of_not_isWritable hwritable]
        rw [hrun]
        refine ⟨⟨?_, fun h => absurd h hwritable, fun _ => rfl⟩, rfl⟩
        cases hactive : l.config.suggest.isActive <;>
          simp [Event.answer, Call.perform, saveFix_of_not_isWritable hwritable, hwritable,
            hactive, Except.map]
  | saveViolation v deep =>
      have hkeeps := keeps_keep (Channel.takes_violation v deep) (hhome .violations)
      exact ⟨⟨rfl, hkeeps⟩, hkeeps.here⟩

/-- One event is sound wherever the ledgers stand, and leaves them there. -/
theorem isSound_perform (hhome : ∀ channel, run.disk.placeOf (channel.path l) = home channel)
    (event : Event) :
    Step.IsSound l home ⟨event, run, (event.perform l run).1, (event.perform l run).2⟩ ∧
      (event.perform l run).2.disk.here = run.disk.here := by
  cases event with
  | call call => exact isSound_perform_call hhome call
  | fail operation e => exact ⟨⟨rfl, rfl⟩, rfl⟩
  | clear => exact ⟨⟨rfl, rfl⟩, rfl⟩
  | delete path => exact ⟨⟨rfl, rfl⟩, run.disk.delete_here path⟩
  | deleteDirectory path => exact ⟨⟨rfl, rfl⟩, run.disk.deleteDirectory_here path⟩

theorem isSound_of_mem_history
    (hhome : ∀ channel, run.disk.placeOf (channel.path l) = home channel) (events : List Event) :
    ∀ step ∈ l.history events run, step.IsSound l home := by
  induction events generalizing run with
  | nil =>
      intro step hstep
      cases hstep
  | cons event rest ih =>
      rcases isSound_perform hhome event with ⟨hsound, hhere⟩
      have hrest : ∀ channel : Channel,
          (event.perform l run).2.disk.placeOf (channel.path l) = home channel := by
        intro channel
        rw [← hhome channel, Disk.placeOf, Disk.placeOf, hhere]
      intro step hstep
      rcases List.mem_cons.1 hstep with rfl | hstep
      · exact hsound
      · exact ih hrest step hstep

/-- Whatever calls are made on open ledgers, whatever failures are asked for in between and whatever
others remove: the answers are the decisions of the configuration, and every record of a ledger
that is kept is one more line in its file or one notice, while nothing else changes, except that a
ledger which is missing may be made as an empty file for a line that has no bytes. -/
theorem history_sound {config : Config} {delimiter : Text} {opened : Run}
    (hopen : open? config delimiter run = (.ok l, opened)) (events : List Event) :
    ∀ step ∈ l.history events opened,
      step.IsSound l fun channel => run.disk.placeOf (channel.path l) := by
  refine isSound_of_mem_history ?_ events
  intro channel
  rw [Disk.placeOf, Disk.placeOf, (holds_of_open hopen).here]

/-- An append that fails, one after the file was removed, and a report after the directory was: one
notice, one line in a new file, and two notices. -/
theorem history_sound_removed :
    let config := { Config.disabled with
      logErrors := .shallow, suggest := .shallow, outputDirectory := "out" }
    let run := Run.on ⟨FileTree.empty, [], []⟩
    let l : Ledgers := ⟨config, "$*$"⟩
    let opened := (open? config "$*$" run).2
    let site := Location.ofField ⟨"shop", "file:///shop.py"⟩ (some ⟨"shop.Basket"⟩)
      (some (Symbol.bare "total")) none none
    let f : Fix := ⟨site, "javax.annotation.Nullable", "FIELD_NO_INIT", .insert⟩
    let steps := l.history
      [.fail .appendText (.injected false "full"), .call (.saveFix f), .clear,
       .delete "out/fixes.csv", .call (.saveFix f), .deleteDirectory "out",
       .call (.report ⟨.fieldNoInit, "Must be nullable", site⟩)] opened
    let refusals (run : Run) := (run.notices.filter fun n => n.level = .error).length
    open? config "$*$" run = (.ok l, opened) ∧
      (∀ step ∈ steps, step.IsSound l fun channel => run.disk.placeOf (channel.path l)) ∧
      steps.map (fun step => refusals step.after) = [0, 1, 1, 1, 1, 1, 3] ∧
      (steps[4]?.map fun step => (step.after.disk.tree.contentAt ["out", "fixes.csv"]).data) =
        some (frame (l.render f.record)).toUTF8.data ∧
      (steps[6]?.bind Step.answer) = some (.ok (some f)) := by
  intro config run l opened site f steps refusals
  have hopen : open? config "$*$" run = (.ok l, opened) := open?_eq_of_isSome (by decide +kernel)
  -- The notices after each step, the new file, and the answer of the report.
  refine ⟨hopen, history_sound hopen _, ?_, ?_, ?_⟩
  · decide +kernel
  · decide +kernel
  · decide +kernel

/-- A message with half of a pair in it, after the ledger was removed: the file is made again before
its text turns out to have no bytes, so that there is an empty file as well as a notice. -/
theorem history_sound_created :
    let config := { Config.disabled with logErrors := .shallow, outputDirectory := "out" }
    let run := Run.on ⟨FileTree.empty, [], []⟩
    let l : Ledgers := ⟨config, "$*$"⟩
    let opened := (open? config "$*$" run).2
    let site := Location.ofField ⟨"shop", "file:///shop.py"⟩ (some ⟨"shop.Basket"⟩)
      (some (Symbol.bare "total")) none none
    let v : Violation := ⟨.fieldNoInit, "bad " ++ .ofList [.half 0x4ff] ++ " name", site⟩
    let steps := l.history [.delete "out/errors.csv", .call (.saveViolation v false)] opened
    let errors (run : Run) := run.disk.tree.file? ["out", "errors.csv"]
    open? config "$*$" run = (.ok l, opened) ∧
      steps.map (fun step => (errors step.after).map ByteArray.data) = [none, some #[]] ∧
      steps.map (fun step => (step.after.said .error).length) = [0, 1] := by
  intro config run l opened site v steps errors
  exact ⟨open?_eq_of_isSome (by decide +kernel), by decide +kernel, by decide +kernel⟩

end Ledgers
end Nullability
