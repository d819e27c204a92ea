import Nullability.Advice
import Nullability.Proofs.Ledger.Keeping

/-!
# Sessions

What a run does to its ledgers between opening them and its end: a list of `Call`s in any order.
Every call amounts to some records for each channel, and the files hold these records, one line
each, behind the line that names the columns.

* `Ledgers.Holds`: the invariant, which relates the disk at some moment to the disk before the
  ledgers were opened and to the records so far;
* `holds_of_open`, `holds_keep`, `holds_perform`: opening establishes it, and each step keeps it;
* `said_perform`: what is said of records that no file can hold;
* `content_performAll`: what the files hold after any calls.
-/

namespace Nullability

/-! ## Calls -/

/-- What can be asked of open ledgers. -/
inductive Call where
  | report (v : Violation)
  | fix (v : Violation)
  | decide (v : Violation)
  | propose (v : Violation)
  | saveFix (f : Fix)
  | saveViolation (v : Violation) (deep : Bool)

namespace Call

/-- The answer to a call, and the run after it. -/
def perform (l : Ledgers) (run : Run) : Call → Except Breakdown (Option Fix) × Run
  | report v => l.report v run
  | fix v => l.fix v run
  | decide v => ((l.config.decide? v).mapError .decision, run)
  | propose v => ((l.config.propose? v).mapError .decision, run)
  | saveFix f => ((l.saveFix f run).1.map fun _ => none, (l.saveFix f run).2)
  | saveViolation v deep => (.ok none, l.saveViolation deep v run)

/-- The record of the fix that a violation leads to, if it leads to one. -/
def decided (config : Config) (v : Violation) : List Record :=
  match config.answer? v with
  | .ok (some f) => [f.record]
  | _ => []

/-- What a call records in a ledger that is kept. -/
def records (config : Config) : Channel → Call → List Record
  | .violations, report v => [v.record config.logErrors.isDeep]
  | .violations, saveViolation v deep => [v.record deep]
  | .fixes, report v => decided config v
  | .fixes, fix v => decided config v
  | .fixes, saveFix f => if f.IsWritable then [f.record] else []
  | _, _ => []

/-- The messages about what a call records and no file can hold. -/
def refusals (l : Ledgers) (call : Call) : List Text :=
  l.refusals .violations (call.records l.config .violations) ++
    l.refusals .fixes (call.records l.config .fixes)

end Call

namespace Ledgers

/-- The run after some calls, whatever their answers are. -/
def performAll (l : Ledgers) (calls : List Call) (run : Run) : Run :=
  calls.foldl (fun run call => (call.perform l run).2) run

/-- The text of a ledger with some records. -/
def written (l : Ledgers) (channel : Channel) (records : List Record) : Text :=
  Text.join (frame (renderColumns l.config.format l.delimiter channel.columns) ::
    records.map fun r => frame (l.render r))

theorem written_append (l : Ledgers) (channel : Channel) (rs : List Record) (r : Record) :
    l.written channel (rs ++ [r]) = l.written channel rs ++ frame (l.render r) := by
  simp [← Text.toList_inj, written]

/-! ## Changes to one ledger -/

/-- The second disk differs from the first at most by the file of a ledger that is kept. -/
structure AltersChannel (l : Ledgers) (channel : Channel) (d d' : Disk) : Prop where
  here : d'.here = d.here
  faults : d'.faults = d.faults
  others : ∀ other : Channel, other ≠ channel → ∀ content,
    d.readBytes (other.joined l) = .ok content → d'.readBytes (other.joined l) = .ok content
  elsewhere : ∀ p, (channel.isKept l.config = true → p ≠ d.placeOf (channel.path l)) →
    d'.tree.at? p = d.tree.at? p

theorem AltersChannel.refl (l : Ledgers) (channel : Channel) (d : Disk) :
    AltersChannel l channel d d :=
  ⟨rfl, rfl, fun _ _ _ h => h, fun _ _ => rfl⟩

theorem AltersChannel.of_file {l : Ledgers} {channel : Channel} {d d' : Disk}
    (hkept : channel.isKept l.config = true)
    (h : Disk.AltersFile (d.placeOf (channel.path l)) d d') : AltersChannel l channel d d' where
  here := h.here
  faults := h.faults
  others other hother content hread := by
    refine h.readBytes ?_ hread
    intro hplace
    rw [← Channel.parse_path] at hplace
    exact hother (Channel.placeOf_path_injective hplace)
  elsewhere p hp := h.elsewhere p (hp hkept)

/-! ## The invariant -/

/-- What holds of a disk after some records were written to ledgers that were opened on an
earlier disk: every ledger that is kept is made of its records, of which its file holds all
characters, and every other file is as it was. -/
structure Holds (l : Ledgers) (before after : Disk) (records : Channel → List Record) : Prop where
  here : after.here = before.here
  faults : after.faults = before.faults
  usable : ∀ channel : Channel, channel.isKept l.config = true →
    Disk.isRefused (channel.path l) = false
  kept : ∀ channel : Channel, channel.isKept l.config = true →
    after.readBytes (channel.joined l) = .ok (l.written channel (records channel)).toUTF8
  covered : ∀ channel : Channel, channel.isKept l.config = true →
    Encoding.utf8.covers (l.written channel (records channel)) = true
  elsewhere : ∀ p, (∀ channel : Channel, channel.isKept l.config = true →
    p ≠ before.placeOf (channel.path l)) → after.tree.file? p = before.tree.file? p

variable {l : Ledgers} {run run' : Run} {before : Disk} {records : Channel → List Record}

/-! ## Opening -/

/-- A ledger that was started afresh holds the line with its columns, and no other file
changed. -/
theorem reset_ok {path : Text} {columns : List Text}
    (h : l.reset path columns run = (.ok (), run')) :
    Disk.isRefused path = false ∧
      Encoding.utf8.covers (frame (renderColumns l.config.format l.delimiter columns)) = true ∧
      Disk.AltersFile (run.disk.placeOf path) run.disk run'.disk ∧
      run'.disk.readBytes (Path.parse path) =
        .ok (frame (renderColumns l.config.format l.delimiter columns)).toUTF8 := by
  unfold reset Run.act at h
  cases hremove : run.disk.remove path with
  | mk removed d₁ =>
      cases removed with
      | error e => simp [hremove] at h
      | ok _ =>
          cases hwrite : d₁.writeText path
              (frame (renderColumns l.config.format l.delimiter columns)) .utf8 with
          | mk written d₂ =>
              cases written with
              | error e => simp [hremove, hwrite] at h
              | ok _ =>
                  have hdisk : run'.disk = d₂ := by
                    simp [hremove, hwrite] at h
                    simp [← h, Run.note]
                  rcases Disk.writeText_ok hwrite with ⟨husable, hcovers, halters, hread⟩
                  rw [hdisk]
                  -- There may have been no file to remove.
                  rcases Disk.remove_ok hremove with rfl | hfirst
                  · exact ⟨husable, hcovers, halters, hread⟩
                  · have hplace : d₁.placeOf path = run.disk.placeOf path := by
                      simp [Disk.placeOf, hfirst.here]
                    rw [hplace] at halters
                    exact ⟨husable, hcovers, hfirst.trans halters, hread⟩

/-- A channel that was started afresh, if it is kept. -/
theorem resetChannel_ok {channel : Channel} (h : l.resetChannel channel run = (.ok (), run')) :
    AltersChannel l channel run.disk run'.disk ∧
      (channel.isKept l.config = true → Disk.isRefused (channel.path l) = false ∧
        Encoding.utf8.covers (l.written channel []) = true ∧
        run'.disk.readBytes (channel.joined l) = .ok (l.written channel []).toUTF8) := by
  unfold resetChannel resetIf at h
  by_cases hkept : channel.isKept l.config = true
  · rw [if_pos hkept] at h
    have hwritten : l.written channel [] =
        frame (renderColumns l.config.format l.delimiter channel.columns) := by
      simp [← Text.toList_inj, written]
    rcases reset_ok h with ⟨husable, hcovers, halters, hread⟩
    refine ⟨.of_file hkept halters, fun _ => ⟨husable, hwritten ▸ hcovers, ?_⟩⟩
    simpa [Channel.parse_path, hwritten] using hread
  · rw [if_neg hkept] at h
    obtain rfl : run = run' := by simpa using h
    exact ⟨.refl l channel run.disk, fun h => absurd h hkept⟩

theorem prepare_ok (h : l.prepare run = (.ok (), run')) : ∃ made mid : Run,
    Disk.AddsDirectories run.disk made.disk ∧
      l.resetChannel .violations made = (.ok (), mid) ∧
      l.resetChannel .fixes mid = (.ok (), run') := by
  unfold prepare Run.act at h
  cases hmake : run.disk.makeDirectories l.config.outputDirectory true with
  | mk made d₁ =>
      have hadds := Disk.makeDirectories_adds run.disk l.config.outputDirectory true
      rw [hmake] at hadds
      cases made with
      | error e => simp [hmake] at h
      | ok _ =>
          simp only [hmake] at h
          split at h
          · cases h
          · next mid hfirst => exact ⟨_, mid, hadds, hfirst, h⟩

/-- Ledgers that open are those of the configuration. -/
theorem open?_ok {config : Config} {delimiter : Text}
    (h : Ledgers.open? config delimiter run = (.ok l, run')) :
    l = ⟨config, delimiter⟩ ∧ l.prepare run = (.ok (), run') := by
  unfold open? at h
  dsimp only at h
  split at h
  · next hprepare =>
    cases h
    exact ⟨rfl, hprepare⟩
  · cases h

theorem open?_eq_of_isSome {config : Config} {delimiter : Text}
    (h : (Ledgers.open? config delimiter run).1.toOption.isSome = true) :
    Ledgers.open? config delimiter run =
      (.ok ⟨config, delimiter⟩, (Ledgers.open? config delimiter run).2) := by
  cases hopen : Ledgers.open? config delimiter run with
  | mk result opened =>
      rw [hopen] at h
      cases result with
      | error e => simp [Except.toOption] at h
      | ok l => rw [(open?_ok hopen).1]

/-- Opening establishes the invariant, with no records. -/
theorem holds_of_open {config : Config} {delimiter : Text}
    (h : Ledgers.open? config delimiter run = (.ok l, run')) :
    l.Holds run.disk run'.disk fun _ => [] := by
  -- First come directories, then one ledger after the other; the second leaves the first alone.
  rcases prepare_ok (open?_ok h).2 with ⟨made, mid, hadds, hviolations, hfixes⟩
  rcases resetChannel_ok hviolations with ⟨hfirst, hopenedFirst⟩
  rcases resetChannel_ok hfixes with ⟨hsecond, hopenedSecond⟩
  have hhere : mid.disk.here = run.disk.here := hfirst.here.trans hadds.here
  refine ⟨hsecond.here.trans hhere, ?_, ?_, ?_, ?_, ?_⟩
  · exact hsecond.faults.trans (hfirst.faults.trans hadds.faults)
  · intro channel hkept
    cases channel with
    | violations => exact (hopenedFirst hkept).1
    | fixes => exact (hopenedSecond hkept).1
  · intro channel hkept
    cases channel with
    | violations => exact hsecond.others .violations (by decide) _ (hopenedFirst hkept).2.2
    | fixes => exact (hopenedSecond hkept).2.2
  · intro channel hkept
    cases channel with
    | violations => exact (hopenedFirst hkept).2.1
    | fixes => exact (hopenedSecond hkept).2.1
  · intro p hp
    have hplace : ∀ (d : Disk) (channel : Channel), d.here = run.disk.here →
        channel.isKept l.config = true → p ≠ d.placeOf (channel.path l) := by
      intro d channel hd hkept
      simpa [Disk.placeOf, hd] using hp channel hkept
    have hmid := hsecond.elsewhere p (hplace mid.disk .fixes hhere)
    have hmade := hfirst.elsewhere p (hplace made.disk .violations hadds.here)
    rw [FileTree.file?_congr (hmid.trans hmade), hadds.file? p]

/-! ## Adding records -/

/-- Where no failure is asked for, a ledger that holds its records can be opened for more. -/
theorem Holds.isOpenTo (h : l.Holds before run.disk records) (hclear : before.faults = [])
    {channel : Channel} (hkept : channel.isKept l.config = true) :
    run.disk.IsOpenTo .appendText (channel.path l) := by
  have hread := h.kept channel hkept
  rw [← Channel.parse_path] at hread
  rcases Disk.readBytes_eq_ok_iff.1 hread with ⟨hlocate, hentry⟩
  refine ⟨by simp [Disk.fault?, h.faults, hclear], h.usable channel hkept, hlocate, ?_⟩
  simp [Disk.placeOf, hentry]

/-- The bytes that a ledger gains stand behind its records. -/
theorem Holds.of_gains (h : l.Holds before run.disk records) {channel : Channel}
    (hkept : channel.isKept l.config = true) {bytes : ByteArray}
    (hgains : Disk.Gains (run.disk.placeOf (channel.path l)) bytes run.disk run'.disk)
    {rs : List Record}
    (hcovers : Encoding.utf8.covers (l.written channel (records channel ++ rs)) = true)
    (hbytes : (l.written channel (records channel)).toUTF8 ++ bytes =
      (l.written channel (records channel ++ rs)).toUTF8) :
    l.Holds before run'.disk
      (fun other => records other ++ if other = channel then rs else []) := by
  have halters : AltersChannel l channel run.disk run'.disk := .of_file hkept hgains.toAltersFile
  refine ⟨halters.here.trans h.here, halters.faults.trans h.faults, h.usable, ?_, ?_, ?_⟩
  · intro other hother
    -- The bytes of this ledger grow, and those of the other one are untouched.
    by_cases hsame : other = channel
    · subst hsame
      have hread := h.kept other hother
      rcases Disk.readBytes_eq_ok_iff.1 hread with ⟨hlocate, hentry⟩
      have hplace : Place.ofPath run.disk.here (other.joined l) =
          run.disk.placeOf (other.path l) := by
        rw [Disk.placeOf, Channel.parse_path]
      have hcontent := hgains.content
      rw [hplace] at hentry
      rw [FileTree.contentAt, FileTree.file?, hentry] at hcontent
      rw [if_pos rfl, Disk.readBytes_eq_ok_iff, halters.here, hplace, hcontent]
      exact ⟨hplace ▸ hgains.locate hlocate, by simpa using hbytes⟩
    · rw [if_neg hsame, List.append_nil]
      exact halters.others other hsame _ (h.kept other hother)
  · intro other hother
    by_cases hsame : other = channel
    · subst hsame
      simpa using hcovers
    · simpa [hsame] using h.covered other hother
  · intro p hp
    have hplace : p ≠ run.disk.placeOf (channel.path l) := by
      simpa [Disk.placeOf, h.here] using hp channel hkept
    rw [FileTree.file?_congr (halters.elsewhere p fun _ => hplace), h.elsewhere p hp]

/-- Recording something adds a line to its ledger, if the ledger can hold it. -/
theorem holds_keep (hclear : before.faults = []) (h : l.Holds before run.disk records)
    {channel : Channel} {r : Record} (hr : channel.Takes r) :
    l.Holds before (l.keep channel r run).disk
      (fun other => records other ++ if other = channel then l.held [r] else []) := by
  cases keeps_keep hr (rfl : run.disk.placeOf (channel.path l) = _) with
  | unkept hkept hsame =>
      rw [hsame]
      have hother : ∀ other : Channel, other.isKept l.config = true → other ≠ channel := by
        rintro other hother rfl
        rw [hkept] at hother
        cases hother
      refine ⟨h.here, h.faults, h.usable, ?_, ?_, h.elsewhere⟩ <;> intro other hkept'
      · simpa [hother other hkept'] using h.kept other hkept'
      · simpa [hother other hkept'] using h.covered other hkept'
  | added hkept _ hcovers hdisk =>
      have hheld : l.held [r] = [r] := by simp [held, hcovers]
      refine h.of_gains hkept hdisk ?_ ?_ <;> rw [hheld, written_append]
      · rw [Encoding.covers_append, h.covered channel hkept]
        exact hcovers
      · rw [Text.toUTF8_append]
  | uncovered hkept _ hcovers hdisk =>
      have hheld : l.held [r] = [] := by simp [held, hcovers]
      refine h.of_gains hkept hdisk ?_ ?_ <;> rw [hheld, List.append_nil]
      · exact h.covered channel hkept
      · simp
  | refused e hkept hclosed =>
      -- Without failures that are asked for, the ledger could have been opened.
      exact absurd (h.isOpenTo hclear hkept) hclosed

theorem Holds.congr (h : l.Holds before run.disk records) {records' : Channel → List Record}
    (hdisk : run'.disk = run.disk) (hrecords : ∀ channel, records' channel = records channel) :
    l.Holds before run'.disk records' := by
  obtain rfl : records' = records := funext hrecords
  rw [hdisk]
  exact h

/-- A fix is recorded exactly when it is the answer. -/
theorem holds_fix (hclear : before.faults = []) (h : l.Holds before run.disk records)
    (v : Violation) : l.Holds before (l.fix v run).2.disk
      (fun channel => records channel ++ l.held (Call.records l.config channel (.fix v))) := by
  cases hdecide : l.config.decide? v with
  | error e =>
      refine h.congr (by simp [fix, hdecide]) ?_
      intro channel
      cases channel <;> simp [Call.records, Call.decided, Config.answer?, hdecide, held]
  | ok decision =>
      cases decision with
      | none =>
          refine h.congr (by simp [fix, hdecide, conclude, Run.note]) ?_
          intro channel
          cases channel <;> simp [Call.records, Call.decided, Config.answer?, hdecide, held]
      | some f =>
          have hactive := Config.isActive_of_decide? hdecide
          by_cases hwritable : f.IsWritable
          · refine (holds_keep hclear h (Channel.takes_fix f)).congr ?_ ?_
            · simp [fix, hdecide, conclude, Run.note, saveFix_of_isWritable hwritable]
            · intro channel
              cases channel <;>
                simp [Call.records, Call.decided, Config.answer?, hdecide, hwritable, held]
          · refine h.congr ?_ ?_
            · simp [fix, hdecide, conclude, saveFix_of_not_isWritable hwritable, hactive]
            · intro channel
              cases channel <;>
                simp [Call.records, Call.decided, Config.answer?, hdecide, hwritable, held]

/-- Every call adds its records, whatever its answer is. -/
theorem holds_perform (hclear : before.faults = []) (h : l.Holds before run.disk records)
    (call : Call) : l.Holds before (call.perform l run).2.disk
      (fun channel => records channel ++ l.held (call.records l.config channel)) := by
  have hnothing : (∀ channel, call.records l.config channel = []) →
      l.Holds before run.disk
        (fun channel => records channel ++ l.held (call.records l.config channel)) :=
    fun hnone => h.congr rfl fun channel => by simp [hnone, held]
  cases call with
  | report v =>
      -- The violation is on record before the decision is asked for, so an error comes too late.
      have hkeep := holds_keep hclear h (Channel.takes_violation v l.config.logErrors.isDeep)
      refine (holds_fix hclear hkeep v).congr rfl ?_
      intro channel
      cases channel <;> simp [Call.records, held]
  | fix v => exact holds_fix hclear h v
  | decide v => exact hnothing fun channel => by cases channel <;> rfl
  | propose v => exact hnothing fun channel => by cases channel <;> rfl
  | saveFix f =>
      by_cases hwritable : f.IsWritable
      · refine (holds_keep hclear h (Channel.takes_fix f)).congr ?_ ?_
        · simp [Call.perform, saveFix_of_isWritable hwritable]
        · intro channel
          cases channel <;> simp [Call.records, hwritable, held]
      · have hsame : ((Call.saveFix f).perform l run).2 = run := by
          simp [Call.perform, saveFix_of_not_isWritable hwritable]
        rw [hsame]
        exact hnothing fun channel => by cases channel <;> simp [Call.records, hwritable]
  | saveViolation v deep =>
      refine (holds_keep hclear h (Channel.takes_violation v deep)).congr ?_ ?_
      · simp only [Call.perform, saveViolation_eq_keep]
      · intro channel
        cases channel <;> simp [Call.records, held]

/-- Calls add their records one after the other. -/
theorem holds_performAll (hclear : before.faults = []) (h : l.Holds before run.disk records)
    (calls : List Call) : l.Holds before (l.performAll calls run).disk
      (fun channel => records channel ++
        l.held (calls.flatMap (Call.records l.config channel))) := by
  induction calls generalizing run records with
  | nil => simpa [performAll, held] using h
  | cons call calls ih => simpa [performAll, held] using ih (holds_perform hclear h call)

/-! ## What is said of records that no file can hold -/

theorem said_keep {channel : Channel} {r : Record} (hr : channel.Takes r)
    (hopen : channel.isKept l.config = true →
      run.disk.IsOpenTo .appendText (channel.path l)) :
    (l.keep channel r run).said .error = run.said .error ++ l.refusals channel [r] := by
  cases keeps_keep hr (rfl : run.disk.placeOf (channel.path l) = _) with
  | unkept hkept hsame => simp [hsame, refusals, hkept]
  | added hkept _ hcovers _ hnotices =>
      rw [Run.said_congr hnotices]
      simp [refusals, hkept, hcovers]
  | uncovered hkept _ hcovers _ hnotices =>
      simp [Run.said, hnotices, refusals, hkept, hcovers, refusalNotice]
  | refused e hkept hclosed =>
      -- Without failures that are asked for, the ledger could have been opened.
      exact absurd (hopen hkept) hclosed

theorem said_fix (hclear : before.faults = []) (h : l.Holds before run.disk records)
    (v : Violation) : (l.fix v run).2.said .error =
      run.said .error ++ l.refusals .fixes (Call.decided l.config v) := by
  cases hdecide : l.config.decide? v with
  | error e => simp [fix, hdecide, Call.decided, Config.answer?, refusals]
  | ok decision =>
      cases decision with
      | none =>
          simp [fix, hdecide, conclude, Call.decided, Config.answer?, refusals, Run.said_note_of_ne]
      | some f =>
          have hactive := Config.isActive_of_decide? hdecide
          by_cases hwritable : f.IsWritable
          · have hkeep := said_keep (Channel.takes_fix f) fun hkept => h.isOpenTo hclear hkept
            simp [fix, hdecide, conclude, saveFix_of_isWritable hwritable, Run.said_note_of_ne,
              Call.decided, Config.answer?, hwritable, hkeep]
          · simp [fix, hdecide, conclude, saveFix_of_not_isWritable hwritable, hactive,
              Call.decided, Config.answer?, hwritable, refusals]

theorem said_perform (hclear : before.faults = []) (h : l.Holds before run.disk records)
    (call : Call) :
    (call.perform l run).2.said .error = run.said .error ++ call.refusals l := by
  have hopen : ∀ channel : Channel, channel.isKept l.config = true →
      run.disk.IsOpenTo .appendText (channel.path l) := fun _ hkept => h.isOpenTo hclear hkept
  cases call with
  | report v =>
      have hviolation := Channel.takes_violation v l.config.logErrors.isDeep
      have hfix := said_fix hclear (holds_keep hclear h hviolation) v
      rw [said_keep hviolation (hopen .violations), List.append_assoc] at hfix
      exact hfix
  | fix v =>
      simpa [Call.perform, Call.refusals, Call.records, refusals] using said_fix hclear h v
  | decide v => simp [Call.perform, Call.refusals, Call.records, refusals]
  | propose v => simp [Call.perform, Call.refusals, Call.records, refusals]
  | saveFix f =>
      by_cases hwritable : f.IsWritable
      · have hkeep := said_keep (Channel.takes_fix f) (hopen .fixes)
        simpa [Call.perform, saveFix_of_isWritable hwritable, Call.refusals, Call.records,
          hwritable, refusals] using hkeep
      · simp [Call.perform, saveFix_of_not_isWritable hwritable, Call.refusals, Call.records,
          hwritable, refusals]
  | saveViolation v deep =>
      have hkeep := said_keep (Channel.takes_violation v deep) (hopen .violations)
      simpa [Call.perform, saveViolation_eq_keep, Call.refusals, Call.records, refusals] using hkeep

theorem said_performAll (hclear : before.faults = []) (h : l.Holds before run.disk records)
    (calls : List Call) : (l.performAll calls run).said .error =
      run.said .error ++ calls.flatMap (Call.refusals l) := by
  induction calls generalizing run records with
  | nil => simp [performAll]
  | cons call calls ih =>
      have hrest := ih (holds_perform hclear h call)
      rw [said_perform hclear h call, List.append_assoc] at hrest
      simpa [performAll] using hrest

/-! ## What the files hold -/

/-- After any calls, each ledger that is kept holds the line that names its columns and one line for
each record whose text has bytes, in the order of the calls. Every other record is told of by one
error, and no other error is given; a ledger that is not kept and every other file hold what they
held before. -/
theorem content_performAll {config : Config} {delimiter : Text} {run opened : Run} {l : Ledgers}
    (calls : List Call) (hclear : run.disk.faults = [])
    (hopen : Ledgers.open? config delimiter run = (.ok l, opened)) :
    (∀ channel : Channel, channel.isKept config = true →
      (l.performAll calls opened).disk.readBytes (Path.parse (channel.path l)) =
        .ok (l.written channel (l.held (calls.flatMap (Call.records config channel)))).toUTF8) ∧
    (l.performAll calls opened).said .error =
      opened.said .error ++ calls.flatMap (Call.refusals l) ∧
    (∀ channel : Channel, channel.isKept config = false →
      (l.performAll calls opened).disk.tree.file? (run.disk.placeOf (channel.path l)) =
        run.disk.tree.file? (run.disk.placeOf (channel.path l))) ∧
    ∀ p, (∀ channel : Channel, channel.isKept config = true →
        p ≠ run.disk.placeOf (channel.path l)) →
      (l.performAll calls opened).disk.tree.file? p = run.disk.tree.file? p := by
  have hconfig : l.config = config := by rw [(open?_ok hopen).1]
  have h := holds_performAll hclear (holds_of_open hopen) calls
  refine ⟨?_, said_performAll hclear (holds_of_open hopen) calls, ?_, ?_⟩
  · intro channel hkept
    rw [← hconfig] at hkept
    simpa [Channel.parse_path, hconfig] using h.kept channel hkept
  · intro channel hkept
    -- The ledgers differ in name, so that the other one stands somewhere else.
    refine h.elsewhere _ ?_
    intro other hother hplace
    rw [Channel.placeOf_path_injective hplace, ← hconfig, hother] at hkept
    cases hkept
  · intro p hp
    exact h.elsewhere p (by simpa [hconfig] using hp)

/-- A violation at a site of the wrong kind leaves a line in the ledger of violations and none in
the ledger of fixes. -/
theorem content_performAll_incompatible :
    let config := { Config.disabled with
      logErrors := .shallow, suggest := .shallow, outputDirectory := "out" }
    let run := Run.on ⟨FileTree.empty, [], []⟩
    let l : Ledgers := ⟨config, "$*$"⟩
    let opened := (Ledgers.open? config "$*$" run).2
    let v : Violation :=
      ⟨.returnNullable, "no", Location.ofField ⟨"", ""⟩ (some ⟨"Box"⟩) none none none⟩
    run.disk.faults = [] ∧ Ledgers.open? config "$*$" run = (.ok l, opened) ∧
      (l.performAll [.report v] opened).disk.readBytes (Path.parse (Channel.violations.path l)) =
        .ok (l.written .violations [v.record false]).toUTF8 ∧
      (l.performAll [.report v] opened).disk.readBytes (Path.parse (Channel.fixes.path l)) =
        .ok (l.written .fixes []).toUTF8 := by
  intro config run l opened v
  have hopen : Ledgers.open? config "$*$" run = (.ok l, opened) :=
    open?_eq_of_isSome (by decide +kernel)
  have hviolations : l.held ([Call.report v].flatMap (Call.records config .violations)) =
      [v.record false] := by decide +kernel
  have hfixes : l.held ([Call.report v].flatMap (Call.records config .fixes)) = [] := by
    decide +kernel
  have hcontent := (content_performAll [.report v] rfl hopen).1
  refine ⟨rfl, hopen, ?_, ?_⟩
  · rw [← hviolations]
    exact hcontent .violations rfl
  · rw [← hfixes]
    exact hcontent .fixes rfl

/-- A marker whose name ends in half of a pair: the violation is decided on as ever, but no file can
hold the line of the fix, so that one error is said of it and the ledger is left as it is. -/
theorem content_performAll_unencodable :
    let marker : Marker := ⟨"a.B" ++ .ofList [.half 0x4ff]⟩
    let config := { Config.disabled with
      suggest := .shallow, outputDirectory := "o", markers := ⟨marker, Markers.default.nonNull⟩ }
    let run := Run.on ⟨FileTree.empty, [], []⟩
    let l : Ledgers := ⟨config, "$*$"⟩
    let opened := (Ledgers.open? config "$*$" run).2
    let site := Location.ofField ⟨"", "file:///a.py"⟩ (some ⟨"a.Cart"⟩)
      (some (Symbol.bare "coupon")) (some 3) (some 8)
    let v : Violation := ⟨.fieldNoInit, "Must be nullable", site⟩
    let f : Fix := ⟨site, marker.name, "FIELD_NO_INIT", .insert⟩
    let after := l.performAll [.report v] opened
    run.disk.faults = [] ∧ Ledgers.open? config "$*$" run = (.ok l, opened) ∧
      Channel.fixes.isKept config = true ∧ config.decide? v = .ok (some f) ∧
      after.disk.readBytes (Path.parse (Channel.fixes.path l)) = .ok (l.written .fixes []).toUTF8 ∧
      l.written .fixes [] ≠ l.written .fixes [f.record] ∧
      (after.said .error).length = 1 := by
  intro marker config run l opened site v f after
  have hopen : Ledgers.open? config "$*$" run = (.ok l, opened) :=
    open?_eq_of_isSome (by decide +kernel)
  have hholds := holds_of_open hopen
  have hcalls : l.held ([Call.report v].flatMap (Call.records config .fixes)) = [] := by
    decide +kernel
  have hread := (holds_performAll rfl hholds [.report v]).kept .fixes rfl
  rw [List.nil_append, hcalls, ← Channel.parse_path] at hread
  have hsaid := said_performAll rfl hholds [.report v]
  have hopened : opened.said .error = [] := by decide +kernel
  rw [hopened, List.nil_append] at hsaid
  refine ⟨rfl, hopen, rfl, by decide +kernel, hread, by decide +kernel, ?_⟩
  -- The message holds the whole line, so only how many there are is evaluated.
  rw [hsaid]
  decide +kernel

end Ledgers
end Nullability
