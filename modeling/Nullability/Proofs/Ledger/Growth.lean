import Nullability.Proofs.Ledger.Adding

/-!
# What calls add to ledgers

Calls on ledgers only add lines. A call that is refused says so by a notice of an error, and where
no such notice is given, the lines are those of the records of the calls in their order.

* `Run.Untroubled`: no notice of an error between two moments of a run;
* `Ledgers.Grows`: the ledgers hold what they held, followed by some records;
* `grows_perform`: every call makes them grow by its records, whatever the disk is like.
-/

namespace Nullability

/-! ## Growth -/

namespace Ledgers

/-- What some records look like in a ledger. -/
def lines (l : Ledgers) (records : List Record) : Text :=
  Text.join (records.map fun r => frame (l.render r))

theorem lines_append (l : Ledgers) (rs rs' : List Record) :
    l.lines (rs ++ rs') = l.lines rs ++ l.lines rs' := by
  rw [lines, List.map_append, Text.join_append]
  rfl

/-- What the file of a ledger holds. -/
def contentOf (l : Ledgers) (channel : Channel) (d : Disk) : ByteArray :=
  d.tree.contentAt (d.placeOf (channel.path l))

/-- The records that reach the file of a ledger, which are none where it is not kept. -/
def keptOf (l : Ledgers) (channel : Channel) (records : List Record) : List Record :=
  if channel.isKept l.config then records else []

/-- The later run has the notices of the earlier one and more. If none of these tells of an error,
every ledger holds what it held before, followed by its records. -/
structure Grows (l : Ledgers) (records : Channel → List Record) (before after : Run) : Prop where
  here : after.disk.here = before.disk.here
  notices : before.notices <+: after.notices
  content : before.Untroubled after → ∀ channel : Channel,
    l.contentOf channel after.disk = l.contentOf channel before.disk ++
      (l.lines (l.keptOf channel (records channel))).toUTF8

variable {l : Ledgers} {records records' : Channel → List Record} {run run₁ run₂ : Run}

namespace Grows

/-- Nothing but a notice. -/
theorem of_disk_eq (hdisk : run₁.disk = run.disk) (hnotices : run.notices <+: run₁.notices) :
    l.Grows (fun _ => []) run run₁ where
  here := by rw [hdisk]
  notices := hnotices
  content _ channel := by
    rw [hdisk]
    cases hkept : channel.isKept l.config <;> simp [lines, keptOf, hkept, Text.join]

theorem refl (l : Ledgers) (run : Run) : l.Grows (fun _ => []) run run :=
  of_disk_eq rfl List.prefix_rfl

theorem note (l : Ledgers) (run : Run) (level : NoticeLevel) (message : Text) :
    l.Grows (fun _ => []) run (run.note level message) :=
  of_disk_eq rfl (List.prefix_append _ _)

theorem trans (h : l.Grows records run run₁) (h' : l.Grows records' run₁ run₂) :
    l.Grows (fun channel => records channel ++ records' channel) run run₂ where
  here := h'.here.trans h.here
  notices := h.notices.trans h'.notices
  content huntroubled channel := by
    -- Where both parts together give no notice of an error, neither of them does.
    rcases huntroubled.split h.notices h'.notices with ⟨hfirst, hsecond⟩
    have hlines : l.lines (l.keptOf channel (records channel ++ records' channel)) =
        l.lines (l.keptOf channel (records channel)) ++
          l.lines (l.keptOf channel (records' channel)) := by
      rw [← lines_append]
      cases hkept : channel.isKept l.config <;> simp [keptOf, hkept]
    rw [h'.content hsecond channel, h.content hfirst channel, hlines, ByteArray.append_assoc]
    simp

theorem congr (h : l.Grows records run run₁)
    (hrecords : ∀ channel, records' channel = records channel) : l.Grows records' run run₁ := by
  obtain rfl : records' = records := funext hrecords
  exact h

end Grows

/-! ## Calls -/

/-- What one record in one of the ledgers looks like in any of them. -/
theorem lines_keptOf_single (l : Ledgers) (channel other : Channel) (r : Record) :
    l.lines (l.keptOf other (if other = channel then [r] else [])) =
      if other = channel ∧ channel.isKept l.config = true then frame (l.render r) else "" := by
  by_cases hother : other = channel
  · subst hother
    cases hkept : other.isKept l.config <;> simp [keptOf, hkept, lines, Text.join]
  · simp [keptOf, hother, lines, Text.join]

theorem contentOf_of_gains {channel : Channel} {s : Text}
    (h : Disk.Gains (run.disk.placeOf (channel.path l)) s.toUTF8 run.disk run₁.disk)
    (other : Channel) :
    l.contentOf other run₁.disk = l.contentOf other run.disk ++
      (if other = channel then s else "").toUTF8 := by
  have hplace : run₁.disk.placeOf (other.path l) = run.disk.placeOf (other.path l) := by
    rw [Disk.placeOf, Disk.placeOf, h.here]
  rw [contentOf, contentOf, hplace]
  by_cases hsame : other = channel
  · subst hsame
    simp [FileTree.contentAt, FileTree.file?, h.content]
  · -- The two ledgers never stand in the same place, so the other one is not touched.
    have hne : run.disk.placeOf (other.path l) ≠ run.disk.placeOf (channel.path l) :=
      fun hplaces => hsame (Channel.placeOf_path_injective hplaces)
    have hfile := FileTree.file?_congr (h.elsewhere _ hne)
    rw [if_neg hsame, FileTree.contentAt, FileTree.contentAt, hfile]
    simp

theorem grows_of_keeps {channel : Channel} {r : Record}
    (h : l.Keeps channel r (run.disk.placeOf (channel.path l)) run run₁) :
    l.Grows (fun other => if other = channel then [r] else []) run run₁ := by
  cases h with
  | unkept hkept hsame =>
      subst hsame
      refine ⟨rfl, List.prefix_rfl, fun _ other => ?_⟩
      rw [lines_keptOf_single]
      simp [hkept]
  | added hkept _ _ hdisk hnotices =>
      refine ⟨hdisk.here, hnotices ▸ List.prefix_rfl, fun _ other => ?_⟩
      rw [contentOf_of_gains hdisk other, lines_keptOf_single]
      simp only [hkept, and_true]
  | uncovered _ _ _ hdisk hnotices =>
      -- The notice that nothing was added is one of an error.
      refine ⟨hdisk.here, hnotices ▸ List.prefix_append _ _, fun huntroubled => ?_⟩
      exact absurd huntroubled (Run.not_untroubled hnotices rfl)
  | refused e _ _ hdisk hnotices =>
      refine ⟨by rw [hdisk], hnotices ▸ List.prefix_append _ _, fun huntroubled => ?_⟩
      exact absurd huntroubled (Run.not_untroubled hnotices rfl)

theorem grows_keep {channel : Channel} {r : Record} (hr : channel.Takes r) (run : Run) :
    l.Grows (fun other => if other = channel then [r] else []) run (l.keep channel r run) :=
  grows_of_keeps (keeps_keep hr rfl)

/-- A fix is recorded exactly when it is the answer, and the rest are notices. -/
theorem grows_fix (v : Violation) (run : Run) :
    l.Grows (fun channel => (Call.fix v).records l.config channel) run (l.fix v run).2 := by
  rcases concludes_fix (l := l) v rfl with
    ⟨e, hanswer, hsame⟩ | ⟨hanswer, hnote⟩ | ⟨f, kept, hanswer, hkeeps, hnote⟩
  · rw [hsame]
    refine (Grows.refl l run).congr ?_
    intro channel
    cases channel <;> simp [Call.records, Call.decided, hanswer]
  · rw [hnote]
    refine (Grows.note l run _ _).congr ?_
    intro channel
    cases channel <;> simp [Call.records, Call.decided, hanswer]
  · rw [hnote]
    refine ((grows_of_keeps hkeeps).trans (Grows.note l kept _ _)).congr ?_
    intro channel
    cases channel <;> simp [Call.records, Call.decided, hanswer]

/-- Every call makes the ledgers grow by its records, whatever the disk is like. -/
theorem grows_perform (call : Call) (run : Run) :
    l.Grows (fun channel => call.records l.config channel) run (call.perform l run).2 := by
  cases call with
  | report v =>
      -- The violation goes to one ledger before the decision can send a fix to the other.
      have hkeep := grows_keep (l := l) (Channel.takes_violation v l.config.logErrors.isDeep) run
      refine (hkeep.trans (grows_fix v _)).congr ?_
      intro channel
      cases channel <;> simp [Call.records]
  | fix v => exact grows_fix v run
  | decide v => exact (Grows.refl l run).congr fun channel => by cases channel <;> rfl
  | propose v => exact (Grows.refl l run).congr fun channel => by cases channel <;> rfl
  | saveFix f =>
      by_cases hwritable : f.IsWritable
      · have hrun : ((Call.saveFix f).perform l run).2 = l.keep .fixes f.record run := by
          simp [Call.perform, saveFix_of_isWritable hwritable]
        rw [hrun]
        refine (grows_keep (Channel.takes_fix f) run).congr ?_
        intro channel
        cases channel <;> simp [Call.records, hwritable]
      · have hrun : ((Call.saveFix f).perform l run).2 = run := by
          simp [Call.perform, saveFix_of_not_isWritable hwritable]
        rw [hrun]
        refine (Grows.refl l run).congr ?_
        intro channel
        cases channel <;> simp [Call.records, hwritable]
  | saveViolation v deep =>
      refine (grows_keep (Channel.takes_violation v deep) run).congr ?_
      intro channel
      cases channel <;> simp [Call.records]

end Ledgers
end Nullability
