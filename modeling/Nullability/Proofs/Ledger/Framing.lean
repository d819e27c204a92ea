import Mathlib.Data.List.Forall2
import Nullability.Ledger.Reader
import Nullability.Proofs.Ledger.Session
import Nullability.Proofs.Text.Lines

/-!
# The lines of a ledger

A record becomes one line whatever its values hold: `clean` states what is left of a text on a
line. The lines of a ledger file are the cleaned texts that were written, one for each.

* `lineBody_eq_clean`: what `frame` leaves of a text;
* `frame_lines`: a frame is one line, and frames one after the other are read back one a line;
* `linesOf_written`: the lines of a written ledger;
* `linesAt_performAll`: the lines that a reader finds after any calls.
-/

namespace Nullability

/-- The text with a space for every maximal run of line breaks, and then without tabs. -/
def clean (cs : List Letter) : List Letter :=
  (Text.collapse Text.isLineBreak cs).filter fun c => c ≠ '\t'

def cleaned (s : Text) : Text :=
  Text.ofList (clean s.toList)

theorem lineBody_eq_clean (cs : List Letter) : lineBody cs = clean cs := by
  simp [lineBody, clean, Text.joinLines_eq_collapse]

theorem isLineBreak_of_mem_clean {c : Letter} {cs : List Letter} (h : c ∈ clean cs) :
    Text.isLineBreak c = false := by
  rw [← lineBody_eq_clean] at h
  exact Text.isLineBreak_of_mem_joinLines (List.mem_filter.1 h).1

theorem isPlain_clean (cs : List Letter) : Text.IsPlain (clean cs) := by
  intro c hc
  refine ⟨isLineBreak_of_mem_clean hc, ?_⟩
  simpa using (List.mem_filter.1 hc).2

/-- A text can be cut for cleaning before any character that is no line break. -/
theorem clean_append {rest : List Letter} (h : ∀ c ∈ rest.head?, Text.isLineBreak c = false)
    (cs : List Letter) : clean (cs ++ rest) = clean cs ++ clean rest := by
  simp [clean, Text.collapse_append h]

theorem clean_eq_self {cs : List Letter} (h : Text.IsPlain cs) : clean cs = cs := by
  unfold clean
  rw [Text.collapse_eq_self fun c hc => (h c hc).1]
  refine List.filter_eq_self.2 ?_
  intro c hc
  simpa using (h c hc).2

/-! ## The lines of a file -/

theorem toList_frame (s : Text) : (frame s).toList = clean s.toList ++ [.char '\n'] := by
  simp [frame, lineBody_eq_clean]

/-- Framed texts are read back one a line. -/
theorem linesOf_join_frame (texts : List Text) :
    Text.linesOf (Text.join (texts.map frame)) = texts.map cleaned := by
  have hbodies : (Text.join (texts.map frame)).toList =
      (texts.map fun s => clean s.toList).flatMap fun body => body ++ [.char '\n'] := by
    simp [Text.toList_join, List.flatMap_map, toList_frame]
  have hplain : ∀ body ∈ texts.map fun s => clean s.toList, ∀ c ∈ body,
      Text.isLineBreak c = false := by
    intro body hbody c hc
    rcases List.mem_map.1 hbody with ⟨s, -, rfl⟩
    exact isLineBreak_of_mem_clean hc
  rw [Text.linesOf, hbodies, Text.splitLines_terminated hplain]
  simp [cleaned, Function.comp_def]

theorem carriageReturn_not_mem_join_frame (texts : List Text) :
    .char '\r' ∉ (Text.join (texts.map frame)).toList := by
  intro h
  rw [Text.toList_join] at h
  rcases List.mem_flatMap.1 h with ⟨line, hline, hmem⟩
  rcases List.mem_map.1 hline with ⟨s, -, rfl⟩
  rw [toList_frame] at hmem
  rcases List.mem_append.1 hmem with hmem | hmem
  · exact absurd (isLineBreak_of_mem_clean hmem) (by decide)
  · simp at hmem

theorem frame_eq (s : Text) : frame s = cleaned s ++ "\n" := by
  rw [Text.ext_iff, toList_frame]
  simp [cleaned]

theorem cleaned_cleaned (s : Text) : cleaned (cleaned s) = cleaned s := by
  simp [cleaned, clean_eq_self (isPlain_clean _)]

/-- What is left of a text on a line, by the characters at which texts are cut: every maximal run
of them is one space, and then the tabs go. -/
theorem exists_collapses (s : Text) :
    ∃ flat, Text.Collapses Text.Cuts s.toList flat ∧
      (cleaned s).toList = flat.filter fun c => c ≠ .char '\t' := by
  have hcuts : Text.Cuts = fun c => Text.isLineBreak c = true := by
    funext c
    exact propext Text.cuts_iff
  refine ⟨Text.collapse Text.isLineBreak s.toList, ?_, by simp [cleaned, clean]⟩
  rw [hcuts, Text.collapses_iff]

/-- A frame is a body and one line feed. The body holds no tab and nothing at which texts are cut
into lines, it is the text with a space for every maximal run of such characters and without its
tabs, and framing it again changes nothing. Frames one after the other are read back as their
bodies, one a line, also when they are read in text mode. -/
theorem frame_lines :
    (∀ s, frame s = cleaned s ++ "\n" ∧
      (∀ c ∈ (cleaned s).toList, ¬ Text.Cuts c ∧ c ≠ '\t') ∧
      (∃ flat, Text.Collapses Text.Cuts s.toList flat ∧
        (cleaned s).toList = flat.filter fun c => c ≠ .char '\t') ∧
      frame (cleaned s) = frame s) ∧
    ∀ texts : List Text,
      Text.linesOf (Text.join (texts.map frame)) = texts.map cleaned ∧
      Text.linesOf (Text.ofList
        (Text.unifyNewlines (Text.join (texts.map frame)).toList)) = texts.map cleaned := by
  refine ⟨fun s => ⟨frame_eq s, ?_, exists_collapses s, ?_⟩, fun texts => ?_⟩
  · intro c hc
    have hplain := isPlain_clean s.toList c (by simpa [cleaned] using hc)
    simpa [Text.cuts_iff] using hplain
  · rw [frame_eq, cleaned_cleaned, frame_eq]
  · -- No frame has a carriage return, so text mode finds nothing to change.
    have hunify := Text.unifyNewlines_eq_self (carriageReturn_not_mem_join_frame texts)
    have hlines := linesOf_join_frame texts
    exact ⟨hlines, by rw [hunify, Text.ofList_toList, hlines]⟩

/-- A tab parts two runs of line breaks, each of which becomes a space. -/
example : frame "a\r\n\t\u2028b\tc" = "a  bc\n" := by decide

namespace Ledgers

variable {l : Ledgers}

/-- The texts behind the lines of a ledger. -/
def rendered (l : Ledgers) (channel : Channel) (records : List Record) : List Text :=
  renderColumns l.config.format l.delimiter channel.columns :: records.map l.render

theorem written_eq_join (channel : Channel) (records : List Record) :
    l.written channel records = Text.join ((l.rendered channel records).map frame) := by
  simp [written, rendered, Function.comp_def]

theorem linesOf_written (channel : Channel) (records : List Record) :
    Text.linesOf (l.written channel records) = (l.rendered channel records).map cleaned := by
  rw [written_eq_join, linesOf_join_frame]

/-- A reader finds the lines of a file that holds a ledger. -/
theorem linesAt_of_readBytes {d : Disk} {channel : Channel} {records : List Record}
    (hfault : d.fault? .readText = none) (hnull : Disk.isRefused (channel.path l) = false)
    (hcovers : Encoding.utf8.covers (l.written channel records) = true)
    (hread : d.readBytes (channel.joined l) = .ok (l.written channel records).toUTF8) :
    LedgerView.linesAt d (channel.path l) = .ok ((l.rendered channel records).map cleaned) := by
  have hdecode := Encoding.decode?_toUTF8 hcovers
  have hunify : Text.unifyNewlines (l.written channel records).toList =
      (l.written channel records).toList := by
    rw [written_eq_join]
    exact Text.unifyNewlines_eq_self (carriageReturn_not_mem_join_frame _)
  have htext : d.readText (channel.path l) .utf8 = .ok (l.written channel records) := by
    simp only [Disk.readText, hfault, hnull, Channel.parse_path,
      hread, hdecode, hunify, Text.ofList_toList, Bool.false_eq_true, if_false]
  rw [LedgerView.linesAt, htext]
  simp only [linesOf_written]

/-- After any calls, a reader of a ledger that is kept finds the line with the columns and one
line for each record that the ledger can hold. -/
theorem linesAt_performAll {config : Config} {delimiter : Text} {run opened : Run}
    (calls : List Call) (hclear : run.disk.faults = [])
    (hopen : Ledgers.open? config delimiter run = (.ok l, opened)) {channel : Channel}
    (hkept : channel.isKept config = true) :
    LedgerView.linesAt (l.performAll calls opened).disk (channel.path l) =
      .ok ((l.rendered channel (l.held (calls.flatMap (Call.records config channel)))).map
        cleaned) := by
  have hconfig : l.config = config := by rw [(open?_ok hopen).1]
  have h := holds_performAll hclear (holds_of_open hopen) calls
  rw [← hconfig] at hkept
  have hread := h.kept channel hkept
  have hcovers := h.covered channel hkept
  rw [List.nil_append, hconfig] at hread hcovers
  have hfault := Disk.fault?_of_clear (h.faults.trans hclear) .readText
  exact linesAt_of_readBytes hfault (h.usable channel hkept) hcovers hread

end Ledgers

/-! ## Records of calls -/

theorem Call.takes_of_mem_records {config : Config} {channel : Channel} {call : Call} {r : Record}
    (h : r ∈ call.records config channel) : channel.Takes r := by
  have hdecided : ∀ v, r ∈ Call.decided config v → Channel.fixes.Takes r := by
    intro v hr
    unfold Call.decided at hr
    split at hr
    · next f _ =>
      obtain rfl : r = f.record := by simpa using hr
      exact Channel.takes_fix f
    · cases hr
  -- The calls that put nothing into the channel drop out here.
  cases channel <;> cases call <;>
    simp only [Call.records, List.mem_singleton, List.not_mem_nil] at h
  case violations.report v => exact ⟨v, _, h⟩
  case violations.saveViolation v deep => exact ⟨v, deep, h⟩
  case fixes.report v => exact hdecided v h
  case fixes.fix v => exact hdecided v h
  case fixes.saveFix f =>
      split at h
      · obtain rfl := List.mem_singleton.1 h
        exact Channel.takes_fix f
      · cases h

theorem Call.takes_of_mem_held {l : Ledgers} {config : Config} {channel : Channel}
    {calls : List Call} {r : Record}
    (h : r ∈ l.held (calls.flatMap (Call.records config channel))) : channel.Takes r := by
  rcases List.mem_flatMap.1 (List.mem_filter.1 h).1 with ⟨call, -, hcall⟩
  exact Call.takes_of_mem_records hcall

/-- Where no line is empty, no line is passed over. -/
theorem LedgerView.rows_eq_rowsOfLines {view : LedgerView} {d : Disk} {path : Text}
    {lines : List Text} (h : LedgerView.linesAt d path = .ok lines)
    (hne : ∀ line ∈ lines, line ≠ "") : view.rows d path = view.rowsOfLines lines := by
  have hkept : lines.filter (fun line => !line.isEmpty) = lines := by
    refine List.filter_eq_self.2 ?_
    intro line hline
    simpa using hne line hline
  simp only [LedgerView.rows, h, Except.bind, hkept]

/-- Steps one after the other succeed exactly when each of them does, with their results in
order. -/
theorem mapM_eq_ok_iff {ε α β : Type} {f : α → Except ε β} {xs : List α} {ys : List β} :
    xs.mapM f = .ok ys ↔ List.Forall₂ (fun x y => f x = .ok y) xs ys := by
  induction xs generalizing ys with
  | nil => cases ys <;> simp [pure, Except.pure]
  | cons x xs ih =>
      rw [List.mapM_cons, List.forall₂_cons_left_iff]
      cases hx : f x with
      | error e => simp [bind, Except.bind]
      | ok y =>
          cases hxs : xs.mapM f with
          | error e => simp [bind, Except.bind, ← ih, hxs]
          | ok rest => simp [bind, Except.bind, pure, Except.pure, ← ih, hxs, eq_comm]

/-- Every result is that of one of the steps. -/
theorem exists_of_mem_mapM {ε α β : Type} {f : α → Except ε β} {xs : List α} {ys : List β}
    (h : xs.mapM f = .ok ys) {y : β} (hy : y ∈ ys) : ∃ x ∈ xs, f x = .ok y := by
  have hall := mapM_eq_ok_iff.1 h
  clear h
  induction hall with
  | nil => cases hy
  | @cons x z xs zs hx _ ih =>
      rcases List.mem_cons.1 hy with rfl | hy
      · exact ⟨x, List.mem_cons_self, hx⟩
      · rcases ih hy with ⟨w, hw, hfw⟩
        exact ⟨w, List.mem_cons_of_mem _ hw, hfw⟩

/-- Steps that all succeed give all their results. -/
theorem mapM_eq_ok_map {ε α β : Type} {f : α → Except ε β} {g : α → β} {xs : List α}
    (h : ∀ x ∈ xs, f x = .ok (g x)) : xs.mapM f = .ok (xs.map g) :=
  mapM_eq_ok_iff.2 (List.forall₂_map_right_iff.2 (List.forall₂_same.2 h))

end Nullability
