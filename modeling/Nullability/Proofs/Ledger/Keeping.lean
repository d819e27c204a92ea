import Nullability.Proofs.Disk.Writing
import Nullability.Proofs.Json.Ascii
import Nullability.Proofs.Ledger.Channel
import Nullability.Proofs.Ledger.Notices

/-!
# Recording something

A record becomes one line of its ledger or one notice, whatever the disk is like.

* `render_of_takes`: what is recorded is never written as nothing;
* `Ledgers.covers`: the files of the ledgers can hold the line of a record;
* `Ledgers.Keeps`: what recording something comes to, for a ledger that is kept and for one that is
  not, and `keeps_keep` that it always comes to that.
-/

namespace Nullability
namespace Ledgers

/-! ## Records are never written as nothing -/

theorem line_table_ne_empty (ascii : Bool) (entries : List (Text × Document)) :
    Json.line ascii (.table entries) ≠ "" := by
  cases entries <;> simp [Json.line, Json.lineChars]

/-- A record with a value that is not empty is not written as nothing. -/
theorem render_isEmpty_eq_false (l : Ledgers) {r : Record} {value : Text}
    (h : value ∈ r.values) (hvalue : value ≠ "") : (l.render r).isEmpty = false := by
  have hne : (l.render r).toList ≠ [] := by
    unfold render Record.render
    cases l.config.format with
    | delimited =>
        have hmem : value.toList ∈ r.values.map Text.toList := List.mem_map_of_mem h
        simpa [Record.display, Text.glued] using
          Text.glue_ne_nil_of_mem hmem (by simpa using hvalue)
    | jsonLines =>
        unfold Record.toDocument Document.ofEntries
        simpa using line_table_ne_empty false _
  simpa using hne

theorem render_of_takes (l : Ledgers) {channel : Channel} {r : Record} (h : channel.Takes r) :
    (l.render r).isEmpty = false := by
  rcases h.label with ⟨value, hmem, hne, -⟩
  exact render_isEmpty_eq_false l hmem (by simpa using hne)

/-! ## Lines that no file can hold -/

theorem covers_frame {encoding : Encoding} {s : Text} (h : encoding.covers s = true) :
    encoding.covers (frame s) = true := by
  have hadded : encoding.takes ' ' = true ∧ encoding.takes '\n' = true := by
    cases encoding <;> decide
  refine List.all_eq_true.2 ?_
  intro c hc
  rw [frame, Text.toList_ofList, lineBody, List.mem_append] at hc
  rcases hc with hc | hc
  · rcases Text.mem_of_mem_joinLines (List.mem_filter.1 hc).1 with rfl | hc
    · exact hadded.1
    · exact List.all_eq_true.1 h c hc
  · obtain rfl := List.mem_singleton.1 hc
    exact hadded.2

/-- The columns are words of the program, so only the delimiter can keep them from being written. -/
theorem covers_heading {l : Ledgers} {encoding : Encoding}
    (h : encoding.covers l.delimiter = true) (channel : Channel) :
    encoding.covers (l.heading channel) = true := by
  refine covers_frame ?_
  cases l.config.format with
  | jsonLines =>
      have hline : ∀ other : Channel, (Json.line true
          (.table [("columns", .list (other.columns.map .text))])).toList.all Text.isAscii =
            true := by
        intro other
        cases other <;> decide +kernel
      exact encoding.covers_of_isAscii (hline channel)
  | delimited =>
      have hcolumns : ∀ column ∈ channel.columns, encoding.covers column = true := by
        have hascii : ∀ column ∈ channel.columns, column.toList.all Text.isAscii = true := by
          cases channel <;> decide +kernel
        exact fun column hcolumn => encoding.covers_of_isAscii (hascii column hcolumn)
      refine List.all_eq_true.2 ?_
      intro c hc
      rw [renderColumns, Text.glued, Text.toList_ofList] at hc
      rcases Text.mem_of_mem_glue hc with hc | ⟨v, hv, hc⟩
      · exact List.all_eq_true.1 h c hc
      · rcases List.mem_map.1 hv with ⟨column, hcolumn, rfl⟩
        exact List.all_eq_true.1 (hcolumns column hcolumn) c hc

/-! ## The ways in which recording ends -/

/-- Whether the encoding of the ledgers covers the line of a record. -/
def covers (l : Ledgers) (r : Record) : Bool :=
  Encoding.utf8.covers (frame (l.render r))

/-- The records whose lines the ledgers can hold. -/
def held (l : Ledgers) (records : List Record) : List Record :=
  records.filter l.covers

theorem held_append (l : Ledgers) (rs rs' : List Record) :
    l.held (rs ++ rs') = l.held rs ++ l.held rs' :=
  List.filter_append ..

/-- The notice of a record that could not be added. -/
def refusalNotice (path : Text) (e : DiskError) : Notice :=
  ⟨.error, "Error happened for writing at file: " ++ path ++ ": " ++ e.message⟩

/-- What is said of a record whose line no file can hold. -/
def complaint (l : Ledgers) (r : Record) : DiskError :=
  .unencodable (Encoding.utf8.complaint (frame (l.render r)))

/-- The messages about records whose lines no file can hold, for a ledger that is kept. -/
def refusals (l : Ledgers) (channel : Channel) (records : List Record) : List Text :=
  if channel.isKept l.config then
    (records.filter fun r => !l.covers r).map fun r =>
      (refusalNotice (channel.path l) (l.complaint r)).message
  else []

theorem refusals_append (l : Ledgers) (channel : Channel) (rs rs' : List Record) :
    l.refusals channel (rs ++ rs') = l.refusals channel rs ++ l.refusals channel rs' := by
  unfold refusals
  split <;> simp

/-- What recording something in a channel comes to, where `home` is the place of its ledger: nothing
if the ledger is not kept; otherwise one more line in the ledger and no notice, or one notice and no
line. The disk is then as it was, unless the line is one that no file can hold: its ledger is made
if it is missing. -/
inductive Keeps (l : Ledgers) (channel : Channel) (r : Record) (home : Place) (run run' : Run) :
    Prop where
  | unkept (hkept : channel.isKept l.config = false) (hsame : run' = run)
  | added (hkept : channel.isKept l.config = true)
      (hopen : run.disk.IsOpenTo .appendText (channel.path l)) (hcovers : l.covers r = true)
      (hdisk : Disk.Gains home (frame (l.render r)).toUTF8 run.disk run'.disk)
      (hnotices : run'.notices = run.notices)
  | uncovered (hkept : channel.isKept l.config = true)
      (hopen : run.disk.IsOpenTo .appendText (channel.path l)) (hcovers : l.covers r = false)
      (hdisk : Disk.Gains home .empty run.disk run'.disk)
      (hnotices : run'.notices =
        run.notices ++ [refusalNotice (channel.path l) (l.complaint r)])
  | refused (e : DiskError) (hkept : channel.isKept l.config = true)
      (hclosed : ¬ run.disk.IsOpenTo .appendText (channel.path l)) (hdisk : run'.disk = run.disk)
      (hnotices : run'.notices = run.notices ++ [refusalNotice (channel.path l) e])

variable {l : Ledgers} {channel : Channel} {r : Record} {home : Place} {run run' : Run}

theorem Keeps.here (h : l.Keeps channel r home run run') : run'.disk.here = run.disk.here := by
  cases h with
  | unkept _ hsame => rw [hsame]
  | added _ _ _ hdisk => exact hdisk.here
  | uncovered _ _ _ hdisk => exact hdisk.here
  | refused _ _ _ hdisk => rw [hdisk]

theorem keep_of_ok {after : Disk} (hr : channel.Takes r)
    (hkept : channel.isKept l.config = true)
    (h : run.disk.appendText (channel.path l) (frame (l.render r)) .utf8 = (.ok (), after)) :
    l.keep channel r run = ⟨after, run.notices⟩ := by
  simp [keep, hkept, append, render_of_takes l hr, Run.act, h]

theorem keep_of_error {after : Disk} {e : DiskError} (hr : channel.Takes r)
    (hkept : channel.isKept l.config = true)
    (h : run.disk.appendText (channel.path l) (frame (l.render r)) .utf8 = (.error e, after)) :
    l.keep channel r run = ⟨after, run.notices ++ [refusalNotice (channel.path l) e]⟩ := by
  simp [keep, hkept, append, render_of_takes l hr, Run.act, h, Run.note, refusalNotice]

theorem locateWritten_path (l : Ledgers) (channel : Channel) (d : Disk) :
    d.locateWritten (channel.path l) = d.locate (Path.parse (channel.path l)) := by
  rw [Channel.parse_path]
  exact Disk.locateWritten_render (Channel.isNormal_joined l channel)
    (Channel.segments_joined_ne_nil l channel)

/-- Recording something always comes to one of the four. -/
theorem keeps_keep (hr : channel.Takes r) (hhome : run.disk.placeOf (channel.path l) = home) :
    l.Keeps channel r home run (l.keep channel r run) := by
  subst hhome
  cases hkept : channel.isKept l.config with
  | false => exact .unkept hkept (by simp [keep, hkept])
  | true =>
      rcases Disk.appendText_cases (locateWritten_path l channel run.disk) (frame (l.render r)) with
        ⟨hopen, hcovers, after, hok, hgains⟩ | ⟨hopen, hcovers, after, herror, hgains⟩ |
        ⟨hclosed, e, herror⟩
      · rw [keep_of_ok hr hkept hok]
        exact .added hkept hopen hcovers hgains rfl
      · rw [keep_of_error hr hkept herror]
        exact .uncovered hkept hopen hcovers hgains rfl
      · rw [keep_of_error hr hkept herror]
        exact .refused e hkept hclosed rfl rfl

end Ledgers
end Nullability
