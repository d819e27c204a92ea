import Nullability.Proofs.Ledger.Framing
import Nullability.Proofs.Text.Separators

/-!
# Reading a delimited ledger back

The values of a record stand on its line with the delimiter between them and nothing escaped.
Reading the line gives the cleaned values back exactly when these do not collide.

* `clean_glue`: cleaning the line cleans each value;
* `zip_pieces_eq_iff`: when the row of a line holds each cleaned value at its column;
* `rows_delimited`: the rows that are read from a ledger after any calls.
-/

namespace Nullability

/-! ## Cleaning a line of values -/

/-- A delimiter with something in it that stays as it is on a line. -/
structure IsPlainDelimiter (delimiter : Text) : Prop where
  ne_nil : delimiter.toList ≠ []
  plain : Text.IsPlain delimiter.toList

/-- The values on a line can be told apart: no cleaned value forms a delimiter too early. -/
def CollisionFreeValues (delimiter : Text) (values : List Text) : Prop :=
  Text.CollisionFree delimiter.toList (values.map fun value => clean value.toList)

theorem clean_plain_append {cs : List Letter} (h : Text.IsPlain cs) (rest : List Letter) :
    clean (cs ++ rest) = cs ++ clean rest := by
  have hself := clean_eq_self h
  unfold clean at hself ⊢
  rw [Text.collapse_eq_self fun c hc => (h c hc).1] at hself
  rw [Text.collapse_append_of_not fun c hc => (h c hc).1, List.filter_append, hself]

theorem clean_glue {sep : List Letter} (hne : sep ≠ []) (hplain : Text.IsPlain sep)
    (texts : List (List Letter)) :
    clean (Text.glue sep texts) = Text.glue sep (texts.map clean) := by
  induction texts with
  | nil => simp [clean]
  | cons v rest ih =>
      cases rest with
      | nil => simp
      | cons w rest =>
          have hhead : ∀ c ∈ (sep ++ Text.glue sep (w :: rest)).head?,
              Text.isLineBreak c = false := by
            rcases List.exists_cons_of_ne_nil hne with ⟨s, tail, rfl⟩
            simpa using (hplain s (by simp)).1
          have hmap : Text.glue sep ((v :: w :: rest).map clean) =
              clean v ++ sep ++ Text.glue sep ((w :: rest).map clean) :=
            Text.glue_cons (by simp) _
          rw [Text.glue_cons (by simp), List.append_assoc, clean_append hhead,
            clean_plain_append hplain, ih, hmap, List.append_assoc]

/-- The text of some values between delimiters, as it stands on a line. -/
theorem cleaned_glued {delimiter : Text} (hd : IsPlainDelimiter delimiter)
    (values : List Text) : (cleaned (Text.glued delimiter values)).toList =
      Text.glue delimiter.toList (values.map fun value => clean value.toList) := by
  simp [cleaned, Text.glued, clean_glue hd.ne_nil hd.plain, Function.comp_def]

theorem piecesOf_eq_iff {delimiter s : Text} {values : List Text} :
    Text.piecesOf delimiter s = values.map cleaned ↔
      Text.pieces delimiter.toList s.toList = values.map fun value => clean value.toList := by
  constructor
  · intro h
    have hchars := congrArg (List.map Text.toList) h
    simpa [Text.piecesOf, cleaned, Function.comp_def] using hchars
  · intro h
    rw [Text.piecesOf, h]
    simp [cleaned, Function.comp_def]

/-- Splitting a line of values gives the cleaned values if and only if they do not collide. -/
theorem piecesOf_cleaned_glued_iff {delimiter : Text} (hd : IsPlainDelimiter delimiter)
    {values : List Text} (hne : values ≠ []) :
    Text.piecesOf delimiter (cleaned (Text.glued delimiter values)) = values.map cleaned ↔
      CollisionFreeValues delimiter values := by
  rw [piecesOf_eq_iff, cleaned_glued hd, Text.pieces_glue_eq_iff hd.ne_nil (by simpa using hne)]
  rfl

/-! ## Rows -/

theorem put_eq_append {row : Row} {column : Document} (value : Text)
    (h : ∀ cell ∈ row, sameColumn cell.1 column = false) :
    row.put column value = row ++ [(column, value)] := by
  induction row with
  | nil => rfl
  | cons cell row ih =>
      have hcell := h cell (by simp)
      have hrow := ih fun c hc => h c (by simp [hc])
      simp [Row.put, hcell, hrow]

theorem foldl_put_eq_append {pairs : List (Document × Text)} {row : Row}
    (hold : ∀ cell ∈ row, ∀ pair ∈ pairs, sameColumn cell.1 pair.1 = false)
    (hpairs : pairs.Pairwise fun a b => sameColumn a.1 b.1 = false) :
    pairs.foldl (fun row (column, value) => row.put column value) row = row ++ pairs := by
  induction pairs generalizing row with
  | nil => simp
  | cons pair pairs ih =>
      rcases pair with ⟨column, value⟩
      rcases List.pairwise_cons.1 hpairs with ⟨hpair, hrest⟩
      have hput : row.put column value = row ++ [(column, value)] :=
        put_eq_append value fun cell hcell => hold cell hcell (column, value) (by simp)
      have hnew : ∀ cell ∈ row ++ [(column, value)], ∀ pair ∈ pairs,
          sameColumn cell.1 pair.1 = false := by
        intro cell hcell other hother
        rcases List.mem_append.1 hcell with hcell | hcell
        · exact hold cell hcell other (by simp [hother])
        · obtain rfl : cell = (column, value) := by simpa using hcell
          exact hpair other hother
      simp only [List.foldl_cons, hput]
      rw [ih hnew hrest, List.append_assoc, List.singleton_append]

/-- A row over different columns keeps all its values, each in its place. -/
theorem ofPairs_zip {columns : List Text} (hnodup : columns.Nodup) (values : List Text) :
    Row.ofPairs ((columns.map .text).zip values) = (columns.map Document.text).zip values := by
  have hpairs : ((columns.map Document.text).zip values).Pairwise
      fun a b => sameColumn a.1 b.1 = false := by
    induction columns generalizing values with
    | nil => simp
    | cons column columns ih =>
        rcases List.nodup_cons.1 hnodup with ⟨hcolumn, hrest⟩
        cases values with
        | nil => simp
        | cons value values =>
            rw [List.map_cons, List.zip_cons_cons, List.pairwise_cons]
            refine ⟨?_, ih hrest values⟩
            rintro ⟨other, v⟩ hmem
            rcases List.mem_map.1 (List.of_mem_zip hmem).1 with ⟨name, hname, rfl⟩
            have hne : column ≠ name := by
              rintro rfl
              exact hcolumn hname
            simpa [sameColumn] using hne
  have hall : ((columns.map Document.text).zip values).foldl
      (fun row (column, value) => Row.put column value row) [] =
      [] ++ (columns.map Document.text).zip values :=
    foldl_put_eq_append (by simp) hpairs
  rw [Row.ofPairs, hall, List.nil_append]

theorem prefix_of_zip_eq_zip {α β : Type} {as : List α} {bs cs : List β}
    (hlength : cs.length = as.length) (h : as.zip bs = as.zip cs) : cs <+: bs := by
  induction as generalizing bs cs with
  | nil =>
      have : cs = [] := by simpa using hlength
      simp [this]
  | cons a as ih =>
      cases cs with
      | nil => simp
      | cons c cs =>
          cases bs with
          | nil => simp at h
          | cons b bs =>
              simp only [List.zip_cons_cons, List.cons.injEq, Prod.mk.injEq, true_and] at h
              rcases h with ⟨rfl, hrest⟩
              exact List.cons_prefix_cons.2 ⟨rfl, ih (by simpa using hlength) hrest⟩

/-- Pieces that begin with the joined texts are the joined texts. -/
theorem eq_of_prefix_of_glue_eq {sep : List Letter} (hsep : sep ≠ []) {xs ys : List (List Letter)}
    (hne : xs ≠ []) (hstart : xs <+: ys) (hglue : Text.glue sep ys = Text.glue sep xs) :
    ys = xs := by
  induction xs generalizing ys with
  | nil => exact absurd rfl hne
  | cons x xs ih =>
      cases ys with
      | nil => simp at hstart
      | cons y ys =>
          rcases List.cons_prefix_cons.1 hstart with ⟨rfl, hrest⟩
          cases xs with
          | nil =>
              cases ys with
              | nil => rfl
              | cons y ys =>
                  -- One more piece would need one more separator.
                  rw [Text.glue_cons (by simp), Text.glue_singleton] at hglue
                  simp [hsep] at hglue
          | cons w xs =>
              have hys : ys ≠ [] := by
                rintro rfl
                simp at hrest
              rw [Text.glue_cons hys, Text.glue_cons (by simp)] at hglue
              rw [ih (by simp) hrest (List.append_cancel_left hglue)]

/-- The row of a line holds each cleaned value at its column if and only if the values do not
collide. -/
theorem zip_pieces_eq_iff {delimiter : Text} (hd : IsPlainDelimiter delimiter)
    {columns values : List Text} (hlength : values.length = columns.length)
    (hne : values ≠ []) :
    (columns.map Document.text).zip
        (Text.piecesOf delimiter (cleaned (Text.glued delimiter values))) =
      (columns.map Document.text).zip (values.map cleaned) ↔
      CollisionFreeValues delimiter values := by
  rw [← piecesOf_cleaned_glued_iff hd hne]
  constructor
  · intro h
    have hstart := prefix_of_zip_eq_zip (by simpa using hlength) h
    have hchars : (values.map fun value => clean value.toList) <+:
        Text.pieces delimiter.toList (cleaned (Text.glued delimiter values)).toList := by
      simpa [Text.piecesOf, cleaned, Function.comp_def] using hstart.map Text.toList
    have hglue := Text.glue_pieces hd.ne_nil (cleaned (Text.glued delimiter values)).toList
    rw [piecesOf_eq_iff]
    refine eq_of_prefix_of_glue_eq hd.ne_nil (by simpa using hne) hchars ?_
    rw [hglue, cleaned_glued hd]
  · intro h
    rw [h]

/-! ## Reading a ledger -/

/-- The row of a record on its line: the pieces of the line at the columns, by position. -/
def Record.splitRow (delimiter : Text) (r : Record) : Row :=
  (r.columns.map .text).zip (Text.piecesOf delimiter (cleaned (r.display delimiter)))

/-- The row that holds each cleaned value at its column. -/
def Record.cleanRow (r : Record) : Row :=
  (r.columns.map .text).zip (r.values.map cleaned)

theorem Channel.nodup_columns (channel : Channel) : channel.columns.Nodup := by
  cases channel <;> decide

theorem Channel.cleaned_columns (channel : Channel) :
    channel.columns.map cleaned = channel.columns := by
  cases channel <;> decide +kernel

/-- A line with a word of the program in it is not empty. -/
theorem cleaned_glued_ne_empty {delimiter : Text} (hd : IsPlainDelimiter delimiter)
    {values : List Text} {value : Text} (hmem : value ∈ values) (hne : value.toList ≠ [])
    (hplain : Text.IsPlain value.toList) :
    cleaned (Text.glued delimiter values) ≠ "" := by
  have hself : value.toList ∈ values.map fun value => clean value.toList := by
    rw [List.mem_map]
    exact ⟨value, hmem, clean_eq_self hplain⟩
  have hglue : Text.glue delimiter.toList (values.map fun value => clean value.toList) ≠ [] :=
    Text.glue_ne_nil_of_mem hself hne
  rw [← cleaned_glued hd] at hglue
  simpa using hglue

theorem cleaned_header_ne_empty {delimiter : Text} (hd : IsPlainDelimiter delimiter)
    (channel : Channel) : cleaned (Text.glued delimiter channel.columns) ≠ "" := by
  cases channel with
  | violations =>
      have hmem : .ofString "message" ∈ Channel.violations.columns := by decide
      exact cleaned_glued_ne_empty hd hmem (by decide) (by decide)
  | fixes =>
      have hmem : .ofString "reason" ∈ Channel.fixes.columns := by decide
      exact cleaned_glued_ne_empty hd hmem (by decide) (by decide)

theorem cleaned_display_ne_empty {delimiter : Text} (hd : IsPlainDelimiter delimiter)
    {channel : Channel} {r : Record} (h : channel.Takes r) :
    cleaned (r.display delimiter) ≠ "" := by
  rcases h.label with ⟨value, hmem, hne, hplain⟩
  exact cleaned_glued_ne_empty hd hmem hne hplain

/-- The rows of lines of which the first names the columns of a ledger. -/
theorem rowsOfLines_delimited {delimiter : Text} (hd : IsPlainDelimiter delimiter)
    {channel : Channel} (hcolumns : CollisionFreeValues delimiter channel.columns)
    {records : List Record} (htakes : ∀ r ∈ records, channel.Takes r) :
    LedgerView.rowsOfLines ⟨.delimited, delimiter⟩
        (cleaned (Text.glued delimiter channel.columns) ::
          records.map fun r => cleaned (r.display delimiter)) =
      .ok (records.map (Record.splitRow delimiter)) := by
  have hnonempty : delimiter.isEmpty = false := by
    simpa using hd.ne_nil
  have hheader : Text.piecesOf delimiter (cleaned (Text.glued delimiter channel.columns)) =
      channel.columns := by
    have hne : channel.columns ≠ [] := by
      cases channel <;> simp [Channel.columns, Violation.columns, Fix.columns]
    rw [(piecesOf_cleaned_glued_iff hd hne).2 hcolumns, channel.cleaned_columns]
  -- The header is the only line whose pieces have to be exactly its columns: they become the keys.
  have hrow : ∀ r ∈ records, (do
      let values ← LedgerView.split ⟨.delimited, delimiter⟩ (cleaned (r.display delimiter))
      return Row.ofPairs ((channel.columns.map .text).zip values)) =
      (.ok (r.splitRow delimiter) : Except LedgerReadError Row) := by
    intro r hr
    have hcolumnsEq : r.columns = channel.columns := (htakes r hr).columns_eq
    simp only [LedgerView.split, hnonempty, Record.splitRow, hcolumnsEq]
    rw [← ofPairs_zip channel.nodup_columns]
    rfl
  have hfirst : LedgerView.split ⟨.delimited, delimiter⟩
      (cleaned (Text.glued delimiter channel.columns)) = .ok channel.columns := by
    simp [LedgerView.split, hnonempty, hheader]
  have hmap := mapM_eq_ok_map hrow
  simp only [LedgerView.rowsOfLines, hfirst, List.mapM_map]
  exact hmap

namespace Ledgers

variable {config : Config} {delimiter : Text} {run opened : Run} {l : Ledgers}

/-- The rows that are read from a ledger after any calls: one for each record that it holds, in
order. -/
theorem rows_eq_splitRow (calls : List Call) (hclear : run.disk.faults = [])
    (hopen : Ledgers.open? config delimiter run = (.ok l, opened))
    (hformat : config.format = .delimited) (hd : IsPlainDelimiter delimiter) {channel : Channel}
    (hkept : channel.isKept config = true)
    (hcolumns : CollisionFreeValues delimiter channel.columns) :
    LedgerView.rows ⟨.delimited, delimiter⟩ (l.performAll calls opened).disk (channel.path l) =
      .ok ((l.held (calls.flatMap (Call.records config channel))).map
        (Record.splitRow delimiter)) := by
  have hlines := linesAt_performAll calls hclear hopen hkept
  have htakes : ∀ r ∈ l.held (calls.flatMap (Call.records config channel)), channel.Takes r :=
    fun r hr => Call.takes_of_mem_held hr
  rcases open?_ok hopen with ⟨rfl, -⟩
  have hrendered (records : List Record) :
      (rendered ⟨config, delimiter⟩ channel records).map cleaned =
        cleaned (Text.glued delimiter channel.columns) ::
          records.map fun r => cleaned (r.display delimiter) := by
    simp [rendered, renderColumns, render, Record.render, hformat]
  rw [hrendered] at hlines
  rw [LedgerView.rows_eq_rowsOfLines hlines ?_, rowsOfLines_delimited hd hcolumns htakes]
  intro line hline
  rcases List.mem_cons.1 hline with rfl | hline
  · exact cleaned_header_ne_empty hd channel
  · rcases List.mem_map.1 hline with ⟨r, hr, rfl⟩
    exact cleaned_display_ne_empty hd (htakes r hr)

/-- Reading a delimited ledger gives one row for each record that it holds, in order, and the row of
a record holds its cleaned values if and only if these do not collide. -/
theorem rows_delimited (calls : List Call) (hclear : run.disk.faults = [])
    (hopen : Ledgers.open? config delimiter run = (.ok l, opened))
    (hformat : config.format = .delimited) (hd : IsPlainDelimiter delimiter) {channel : Channel}
    (hkept : channel.isKept config = true)
    (hcolumns : CollisionFreeValues delimiter channel.columns) :
    (∃ rows, LedgerView.rows ⟨.delimited, delimiter⟩ (l.performAll calls opened).disk
        (channel.path l) = .ok rows ∧
      List.Forall₂ (fun row r => row = r.splitRow delimiter ∧
          (row = r.cleanRow ↔ CollisionFreeValues delimiter r.values))
        rows (l.held (calls.flatMap (Call.records config channel)))) ∧
    ∀ values, CollisionFreeValues defaultDelimiter values ↔
      (∀ v ∈ values, ¬ defaultDelimiter.toList <:+: clean v.toList) ∧
        ∀ v ∈ values.dropLast, ¬ ("$*" : Text).toList <:+ clean v.toList := by
  refine ⟨⟨_, rows_eq_splitRow calls hclear hopen hformat hd hkept hcolumns, ?_⟩, ?_⟩
  · rw [List.forall₂_map_left_iff]
    refine List.forall₂_same.2 ?_
    intro r hr
    have htakes : channel.Takes r := Call.takes_of_mem_held hr
    have hlength : r.values.length = r.columns.length := by
      rw [htakes.columns_eq, htakes.length_values]
    have hne : r.values ≠ [] := by
      rcases htakes.label with ⟨value, hmem, -⟩
      exact List.ne_nil_of_mem hmem
    exact ⟨rfl, zip_pieces_eq_iff hd hlength hne⟩
  · -- The default delimiter overlaps itself in its last character.
    intro values
    have hdefault : defaultDelimiter.toList = [.char '$', .char '*', .char '$'] := rfl
    have hhalf : ("$*" : Text).toList = [.char '$', .char '*'] := rfl
    rw [CollisionFreeValues, hdefault, hhalf, Text.collisionFree_overlapping_iff (by decide),
      ← List.map_dropLast]
    simp only [List.forall_mem_map]

instance (delimiter : Text) (values : List Text) :
    Decidable (CollisionFreeValues delimiter values) :=
  inferInstanceAs (Decidable (Text.CollisionFree _ _))

/-- A message that ends in `$*` does not hold the delimiter, and its row is not its values. -/
theorem rows_delimited_overlap :
    let config := { Config.disabled with logErrors := .shallow, outputDirectory := "out" }
    let run := Run.on ⟨FileTree.empty, [], []⟩
    let l : Ledgers := ⟨config, "$*$"⟩
    let opened := (Ledgers.open? config "$*$" run).2
    let v : Violation :=
      ⟨.returnNullable, "costs $*", Location.ofField ⟨"", ""⟩ (some ⟨"Box"⟩) none none none⟩
    (run.disk.faults = [] ∧ Ledgers.open? config "$*$" run = (.ok l, opened) ∧
      config.format = .delimited ∧ IsPlainDelimiter "$*$" ∧
      Channel.violations.isKept config = true ∧
      CollisionFreeValues "$*$" Channel.violations.columns) ∧
    ∃ row, LedgerView.rows ⟨.delimited, "$*$"⟩ (l.performAll [.saveViolation v false] opened).disk
        (Channel.violations.path l) = .ok [row] ∧ row ≠ (v.record false).cleanRow := by
  intro config run l opened v
  have hopen : Ledgers.open? config "$*$" run = (.ok l, opened) :=
    open?_eq_of_isSome (by decide +kernel)
  have hd : IsPlainDelimiter "$*$" := ⟨by decide, by decide⟩
  have hkept : Channel.violations.isKept config = true := rfl
  have hcolumns : CollisionFreeValues "$*$" Channel.violations.columns := by decide +kernel
  refine ⟨⟨rfl, hopen, rfl, hd, hkept, hcolumns⟩, ?_⟩
  obtain ⟨rows, hrows, hall⟩ :=
    (rows_delimited [.saveViolation v false] rfl hopen rfl hd hkept hcolumns).1
  have hrecords : l.held ([Call.saveViolation v false].flatMap (Call.records config .violations)) =
      [v.record false] := by decide +kernel
  rw [hrecords] at hall
  rcases List.forall₂_cons_right_iff.1 hall with ⟨row, rest, ⟨-, hiff⟩, hnil, rfl⟩
  obtain rfl := List.forall₂_nil_right_iff.1 hnil
  refine ⟨row, hrows, ?_⟩
  -- The message and the delimiter after it form a delimiter two characters too early.
  intro hrow
  have hcollides : ¬ CollisionFreeValues "$*$" (v.record false).values := by decide +kernel
  exact hcollides (hiff.1 hrow)

end Ledgers
end Nullability
