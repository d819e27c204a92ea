import Nullability.Proofs.Ledger.Framing

/-!
# Rows and columns of any file

What the two ways of reading a file have to do with each other, whatever the file holds and whoever
wrote it. The rows are keyed by the columns of the first line that is not empty. The header is that
of the very first line, so the two agree unless the file begins with an empty line.

* `columns_ofPairs_sublist`: a row keeps its columns in their order, some of them merged;
* `headerOfLines_of_rowsOfLines`: lines that give rows have columns, and the rows keep to them;
* `header_of_rows`: what the header is where there are rows.
-/

namespace Nullability

/-- The columns of a row, in order. -/
def Row.columns (row : Row) : List Document :=
  row.map Prod.fst

/-! ## The columns of a row -/

namespace Row

theorem columns_put (row : Row) (column : Document) (value : Text) :
    (row.put column value).columns = row.columns ∨
      (row.put column value).columns = row.columns ++ [column] := by
  induction row with
  | nil => exact Or.inr rfl
  | cons cell row ih =>
      -- A value at a column that is there takes its place, and the column stays the first of those
      -- that count as the same.
      rw [put]
      split
      · exact Or.inl rfl
      · exact ih.imp (congrArg (cell.1 :: ·)) (congrArg (cell.1 :: ·))

theorem columns_foldl_put_sublist (pairs : List (Document × Text)) (row : Row) :
    (pairs.foldl (fun row (column, value) => row.put column value) row).columns.Sublist
      (row.columns ++ pairs.map Prod.fst) := by
  induction pairs generalizing row with
  | nil => simp
  | cons pair rest ih =>
      rcases pair with ⟨column, value⟩
      refine (ih (row.put column value)).trans ?_
      -- The column is there already, or it comes to the end.
      rcases columns_put row column value with hsame | hadded
      · rw [hsame]
        exact (List.sublist_cons_self _ _).append_left _
      · simp [hadded]

theorem columns_ofPairs_sublist (pairs : List (Document × Text)) :
    (ofPairs pairs).columns.Sublist (pairs.map Prod.fst) :=
  columns_foldl_put_sublist pairs []

/-- Positions without a value have no place in a row. -/
theorem columns_ofPairs_zip_sublist (columns : List Document) (values : List Text) :
    (ofPairs (columns.zip values)).columns.Sublist columns := by
  refine (columns_ofPairs_sublist _).trans ?_
  induction columns generalizing values with
  | nil => simp
  | cons column columns ih =>
      cases values with
      | nil => simp
      | cons value values => simpa using ih values

end Row

namespace LedgerView

variable {view : LedgerView}

/-! ## The rows of a line -/

theorem jsonRow_ok {columns : Document} {line : Text} {row : Row}
    (h : jsonRow columns line = .ok row) :
    ∃ list, columnList columns = .ok list ∧ row.columns.Sublist list := by
  unfold jsonRow at h
  cases hlist : columnList columns with
  | error e => simp [hlist, bind, Except.bind] at h
  | ok list =>
      cases hpairs : list.mapM fun column =>
          (cell line column).map fun value => (column, value) with
      | error e => simp [hlist, hpairs, bind, Except.bind] at h
      | ok pairs =>
          -- Each pair begins with the column that it was looked up for.
          have hrow : Row.ofPairs pairs = row := by
            simpa [hlist, hpairs, bind, Except.bind, pure, Except.pure] using h
          have hfirst : List.Forall₂ (fun column pair => column = Prod.fst pair) list pairs := by
            refine (mapM_eq_ok_iff.1 hpairs).imp ?_
            intro column pair hpair
            cases hcell : cell line column <;> simp [hcell, Except.map] at hpair
            rw [← hpair]
          rw [← List.forall₂_map_right_iff, List.forall₂_eq_eq_eq] at hfirst
          refine ⟨list, rfl, ?_⟩
          rw [← hrow, hfirst]
          exact Row.columns_ofPairs_sublist pairs

/-- The rows of JSON lines share their columns, and one row is enough to know that these are
usable. -/
theorem jsonRows_ok {columns : Document} {records : List Text} {rows : List Row}
    (h : records.mapM (jsonRow columns) = .ok rows) (hne : rows ≠ []) :
    ∃ list, columnList columns = .ok list ∧ ∀ row ∈ rows, row.columns.Sublist list := by
  have hrows : ∀ row ∈ rows, ∃ list, columnList columns = .ok list ∧
      row.columns.Sublist list := by
    intro row hrow
    rcases exists_of_mem_mapM h hrow with ⟨line, -, hline⟩
    exact jsonRow_ok hline
  -- Without a row nothing would have asked for the columns.
  rcases List.exists_mem_of_ne_nil rows hne with ⟨row, hrow⟩
  rcases hrows row hrow with ⟨list, hlist, -⟩
  refine ⟨list, hlist, ?_⟩
  intro row hrow
  rcases hrows row hrow with ⟨other, hother, hsublist⟩
  rw [hlist] at hother
  cases hother
  exact hsublist

theorem delimitedRow_ok {columns : List Document} {line : Text} {row : Row}
    (h : (do let values ← view.split line; return Row.ofPairs (columns.zip values)) = .ok row) :
    row.columns.Sublist columns := by
  cases hvalues : view.split line with
  | error e => simp [hvalues, bind, Except.bind] at h
  | ok values =>
      rw [hvalues] at h
      cases h
      exact Row.columns_ofPairs_zip_sublist columns values

/-- Lines that give rows name columns on the first of them, and every row keeps to these, in their
order. -/
theorem headerOfLines_of_rowsOfLines {lines : List Text} {rows : List Row}
    (h : view.rowsOfLines lines = .ok rows) (hne : rows ≠ []) :
    ∃ columns, view.headerOfLines lines = .ok columns ∧
      ∀ row ∈ rows, row.columns.Sublist columns := by
  cases lines with
  | nil => exact absurd (Except.ok.inj h).symm hne
  | cons first records =>
      cases hformat : view.format with
      | jsonLines =>
          simp only [rowsOfLines, headerOfLines, hformat] at h ⊢
          cases hcolumns : columnsOf first with
          | error e => simp [hcolumns, bind, Except.bind] at h
          | ok columns =>
              rw [hcolumns] at h
              exact jsonRows_ok h hne
      | delimited =>
          simp only [rowsOfLines, headerOfLines, hformat] at h ⊢
          cases hnames : view.split first with
          | error e => simp [hnames, bind, Except.bind] at h
          | ok names =>
              rw [hnames] at h
              refine ⟨names.map .text, rfl, ?_⟩
              intro row hrow
              rcases exists_of_mem_mapM h hrow with ⟨line, -, hline⟩
              exact delimitedRow_ok hline

/-! ## The first line -/

/-- What an empty line names as columns: one column without a name, or nothing that could be
read. -/
def headerOfBlank : LedgerFormat → Except LedgerReadError (List Document)
  | .delimited => .ok [.text ""]
  | .jsonLines => .error .malformed

theorem headerOfLines_blank (hdelimiter : view.delimiter ≠ "") (rest : List Text) :
    view.headerOfLines ("" :: rest) = headerOfBlank view.format := by
  cases hformat : view.format with
  | jsonLines =>
      have hread : Json.read? "" = .error .malformed := by rfl
      simp [headerOfLines, hformat, columnsOf, hread, headerOfBlank, Except.bind,
        LedgerReadError.ofReading]
  | delimited =>
      have hpieces : Text.piecesOf view.delimiter "" = [""] := by simp [Text.piecesOf]
      simp [headerOfLines, hformat, split, hdelimiter, hpieces, headerOfBlank, Except.map]

/-- To pass over empty lines does not matter where the first line is none. -/
theorem headerOfLines_filter {lines : List Text} (h : lines.head? ≠ some "") :
    view.headerOfLines (lines.filter fun line => !line.isEmpty) = view.headerOfLines lines := by
  cases lines with
  | nil => rfl
  | cons first rest =>
      have hfirst : first.isEmpty = false := by simpa using h
      simp [hfirst, headerOfLines]

/-- Where a file gives rows, the first of its lines that is not empty names columns, and every row
keeps to them, in their order. The header is these columns, unless the file begins with an empty
line: then it is what that line names. -/
theorem header_of_rows {disk : Disk} {path : Text} {rows : List Row}
    (hdelimiter : view.delimiter ≠ "") (h : view.rows disk path = .ok rows) (hne : rows ≠ []) :
    ∃ lines columns, linesAt disk path = .ok lines ∧
      view.headerOfLines (lines.filter fun line => !line.isEmpty) = .ok columns ∧
      (∀ row ∈ rows, row.columns.Sublist columns) ∧
      view.header disk path =
        if lines.head? = some "" then headerOfBlank view.format else .ok columns := by
  unfold LedgerView.rows at h
  cases hlines : linesAt disk path with
  | error e => simp [hlines, Except.bind] at h
  | ok lines =>
      rw [hlines] at h
      rcases headerOfLines_of_rowsOfLines h hne with ⟨columns, hcolumns, hrows⟩
      refine ⟨lines, columns, rfl, hcolumns, hrows, ?_⟩
      have hheader : view.header disk path = view.headerOfLines lines := by
        rw [LedgerView.header, hlines]
        rfl
      -- The two readers see the same first line unless the rows have passed over it.
      rw [hheader]
      split
      · next hblank =>
        rcases List.head?_eq_some_iff.1 hblank with ⟨rest, rfl⟩
        exact headerOfLines_blank hdelimiter rest
      · next hblank => rw [← headerOfLines_filter hblank, hcolumns]

/-- Empty lines further down, a column that is named twice, and a line that is too short. -/
theorem header_of_rows_ragged :
    let view : LedgerView := ⟨.delimited, "$*$"⟩
    let disk : Disk :=
      ⟨⟨[(["out.csv"], .file ("a$*$b$*$a\n\n1$*$2$*$3\r\n4\n" : Text).toUTF8)]⟩, [], []⟩
    let rows : List Row := [[(.text "a", "3"), (.text "b", "2")], [(.text "a", "4")]]
    (view.delimiter ≠ "" ∧ view.rows disk "out.csv" = .ok rows ∧ rows ≠ []) ∧
    ∃ columns, view.header disk "out.csv" = .ok columns ∧
      ∀ row ∈ rows, row.columns.Sublist columns := by
  intro view disk rows
  have hrows : view.rows disk "out.csv" = .ok rows := by
    subst view disk rows
    rfl
  have hlines : linesAt disk "out.csv" = .ok ["a$*$b$*$a", "", "1$*$2$*$3", "4"] := by
    decide +kernel
  refine ⟨⟨by decide, hrows, by simp [rows]⟩, ?_⟩
  rcases header_of_rows (by decide) hrows (by simp [rows]) with
    ⟨lines, columns, hfound, -, hkeep, hheader⟩
  rw [hlines] at hfound
  cases hfound
  exact ⟨columns, hheader, hkeep⟩

/-- An empty line at the beginning makes no difference to the rows, but the header does not see the
columns behind it. -/
theorem header_of_rows_blank :
    let delimited : LedgerView := ⟨.delimited, "$*$"⟩
    let json : LedgerView := ⟨.jsonLines, "$*$"⟩
    let disk : Disk := ⟨⟨[(["out.csv"], .file ("\na$*$b\nc$*$d\n" : Text).toUTF8), (["out.json"],
      .file ("\n\x7b\"columns\":[\"a\"]\x7d\n\x7b\"a\":\"x\"\x7d\n" : Text).toUTF8)]⟩, [], []⟩
    (delimited.rows disk "out.csv" = .ok [[(.text "a", "c"), (.text "b", "d")]] ∧
      ¬ ∃ columns, delimited.header disk "out.csv" = .ok columns ∧
        [Document.text "a", .text "b"].Sublist columns) ∧
    (∃ row, json.rows disk "out.json" = .ok [row]) ∧
      ¬ ∃ columns, json.header disk "out.json" = .ok columns := by
  intro delimited json disk
  have hrows : delimited.rows disk "out.csv" = .ok [[(.text "a", "c"), (.text "b", "d")]] := by
    subst delimited disk
    rfl
  have hheader : delimited.header disk "out.csv" = .ok [.text ""] := by
    subst delimited disk
    rfl
  -- What the first line of the other file is refused for does not matter, only that it is.
  have hfails : (json.header disk "out.json").toOption.isSome = false := by decide +kernel
  have hone : (json.rows disk "out.json").toOption.map List.length = some 1 := by decide +kernel
  refine ⟨⟨hrows, ?_⟩, ?_, ?_⟩
  · rintro ⟨columns, hcolumns, hsublist⟩
    rw [hheader] at hcolumns
    cases hcolumns
    exact absurd hsublist.length_le (by simp)
  · cases hread : json.rows disk "out.json" with
    | error e => simp [hread, Except.toOption] at hone
    | ok rows =>
        rw [hread] at hone
        rcases List.length_eq_one_iff.1 (Option.some.inj hone) with ⟨row, rfl⟩
        exact ⟨row, rfl⟩
  · rintro ⟨columns, hcolumns⟩
    rw [hcolumns] at hfails
    cases hfails

end LedgerView
end Nullability
