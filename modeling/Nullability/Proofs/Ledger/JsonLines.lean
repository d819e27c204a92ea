import Nullability.Proofs.Json.RoundTrip
import Nullability.Proofs.Ledger.Delimited

/-!
# Reading a ledger of JSON lines back

A record is a table on one line. Most of what `frame` takes away is escaped in it already; the
three line breaks that are not, the wide ones, become spaces inside of the values.

* `collapse_flatMap_charChars`: flattening an escaped text flattens its wide line breaks only;
* `cleaned_line_toDocument`: the line of a record is the record with its values softened;
* `jsonRow_line`: the row that a reader makes of such a line;
* `rows_jsonLines`: the rows that are read from a ledger after any calls.
-/

namespace Nullability

/-- The line breaks that are written as they are. -/
def isWideBreak (c : Letter) : Bool :=
  c.toNat == 0x85 || c.toNat == 0x2028 || c.toNat == 0x2029

/-- The text with a space for every maximal run of wide line breaks. -/
def softened (s : Text) : Text :=
  Text.ofList (Text.collapse isWideBreak s.toList)

def Record.softened (r : Record) : Record :=
  ⟨r.columns, r.values.map Nullability.softened⟩

/-- The row that holds each softened value at its column. -/
def Record.softRow (r : Record) : Row :=
  (r.columns.map .text).zip r.softened.values

/-! ## Escaped characters and line breaks -/

theorem isLineBreak_of_isWideBreak {c : Letter} (h : isWideBreak c = true) :
    Text.isLineBreak c = true := by
  simp only [isWideBreak, Text.isLineBreak, Bool.or_eq_true, beq_iff_eq] at h ⊢
  rcases h with (h | h) | h <;> simp [h]

theorem charChars_wide {c : Letter} (h : isWideBreak c = true) : Json.charChars false c = [c] := by
  have hrange : 0x7e < c.toNat := by
    simp only [isWideBreak, Bool.or_eq_true, beq_iff_eq] at h
    omega
  have hne : ∀ d : Char, d.toNat ≤ 0x7e → c ≠ d := by
    rintro d hd rfl
    exact absurd hrange (by simpa using hd)
  have hprinted : ¬ c.toNat < 0x20 := by omega
  simp [Json.charChars, hne, hprinted]

/-- No escape holds a line break or a tab. -/
theorem plain_of_mem_charChars {c d : Letter} (h : isWideBreak c = false)
    (hd : d ∈ Json.charChars false c) : Text.isLineBreak d = false ∧ d ≠ '\t' := by
  rcases Json.charChars_cases false c with ⟨letter, hletter, hchars, -⟩ | ⟨hchars, hcontrol⟩ |
    ⟨hchars, -, -, hprinted⟩
  · have hshort : Text.IsPlain (.char '\\' :: [.char '"', .char '\\', .char 'n', .char 'r',
        .char 't', .char 'b', .char 'f']) := by decide
    apply hshort
    rw [hchars, List.mem_pair] at hd
    rcases hd with rfl | rfl
    · exact List.mem_cons_self
    · exact List.mem_cons_of_mem _ hletter
  · have hunits : ∀ n < 0x20, Text.IsPlain (Json.unitEscape n) := by decide
    have hcontrol : c.toNat < 0x20 := by simpa using hcontrol
    have hsmall : c.toNat < 0x10000 := by omega
    rw [hchars] at hd
    exact hunits c.toNat hcontrol d (by simpa [Json.codeEscape, hsmall] using hd)
  · rw [hchars] at hd
    obtain rfl : d = c := by simpa using hd
    refine ⟨?_, ?_⟩
    · simp [isWideBreak] at h
      simp [Text.isLineBreak]
      omega
    · rintro rfl
      exact hprinted (by decide)

theorem tab_not_mem_charChars (c : Letter) : .char '\t' ∉ Json.charChars false c := by
  intro hmem
  by_cases h : isWideBreak c = true
  · rw [charChars_wide h] at hmem
    obtain rfl : '\t' = c := by simpa using hmem
    exact absurd h (by decide)
  · exact (plain_of_mem_charChars (by simpa using h) hmem).2 rfl

theorem charChars_ne_nil (c : Letter) : Json.charChars false c ≠ [] := by
  rcases Json.charChars_cases false c with ⟨letter, -, hchars, -⟩ | ⟨hchars, -⟩ | ⟨hchars, -⟩
  · simp [hchars]
  · rw [hchars]
    unfold Json.codeEscape
    simp only [Json.unitEscape]
    split <;> simp
  · simp [hchars]

theorem dropWhile_flatMap_charChars (cs : List Letter) :
    (cs.flatMap (Json.charChars false)).dropWhile Text.isLineBreak =
      (cs.dropWhile isWideBreak).flatMap (Json.charChars false) := by
  induction cs with
  | nil => rfl
  | cons c cs ih =>
      by_cases h : isWideBreak c = true
      · simp [charChars_wide h, h, isLineBreak_of_isWideBreak h, ih]
      · have hplain : isWideBreak c = false := by simpa using h
        rcases List.exists_cons_of_ne_nil (charChars_ne_nil c) with ⟨d, tail, htail⟩
        have hd := (plain_of_mem_charChars (d := d) hplain (by simp [htail])).1
        simp [htail, hplain, hd]

/-- Flattening an escaped text flattens its wide line breaks only. -/
theorem collapse_flatMap_charChars (cs : List Letter) :
    Text.collapse Text.isLineBreak (cs.flatMap (Json.charChars false)) =
      (Text.collapse isWideBreak cs).flatMap (Json.charChars false) := by
  induction cs using Text.collapse.induct isWideBreak with
  | case1 => simp
  | case2 c rest h ih =>
      -- The run of line breaks on the line is the run of wide line breaks in the value.
      have hspace : Json.charChars false ' ' = [.char ' '] := by decide
      rw [Text.collapse_cons_pos h, List.flatMap_cons, List.flatMap_cons, charChars_wide h, hspace,
        List.singleton_append, List.singleton_append,
        Text.collapse_cons_pos (isLineBreak_of_isWideBreak h), dropWhile_flatMap_charChars, ih]
  | case3 c rest h ih =>
      have hplain : isWideBreak c = false := by simpa using h
      rw [Text.collapse_cons_neg hplain, List.flatMap_cons, List.flatMap_cons,
        Text.collapse_append_of_not fun d hd => (plain_of_mem_charChars hplain hd).1, ih]

theorem clean_flatMap_charChars (cs : List Letter) :
    clean (cs.flatMap (Json.charChars false)) =
      (Text.collapse isWideBreak cs).flatMap (Json.charChars false) := by
  rw [clean, collapse_flatMap_charChars]
  refine List.filter_eq_self.2 ?_
  intro d hd
  rcases List.mem_flatMap.1 hd with ⟨c, -, hmem⟩
  have hne : d ≠ '\t' := by
    rintro rfl
    exact tab_not_mem_charChars c hmem
  simpa using hne

/-! ## Lines of tables -/

theorem clean_stringChars_append (s : Text) (rest : List Letter) :
    clean (Json.stringChars false s ++ rest) =
      Json.stringChars false (softened s) ++ clean rest := by
  -- Either quote keeps the text inside of it apart from what is outside.
  have hquote : Text.IsPlain [.char '"'] := by decide
  have hhead : ∀ c ∈ ([Letter.char '"'] ++ rest).head?, Text.isLineBreak c = false := by
    simp
    decide
  calc
    clean (Json.stringChars false s ++ rest)
        = clean ([.char '"'] ++
            (s.toList.flatMap (Json.charChars false) ++ ([.char '"'] ++ rest))) := by
          simp [Json.stringChars]
    _ = [.char '"'] ++
        (clean (s.toList.flatMap (Json.charChars false)) ++ ([.char '"'] ++ clean rest)) := by
          rw [clean_plain_append hquote, clean_append hhead, clean_plain_append hquote]
    _ = Json.stringChars false (softened s) ++ clean rest := by
          rw [clean_flatMap_charChars]
          simp [Json.stringChars, softened]

/-- The entries of a table of texts. -/
def textEntries (pairs : List (Text × Text)) : List (Text × Document) :=
  pairs.map fun (key, value) => (key, .text value)

def softPairs (pairs : List (Text × Text)) : List (Text × Text) :=
  pairs.map fun (key, value) => (softened key, softened value)

theorem clean_entry (key value : Text) (rest : List Letter) :
    clean (Json.stringChars false key ++
        .char ':' :: .char ' ' :: (Json.stringChars false value ++ rest)) =
      Json.stringChars false (softened key) ++
        .char ':' :: .char ' ' :: (Json.stringChars false (softened value) ++ clean rest) := by
  have hcolon : Text.IsPlain [.char ':', .char ' '] := by decide
  have hafter : clean (.char ':' :: .char ' ' :: (Json.stringChars false value ++ rest)) =
      .char ':' :: .char ' ' :: (Json.stringChars false (softened value) ++ clean rest) := by
    rw [← clean_stringChars_append value]
    exact clean_plain_append hcolon _
  rw [clean_stringChars_append key, hafter]

theorem clean_lineEntries (pairs : List (Text × Text)) (rest : List Letter) :
    clean (Json.lineEntries false (textEntries pairs) ++ rest) =
      Json.lineEntries false (textEntries (softPairs pairs)) ++ clean rest := by
  induction pairs with
  | nil => simp [textEntries, softPairs, Json.lineEntries]
  | cons pair pairs ih =>
      rcases pair with ⟨key, value⟩
      -- Commas, colons and braces stay, so each text is softened on its own.
      have hcomma : Text.IsPlain [.char ',', .char ' '] := by decide
      have hentry := clean_entry key value (Json.lineEntries false (textEntries pairs) ++ rest)
      rw [ih] at hentry
      have hline := clean_plain_append hcomma (Json.stringChars false key ++
        .char ':' :: .char ' ' ::
          (Json.stringChars false value ++ (Json.lineEntries false (textEntries pairs) ++ rest)))
      rw [hentry] at hline
      simpa [textEntries, softPairs, Json.lineEntries, Json.lineChars, Json.atomChars] using hline

/-- The line of a table of texts is the line of the table with its texts softened. -/
theorem cleaned_line_table (pairs : List (Text × Text)) :
    cleaned (Json.line false (.table (textEntries pairs))) =
      Json.line false (.table (textEntries (softPairs pairs))) := by
  suffices h : clean (Json.lineChars false (.table (textEntries pairs))) =
      Json.lineChars false (.table (textEntries (softPairs pairs))) by
    simp [cleaned, Json.line, h]
  have hopen : Text.IsPlain [.char '\x7b'] := by decide
  have hclose : Text.IsPlain [.char '\x7d'] := by decide
  cases pairs with
  | nil =>
      have hself := clean_plain_append hopen [.char '\x7d']
      rw [clean_eq_self hclose] at hself
      simpa [textEntries, softPairs, Json.lineChars] using hself
  | cons pair pairs =>
      rcases pair with ⟨key, value⟩
      have hentry := clean_entry key value
        (Json.lineEntries false (textEntries pairs) ++ [.char '\x7d'])
      rw [clean_lineEntries, clean_eq_self hclose] at hentry
      have hline := clean_plain_append hopen (Json.stringChars false key ++
        .char ':' :: .char ' ' :: (Json.stringChars false value ++
          (Json.lineEntries false (textEntries pairs) ++ [.char '\x7d'])))
      rw [hentry] at hline
      simpa [textEntries, softPairs, Json.lineChars, Json.atomChars] using hline

/-! ## Rows -/

theorem textual_table {pairs : List (Text × Text)} (h : (pairs.map Prod.fst).Nodup) :
    Json.Textual false (.table (textEntries pairs)) := by
  refine .table (by simpa [textEntries, Function.comp_def] using h) (by simp) ?_
  intro entry hentry
  rcases List.mem_map.1 hentry with ⟨⟨key, value⟩, -, rfl⟩
  exact .text (by simp)

theorem toDocument_eq_table {r : Record} (hlength : r.values.length = r.columns.length)
    (hnodup : r.columns.Nodup) : r.toDocument = .table (textEntries (r.columns.zip r.values)) := by
  have hentries : r.columns.zip (r.values.map Document.text) =
      textEntries (r.columns.zip r.values) := by
    rw [textEntries, List.zip_map_right]
    rfl
  have hkeys : (r.columns.zip (r.values.map Document.text)).map Prod.fst = r.columns :=
    List.map_fst_zip (by simp [hlength])
  rw [Record.toDocument, Json.ofEntries_eq_table (by rwa [hkeys]), hentries]

/-- Looking up all columns in turn gives all values in turn. -/
theorem lookup?_columns {columns values : List Text} (hnodup : columns.Nodup)
    (hlength : values.length = columns.length) :
    columns.map (fun key => ((Document.lookup? key (textEntries (columns.zip values))).map
      cellText).getD "") = values := by
  induction columns generalizing values with
  | nil =>
      have hnil : values = [] := by simpa using hlength
      simp [hnil]
  | cons column columns ih =>
      cases values with
      | nil => simp at hlength
      | cons value values =>
          rcases List.nodup_cons.1 hnodup with ⟨hfresh, hrest⟩
          have hvalues := ih hrest (by simpa using hlength)
          -- The first column is none of the others, so that they do not find its value.
          have hskip : ∀ key ∈ columns,
              Document.lookup? key (textEntries ((column :: columns).zip (value :: values))) =
                Document.lookup? key (textEntries (columns.zip values)) := by
            intro key hkey
            have hne : column ≠ key := by
              rintro rfl
              exact hfresh hkey
            simp [textEntries, Document.lookup?, hne]
          have htail := List.map_congr_left fun key hkey =>
            congrArg (fun found => (found.map cellText).getD "") (hskip key hkey)
          rw [List.map_cons, htail, hvalues]
          simp [textEntries, Document.lookup?, cellText]

/-- The row of a line that gives each column its value. -/
theorem jsonRow_line {columns values : List Text} (hnodup : columns.Nodup)
    (hlength : values.length = columns.length) :
    LedgerView.jsonRow (.list (columns.map .text))
        (Json.line false (.table (textEntries (columns.zip values)))) =
      .ok ((columns.map .text).zip values) := by
  have hkeys : ((columns.zip values).map Prod.fst).Nodup := by
    rwa [List.map_fst_zip (by omega)]
  have hread := Json.read?_line (textual_table hkeys)
  -- The line is read once for each column, always as the same table.
  have hcell : ∀ key ∈ columns, (LedgerView.cell
      (Json.line false (.table (textEntries (columns.zip values)))) (.text key)).map
        (fun value => (Document.text key, value)) =
      .ok (Document.text key, ((Document.lookup? key (textEntries (columns.zip values))).map
        cellText).getD "") := by
    intro key _
    simp only [LedgerView.cell, hread, Except.map]
  have hcells : (columns.map Document.text).mapM (fun column => (LedgerView.cell
      (Json.line false (.table (textEntries (columns.zip values)))) column).map
        fun value => (column, value)) = .ok ((columns.map .text).zip values) := by
    have hpairs := mapM_eq_ok_map hcell
    rw [← List.zip_map', lookup?_columns hnodup hlength] at hpairs
    rw [List.mapM_map]
    exact hpairs
  calc
    LedgerView.jsonRow (.list (columns.map .text))
          (Json.line false (.table (textEntries (columns.zip values))))
        = (columns.map Document.text).mapM (fun column => (LedgerView.cell
            (Json.line false (.table (textEntries (columns.zip values)))) column).map
              fun value => (column, value)) >>= fun pairs => .ok (Row.ofPairs pairs) := rfl
    _ = .ok (Row.ofPairs ((columns.map .text).zip values)) := by
          rw [hcells]
          rfl
    _ = .ok ((columns.map .text).zip values) := by
          rw [ofPairs_zip hnodup]

theorem softPairs_zip {columns : List Text} (h : columns.map softened = columns)
    (values : List Text) :
    softPairs (columns.zip values) = columns.zip (values.map softened) := by
  calc
    softPairs (columns.zip values)
        = (columns.map softened).zip (values.map softened) := by
          rw [List.zip_map]
          rfl
    _ = columns.zip (values.map softened) := by rw [h]

theorem softened_columns (channel : Channel) :
    channel.columns.map softened = channel.columns := by
  cases channel <;> decide +kernel

/-! ## Ledgers -/

/-- The line of a record is the record with its values softened. -/
theorem cleaned_line_toDocument {channel : Channel} {r : Record} (h : channel.Takes r) :
    cleaned (Json.line false r.toDocument) =
      Json.line false (.table (textEntries (channel.columns.zip r.softened.values))) := by
  have hcolumns := h.columns_eq
  have hlength := h.length_values
  have htable := toDocument_eq_table (r := r) (by rw [hcolumns, hlength])
    (by rw [hcolumns]; exact channel.nodup_columns)
  rw [htable, hcolumns, cleaned_line_table, softPairs_zip (softened_columns channel)]
  rfl

/-- The line with the columns has nothing to be cleaned. -/
theorem cleaned_line_columns (channel : Channel) :
    cleaned (Json.line true (.table [("columns", .list (channel.columns.map .text))])) =
      Json.line true (.table [("columns", .list (channel.columns.map .text))]) := by
  cases channel <;> decide +kernel

theorem columnsOf_line (channel : Channel) :
    LedgerView.columnsOf
        (Json.line true (.table [("columns", .list (channel.columns.map .text))])) =
      .ok (.list (channel.columns.map .text)) := by
  have hnames : ∀ name ∈ channel.columns, Json.Textual true (.text name) := by
    have hplain : ∀ name ∈ channel.columns, ∀ c ∈ name.toList, c.isHigh = false := by
      cases channel <;> decide
    exact fun name hname => .text fun _ => Json.isUnpaired_of_forall (hplain name hname)
  have hlist : Json.Textual true (.list (channel.columns.map .text)) := by
    refine .list fun item hitem => ?_
    rcases List.mem_map.1 hitem with ⟨name, hname, rfl⟩
    exact hnames name hname
  have htextual : Json.Textual true (.table [("columns", .list (channel.columns.map .text))]) := by
    refine .table (by simp) ?_ (by simpa using hlist)
    simpa using Json.isUnpaired_ofString "columns"
  simp [LedgerView.columnsOf, Json.read?_line htextual, Document.lookup?]

namespace Ledgers

variable {config : Config} {delimiter : Text} {run opened : Run} {l : Ledgers}

/-- The lines that a reader finds in a ledger of JSON lines. -/
theorem linesAt_jsonLines (calls : List Call) (hclear : run.disk.faults = [])
    (hopen : Ledgers.open? config delimiter run = (.ok l, opened))
    (hformat : config.format = .jsonLines) {channel : Channel}
    (hkept : channel.isKept config = true) :
    LedgerView.linesAt (l.performAll calls opened).disk (channel.path l) =
      .ok (Json.line true (.table [("columns", .list (channel.columns.map .text))]) ::
        (l.held (calls.flatMap (Call.records config channel))).map fun r =>
          Json.line false (.table (textEntries (channel.columns.zip r.softened.values)))) := by
  have hlines := linesAt_performAll calls hclear hopen hkept
  rcases open?_ok hopen with ⟨rfl, -⟩
  have hheader : renderColumns config.format delimiter channel.columns =
      Json.line true (.table [("columns", .list (channel.columns.map .text))]) := by
    rw [hformat]
    rfl
  have hbody : ∀ r ∈ held ⟨config, delimiter⟩ (calls.flatMap (Call.records config channel)),
      cleaned (render ⟨config, delimiter⟩ r) =
        Json.line false (.table (textEntries (channel.columns.zip r.softened.values))) := by
    intro r hr
    have hrender : render ⟨config, delimiter⟩ r = Json.line false r.toDocument := by
      simp only [render, Record.render, hformat]
    rw [hrender]
    exact cleaned_line_toDocument (Call.takes_of_mem_held hr)
  rw [hlines, rendered, List.map_cons, List.map_map, hheader, cleaned_line_columns]
  exact congrArg (fun lines => Except.ok (_ :: lines)) (List.map_congr_left hbody)

/-- Reading a ledger of JSON lines gives one row for each record that it holds, in order: each of
its columns with its value, in which every maximal run of wide line breaks is a space. -/
theorem rows_jsonLines (calls : List Call) (hclear : run.disk.faults = [])
    (hopen : Ledgers.open? config delimiter run = (.ok l, opened))
    (hformat : config.format = .jsonLines) {channel : Channel}
    (hkept : channel.isKept config = true) (view : LedgerView) (hview : view.format = .jsonLines) :
    view.rows (l.performAll calls opened).disk (channel.path l) =
        .ok ((l.held (calls.flatMap (Call.records config channel))).map Record.softRow) ∧
      view.header (l.performAll calls opened).disk (channel.path l) =
        .ok (channel.columns.map .text) ∧
      ∀ r ∈ l.held (calls.flatMap (Call.records config channel)),
        r.columns = channel.columns ∧ r.columns.Nodup ∧ r.values.length = r.columns.length := by
  have hlines := linesAt_jsonLines calls hclear hopen hformat hkept
  have htakes : ∀ r ∈ l.held (calls.flatMap (Call.records config channel)), channel.Takes r :=
    fun r hr => Call.takes_of_mem_held hr
  refine ⟨?_, ?_, ?_⟩
  · have hrow : ∀ r ∈ l.held (calls.flatMap (Call.records config channel)),
        LedgerView.jsonRow (.list (channel.columns.map .text))
          (Json.line false (.table (textEntries (channel.columns.zip r.softened.values)))) =
        .ok r.softRow := by
      intro r hr
      have hlength : r.softened.values.length = channel.columns.length := by
        simpa [Record.softened] using (htakes r hr).length_values
      rw [jsonRow_line channel.nodup_columns hlength, Record.softRow, (htakes r hr).columns_eq]
    have hrows := mapM_eq_ok_map hrow
    rw [LedgerView.rows_eq_rowsOfLines hlines ?_]
    · simp only [LedgerView.rowsOfLines, hview, columnsOf_line, List.mapM_map]
      exact hrows
    · intro line hline
      rcases List.mem_cons.1 hline with rfl | hline
      · exact line_table_ne_empty true _
      · rcases List.mem_map.1 hline with ⟨r, -, rfl⟩
        exact line_table_ne_empty false _
  · simp only [LedgerView.header, hlines, Except.bind, LedgerView.headerOfLines, hview,
      columnsOf_line, LedgerView.columnList]
  · intro r hr
    have hcolumns := (htakes r hr).columns_eq
    refine ⟨hcolumns, ?_, ?_⟩
    · rw [hcolumns]
      exact channel.nodup_columns
    · rw [hcolumns]
      exact (htakes r hr).length_values

/-- A message with quotes, a backslash, a tab, a line feed and a run of wide line breaks comes back
with a space for the run and nothing else changed. -/
theorem rows_jsonLines_escapes :
    let config := { Config.disabled with
      logErrors := .shallow, outputDirectory := "out", format := .jsonLines }
    let run := Run.on ⟨FileTree.empty, [], []⟩
    let l : Ledgers := ⟨config, "$*$"⟩
    let opened := (Ledgers.open? config "$*$" run).2
    let view : LedgerView := ⟨.jsonLines, "$*$"⟩
    let v : Violation := ⟨.returnNullable, "say \"$*$\" \\ \t\n\u2028\u0085é\u2029",
      Location.ofField ⟨"", ""⟩ (some ⟨"Box"⟩) none none none⟩
    (run.disk.faults = [] ∧ Ledgers.open? config "$*$" run = (.ok l, opened) ∧
      config.format = .jsonLines ∧ Channel.violations.isKept config = true ∧
      view.format = .jsonLines) ∧
    view.rows (l.performAll [.saveViolation v false] opened).disk (Channel.violations.path l) =
      .ok [(v.record false).softRow] ∧
    (Document.text "message", ("say \"$*$\" \\ \t\n é " : Text)) ∈ (v.record false).softRow := by
  intro config run l opened view v
  have hopen : Ledgers.open? config "$*$" run = (.ok l, opened) :=
    open?_eq_of_isSome (by decide +kernel)
  have hkept : Channel.violations.isKept config = true := rfl
  have hrows := (rows_jsonLines [.saveViolation v false] rfl hopen rfl hkept view rfl).1
  have hrecords : l.held ([Call.saveViolation v false].flatMap (Call.records config .violations)) =
      [v.record false] := by decide +kernel
  rw [hrecords] at hrows
  refine ⟨⟨rfl, hopen, rfl, hkept, rfl⟩, hrows, ?_⟩
  have hvalue : softened v.message = "say \"$*$\" \\ \t\n é " := by decide +kernel
  rw [← hvalue]
  simp [Record.softRow, Record.softened, Violation.record, Violation.columns, Violation.values]

end Ledgers
end Nullability
