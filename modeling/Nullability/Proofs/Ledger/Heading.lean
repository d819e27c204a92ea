import Nullability.Proofs.Ledger.Delimited

/-!
# The columns of a fresh ledger

A ledger that was just opened is one line, which names its columns. The line is cleaned like any
other, and the delimiter between the columns with it.

* `linesAt_open`: the lines that a reader finds, in either format;
* `piecesOf_columns_iff`: when the line is cut into the columns again;
* `header_open_iff`: with a delimiter that no column collides with, the columns come back if and
  only if no character of the delimiter is lost in cleaning.
-/

namespace Nullability

/-! ## Cutting the line with the columns -/

/-- A delimiter that is not left as it is on a line does not cut any. -/
theorem piecesOf_cleaned_of_not_isPlain {delimiter : Text} (hne : delimiter.toList ≠ [])
    (h : ¬ Text.IsPlain delimiter.toList) (s : Text) :
    Text.piecesOf delimiter (cleaned s) = [cleaned s] := by
  have habsent : ¬ delimiter.toList <:+: clean s.toList := by
    intro hheld
    exact h fun c hc => isPlain_clean s.toList c (hheld.subset hc)
  have hpieces := (Text.pieces_eq_singleton_iff hne (clean s.toList)).2 habsent
  simp [Text.piecesOf, cleaned, hpieces]

namespace Channel

/-- No column holds the delimiter, nor does it when all but the last character of the delimiter
follows. -/
def IsClearOf (channel : Channel) (delimiter : Text) : Prop :=
  ∀ column ∈ channel.columns,
    ¬ delimiter.toList <:+: column.toList ++ delimiter.toList.dropLast

instance (channel : Channel) (delimiter : Text) : Decidable (channel.IsClearOf delimiter) :=
  List.decidableBAll _ channel.columns

variable {channel : Channel} {delimiter : Text}

theorem two_le_length_columns (channel : Channel) : 2 ≤ channel.columns.length := by
  cases channel <;> decide

theorem map_clean_columns (channel : Channel) :
    (channel.columns.map fun column => clean column.toList) =
      channel.columns.map Text.toList := by
  have hwords := congrArg (List.map Text.toList) channel.cleaned_columns
  simpa [cleaned, Function.comp_def] using hwords

theorem IsClearOf.collisionFreeValues (h : channel.IsClearOf delimiter) :
    CollisionFreeValues delimiter channel.columns := by
  rw [CollisionFreeValues, map_clean_columns]
  refine ⟨?_, ?_⟩
  · intro v hv
    rcases List.mem_map.1 (List.dropLast_subset _ hv) with ⟨column, hcolumn, rfl⟩
    exact h column hcolumn
  · -- Nothing follows the last column, but the condition is asked of it as well.
    intro v hv hheld
    rcases List.mem_map.1 (List.mem_of_getLast? hv) with ⟨column, hcolumn, rfl⟩
    exact h column hcolumn (hheld.trans (List.prefix_append _ _).isInfix)

/-- The line with the columns is cut into them again if and only if the delimiter is left as it is
on the line. -/
theorem piecesOf_columns_iff (hne : delimiter.toList ≠ []) (hclear : channel.IsClearOf delimiter) :
    Text.piecesOf delimiter (cleaned (Text.glued delimiter channel.columns)) = channel.columns ↔
      Text.IsPlain delimiter.toList := by
  constructor
  · intro hcut
    by_contra hlost
    -- A line that is not cut is one piece, and every ledger has more columns than one.
    rw [piecesOf_cleaned_of_not_isPlain hne hlost] at hcut
    have hmany := channel.two_le_length_columns
    rw [← hcut] at hmany
    exact absurd hmany (by simp)
  · intro hplain
    have hcolumns : channel.columns ≠ [] :=
      List.ne_nil_of_length_pos (Nat.lt_of_lt_of_le Nat.zero_lt_two channel.two_le_length_columns)
    have hcut := (piecesOf_cleaned_glued_iff ⟨hne, hplain⟩ hcolumns).2 hclear.collisionFreeValues
    rw [hcut, channel.cleaned_columns]

end Channel

/-! ## Reading a fresh ledger -/

namespace Ledgers

variable {config : Config} {delimiter : Text} {run opened : Run} {l : Ledgers}
  {channel : Channel}

/-- A ledger that is kept is one line when it is opened. -/
theorem linesAt_open (hopen : open? config delimiter run = (.ok l, opened))
    (hreadable : run.disk.fault? .readText = none) (hkept : channel.isKept config = true) :
    LedgerView.linesAt opened.disk (channel.path l) =
      .ok [cleaned (renderColumns config.format delimiter channel.columns)] := by
  have hholds := holds_of_open hopen
  have hfault : opened.disk.fault? .readText = none := by
    rw [Disk.fault?, hholds.faults]
    exact hreadable
  rcases open?_ok hopen with ⟨rfl, -⟩
  exact linesAt_of_readBytes hfault (hholds.usable channel hkept) (hholds.covered channel hkept)
    (hholds.kept channel hkept)

section Delimited

variable (hopen : open? config delimiter run = (.ok l, opened))
  (hreadable : run.disk.fault? .readText = none) (hformat : config.format = .delimited)
  (hne : delimiter.toList ≠ []) (hkept : channel.isKept config = true)
include hopen hreadable hformat hne hkept

theorem header_open : LedgerView.header ⟨.delimited, delimiter⟩ opened.disk (channel.path l) =
    .ok ((Text.piecesOf delimiter (cleaned (Text.glued delimiter channel.columns))).map .text) := by
  have hsplits : delimiter.isEmpty = false := by simpa using hne
  have hlines := linesAt_open hopen hreadable hkept
  rw [hformat] at hlines
  simp [LedgerView.header, hlines, Except.bind, LedgerView.headerOfLines, LedgerView.split,
    hsplits, renderColumns, Except.map]

/-- Whatever has become of the columns, no line comes after them. -/
theorem rows_open :
    LedgerView.rows ⟨.delimited, delimiter⟩ opened.disk (channel.path l) = .ok [] := by
  have hsplits : delimiter.isEmpty = false := by simpa using hne
  have hlines := linesAt_open hopen hreadable hkept
  rw [hformat] at hlines
  simp only [LedgerView.rows, hlines, Except.bind]
  -- The only line is passed over or names the columns; in either case no record is left.
  cases hempty : (cleaned (Text.glued delimiter channel.columns)).isEmpty <;>
    simp [renderColumns, hempty, LedgerView.rowsOfLines, LedgerView.split, hsplits]

/-- With a delimiter that no column collides with, a fresh ledger gives its columns back if and only
if no character of the delimiter is lost in cleaning: a tab would be left out, and a line break
would be a space. It has no rows in either case. -/
theorem header_open_iff (hclear : channel.IsClearOf delimiter) :
    (LedgerView.header ⟨.delimited, delimiter⟩ opened.disk (channel.path l) =
        .ok (channel.columns.map .text) ↔ Text.IsPlain delimiter.toList) ∧
      LedgerView.rows ⟨.delimited, delimiter⟩ opened.disk (channel.path l) = .ok [] := by
  refine ⟨?_, rows_open hopen hreadable hformat hne hkept⟩
  have hinjective : Function.Injective (List.map Document.text) :=
    List.map_injective_iff.2 fun _ _ => Document.text.inj
  rw [header_open hopen hreadable hformat hne hkept, Except.ok.injEq, hinjective.eq_iff]
  exact Channel.piecesOf_columns_iff hne hclear

end Delimited

/-- A delimiter of two characters, over files that an earlier run has left. -/
theorem header_open_iff_stale :
    let config := { Config.disabled with
      logErrors := .shallow, suggest := .shallow, outputDirectory := "out" }
    let run := Run.on
      ⟨⟨[(["out"], .directory), (["out", "fixes.csv"], .file ("a\tb\n" : Text).toUTF8)]⟩,
      [], []⟩
    let l : Ledgers := ⟨config, "; "⟩
    let opened := (open? config "; " run).2
    (open? config "; " run = (.ok l, opened) ∧ run.disk.fault? .readText = none ∧
      config.format = .delimited ∧ ("; " : Text).toList ≠ [] ∧ Channel.fixes.isKept config = true ∧
      Channel.fixes.IsClearOf "; ") ∧
    LedgerView.header ⟨.delimited, "; "⟩ opened.disk (Channel.fixes.path l) =
      .ok (Channel.fixes.columns.map .text) ∧
    LedgerView.rows ⟨.delimited, "; "⟩ opened.disk (Channel.fixes.path l) = .ok [] := by
  intro config run l opened
  have hopen : open? config "; " run = (.ok l, opened) := open?_eq_of_isSome (by decide +kernel)
  have hkept : Channel.fixes.isKept config = true := rfl
  have hclear : Channel.fixes.IsClearOf "; " := by decide +kernel
  rcases header_open_iff hopen rfl rfl (by decide) hkept hclear with ⟨hheader, hrows⟩
  exact ⟨⟨hopen, rfl, rfl, by decide, hkept, hclear⟩, hheader.2 (by decide), hrows⟩

/-- A tab is no part of any column, but it does not reach the line: the columns run together. -/
theorem header_open_tab :
    let config := { Config.disabled with suggest := .shallow, outputDirectory := "out" }
    let run := Run.on ⟨FileTree.empty, [], []⟩
    let l : Ledgers := ⟨config, "\t"⟩
    let opened := (open? config "\t" run).2
    (open? config "\t" run = (.ok l, opened) ∧ config.format = .delimited ∧
      ("\t" : Text).toList ≠ [] ∧ Channel.fixes.isKept config = true ∧
        Channel.fixes.IsClearOf "\t") ∧
    LedgerView.header ⟨.delimited, "\t"⟩ opened.disk (Channel.fixes.path l) =
      .ok [.text "reasonlocationpkgclassmethodparamindexuriannotationinject"] ∧
    LedgerView.header ⟨.delimited, "\t"⟩ opened.disk (Channel.fixes.path l) ≠
      .ok (Channel.fixes.columns.map .text) := by
  intro config run l opened
  have hopen : open? config "\t" run = (.ok l, opened) := open?_eq_of_isSome (by decide +kernel)
  have hkept : Channel.fixes.isKept config = true := rfl
  have hclear : Channel.fixes.IsClearOf "\t" := by decide +kernel
  have hpieces : Text.piecesOf "\t" (cleaned (Text.glued "\t" Channel.fixes.columns)) =
      ["reasonlocationpkgclassmethodparamindexuriannotationinject"] := by
    decide +kernel
  have hheader := header_open hopen rfl rfl (by decide) hkept
  rw [hpieces] at hheader
  refine ⟨⟨hopen, rfl, by decide, hkept, hclear⟩, hheader, ?_⟩
  rw [hheader]
  simp [Channel.columns, Fix.columns]

end Ledgers
end Nullability
