import Nullability.Config.File
import Nullability.Proofs.Config.WorkList
import Nullability.Proofs.Json.RoundTrip
import Nullability.Proofs.Ledger.Failures

/-!
# Loading a file that was written

A draft is always written as JSON, and the name of a file decides in which notation it is read. So
what was written is loaded again from every path but those that promise TOML.

* `read?_toJson`: the text of a draft is read as its document;
* `Toml.read?_brace`: no TOML text starts with a brace;
* `loadNamed?_of_write`: what is loaded from the path that was written to.

The only number in the document is the parameter index. A longer one than can be read is not
written either. Of a text, two halves of a pair that stand side by side would be read back as the
character that they make, so `Draft.IsUnpaired` is asked for.
-/

namespace Nullability

/-! ## Text that is no TOML -/

namespace Toml

theorem readKey?_brace (bound : Nat) (cs : List Letter) :
    readKey? bound (.char '\x7b' :: cs) = none := by
  have hname : isNameChar '\x7b' = false := by decide
  cases bound with
  | zero => rfl
  | succ bound => simp [readKey?, readName?, hname, readLineString?]

theorem read?_brace {s : Text} {cs : List Letter} (h : s.toList = .char '\x7b' :: cs) :
    read? s = .error .malformed := by
  have hskip : skipSpaceAndLines (.char '\x7b' :: unifyLineEnds cs) =
      .char '\x7b' :: unifyLineEnds cs := by
    simp [skipSpaceAndLines, isSpace]
  have hstatement : readStatement? State.initial (.char '\x7b' :: unifyLineEnds cs) =
      .error .malformed := by
    simp [readStatement?, readKey?_brace]
  simp [read?, h, unifyLineEnds, readStatements?, hskip, hstatement, Except.map]

end Toml

namespace Draft

variable {draft : Draft} {path : Text} {noted : Bool} {run : Run}

/-! ## The written text -/

/-- The texts in the document of a draft that are no words of the program. -/
def texts (d : Draft) : List Text :=
  [d.nullable, d.nonNull, d.virtualPath, WorkList.toText d.workList, d.outputDirectory]

/-- No text of the draft has the two halves of a pair side by side. -/
def IsUnpaired (d : Draft) : Prop :=
  ∀ s ∈ d.texts, Json.IsUnpaired s.toList

theorem textual_pair (first second : String) {v w : Document} (hkeys : first ≠ second)
    (hv : Json.Textual true v) (hw : Json.Textual true w) :
    Json.Textual true (.table [(first, v), (second, w)]) := by
  refine .table (by simpa using hkeys) ?_ (by simpa using ⟨hv, hw⟩)
  simp only [List.forall_mem_cons]
  exact ⟨fun _ => Json.isUnpaired_ofString _, fun _ => Json.isUnpaired_ofString _, by simp⟩

theorem textual_modeTable (active deep : Bool) : Json.Textual true (modeTable active deep) :=
  textual_pair _ _ (by decide) (.bool _) (.bool _)

theorem textual_toDocument (h : Text.IsShort draft.paramIndex) (hpairs : draft.IsUnpaired) :
    Json.Textual true draft.toDocument := by
  have htext : ∀ s ∈ draft.texts, Json.Textual true (.text s) := fun s hs =>
    .text fun _ => hpairs s hs
  have hmarkers := textual_pair "NULLABLE" "NONNULL" (by decide)
    (htext draft.nullable (by simp [texts])) (htext draft.nonNull (by simp [texts]))
  have htest := textual_pair "ACTIVE" "INDEX" (by decide)
    (.bool draft.paramTest) (.integer h)
  have hvirtual := textual_pair "ACTIVE" "PATH" (by decide)
    (.bool draft.virtualMarkers) (htext draft.virtualPath (by simp [texts]))
  have hname : Json.Textual true (.text draft.format.name) := by
    refine .text fun _ => ?_
    cases draft.format <;> exact Json.isUnpaired_ofString _
  have hformat : Json.Textual true (.table [("FORMAT", .text draft.format.name)]) := by
    refine .table (by simp) ?_ (by simpa using hname)
    simpa using Json.isUnpaired_ofString "FORMAT"
  refine .table (by simp) ?_ ?_ <;> simp only [List.forall_mem_cons]
  · simp only [Json.isUnpaired_ofString, implies_true, true_and]
    simp
  · exact ⟨textual_modeTable _ _, .bool _, .bool _, hmarkers, textual_modeTable _ _, htest,
      hvirtual, .bool _, .bool _, htext _ (by simp [texts]), htext _ (by simp [texts]), hformat,
      by simp⟩

/-- The text of a draft is read as its document. -/
theorem read?_toJson (h : Text.IsShort draft.paramIndex) (hpairs : draft.IsUnpaired) :
    Json.read? (draft.toJson ++ "\n") = .ok draft.toDocument :=
  Json.read?_block (textual_toDocument h hpairs)

theorem toList_toJson (draft : Draft) :
    ∃ cs, (draft.toJson ++ "\n").toList = .char '\x7b' :: cs := by
  simp [toJson, Json.block, toDocument, Json.blockChars]

end Draft

/-! ## Texts without pairs -/

theorem WorkList.isUnpaired_toText {names : List Text}
    (h : ∀ s ∈ names, Json.IsUnpaired s.toList) : Json.IsUnpaired (toText names).toList := by
  unfold toText
  split
  · exact Json.isUnpaired_ofString "*"
  · refine Json.isUnpaired_glue ?_ ','
    intro v hv
    rcases List.mem_map.1 hv with ⟨s, hs, rfl⟩
    exact h s hs

namespace Edit

/-- The texts that a step brings in. -/
def texts : Edit → List Text
  | markers _ nullable nonNull => [nullable, nonNull]
  | workList entries => entries
  | virtualMarkers _ path => [path]
  | outputDirectory path => [path]
  | _ => []

/-- No text that the step brings in has the two halves of a pair side by side. -/
def IsUnpaired (edit : Edit) : Prop :=
  ∀ s ∈ edit.texts, Json.IsUnpaired s.toList

variable {d d' : Draft} {edit : Edit} {edits : List Edit}

theorem isUnpaired_listed {entries : List Text} (h : ∀ s ∈ entries, Json.IsUnpaired s.toList) :
    ∀ s ∈ listed entries, Json.IsUnpaired s.toList := by
  intro s hs
  dsimp only [listed] at hs
  split at hs
  · obtain rfl := List.mem_singleton.1 hs
    exact Json.isUnpaired_ofString "*"
  · rcases WorkList.mem_trimmedEntries.1 (NameSet.mem_ofList.1 hs) with ⟨-, e, he, rfl⟩
    exact Json.isUnpaired_trimmed (h e he)

theorem isUnpaired_apply (hd : d.IsUnpaired) (hedit : edit.IsUnpaired)
    (h : edit.apply d = .ok d') : d'.IsUnpaired := by
  simp only [Draft.IsUnpaired, Draft.texts, List.forall_mem_cons] at hd ⊢
  cases edit with
  | markers active nullable nonNull =>
      cases active <;> cases h
      exact ⟨hedit _ (by simp [texts]), hedit _ (by simp [texts]), hd.2.2⟩
  | workList entries =>
      cases h
      have hlist := WorkList.isUnpaired_toText (isUnpaired_listed hedit)
      exact ⟨hd.1, hd.2.1, hd.2.2.1, hlist, hd.2.2.2.2⟩
  | virtualMarkers active path =>
      cases active <;> cases h
      · exact hd
      · exact ⟨hd.1, hd.2.1, hedit _ (by simp [texts]), hd.2.2.2⟩
  | outputDirectory path =>
      cases h
      exact ⟨hd.1, hd.2.1, hd.2.2.1, hd.2.2.2.1, hedit _ (by simp [texts]), by simp⟩
  | logErrors active deep => cases active <;> cases deep <;> cases h <;> exact hd
  | paramTest active index => cases active <;> cases index <;> cases h <;> exact hd
  | _ =>
      cases h
      exact hd

theorem isUnpaired_applyAll (hd : d.IsUnpaired) (hedits : ∀ edit ∈ edits, edit.IsUnpaired) :
    (applyAll d edits).IsUnpaired := by
  induction edits generalizing d with
  | nil => exact hd
  | cons edit edits ih =>
      rw [applyAll, List.foldl_cons]
      refine ih ?_ fun edit' hedit' => hedits edit' (List.mem_cons_of_mem edit hedit')
      cases happly : edit.apply d with
      | error e => simpa [Except.toOption] using hd
      | ok d' =>
          simpa [Except.toOption] using isUnpaired_apply hd (hedits edit List.mem_cons_self) happly

end Edit

namespace Draft

variable {draft : Draft} {path : Text} {noted : Bool} {run : Run}

theorem isUnpaired_blank : blank.IsUnpaired := by
  unfold IsUnpaired
  decide

/-! ## Loading -/

/-- What a file that was written holds for the loader. -/
theorem parseFile_toJson (h : Text.IsShort draft.paramIndex) (hpairs : draft.IsUnpaired)
    (path : Path) :
    Config.parseFile path (draft.toJson ++ "\n").toUTF8 =
      if FileName.suffix path.name = ".toml" then
        .error (.unreadable path.render "the text is not TOML")
      else .ok draft.toDocument := by
  have hdecode := Encoding.decode?_toUTF8 (draft.covers_toJson .utf8)
  -- The brace in front is what either reader sees first, and no TOML starts with one.
  rcases toList_toJson draft with ⟨cs, hbrace⟩
  have htoml := Toml.read?_brace hbrace
  have hjson := read?_toJson h hpairs
  simp only [Config.parseFile, hdecode, htoml, hjson]
  rfl

/-- A text that was written to a path is loaded from there, unless the name of the file promises
TOML. -/
theorem loadNamed?_of_writeText (hshort : Text.IsShort draft.paramIndex)
    (hpairs : draft.IsUnpaired) {before after : Disk}
    (hwrite : before.writeText path (draft.toJson ++ "\n") .utf8 = (.ok (), after)) :
    Config.loadNamed? after path =
      if FileName.suffix (Path.parse path).name = ".toml" then
        .error (.unreadable (Path.parse path).render "the text is not TOML")
      else .ok draft.toDocument := by
  rcases Disk.writeText_ok hwrite with ⟨hnull, -, -, hread⟩
  simp only [Config.loadNamed?, hnull, hread, parseFile_toJson hshort hpairs]
  simp

theorem loadNamed?_of_write (hpairs : draft.IsUnpaired)
    (hwrite : (draft.write path noted run).1 = .ok true) :
    Config.loadNamed? (draft.write path noted run).2.disk path =
      if FileName.suffix (Path.parse path).name = ".toml" then
        .error (.unreadable (Path.parse path).render "the text is not TOML")
      else .ok draft.toDocument := by
  rcases writeText_of_write_true hwrite with ⟨after, htext, hrun⟩
  rw [hrun]
  exact loadNamed?_of_writeText (isShort_of_write hwrite) hpairs htext

end Draft
end Nullability
