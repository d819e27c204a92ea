import Nullability.CommandLine
import Nullability.Proofs.CommandLine.Arguments
import Nullability.Proofs.CommandLine.Requests
import Nullability.Proofs.Config.Editing
import Nullability.Proofs.Config.Loading
import Nullability.Proofs.Path.Rendering

/-!
# What the options of a written configuration mean

The options of the command that writes a configuration become edits, the edits a document, the
document a text on the disk, and the text a configuration again when it is loaded.

* `InitRequest.Contradicts` names the options that contradict each other, `InitRequest.Means` the
  configuration that all other options stand for;
* `draft?_of_contradicts`, `draft?_of_consistent`: the first kind has no draft, the second has the
  one of all its edits;
* `means_toConfig`: the configuration of the edits means what the options say;
* `run_init`: what the whole program does with the words behind the name of the command;
* `load?_written`: what a scan loads from the file that was written.
-/

namespace Nullability
namespace InitRequest

/-! ## The meaning of options -/

/-- A text that is given and not empty. -/
def named (given : Option Text) : Option Text :=
  given.filter fun text => !text.isEmpty

/-- Options that contradict each other: the log is to be deep but not to be kept, or a marker is
named without suggestions that could use it. -/
def Contradicts (r : InitRequest) : Prop :=
  r.logErrors = false ∧ r.logErrorsDeep = true ∨
    r.suggest = false ∧ (r.nullable.isSome ∨ r.nonNull.isSome)

/-- The configuration that options stand for. -/
structure Means (r : InitRequest) (config : Config) : Prop where
  suggest : config.isOn .suggest = r.suggest
  suggestDeep : config.isOn .suggestDeep = (r.suggest && r.suggestDeep)
  logErrors : config.isOn .logErrors = r.logErrors
  logErrorsDeep : config.isOn .logErrorsDeep = r.logErrorsDeep
  inheritanceTree : config.inheritanceTree = r.inheritanceTree
  callGraph : config.callGraph = r.callGraph
  fieldGraph : config.fieldGraph = r.fieldGraph
  optimized : config.optimized = r.optimized
  paramTest : config.paramTest = r.paramTest
  /-- An index is of use to the parameter test only. -/
  paramIndex : config.paramIndex = (if r.paramTest then r.paramIndex else none).getD 10000
  nullable : config.markers.nullable.name =
    (named r.nullable).getD Markers.default.nullable.name
  nonNull : config.markers.nonNull.name = (named r.nonNull).getD Markers.default.nonNull.name
  workList : config.workList = WorkList.ofText r.workList
  outputDirectory : config.outputDirectory =
    (named r.outputDirectory).getD Config.defaultDirectory
  virtualMarkers : config.virtualMarkers = (named r.virtualPath).isSome
  virtualPath : config.virtualPath = (named r.virtualPath).getD ""
  format : config.format = r.format

variable {r : InitRequest}

theorem nameOr_eq (given : Option Text) (default : Marker) :
    nameOr given default = (named given).getD default.name := by
  cases given with
  | none => rfl
  | some name => cases hempty : name.isEmpty <;> simp [nameOr, named, Option.filter, hempty]

theorem editOf?_eq (given : Option Text) (edit : Text → Edit) :
    editOf? given edit = (named given).map edit := rfl

/-! ## The edits -/

/-- The only edits that can contradict themselves are those of the log and of the markers. -/
theorem fails_edits_iff : (∃ edit ∈ r.edits, edit.Fails) ↔ r.Contradicts := by
  have hmarker : (∃ edit ∈ r.markerEdit?.toList, edit.Fails) ↔
      r.suggest = false ∧ (r.nullable.isSome ∨ r.nonNull.isSome) := by
    by_cases hgiven : r.nullable.isSome ∨ r.nonNull.isSome
    · simp [markerEdit?, Edit.fails_iff, hgiven]
    · simp [markerEdit?, hgiven]
  -- The edits that depend on a given text never contradict themselves.
  have hlater : ∀ given : Option Text, ∀ edit : Text → Edit,
      (∀ text, ¬ (edit text).Fails) → ¬ ∃ e ∈ (editOf? given edit).toList, e.Fails := by
    rintro given edit hnever ⟨e, he, hfails⟩
    rw [editOf?_eq, Option.mem_toList, Option.map_eq_some_iff] at he
    rcases he with ⟨text, -, rfl⟩
    exact hnever text hfails
  have hout := hlater r.outputDirectory .outputDirectory fun text => by simp [Edit.fails_iff]
  have hvirtual := hlater r.virtualPath (.virtualMarkers true) fun text => by
    simp [Edit.fails_iff]
  simp only [edits, List.mem_append, or_and_right, exists_or, hmarker, hout, hvirtual, or_false]
  simp [Edit.fails_iff, Contradicts]

theorem draft?_of_contradicts (h : r.Contradicts) : ∃ e, r.draft? = .error e := by
  rcases Edit.foldlM_apply Draft.blank r.edits with ⟨hall, -⟩ | ⟨-, herror⟩
  · rcases fails_edits_iff.2 h with ⟨edit, hedit, hfails⟩
    exact absurd hfails (hall edit hedit)
  · exact herror

theorem draft?_of_consistent (h : ¬ r.Contradicts) :
    r.draft? = .ok (Edit.applyAll Draft.blank r.edits) := by
  rcases Edit.foldlM_apply Draft.blank r.edits with ⟨-, hfold⟩ | ⟨hfails, -⟩
  · exact hfold
  · exact absurd (fails_edits_iff.1 hfails) h

theorem glued_piecesOf (s : Text) : Text.glued "," (Text.piecesOf "," s) = s := by
  have hglue := Text.glue_pieces (show [.char ','] ≠ [] by simp) s.toList
  simp [Text.glued, Text.piecesOf, Function.comp_def, hglue]

theorem lastSet?_toList (edit : Option Edit) (s : Setting) :
    Edit.lastSet? edit.toList s = edit.bind fun edit => edit.sets? s := by
  cases edit with
  | none => rfl
  | some edit => cases hsets : edit.sets? s <;> simp [Edit.lastSet?, hsets]

/-- The edits from the last to the first: of a path for virtual markers, of the directory, of
single settings, of the markers, and of suggestions and the log. -/
theorem lastSet?_edits (r : InitRequest) (s : Setting) :
    Edit.lastSet? r.edits s =
      ((named r.virtualPath).bind fun path => (Edit.virtualMarkers true path).sets? s).or
        (((named r.outputDirectory).bind fun path => (Edit.outputDirectory path).sets? s).or
          ((Edit.lastSet? [.workList (Text.piecesOf "," r.workList),
              .paramTest r.paramTest r.paramIndex, .optimized r.optimized,
              .inheritanceTree r.inheritanceTree, .callGraph r.callGraph,
              .fieldGraph r.fieldGraph, .format r.format] s).or
            ((r.markerEdit?.bind fun edit => edit.sets? s).or
              (Edit.lastSet? [.suggest r.suggest r.suggestDeep,
                .logErrors r.logErrors r.logErrorsDeep] s)))) := by
  simp only [edits, Edit.lastSet?_append, lastSet?_toList, editOf?_eq, Option.bind_map,
    Function.comp_def]

/-- Every setting of the configuration that options stand for: what the last edit of it gave. -/
theorem get_toConfig (r : InitRequest) (s : Setting) :
    (Edit.applyAll Draft.blank r.edits).toConfig.get s =
      (Edit.lastSet? r.edits s).getD (({ Config.disabled with paramIndex := 10000 }).get s) := by
  rw [Edit.get_applyAll Draft.isSound_blank, Draft.toConfig_blank]

/-- Whether a marker is named. -/
def namesMarker (r : InitRequest) : Bool :=
  r.nullable.isSome || r.nonNull.isSome

theorem suggest_of_namesMarker (h : ¬ r.Contradicts) (hgiven : r.namesMarker = true) :
    r.suggest = true := by
  by_contra hoff
  exact h (Or.inr ⟨by simpa using hoff, by simpa [namesMarker] using hgiven⟩)

/-- Without a contradiction the markers are named where there are suggestions. -/
theorem sets?_markerEdit? (h : ¬ r.Contradicts) (s : Setting) :
    (r.markerEdit?.bind fun edit => edit.sets? s) =
      if r.namesMarker then
        (Edit.markers true ((named r.nullable).getD Markers.default.nullable.name)
          ((named r.nonNull).getD Markers.default.nonNull.name)).sets? s
      else none := by
  have hedit : r.markerEdit? = if r.namesMarker then
      some (.markers r.suggest (nameOr r.nullable Markers.default.nullable)
        (nameOr r.nonNull Markers.default.nonNull)) else none := rfl
  rw [hedit]
  cases hgiven : r.namesMarker with
  | false => rfl
  | true => simp [suggest_of_namesMarker h hgiven, nameOr_eq]

theorem eq_none_of_namesMarker (h : r.namesMarker = false) :
    r.nullable = none ∧ r.nonNull = none := by
  simpa [namesMarker] using h

theorem means_toConfig (h : ¬ r.Contradicts) :
    r.Means (Edit.applyAll Draft.blank r.edits).toConfig := by
  have hlog : ¬ (r.logErrorsDeep = true ∧ r.logErrors = false) := fun hdeep => h (Or.inl hdeep.symm)
  -- Each setting is what the last edit of it gave, so that an edit is read only where it counts.
  have hget := get_toConfig r
  simp only [lastSet?_edits, Edit.lastSet?_cons, Edit.lastSet?_nil, sets?_markerEdit? h] at hget
  constructor
  case suggest =>
    refine (hget (.flag .suggest)).trans ?_
    cases hgiven : r.namesMarker with
    | false => simp [Edit.sets?]
    | true => simp [Edit.sets?, suggest_of_namesMarker h hgiven]
  case nullable =>
    refine (hget .nullable).trans ?_
    cases hgiven : r.namesMarker with
    | false =>
        simp [Edit.sets?, (eq_none_of_namesMarker hgiven).1]
        rfl
    | true => simp [Edit.sets?]
  case nonNull =>
    refine (hget .nonNull).trans ?_
    cases hgiven : r.namesMarker with
    | false =>
        simp [Edit.sets?, (eq_none_of_namesMarker hgiven).2]
        rfl
    | true => simp [Edit.sets?]
  case suggestDeep => exact (hget (.flag .suggestDeep)).trans (by simp [Edit.sets?])
  case logErrors => exact (hget (.flag .logErrors)).trans (by simp [Edit.sets?, hlog])
  case logErrorsDeep => exact (hget (.flag .logErrorsDeep)).trans (by simp [Edit.sets?, hlog])
  case inheritanceTree => exact (hget (.flag .inheritanceTree)).trans (by simp [Edit.sets?])
  case callGraph => exact (hget (.flag .callGraph)).trans (by simp [Edit.sets?])
  case fieldGraph => exact (hget (.flag .fieldGraph)).trans (by simp [Edit.sets?])
  case optimized => exact (hget (.flag .optimized)).trans (by simp [Edit.sets?])
  case paramTest => exact (hget (.flag .paramTest)).trans (by simp [Edit.sets?])
  case workList => exact (hget .workList).trans (by simp [Edit.sets?, glued_piecesOf])
  case format => exact (hget .format).trans (by simp [Edit.sets?])
  case paramIndex =>
    refine (hget .paramIndex).trans ?_
    cases r.paramTest <;> cases r.paramIndex <;> simp [Edit.sets?] <;> rfl
  case outputDirectory =>
    refine (hget .outputDirectory).trans ?_
    cases named r.outputDirectory with
    | none => simp [Edit.sets?]; rfl
    | some path => simp [Edit.sets?]
  case virtualMarkers =>
    refine (hget (.flag .virtualMarkers)).trans ?_
    cases named r.virtualPath with
    | none => simp [Edit.sets?]; rfl
    | some path => simp [Edit.sets?]
  case virtualPath =>
    refine (hget .virtualPath).trans ?_
    cases named r.virtualPath with
    | none => simp [Edit.sets?]; rfl
    | some path => simp [Edit.sets?]

/-! ## The texts -/

variable {reader : ValueReader} {words : List Word}

theorem Word.isUnpaired_of_lastText?
    (h : ∀ arg ∈ words.flatMap Word.spelled, Json.IsUnpaired arg.toList) {name text : Text}
    (htext : Word.lastText? words name = some text) : Json.IsUnpaired text.toList := by
  rcases List.exists_of_findSome?_eq_some htext with ⟨w, hw, hfor⟩
  have hspelled : ∀ arg ∈ w.spelled, Json.IsUnpaired arg.toList := fun arg harg =>
    h arg (List.mem_flatMap.2 ⟨w, List.mem_reverse.1 hw, harg⟩)
  cases w with
  | valued long value =>
      simp only [Word.textFor?, Option.ite_none_right_eq_some, Option.some.injEq] at hfor
      exact hfor.2 ▸ hspelled value (by simp [Word.spelled])
  | joined long value =>
      simp only [Word.textFor?, Option.ite_none_right_eq_some, Option.some.injEq] at hfor
      refine (hspelled _ (List.mem_singleton.2 rfl)).of_isInfix ?_
      exact ⟨long.toList ++ [.char '='], [], by simp [hfor.2]⟩
  | _ => cases hfor

/-- What the edits of a request bring in comes from the words, or is the name of a marker. -/
theorem isUnpaired_edits (hasked : r.IsAsked reader words)
    (hgiven : ∀ arg ∈ words.flatMap Word.spelled, Json.IsUnpaired arg.toList) :
    ∀ edit ∈ r.edits, edit.IsUnpaired := by
  have htext : ∀ name text, Word.lastText? words name = some text → Json.IsUnpaired text.toList :=
    fun _ _ => Word.isUnpaired_of_lastText? hgiven
  have hlist : Json.IsUnpaired r.workList.toList := by
    rw [hasked.workList]
    cases hgiven : Word.lastText? words "--work-list" with
    | none => exact Json.isUnpaired_ofString "*"
    | some text => exact htext _ text hgiven
  have hname : ∀ given (m : Marker), (∀ text ∈ given, Json.IsUnpaired text.toList) →
      Json.IsUnpaired m.name.toList → Json.IsUnpaired (nameOr given m).toList := by
    intro given m hgiven hm
    cases given with
    | none => exact hm
    | some text =>
        simp only [nameOr]
        split
        · exact hm
        · exact hgiven text rfl
  have hlater : ∀ given : Option Text, ∀ edit : Text → Edit,
      (∀ text ∈ given, Json.IsUnpaired text.toList) → (∀ text, (edit text).texts = [text]) →
      ∀ e ∈ editOf? given edit, e.IsUnpaired := by
    intro given edit hgiven hone e he s hs
    rw [editOf?_eq, Option.mem_def, Option.map_eq_some_iff] at he
    rcases he with ⟨text, hnamed, rfl⟩
    rw [hone, List.mem_singleton] at hs
    exact hs ▸ hgiven text (Option.filter_eq_some_iff.1 hnamed).1
  simp only [edits, List.forall_mem_append, List.forall_mem_cons, Option.mem_toList]
  -- A step that brings in no text has nothing to show.
  have hnone : ∀ {edit : Edit}, edit.texts = [] → edit.IsUnpaired := fun h s hs => by
    cases h ▸ hs
  refine ⟨⟨⟨⟨⟨hnone rfl, hnone rfl, by simp⟩, ?_⟩, ?_⟩, ?_⟩, ?_⟩
  · intro edit hedit
    simp only [markerEdit?, Option.ite_none_right_eq_some,
      Option.some.injEq] at hedit
    rw [← hedit.2]
    simp only [Edit.IsUnpaired, Edit.texts, List.forall_mem_cons]
    exact ⟨hname _ _ (by rw [hasked.nullable]; exact htext _) (by decide),
      hname _ _ (by rw [hasked.nonNull]; exact htext _) (by decide), by simp⟩
  · exact ⟨Json.isUnpaired_piecesOf hlist, hnone rfl, hnone rfl, hnone rfl, hnone rfl, hnone rfl,
      hnone rfl, by simp⟩
  · exact hlater _ _ (by rw [hasked.outputDirectory]; exact htext _) fun _ => rfl
  · exact hlater _ _ (by rw [hasked.virtualPath]; exact htext _) fun _ => rfl

/-! ## The run -/

theorem isShort_tenThousand : Text.IsShort 10000 := by
  have hfive : (Text.decimalDigits 10000).length ≤ 4 + 1 :=
    Text.length_decimalDigits_le_iff.2 (by decide)
  exact hfive.trans (by decide)

theorem isShort_blank : Text.IsShort Draft.blank.paramIndex :=
  isShort_tenThousand

theorem isShort_applyAll (h : ¬ r.Contradicts) (hindex : ∀ n ∈ r.paramIndex, Text.IsShort n) :
    Text.IsShort (Edit.applyAll Draft.blank r.edits).paramIndex := by
  have hkept : ∀ d : Draft, d.toConfig.paramIndex = d.paramIndex := fun _ => rfl
  rw [← hkept, (means_toConfig h).paramIndex]
  split
  · cases hgiven : r.paramIndex with
    | none => exact isShort_tenThousand
    | some n => exact hindex n hgiven
  · exact isShort_tenThousand

theorem run_of_contradicts (h : r.Contradicts) (run : Run) :
    (r.run run).1 = .exit unusableCode ∧ (r.run run).2.disk = run.disk := by
  rcases draft?_of_contradicts h with ⟨e, herror⟩
  simp [InitRequest.run, herror, Run.note]

/-- What is left of a run goes by how the disk takes the text. -/
theorem run_of_consistent (h : ¬ r.Contradicts) (hindex : ∀ n ∈ r.paramIndex, Text.IsShort n)
    (run : Run) :
    let text := (Edit.applyAll Draft.blank r.edits).toJson ++ "\n"
    let wrote := run.disk.writeText (Path.parse r.path).render text .utf8
    (r.run run).2.disk = wrote.2 ∧
      (r.run run).1 =
        match wrote.1 with
        | .ok () => .exit 0
        | .error e => if e.isSystem then .exit 1 else .broken (.disk e) := by
  have hwrite := Draft.write_of_isShort (isShort_applyAll h hindex) (Path.parse r.path).render
    true (run.note .handshake "")
  have hdisk : (run.note .handshake "").disk = run.disk := rfl
  unfold InitRequest.run
  simp only [draft?_of_consistent h, hwrite, hdisk]
  cases (run.disk.writeText (Path.parse r.path).render
      ((Edit.applyAll Draft.blank r.edits).toJson ++ "\n") .utf8).1 with
  | ok _ => exact ⟨rfl, rfl⟩
  | error e => by_cases hsystem : e.isSystem = true <;> simp [hsystem]

/-- A draft with a short index is written where its file can be opened. -/
theorem write_of_isOpenTo {draft : Draft} (hshort : Text.IsShort draft.paramIndex) {path : Text}
    {run : Run} (hopen : run.disk.IsOpenTo .writeText path) (noted : Bool) :
    (draft.write path noted run).1 = .ok true := by
  have hwrote := Disk.writeText_of_isOpenTo hopen (draft.covers_toJson .utf8)
  rw [Draft.write_of_isShort hshort, hwrote]

/-- A run that came to a good end wrote its draft. -/
theorem write_of_run {run : Run} (hexit : (r.run run).1 = .exit 0) :
    ∃ draft, r.draft? = .ok draft ∧
      let wrote := draft.write (Path.parse r.path).render true (run.note .handshake "")
      wrote.1 = .ok true ∧ (r.run run).2.disk = wrote.2.disk := by
  unfold InitRequest.run at hexit ⊢
  cases hdraft : r.draft? with
  | error e => simp [hdraft, unusableCode] at hexit
  | ok draft =>
      refine ⟨draft, rfl, ?_⟩
      simp only [hdraft] at hexit ⊢
      rcases hwrite : draft.write (Path.parse r.path).render true (run.note .handshake "") with
        ⟨answer, after⟩
      rw [hwrite] at hexit
      cases answer with
      | error e => cases hexit
      | ok wrote =>
          cases wrote with
          | false => cases hexit
          | true => exact ⟨rfl, rfl⟩

/-- What is loaded after a run that came to a good end. -/
theorem loadNamed?_of_run {run : Run} (hexit : (r.run run).1 = .exit 0)
    (hpairs : ∀ draft, r.draft? = .ok draft → draft.IsUnpaired) :
    ∃ draft, r.draft? = .ok draft ∧
      Config.loadNamed? (r.run run).2.disk (Path.parse r.path).render =
        if FileName.suffix (Path.parse r.path).name = ".toml" then
          .error (.unreadable (Path.parse r.path).render "the text is not TOML")
        else .ok draft.toDocument := by
  rcases write_of_run hexit with ⟨draft, hdraft, hwrote, hdisk⟩
  refine ⟨draft, hdraft, ?_⟩
  have hload := Draft.loadNamed?_of_write (hpairs draft hdraft) hwrote
  rwa [← hdisk, Path.parse_render_parse] at hload

end InitRequest

namespace CommandLine

variable {reader : OptionReader} {words : List Word} {args : List Text} {r : InitRequest}

/-- Words behind the name of the command make a request that says what the names of the options say.
Options that contradict each other are refused and change nothing on the disk; no others are. All
others are written as a document, in characters that have bytes, that is read back and means what
they say, and the ending tells how the disk took it. Two halves of a pair that stand side by side
would be read back as one character; of all halves a system hands over second ones only, for bytes
that are no text. -/
theorem run_init (hreader : reader.IsFaithful Request.commands)
    (hwords : InitRequest.rule.Takes reader.toValueReader words)
    (hgiven : ∀ arg ∈ words.flatMap Word.spelled, Json.IsUnpaired arg.toList)
    (parser : SourceModule.Parser) (run : Run) :
    let args := InitRequest.command :: words.flatMap Word.spelled
    let outcome := CommandLine.run reader parser args run
    ∃ r : InitRequest, r.IsAsked reader.toValueReader words ∧
    (outcome.1 = .exit 2 ∧ outcome.2.disk = run.disk ↔ r.Contradicts) ∧
    (¬ r.Contradicts → ∃ text document,
      Encoding.utf8.covers text = true ∧ Json.read? text = .ok document ∧
      r.Means (Config.ofDocument document true) ∧
      let wrote := run.disk.writeText (Path.parse r.path).render text .utf8
      outcome.2.disk = wrote.2 ∧
      (wrote.1 = .ok () → outcome.1 = .exit 0 ∧
        outcome.2.disk.readBytes (Path.parse r.path) = .ok text.toUTF8) ∧
      ∀ e, wrote.1 = .error e →
        outcome.1 = if e.isSystem then .exit 1 else .broken (.disk e)) := by
  intro args outcome
  rcases Request.ofArguments?_init hreader hwords with ⟨r, hasked, hargs⟩
  have houtcome : outcome = r.run run := by
    simp only [outcome, args, CommandLine.run, hargs, perform]
  have hindex : ∀ n ∈ r.paramIndex, Text.IsShort n := fun n hn =>
    Request.isShort_of_isAsked hreader hasked hn
  rw [houtcome]
  refine ⟨r, hasked, ⟨?_, fun h => InitRequest.run_of_contradicts h run⟩, ?_⟩
  -- Without a contradiction the text is written, and whatever comes of that has another ending.
  · rintro ⟨hexit, -⟩
    by_contra h
    rw [(InitRequest.run_of_consistent h hindex run).2] at hexit
    split at hexit
    · cases hexit
    · split at hexit <;> cases hexit
  · intro h
    have hrun := InitRequest.run_of_consistent h hindex run
    have hpairs : (Edit.applyAll Draft.blank r.edits).IsUnpaired :=
      Edit.isUnpaired_applyAll Draft.isUnpaired_blank (InitRequest.isUnpaired_edits hasked hgiven)
    refine ⟨_, _, Draft.covers_toJson _ _,
      Draft.read?_toJson (InitRequest.isShort_applyAll h hindex) hpairs, ?_, hrun.1, ?_, ?_⟩
    · rw [Draft.ofDocument_toDocument]
      exact InitRequest.means_toConfig h
    · intro hwrote
      refine ⟨by rw [hrun.2, hwrote], ?_⟩
      rw [hrun.1]
      have hread := (Disk.writeText_ok (Prod.ext hwrote rfl)).2.2.2
      rwa [Path.parse_render_parse] at hread
    · intro e hwrote
      rw [hrun.2, hwrote]

/-- An index with zeros in front of it, a work list with blanks, a marker that is named but empty,
and virtual markers. -/
theorem run_init_blanks :
    let words := [Word.place "cfg.json", .option "--log-error", .option "--param-test",
      .joined "--param-index" "007", .valued "--work-list" " b.C ,a.B", .valued "--nullable" "",
      .valued "--virtual-path" "v.txt"]
    let args := InitRequest.command :: words.flatMap Word.spelled
    let outcome := CommandLine.run Arguments.reader (fun _ _ => none) args
      (Run.on ⟨FileTree.empty, [], []⟩)
    outcome.1 = .exit 0 ∧ ∃ text document,
      outcome.2.disk.readBytes (Path.parse "cfg.json") = .ok text.toUTF8 ∧
      Json.read? text = .ok document ∧
      let loaded := Config.ofDocument document true
      loaded.isOn .suggest = true ∧ loaded.isOn .logErrorsDeep = false ∧ loaded.paramIndex = 7 ∧
      loaded.markers = Markers.default ∧ loaded.workList = NameSet.ofList ["a.B", "b.C"] ∧
      loaded.virtualPath = "v.txt" := by
  intro words args outcome
  have hwords : InitRequest.rule.Takes Arguments.reader.toValueReader words :=
    ⟨by decide +kernel, by decide, by decide +kernel⟩
  have hgiven : ∀ arg ∈ words.flatMap Word.spelled, Json.IsUnpaired arg.toList := by
    decide +kernel
  rcases run_init Arguments.reader_isFaithful hwords hgiven (fun _ _ => none)
    (Run.on ⟨FileTree.empty, [], []⟩) with ⟨r, hasked, -, hwritten⟩
  have hlog : r.logErrors = true := hasked.logErrors
  have hsuggest : r.suggest = true := hasked.suggest
  have hdeep : r.logErrorsDeep = false := hasked.logErrorsDeep
  have hconsistent : ¬ r.Contradicts := by
    simp [InitRequest.Contradicts, hlog, hsuggest]
  have houtcome : CommandLine.run Arguments.reader (fun _ _ => none)
      (InitRequest.command :: words.flatMap Word.spelled) (Run.on ⟨FileTree.empty, [], []⟩) =
      outcome := rfl
  rw [houtcome] at hwritten
  -- The parts of the request are read off its words, whatever the reader made of them.
  rcases hwritten hconsistent with ⟨text, document, hcovers, hread, hmeans, -, hwrote, -⟩
  have hpath : r.path = "cfg.json" := hasked.path
  have hopen : Disk.IsOpenTo ⟨FileTree.empty, [], []⟩ .writeText (Path.parse "cfg.json").render :=
    ⟨rfl, by decide, by decide, by decide⟩
  rw [hpath] at hwrote
  rcases hwrote (congrArg Prod.fst (Disk.writeText_of_isOpenTo hopen hcovers)) with ⟨hexit, hbytes⟩
  have htest : r.paramTest = true := hasked.paramTest
  have hindex : r.paramIndex = some 7 := hasked.paramIndex.trans (by decide +kernel)
  have hlist : r.workList = " b.C ,a.B" := hasked.workList
  have hnullable : r.nullable = some "" := hasked.nullable
  have hnonNull : r.nonNull = none := hasked.nonNull
  have hvirtual : r.virtualPath = some "v.txt" := hasked.virtualPath
  refine ⟨hexit, text, document, hbytes, hread, hmeans.suggest.trans hsuggest,
    hmeans.logErrorsDeep.trans hdeep, ?_, ?_, ?_, ?_⟩
  · simpa [htest, hindex] using hmeans.paramIndex
  · apply Markers.ext_names
    · exact hmeans.nullable.trans (by rw [hnullable]; rfl)
    · exact hmeans.nonNull.trans (by rw [hnonNull]; rfl)
  · rw [hmeans.workList, hlist]
    decide
  · exact hmeans.virtualPath.trans (by rw [hvirtual]; rfl)

/-! ## Scanning with what was written -/

/-- A configuration that was written to a path is loaded from there as its own document, and
scanning goes on with a configuration that options were written as. Only where the name of the
file promises TOML it is refused, because what is written is always JSON. Two halves of a pair that
stand side by side in a text would be read back as one character. -/
theorem load?_written :
    (∀ (draft : Draft) (path : Text) (noted : Bool) (run : Run),
      let wrote := draft.write path noted run
      draft.IsUnpaired → wrote.1 = .ok true →
      Config.load? wrote.2.disk (some path) =
        if FileName.suffix (Path.parse path).name = ".toml" then
          .error (.unreadable (Path.parse path).render "the text is not TOML")
        else .ok draft.toDocument) ∧
    (∀ (reader : OptionReader) (args : List Text) (r : InitRequest)
        (parser : SourceModule.Parser) (run : Run) (e : ExploreRequest),
      Request.ofArguments? reader args = .ok (.init r) →
      (∀ draft, r.draft? = .ok draft → draft.IsUnpaired) →
      let outcome := CommandLine.run reader parser args run
      outcome.1 = .exit 0 → e.config = some r.path →
      let started := outcome.2.note .handshake ""
      let path := (Path.parse r.path).render
      ∃ draft, r.draft? = .ok draft ∧ e.run parser outcome.2 =
        if FileName.suffix (Path.parse r.path).name = ".toml" then
          (.exit 2, started.note .error
            (LoadError.unreadable path "the text is not TOML").message)
        else e.runWith parser (Config.ofDocument draft.toDocument e.autoFix) started) := by
  refine ⟨fun draft path noted run hpairs => Draft.loadNamed?_of_write hpairs, ?_⟩
  intro reader args r parser run e hargs hpairs outcome hexit hconfig started path
  have houtcome : outcome = r.run run := by
    simp only [outcome, CommandLine.run, hargs, perform]
  rcases InitRequest.loadNamed?_of_run (houtcome ▸ hexit) hpairs with ⟨draft, hdraft, hload⟩
  refine ⟨draft, hdraft, ?_⟩
  rw [← houtcome] at hload
  have hdisk : (outcome.2.note .handshake "").disk = outcome.2.disk := rfl
  -- Loading decides between the two ways; the rest of the command follows it.
  by_cases htoml : FileName.suffix (Path.parse r.path).name = ".toml"
  · rw [if_pos htoml] at hload ⊢
    simp only [ExploreRequest.run, hconfig, Option.map_some, Config.load?, hdisk, hload]
    rfl
  · rw [if_neg htoml] at hload ⊢
    simp only [ExploreRequest.run, hconfig, Option.map_some, Config.load?, hdisk, hload]
    rfl

/-- A draft that nothing was put into, written to a file and scanned with, also from a path with a
dot in it. -/
theorem load?_written_dot :
    let empty : Disk := ⟨FileTree.empty, [], []⟩
    let wrote := Draft.blank.write "./cfg.json" false (Run.on empty)
    let args := ["init-config", "./cfg.json"]
    let outcome := CommandLine.run Arguments.reader (fun _ _ => none) args (Run.on empty)
    let scan : ExploreRequest := ⟨".", some "./cfg.json", true⟩
    Config.load? wrote.2.disk (some "./cfg.json") = .ok Draft.blank.toDocument ∧
      ∃ draft : Draft, scan.run (fun _ _ => none) outcome.2 =
        scan.runWith (fun _ _ => none) (Config.ofDocument draft.toDocument true)
          (outcome.2.note .handshake "") := by
  intro empty wrote args outcome scan
  let asked : InitRequest := {
    path := "./cfg.json", suggest := true, suggestDeep := false, logErrors := false
    logErrorsDeep := false, nullable := none, nonNull := none, workList := "*"
    outputDirectory := none, format := .delimited, paramTest := false, paramIndex := none
    optimized := false, inheritanceTree := false, callGraph := false, fieldGraph := false
    virtualPath := none }
  have hargs : Request.ofArguments? Arguments.reader args = .ok (.init asked) := by
    decide +kernel
  have hconsistent : ¬ asked.Contradicts := by
    rintro (⟨-, h⟩ | ⟨h, -⟩) <;> cases h
  have hpairs : ∀ draft, asked.draft? = .ok draft → draft.IsUnpaired := by
    intro draft hdraft
    cases hdraft.symm.trans (InitRequest.draft?_of_consistent hconsistent)
    exact Edit.isUnpaired_applyAll Draft.isUnpaired_blank (by unfold Edit.IsUnpaired; decide)
  have hopen : empty.IsOpenTo .writeText "./cfg.json" :=
    ⟨rfl, by decide, by decide, by decide⟩
  have hwrote : (Draft.blank.write "./cfg.json" false (Run.on empty)).1 = .ok true :=
    InitRequest.write_of_isOpenTo InitRequest.isShort_blank hopen false
  -- The two ways to write are named before anything is rewritten, so that none is evaluated.
  have hwritten : Draft.blank.write "./cfg.json" false (Run.on empty) = wrote := rfl
  have houtcome : CommandLine.run Arguments.reader (fun _ _ => none) args (Run.on empty) =
      outcome := rfl
  have hexit : outcome.1 = .exit 0 := by
    have hindex : ∀ n ∈ asked.paramIndex, Text.IsShort n := by
      intro n hn
      cases hn
    have hopen : empty.IsOpenTo .writeText (Path.parse asked.path).render :=
      ⟨rfl, by decide, by decide, by decide⟩
    have hwrote := Disk.writeText_of_isOpenTo hopen (Draft.covers_toJson
      (Edit.applyAll Draft.blank asked.edits) .utf8)
    have hdisk : (Run.on empty).disk = empty := rfl
    rw [← houtcome]
    simp only [CommandLine.run, hargs, perform]
    rw [(InitRequest.run_of_consistent hconsistent hindex (Run.on empty)).2, hdisk, hwrote]
  have hjson : FileName.suffix (Path.parse "./cfg.json").name ≠ ".toml" := by decide
  refine ⟨?_, ?_⟩
  · have hload := load?_written.1 Draft.blank "./cfg.json" false (Run.on empty)
      Draft.isUnpaired_blank hwrote
    rwa [if_neg hjson, hwritten] at hload
  · rcases load?_written.2 Arguments.reader args asked (fun _ _ => none) (Run.on empty) scan hargs
      hpairs (houtcome ▸ hexit) rfl with ⟨draft, -, hrun⟩
    rw [if_neg hjson, houtcome] at hrun
    exact ⟨draft, hrun⟩

/-- What is written as JSON is refused where the name of its file promises TOML. -/
theorem load?_written_toml :
    let wrote := Draft.blank.write "cfg.toml" true (Run.on ⟨FileTree.empty, [], []⟩)
    wrote.1 = .ok true ∧
      Config.load? wrote.2.disk (some "cfg.toml") =
        .error (.unreadable "cfg.toml" "the text is not TOML") ∧
      Config.load? wrote.2.disk (some "cfg.toml") ≠ .ok Draft.blank.toDocument := by
  intro wrote
  have hopen : Disk.IsOpenTo ⟨FileTree.empty, [], []⟩ .writeText "cfg.toml" :=
    ⟨rfl, by decide, by decide, by decide⟩
  have hwrote : (Draft.blank.write "cfg.toml" true (Run.on ⟨FileTree.empty, [], []⟩)).1 =
      .ok true :=
    InitRequest.write_of_isOpenTo InitRequest.isShort_blank hopen true
  have hload := Draft.loadNamed?_of_write Draft.isUnpaired_blank hwrote
  have hwritten :
      Draft.blank.write "cfg.toml" true (Run.on ⟨FileTree.empty, [], []⟩) = wrote := rfl
  rw [hwritten] at hwrote hload
  have htoml : FileName.suffix (Path.parse "cfg.toml").name = ".toml" := by decide
  rw [if_pos htoml] at hload
  have hrefused : Config.load? wrote.2.disk (some "cfg.toml") =
      .error (.unreadable "cfg.toml" "the text is not TOML") := hload
  refine ⟨hwrote, hrefused, ?_⟩
  rw [hrefused]
  intro h
  cases h

end CommandLine
end Nullability
