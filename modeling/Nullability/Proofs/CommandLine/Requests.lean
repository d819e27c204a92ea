import Nullability.Proofs.CommandLine.Words

/-!
# Requests that words make

* `InitRequest.IsAsked`, `ExploreRequest.IsAsked` tie each part of a request to the name of its
  option;
* `ofArguments?_init`, `ofArguments?_explore`: a faithful reader makes such a request of the words
  behind the name of a command.
-/

namespace Nullability

variable {reader : OptionReader} {words : List Word}

/-! ## Writing a configuration -/

/-- The request that words make for a configuration. -/
structure InitRequest.IsAsked (r : InitRequest) (reader : ValueReader) (words : List Word) :
    Prop where
  path : r.path = (words.findSome? Word.place?).getD "nullfix.json"
  suggest : r.suggest = Word.isOn words "--suggest" (some "--no-suggest") true
  suggestDeep : r.suggestDeep = Word.has words "--suggest-deep"
  logErrors : r.logErrors = Word.has words "--log-error"
  logErrorsDeep : r.logErrorsDeep = Word.has words "--log-error-deep"
  nullable : r.nullable = Word.lastText? words "--nullable"
  nonNull : r.nonNull = Word.lastText? words "--nonnull"
  workList : r.workList = (Word.lastText? words "--work-list").getD "*"
  outputDirectory : r.outputDirectory = Word.lastText? words "--output-directory"
  formatAbsent : Word.lastText? words "--output-format" = none → r.format = .delimited
  /-- A format is given by its name in letters of any case. -/
  format : ∀ text f, Word.lastText? words "--output-format" = some text →
    text.toList.map Letter.toUpper = (LedgerFormat.name f).toList → r.format = f
  paramTest : r.paramTest = Word.has words "--param-test"
  paramIndex : r.paramIndex = (Word.lastText? words "--param-index").bind reader.integer?
  /-- An index may be written in decimal. -/
  paramIndexDecimal : ∀ n, Text.IsShort n →
    Word.lastText? words "--param-index" = some (Text.integerText n) → r.paramIndex = some n
  optimized : r.optimized = Word.has words "--optimized"
  inheritanceTree : r.inheritanceTree = Word.has words "--inheritance-tree"
  callGraph : r.callGraph = Word.has words "--call-graph"
  fieldGraph : r.fieldGraph = Word.has words "--field-graph"
  virtualPath : r.virtualPath = Word.lastText? words "--virtual-path"

namespace Request

theorem isAsked_ofValues (hreader : reader.IsFaithful commands) {values : Values}
    (hplace : values.get "path" = .text (InitRequest.rule.placeIn words))
    (hgiven : InitRequest.rule.IsGiven reader.toValueReader words values) :
    (InitRequest.ofValues values).IsAsked reader.toValueReader words := by
  have hindex : (InitRequest.ofValues values).paramIndex =
      (Word.lastText? words "--param-index").bind reader.integer? := by
    have hget := hgiven ⟨"param_index", .valued "--param-index" none .integer .absent⟩
      (by simp [InitRequest.rule])
    cases htext : Word.lastText? words "--param-index" with
    | none =>
        simp only [OptionKind.valueIn?, htext, Option.some.injEq] at hget
        simp only [InitRequest.ofValues, Values.integer?, ← hget, Option.bind_none]
    | some text =>
        simp only [OptionKind.valueIn?, htext, ValueReader.value?] at hget
        rcases Option.map_eq_some_iff.1 hget with ⟨n, hn, hvalue⟩
        simp only [InitRequest.ofValues, Values.integer?, ← hvalue, Option.bind_some, hn]
  -- The format alone has both a default of its own and names to choose from.
  let formats := [LedgerFormat.delimited.name, LedgerFormat.jsonLines.name]
  let formatRule : OptionRule := ⟨"output_format",
    .valued "--output-format" none (.choice formats) (.text LedgerFormat.delimited.name)⟩
  have hformatRule : formatRule ∈ InitRequest.rule.options := by
    simp [formatRule, formats, InitRequest.rule]
  have hnamed : ∀ f : LedgerFormat, values.get "output_format" = .text f.name →
      (InitRequest.ofValues values).format = f := by
    intro f hget
    have htext := Values.text_of_get hget
    simp only [InitRequest.ofValues, htext]
    cases f <;> decide
  have hformat := hgiven formatRule hformatRule
  constructor
  case path => exact Values.text_of_get hplace
  case formatAbsent =>
    intro habsent
    simp only [formatRule, OptionKind.valueIn?, habsent, Option.some.injEq] at hformat
    exact hnamed .delimited hformat.symm
  case format =>
    intro text f htext hupper
    have hchosen : reader.choice? formats text = some f.name :=
      hreader.choice_upper InitRequest.rule (by simp [commands]) formatRule hformatRule _ _ _ _ rfl
        f.name (by cases f <;> simp [formats]) text hupper
    simp only [formatRule, OptionKind.valueIn?, htext, ValueReader.value?, hchosen, Option.map_some,
      Option.some.injEq] at hformat
    exact hnamed f hformat.symm
  case paramIndex => exact hindex
  case paramIndexDecimal =>
    intro n hshort htext
    rw [hindex, htext, Option.bind_some, hreader.integer_integerText n hshort]
  case suggest => exact hgiven.truth (by simp [InitRequest.rule])
  case workList => exact hgiven.text (by simp [InitRequest.rule, WorkList.wildcard])
  case nullable => exact hgiven.optional (by simp [InitRequest.rule, OptionRule.optional])
  case nonNull => exact hgiven.optional (by simp [InitRequest.rule, OptionRule.optional])
  case outputDirectory => exact hgiven.optional (by simp [InitRequest.rule, OptionRule.optional])
  case virtualPath => exact hgiven.optional (by simp [InitRequest.rule, OptionRule.optional])
  all_goals exact hgiven.flag (by simp [InitRequest.rule, OptionRule.flag])

/-- Words behind the name of the command make the request that its options say. -/
theorem ofArguments?_init (hreader : reader.IsFaithful commands)
    (hwords : InitRequest.rule.Takes reader.toValueReader words) :
    ∃ r : InitRequest, r.IsAsked reader.toValueReader words ∧
      ofArguments? reader (InitRequest.command :: words.flatMap Word.spelled) = .ok (.init r) := by
  rcases hreader.read_spelled InitRequest.rule (by simp [commands]) words hwords with
    ⟨values, hread, hplace, hgiven⟩
  refine ⟨.ofValues values, isAsked_ofValues hreader hplace hgiven, ?_⟩
  have hname : InitRequest.rule.name = InitRequest.command := rfl
  rw [hname] at hread
  simp [ofArguments?, hread, ofAnswer?]

theorem isShort_of_isAsked (hreader : reader.IsFaithful commands) {r : InitRequest}
    (h : r.IsAsked reader.toValueReader words) {n : Int} (hn : r.paramIndex = some n) :
    Text.IsShort n := by
  rw [h.paramIndex] at hn
  rcases Option.bind_eq_some_iff.1 hn with ⟨text, -, hread⟩
  exact hreader.isShort_integer text n hread

end Request

/-! ## Exploring -/

/-- The request that words make for exploring. -/
structure ExploreRequest.IsAsked (r : ExploreRequest) (words : List Word) : Prop where
  target : r.target = (words.findSome? Word.place?).getD "."
  config : r.config = Word.lastText? words "--config"
  autoFix : r.autoFix = Word.isOn words "--auto-fix" (some "--no-auto-fix") true

namespace Request

theorem explore_isAsked_ofValues {values : Values} {reader : ValueReader}
    (hplace : values.get "target" = .text (ExploreRequest.rule.placeIn words))
    (hgiven : ExploreRequest.rule.IsGiven reader words values) :
    (ExploreRequest.ofValues values).IsAsked words := by
  refine ⟨Values.text_of_get hplace, ?_, hgiven.truth (by simp [ExploreRequest.rule])⟩
  have hget := hgiven ⟨"config", .valued "--config" (some (.char 'c')) .path .absent⟩
    (by simp [ExploreRequest.rule])
  simp only [OptionKind.valueIn?, ValueReader.value?] at hget
  simp only [ExploreRequest.ofValues]
  cases htext : Word.lastText? words "--config" with
  | none =>
      simp only [htext, Option.some.injEq] at hget
      rw [Values.text?, ← hget]
  | some text =>
      simp only [htext] at hget
      split at hget
      · cases hget
      · exact Values.text?_of_get (Option.some.inj hget).symm

theorem isRefused_placeIn {c : CommandRule} {reader : ValueReader} (h : c.Takes reader words)
    (hdefault : Disk.isRefused c.defaultPlace = false) :
    Disk.isRefused (c.placeIn words) = false := by
  unfold CommandRule.placeIn
  cases hplace : words.findSome? Word.place? with
  | none => exact hdefault
  | some path =>
      rcases List.exists_of_findSome?_eq_some hplace with ⟨w, hw, hpath⟩
      have hdeclares := h.declares w hw
      cases w with
      | place given =>
          cases hpath
          exact hdeclares.2
      | _ => cases hpath

/-- Words behind the name of the command make the request that its options say, and a path that a
file can have. -/
theorem ofArguments?_explore (hreader : reader.IsFaithful commands)
    (hwords : ExploreRequest.rule.Takes reader.toValueReader words) :
    ∃ r : ExploreRequest, r.IsAsked words ∧ Disk.isRefused r.target = false ∧
      ofArguments? reader (ExploreRequest.command :: words.flatMap Word.spelled) =
        .ok (.explore r) := by
  rcases hreader.read_spelled ExploreRequest.rule (by simp [commands]) words hwords with
    ⟨values, hread, hplace, hgiven⟩
  have hasked := explore_isAsked_ofValues hplace hgiven
  refine ⟨.ofValues values, hasked, ?_, ?_⟩
  · rw [hasked.target]
    exact isRefused_placeIn hwords (by decide)
  · have hname : ExploreRequest.rule.name = ExploreRequest.command := rfl
    have hother : ExploreRequest.command ≠ InitRequest.command := by decide
    rw [hname] at hread
    simp [ofArguments?, hread, ofAnswer?, hother]

end Request
end Nullability
