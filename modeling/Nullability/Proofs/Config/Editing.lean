import Nullability.Proofs.Config.Reload

/-!
# Runs of edits

What a draft holds after any edits, as its document is loaded.

1. `Edit.sets?` is the value that one edit gives to a setting, if it sets it;
2. `Edit.lastSet?` is the value that the last of some edits gave to it;
3. `get_applyAll` says that every setting has that value, or else the one it started with.

No edit leaves a deep mode on without its base mode (`isSound_apply`). An edit that contradicts
itself sets nothing: `sets?_of_error`, and `apply_eq_error_iff` names these edits. Where no edit may
do so, `foldlM_apply` says which edits get to the end. `reload_applyAll` is all of it for the
written document.
-/

namespace Nullability

/-- A draft that editing starts from: a blank one, or that of a configuration that was loaded. -/
inductive Draft.IsStart : Draft → Prop where
  | blank : IsStart Draft.blank
  | loaded (document : Document) (master : Bool) :
      IsStart (Draft.ofConfig (Config.ofDocument document master))

theorem Draft.IsStart.isSound {start : Draft} (h : start.IsStart) : start.IsSound := by
  cases h with
  | blank => exact isSound_blank
  | loaded document master => exact isSound_ofConfig _

namespace Edit

/-- The value that an edit gives to a setting. -/
def sets? : Edit → (s : Setting) → Option s.Value
  | .suggest active _, .flag .suggest => some active
  | .suggest active deep, .flag .suggestDeep => some (active && deep)
  -- Markers are of use to suggestions only, so to configure them turns suggestions on.
  | .markers true _ _, .flag .suggest => some true
  | .markers true nullable _, .nullable => some nullable
  | .markers true _ nonNull, .nonNull => some nonNull
  | .logErrors active deep, .flag .logErrors => if deep && !active then none else some active
  | .logErrors active deep, .flag .logErrorsDeep => if deep && !active then none else some deep
  | .inheritanceTree active, .flag .inheritanceTree => some active
  | .callGraph active, .flag .callGraph => some active
  | .fieldGraph active, .flag .fieldGraph => some active
  | .optimized active, .flag .optimized => some active
  | .paramTest active _, .flag .paramTest => some active
  | .paramTest true (some index), .paramIndex => some index
  | .virtualMarkers active _, .flag .virtualMarkers => some active
  | .virtualMarkers true path, .virtualPath => some path
  | .workList entries, .workList => some (WorkList.ofText (Text.glued "," entries))
  | .outputDirectory path, .outputDirectory => some path
  | .format chosen, .format => some chosen
  | _, _ => none

/-- The value that the last of some edits gave to a setting. -/
def lastSet? (edits : List Edit) (s : Setting) : Option s.Value :=
  edits.reverse.findSome? fun edit => edit.sets? s

variable {d changed : Draft} {edit : Edit} {e : EditError}

/-! ## One edit -/

/-- The edits that contradict themselves, and in what way. -/
theorem apply_eq_error_iff : edit.apply d = .error e ↔
    (∃ nullable nonNull, edit = .markers false nullable nonNull ∧ e = .markersWithoutSuggest) ∨
      edit = .logErrors false true ∧ e = .deepLogWithoutLog := by
  cases edit with
  | markers suggest nullable nonNull => cases suggest <;> simp [apply, eq_comm]
  | logErrors active deep => cases active <;> cases deep <;> simp [apply, eq_comm]
  | paramTest active index => cases active <;> cases index <;> simp [apply]
  | virtualMarkers active path => cases active <;> simp [apply]
  | _ => simp [apply]

theorem sets?_of_error (h : edit.apply d = .error e) (s : Setting) : edit.sets? s = none := by
  rcases apply_eq_error_iff.1 h with ⟨nullable, nonNull, rfl, -⟩ | ⟨rfl, -⟩
  · cases s with
    | flag f => cases f <;> rfl
    | _ => rfl
  · cases s with
    | flag f => cases f <;> rfl
    | _ => rfl

theorem isOn_of_apply (h : edit.apply d = .ok changed) (f : Flag) :
    changed.isOn f = (edit.sets? (.flag f)).getD (d.isOn f) := by
  cases edit with
  | suggest active deep =>
      cases h
      cases f with
      | suggestDeep => cases active <;> rfl
      | _ => rfl
  | markers suggest nullable nonNull =>
      cases suggest
      · cases h
      · cases h
        cases f <;> rfl
  | logErrors active deep => cases active <;> cases deep <;> cases h <;> cases f <;> rfl
  | paramTest active index => cases active <;> cases index <;> cases h <;> cases f <;> rfl
  | virtualMarkers active path => cases active <;> cases h <;> cases f <;> rfl
  | _ =>
      cases h
      cases f <;> rfl

/-- No edit turns a deep mode on without its base mode, or the base mode off without the deep one.
-/
theorem isSound_apply (hd : d.IsSound) (h : edit.apply d = .ok changed) : changed.IsSound := by
  rw [Draft.isSound_iff] at hd ⊢
  have hflag := isOn_of_apply h
  have hsuggest : changed.suggest = _ := hflag .suggest
  have hdeep : changed.suggestDeep = _ := hflag .suggestDeep
  have hlog : changed.logErrors = _ := hflag .logErrors
  have hlogDeep : changed.logErrorsDeep = _ := hflag .logErrorsDeep
  rw [hsuggest, hdeep, hlog, hlogDeep]
  cases edit with
  | suggest active deep => exact ⟨by simp_all [sets?], hd.2⟩
  | markers suggest nullable nonNull =>
      cases suggest <;> exact ⟨by simp_all [sets?, Draft.isOn], hd.2⟩
  | logErrors active deep =>
      cases active <;> cases deep <;> exact ⟨hd.1, by simp_all [sets?, Draft.isOn]⟩
  | _ => exact hd

/-- Every setting after an edit: the one that it gives, or the one that was there. -/
theorem get_of_apply (hd : d.IsSound) (h : edit.apply d = .ok changed) (s : Setting) :
    changed.toConfig.get s = (edit.sets? s).getD (d.toConfig.get s) := by
  cases s with
  | flag f =>
      have hflag := isOn_of_apply h f
      rw [← Draft.isOn_toConfig (isSound_apply hd h), ← Draft.isOn_toConfig hd] at hflag
      exact hflag
  | paramIndex | virtualPath | nullable | nonNull | workList | outputDirectory | format =>
      cases edit with
      | workList entries =>
          -- The only edit whose value the text of the document changes.
          cases h
          simp [Draft.toConfig, Config.get, sets?, WorkList.ofText_toText_listed]
      | markers suggest nullable nonNull =>
          cases suggest
          · cases h
          · cases h
            rfl
      | logErrors active deep => cases active <;> cases deep <;> cases h <;> rfl
      | paramTest active index => cases active <;> cases index <;> cases h <;> rfl
      | virtualMarkers active path => cases active <;> cases h <;> rfl
      | _ =>
          cases h
          rfl

/-! ## Any edits -/

/-- The draft after an edit, which is the one before if the edit contradicts itself. -/
def attempt (d : Draft) (edit : Edit) : Draft :=
  ((edit.apply d).toOption).getD d

theorem attempt_of_error (h : edit.apply d = .error e) : attempt d edit = d := by
  simp [attempt, h, Except.toOption]

theorem attempt_of_ok (h : edit.apply d = .ok changed) : attempt d edit = changed := by
  simp [attempt, h, Except.toOption]

theorem isSound_attempt (hd : d.IsSound) (edit : Edit) : (attempt d edit).IsSound := by
  cases happly : edit.apply d with
  | error e => rwa [attempt_of_error happly]
  | ok changed =>
      rw [attempt_of_ok happly]
      exact isSound_apply hd happly

theorem get_attempt (hd : d.IsSound) (edit : Edit) (s : Setting) :
    (attempt d edit).toConfig.get s = (edit.sets? s).getD (d.toConfig.get s) := by
  cases happly : edit.apply d with
  | error e => rw [attempt_of_error happly, sets?_of_error happly, Option.getD_none]
  | ok changed => rw [attempt_of_ok happly, get_of_apply hd happly]

theorem applyAll_cons (d : Draft) (edit : Edit) (edits : List Edit) :
    applyAll d (edit :: edits) = applyAll (attempt d edit) edits := rfl

theorem applyAll_append_singleton (d : Draft) (edits : List Edit) (edit : Edit) :
    applyAll d (edits ++ [edit]) = attempt (applyAll d edits) edit := by
  rw [applyAll, List.foldl_append]
  rfl

theorem isSound_applyAll (hd : d.IsSound) (edits : List Edit) : (applyAll d edits).IsSound := by
  induction edits generalizing d with
  | nil => exact hd
  | cons edit edits ih =>
      rw [applyAll_cons]
      exact ih (isSound_attempt hd edit)

theorem lastSet?_nil (s : Setting) : lastSet? [] s = none := rfl

theorem lastSet?_append (first second : List Edit) (s : Setting) :
    lastSet? (first ++ second) s = (lastSet? second s).or (lastSet? first s) := by
  simp [lastSet?, List.findSome?_append]

theorem lastSet?_cons (edit : Edit) (edits : List Edit) (s : Setting) :
    lastSet? (edit :: edits) s = (lastSet? edits s).or (edit.sets? s) := by
  simp [lastSet?, List.findSome?_append]

/-- Every setting after any edits: what the last edit of it gave, or else what it was at first. -/
theorem get_applyAll (hd : d.IsSound) (edits : List Edit) (s : Setting) :
    (applyAll d edits).toConfig.get s = (lastSet? edits s).getD (d.toConfig.get s) := by
  -- The start changes with the first edit, and a later edit of the setting hides that change.
  induction edits generalizing d with
  | nil => rfl
  | cons edit edits ih =>
      rw [applyAll_cons, ih (isSound_attempt hd edit), get_attempt hd, lastSet?_cons]
      cases lastSet? edits s <;> rfl

/-! ## Edits that have to succeed -/

/-- An edit that contradicts itself does so whatever the draft is. -/
def Fails (edit : Edit) : Prop :=
  ∃ d e, edit.apply d = .error e

theorem fails_iff : edit.Fails ↔
    (∃ nullable nonNull, edit = .markers false nullable nonNull) ∨
      edit = .logErrors false true := by
  constructor
  · rintro ⟨d, e, h⟩
    rcases apply_eq_error_iff.1 h with ⟨nullable, nonNull, rfl, -⟩ | ⟨rfl, -⟩
    · exact Or.inl ⟨nullable, nonNull, rfl⟩
    · exact Or.inr rfl
  · rintro (⟨nullable, nonNull, rfl⟩ | rfl)
    · exact ⟨Draft.blank, _, rfl⟩
    · exact ⟨Draft.blank, _, rfl⟩

theorem apply_error_of_fails (h : edit.Fails) (d : Draft) :
    ∃ e, edit.apply d = .error e := by
  rcases fails_iff.1 h with ⟨nullable, nonNull, rfl⟩ | rfl
  · exact ⟨_, rfl⟩
  · exact ⟨_, rfl⟩

/-- Edits in a row that all have to succeed. -/
theorem foldlM_apply (d : Draft) (edits : List Edit) :
    ((∀ edit ∈ edits, ¬ edit.Fails) ∧
        edits.foldlM Edit.apply d = .ok (applyAll d edits)) ∨
      (∃ edit ∈ edits, edit.Fails) ∧ ∃ e, edits.foldlM Edit.apply d = .error e := by
  -- Both folds go the same way up to the first edit that fails, where only one of them stops.
  induction edits generalizing d with
  | nil => exact Or.inl ⟨by simp, rfl⟩
  | cons edit edits ih =>
      cases happly : edit.apply d with
      | error e =>
          refine Or.inr ⟨⟨edit, by simp, d, e, happly⟩, e, ?_⟩
          rw [List.foldlM_cons, happly]
          rfl
      | ok changed =>
          have hedit : ¬ edit.Fails := by
            intro hfails
            rcases apply_error_of_fails hfails d with ⟨e, herror⟩
            rw [happly] at herror
            cases herror
          have hstep : (edit :: edits).foldlM Edit.apply d =
              edits.foldlM Edit.apply changed := by
            rw [List.foldlM_cons, happly]
            rfl
          rw [hstep, applyAll_cons, attempt_of_ok happly]
          rcases ih changed with ⟨hall, hfold⟩ | ⟨⟨bad, hbad, hfails⟩, herror⟩
          · exact Or.inl ⟨by simpa using ⟨hedit, hall⟩, hfold⟩
          · exact Or.inr ⟨⟨bad, by simp [hbad], hfails⟩, herror⟩

/-! ## The written document -/

/-- After any edits of a blank draft or that of a loaded configuration, its document

* is loaded with the last value that an edit gave to each setting, or else the one at the start;
* holds every mode as it is loaded, and no deep mode without its base mode;
* is the same before and after an edit that contradicts itself, of which there are two kinds;
* is loaded with all modes off, and otherwise the same, without the master switch.

What is at the start is what a blank draft stands for, or the configuration that was loaded. -/
theorem reload_applyAll {start : Draft} (hstart : start.IsStart) (edits : List Edit) :
    let edited := applyAll start edits
    let document := edited.toDocument
    let loaded := Config.ofDocument document true
    (∀ s, loaded.get s = (lastSet? edits s).getD (start.toConfig.get s)) ∧
    (∀ f : Flag, document.at? f.key = some (.bool (loaded.isOn f))) ∧
    (∀ f base : Flag, f.base? = some base → document.at? f.key = some (.bool true) →
      document.at? base.key = some (.bool true)) ∧
    (∀ (edit : Edit) e, edit.apply edited = .error e ↔
      (∃ nullable nonNull, edit = .markers false nullable nonNull ∧ e = .markersWithoutSuggest) ∨
        edit = .logErrors false true ∧ e = .deepLogWithoutLog) ∧
    (∀ (edit : Edit) e, edit.apply edited = .error e →
      (applyAll start (edits ++ [edit])).toDocument = document) ∧
    Config.ofDocument document false = loaded.quiet ∧
    Draft.blank.toConfig = { Config.disabled with paramIndex := 10000 } ∧
    ∀ document master, (Draft.ofConfig (Config.ofDocument document master)).toConfig =
      Config.ofDocument document master := by
  intro edited document loaded
  have hedited : edited.IsSound := isSound_applyAll hstart.isSound edits
  -- From here on the document is not looked at any more: it is loaded as what the draft stands for.
  have hloaded : loaded = edited.toConfig := edited.ofDocument_toDocument
  have hheld : ∀ f : Flag, document.at? f.key = some (.bool (loaded.isOn f)) := by
    intro f
    rw [hloaded, Draft.isOn_toConfig hedited]
    exact edited.at?_toDocument f
  refine ⟨?_, hheld, ?_, fun edit e => apply_eq_error_iff, ?_, Config.ofDocument_false document,
    Draft.toConfig_blank, Draft.toConfig_ofConfig_ofDocument⟩
  · intro s
    rw [hloaded, get_applyAll hstart.isSound]
  · intro f base hbase hdeep
    rw [hheld, Option.some.injEq, Document.bool.injEq] at hdeep
    rw [hheld, Config.isOn_of_isOn_deep loaded hbase hdeep]
  · intro edit e herror
    rw [applyAll_append_singleton, attempt_of_error herror]

/-- Two edits that contradict themselves change nothing, suggestions come back without their deep
form, and entries are cut at commas. -/
theorem reload_applyAll_contradicting :
    let start := Draft.ofConfig (Config.ofDocument (.table
      [("SUGGEST", .table [("ACTIVE", .bool true), ("DEEP", .bool true)]),
       ("LOG_ERROR", .table [("ACTIVE", .bool true)]), ("WORK_LIST", .text " b.C ,a.B")]) true)
    let edits := [.markers false "x.N" "x.M", .suggest false true, .markers true "y.N" "y.M",
      .logErrors false true, .paramTest false (some 3), .workList ["c.D, a.B", " "]]
    let loaded := Config.ofDocument (applyAll start edits).toDocument true
    start.IsStart ∧ loaded.isOn .suggest = true ∧ loaded.isOn .suggestDeep = false ∧
      loaded.isOn .logErrors = true ∧ loaded.markers.nullable.name = "y.N" ∧
      loaded.paramIndex = Config.unboundedIndex ∧
      loaded.workList = NameSet.ofList ["a.B", "c.D"] := by
  intro start edits loaded
  have hstart : start.IsStart := .loaded _ true
  have hget := (reload_applyAll hstart edits).1
  refine ⟨hstart, (hget (.flag .suggest)).trans ?_, (hget (.flag .suggestDeep)).trans ?_,
    (hget (.flag .logErrors)).trans ?_, (hget .nullable).trans ?_, (hget .paramIndex).trans ?_,
    (hget .workList).trans ?_⟩
  · rfl
  · rfl
  · rfl
  · rfl
  · rfl
  · decide

end Edit
end Nullability
