import Nullability.Proofs.Exploration.Findings
import Nullability.Proofs.Ledger.Framing
import Nullability.Suggestion

/-!
# Suggestions and the ledger of fixes

A checker shows a message exactly where exploring gives a fix, and the ledger of fixes gains one
line for each message.

* `inject_of_fixAt?`: every fix that exploring gives writes a marker, so none is passed over;
* `suggestAt_eq`: showing a message is exploring, with the message in place of the fix;
* `suggestAll_rows`: the messages of a module and the lines that the ledger gains.
-/

namespace Nullability

/-- The value of a record in one of its columns. -/
def Record.value? (r : Record) (column : Text) : Option Text :=
  (r.columns.zip r.values).lookup column

namespace Ledgers

/-- The messages that are shown at conditionals, one after the other. Where the work breaks off at
one of them, nothing is shown there. -/
def suggestAll (l : Ledgers) (m : SourceModule) : List Conditional → Run → List Suggestion × Run
  | [], run => ([], run)
  | c :: rest, run =>
      match l.suggestAt m c run with
      | (.ok (some shown), run) =>
          (shown :: (l.suggestAll m rest run).1, (l.suggestAll m rest run).2)
      | (_, run) => l.suggestAll m rest run

/-- The conditionals that exploring gives a fix for, each with its fix. -/
def hitsAt (l : Ledgers) (m : SourceModule) (cs : List Conditional) : List (Conditional × Fix) :=
  cs.filterMap fun c => (l.fixAt? m c).map (Prod.mk c)

variable {l : Ledgers} {m : SourceModule} {c : Conditional} {run : Run}

/-! ## One conditional -/

theorem inject_of_fixAt? {f : Fix} (h : l.fixAt? m c = some f) : f.inject = true := by
  cases fixAt?_eq_some_iff.1 h with
  | check => rfl

/-- A fix that is found is the answer of exploring, on every disk. -/
theorem fst_exploreAt_eq_iff {f : Fix} :
    (l.exploreAt m c run).1 = .ok (some f) ↔ l.fixAt? m c = some f := by
  rcases fst_exploreAt l m c run with hanswer | ⟨e, hpath, hanswer⟩
  · simp [hanswer]
  · -- In a file that has no address nothing is reported, so no fix is found either.
    simp [hanswer, fixAt?_of_none (violationAt?_of_unusable hpath)]

/-- The check for a marker to write passes over nothing. -/
theorem suggestAt_eq (l : Ledgers) (m : SourceModule) (c : Conditional) (run : Run) :
    l.suggestAt m c run = ((l.exploreAt m c run).1.map fun found =>
      found.map (Suggestion.ofFix c.line), (l.exploreAt m c run).2) := by
  unfold suggestAt
  rcases hexplore : l.exploreAt m c run with ⟨answer, after⟩
  cases answer with
  | error e => rfl
  | ok found =>
      cases found with
      | none => rfl
      | some f =>
          have hfix : l.fixAt? m c = some f :=
            fst_exploreAt_eq_iff.1 (congrArg Prod.fst hexplore)
          simp [Except.map, Option.filter, inject_of_fixAt? hfix]

/-- A message names the field that is checked, the class that declares it and the nullable marker,
as the record of its fix does. -/
theorem parts_of_fixAt? {f : Fix} (h : l.fixAt? m c = some f) :
    ∃ owner field declaration, m.ChecksField c owner field declaration ∧
      (Suggestion.ofFix c.line f).parts =
        [field, (m.className owner).qualified, l.config.markers.nullable.name] ∧
      ["param", "class", "annotation"].map f.record.value? =
        (Suggestion.ofFix c.line f).parts.map some := by
  cases fixAt?_eq_some_iff.1 h with
  | @check owner field declaration hcheck => exact ⟨owner, field, declaration, hcheck, rfl, rfl⟩

/-! ## The conditionals of a module -/

theorem suggestAll_cons (l : Ledgers) (m : SourceModule) (c : Conditional) (rest : List Conditional)
    (run : Run) : l.suggestAll m (c :: rest) run =
      (((l.fixAt? m c).map (Suggestion.ofFix c.line)).toList ++
        (l.suggestAll m rest (l.exploreAt m c run).2).1,
        (l.suggestAll m rest (l.exploreAt m c run).2).2) := by
  rw [suggestAll, suggestAt_eq]
  rcases fst_exploreAt l m c run with hanswer | ⟨e, hpath, hanswer⟩
  · rw [hanswer]
    cases l.fixAt? m c <;> rfl
  · rw [hanswer, fixAt?_of_none (violationAt?_of_unusable hpath)]
    rfl

theorem fst_suggestAll (l : Ledgers) (m : SourceModule) (cs : List Conditional) (run : Run) :
    (l.suggestAll m cs run).1 =
      (l.hitsAt m cs).map fun hit => Suggestion.ofFix hit.1.line hit.2 := by
  induction cs generalizing run with
  | nil => rfl
  | cons c rest ih =>
      rw [suggestAll_cons, ih]
      cases hfix : l.fixAt? m c <;> simp [hitsAt, hfix]

theorem grows_suggestAll (l : Ledgers) (m : SourceModule) (cs : List Conditional) (run : Run) :
    l.Grows (l.recordsAt m cs) run (l.suggestAll m cs run).2 := by
  induction cs generalizing run with
  | nil => exact Grows.refl l run
  | cons c rest ih =>
      rw [suggestAll_cons]
      exact ((grows_exploreAt l m c run).trans (ih _)).congr (recordsAt_cons l m c rest)

/-- A fix is only found where fixes are kept, so each one has its record in the ledger. -/
theorem keptOf_recordsAt_fixes (l : Ledgers) (m : SourceModule) (cs : List Conditional) :
    l.keptOf .fixes (l.recordsAt m cs .fixes) = (l.hitsAt m cs).map fun hit => hit.2.record := by
  have hhits : (l.hitsAt m cs).map (fun hit => hit.2.record) = l.recordsAt m cs .fixes := by
    rw [recordsAt_fixes, hitsAt, List.map_filterMap, List.map_filterMap]
    simp [Function.comp_def]
  rw [hhits, keptOf]
  cases hkept : Channel.fixes.isKept l.config with
  | true => rfl
  | false =>
      have hnone : cs.filterMap (l.fixAt? m) = [] := by
        refine List.filterMap_eq_nil_iff.2 fun c _ => ?_
        cases hfix : l.fixAt? m c with
        | none => rfl
        | some f =>
            cases fixAt?_eq_some_iff.1 hfix with
            | check _ hactive =>
                rw [Channel.isKept, hactive] at hkept
                cases hkept
      rw [recordsAt_fixes, hnone]
      rfl

/-- The messages at the conditionals of a module are those for the fixes that exploring gives,
whatever the disk is like, with the parts that the records of the fixes hold. Unless a notice tells
of an error, the ledger of fixes gains the record of each of these fixes, one a line and in the same
order. -/
theorem suggestAll_rows (l : Ledgers) (m : SourceModule) (run : Run) :
    ∃ found : Conditional → Option Fix,
      (∀ c run f, (l.exploreAt m c run).1 = .ok (some f) ↔ found c = some f) ∧
      (∀ c run, l.suggestAt m c run = ((l.exploreAt m c run).1.map fun found =>
        found.map (Suggestion.ofFix c.line), (l.exploreAt m c run).2)) ∧
      (∀ c f, found c = some f → ∃ owner field declaration,
        m.ChecksField c owner field declaration ∧
        (Suggestion.ofFix c.line f).parts =
          [field, (m.className owner).qualified, l.config.markers.nullable.name] ∧
        ["param", "class", "annotation"].map f.record.value? =
          (Suggestion.ofFix c.line f).parts.map some) ∧
      ∃ hits : List (Conditional × Fix),
        hits = m.tree.conditionals.filterMap (fun c => (found c).map (Prod.mk c)) ∧
        (l.suggestAll m m.tree.conditionals run).1 =
          hits.map (fun hit => Suggestion.ofFix hit.1.line hit.2) ∧
        (run.Untroubled (l.suggestAll m m.tree.conditionals run).2 →
          l.contentOf .fixes (l.suggestAll m m.tree.conditionals run).2.disk =
            l.contentOf .fixes run.disk ++ (l.lines (hits.map fun hit => hit.2.record)).toUTF8) ∧
        Text.linesOf (l.lines (hits.map fun hit => hit.2.record)) =
          hits.map fun hit => cleaned (l.render hit.2.record) := by
  refine ⟨l.fixAt? m, fun c run f => fst_exploreAt_eq_iff, suggestAt_eq l m,
    fun c f => parts_of_fixAt?, l.hitsAt m m.tree.conditionals, rfl,
    fst_suggestAll l m _ run, ?_, ?_⟩
  · intro huntroubled
    rw [← keptOf_recordsAt_fixes]
    exact (grows_suggestAll l m _ run).content huntroubled .fixes
  · have hlines := linesOf_join_frame ((l.hitsAt m m.tree.conditionals).map fun hit =>
      l.render hit.2.record)
    simpa [lines, Function.comp_def] using hlines

/-- A field that is checked twice is shown twice and recorded twice, and one that is assigned once
is neither. -/
theorem suggestAll_rows_twice :
    let config := { Config.disabled with suggest := .shallow, outputDirectory := "out" }
    let l : Ledgers := ⟨config, "$*$"⟩
    let opened := (open? config "$*$" (Run.on ⟨FileTree.empty, [], []⟩)).2
    let limit : Declaration := ⟨true, some 2, some 4, some (.name "Final" "Final")⟩
    let total : Declaration := ⟨false, some 4, some 8, none⟩
    let basket : SourceClass :=
      ⟨.own "Basket", some 1, some 0, [], [("limit", [limit])], [("total", [total])]⟩
    let method : SourceFunction := { (default : SourceFunction) with
      name := "sum", kind := .method, owner := some 0, regular := [⟨"self", none⟩] }
    let checks (line : Int) (field : Text) : Conditional :=
      ⟨line, .comparison "" (.constant "None" true)
        [("is", .member "" (.name "self" "self") field)], some 0⟩
    let m : SourceModule := ⟨"shop", some (Path.parse "/shop.py"),
      ⟨false, [basket], [method], [checks 5 "total", checks 6 "limit", checks 7 "total"]⟩⟩
    let fix : Fix := ⟨m.fieldLocation basket "total" total, "javax.annotation.Nullable",
      "FIELD_NO_INIT", .insert⟩
    (l.suggestAll m m.tree.conditionals opened).1 =
        [⟨5, "total", "shop.Basket", "javax.annotation.Nullable"⟩,
          ⟨7, "total", "shop.Basket", "javax.annotation.Nullable"⟩] ∧
      l.contentOf .fixes (l.suggestAll m m.tree.conditionals opened).2.disk =
        l.contentOf .fixes opened.disk ++ (l.lines [fix.record, fix.record]).toUTF8 := by
  intro config l opened limit total basket method checks m fix
  rcases suggestAll_rows l m opened with
    ⟨found, hfound, -, -, hits, hhits, hmessages, hcontent, -⟩
  have hfound : found = l.fixAt? m :=
    funext fun c => Option.ext fun f => (hfound c opened f).symm.trans fst_exploreAt_eq_iff
  subst hfound hhits
  -- The notices of the run are those before it with some more behind them, none of an error.
  have huntroubled : opened.Untroubled (l.suggestAll m m.tree.conditionals opened).2 :=
    ⟨(l.suggestAll m m.tree.conditionals opened).2.notices.drop opened.notices.length,
      by decide +kernel, by decide +kernel⟩
  have hrecords : (m.tree.conditionals.filterMap fun c => (l.fixAt? m c).map (Prod.mk c)).map
      (fun hit => hit.2.record) = [fix.record, fix.record] := by
    decide +kernel
  rw [hmessages, hcontent huntroubled, hrecords]
  exact ⟨by decide +kernel, rfl⟩

end Ledgers
end Nullability
