import Nullability.Exploration
import Nullability.Proofs.Decision.Table
import Nullability.Proofs.Ledger.Growth
import Nullability.Proofs.Source.Fields

/-!
# What exploring finds

Which conditionals of a module are reported, which of them lead to a fix, and what both leave in the
ledgers.

* `Config.Reports`, `Config.Proposes`: the violations and the fixes of a conditional, stated without
  reference to how they are found;
* `violationAt?_eq_some_iff`, `fixAt?_eq_some_iff`: there is at most one of each, and what finds it;
* `Explores`: what one conditional comes to, for every state of the disk, and `Reaches` how far all
  of them get;
* `explore_exact`: what all conditionals of a module come to.
-/

namespace Nullability

/-- The module has a file, at a path that a file can have. -/
def ModuleHome.IsOfFile (h : ModuleHome) : Prop :=
  ∃ path, h.path? = some path ∧ Disk.isRefused path = false

namespace SourceModule

/-- A conditional checks a field in a method of some class, and a class declares the field: the
first of that class and its ancestors to do so. -/
def ChecksField (m : SourceModule) (c : Conditional) (owner : SourceClass) (field : Text)
    (declaration : Declaration) : Prop :=
  ∃ around, m.tree.nullCheck? c = some ⟨around, field⟩ ∧
    m.tree.DeclaredFirst around field owner declaration

/-- A declaration stands on a line of a file: that of the module in which its class stands. -/
structure Places (m : SourceModule) (owner : SourceClass) (declaration : Declaration) : Prop where
  line : declaration.line ≠ none
  file : (m.homeOf owner).IsOfFile

/-- The field that a conditional checks is declared on a line of a file whose path no file can
have, and why not. -/
def MeetsUnusable (m : SourceModule) (c : Conditional) (e : DiskError) : Prop :=
  ∃ owner field declaration, m.ChecksField c owner field declaration ∧ declaration.line ≠ none ∧
    (m.homeOf owner).hasUnusablePath = true ∧ e = (m.homeOf owner).refusal

/-- The files that the classes of the module stand in have addresses. -/
def HasAddresses (m : SourceModule) : Prop :=
  ∀ c ∈ m.tree.classes, (m.homeOf c).hasUnusablePath = false

/-- A field of a class, where it is declared. -/
def fieldLocation (m : SourceModule) (owner : SourceClass) (field : Text)
    (declaration : Declaration) : Location :=
  .ofField ⟨(m.homeOf owner).package, (m.homeOf owner).uri⟩ (some (m.className owner))
    (some (owner.fieldSymbol field)) declaration.line declaration.column

/-- The violation that a null check of a field stands for, where it is declared. -/
def nullCheckViolation (m : SourceModule) (owner : SourceClass) (field : Text)
    (declaration : Declaration) : Violation :=
  ⟨.fieldNoInit, nullCheckMessage, m.fieldLocation owner field declaration⟩

end SourceModule

namespace Config

/-- The violations that are reported at a conditional. -/
inductive Reports (config : Config) (m : SourceModule) (c : Conditional) : Violation → Prop where
  | check {owner : SourceClass} {field : Text} {declaration : Declaration}
      (hcheck : m.ChecksField c owner field declaration)
      (hactive : config.suggest.isActive = true) (hplaces : m.Places owner declaration) :
      Reports config m c (m.nullCheckViolation owner field declaration)

/-- The fixes that come of a conditional: the nullable marker on a field that is checked, in the
class that declares it, unless that class is synthetic or out of the work list or the field is
final. -/
inductive Proposes (config : Config) (m : SourceModule) (c : Conditional) : Fix → Prop where
  | check {owner : SourceClass} {field : Text} {declaration : Declaration}
      (hcheck : m.ChecksField c owner field declaration)
      (hactive : config.suggest.isActive = true) (hplaces : m.Places owner declaration)
      (hnamed : (m.className owner).isAnonymous = false)
      (hscope : WorkList.wildcard ∈ config.workList.toList ∨
        (m.className owner).qualified ∈ config.workList.toList)
      (hopen : ¬ owner.IsFinalField field) :
      Proposes config m c
        ⟨m.fieldLocation owner field declaration, config.markers.nullable.name, "FIELD_NO_INIT",
          .insert⟩

end Config

variable {l : Ledgers} {m : SourceModule} {c : Conditional}

/-! ## What is found at a conditional -/

theorem ModuleHome.isOfFile_iff {h : ModuleHome} :
    h.IsOfFile ↔ h.path? ≠ none ∧ h.hasUnusablePath = false := by
  cases hpath : h.path? <;> simp [IsOfFile, hasUnusablePath, hpath]

namespace SourceModule

theorem declarationPath?_isSome_iff {owner : SourceClass} {declaration : Declaration} :
    (m.declarationPath? (owner, declaration)).isSome = true ↔
      declaration.line ≠ none ∧ (m.homeOf owner).path? ≠ none := by
  cases hline : declaration.line <;> cases hpath : (m.homeOf owner).path? <;>
    simp [declarationPath?, ModuleHome.pathAt?, hline, hpath]

/-- Looking for the declaration again from the class that was found gives the same one. -/
theorem nullCheckViolation?_eq {around owner : SourceClass} {field : Text}
    {declaration : Declaration}
    (hresolve : m.tree.resolve? around field = some (owner, declaration))
    (husable : (m.homeOf owner).hasUnusablePath = false) :
    m.nullCheckViolation? owner field = .ok (m.nullCheckViolation owner field declaration) := by
  have hagain := SourceTree.resolve?_resolved hresolve
  simp [nullCheckViolation?, fieldSite?, hagain, ModuleHome.unit?, husable, Except.map,
    nullCheckViolation, fieldLocation]

theorem nullCheckViolation?_of_unusable {owner : SourceClass} (field : Text)
    (husable : (m.homeOf owner).hasUnusablePath = true) :
    m.nullCheckViolation? owner field = .error (m.homeOf owner).refusal := by
  simp [nullCheckViolation?, fieldSite?, ModuleHome.unit?, husable, Except.map]

/-- A field that is checked is declared by a class of the module's tree. -/
theorem ChecksField.mem_classes {owner : SourceClass} {field : Text} {declaration : Declaration}
    (h : m.ChecksField c owner field declaration) : owner ∈ m.tree.classes := by
  rcases h with ⟨around, hcheck, before, after, hlineage, -, -⟩
  have haround : around ∈ m.tree.classes := by
    simp only [SourceTree.nullCheck?, SourceTree.methodAround?, Option.bind_eq_bind,
      Option.bind_eq_some_iff] at hcheck
    obtain ⟨_, _, _, _, ⟨owner, method⟩, ⟨_, _, _, _, _, _, _, hclass, hmethod⟩, _, _, hfound⟩ :=
      hcheck
    split at hmethod
    · cases hmethod
      split at hfound
      · cases hfound
        exact List.mem_of_getElem? hclass
      · cases hfound
    · cases hmethod
  have howner : owner ∈ m.tree.lineage around := by simp [hlineage]
  rcases List.mem_cons.1 howner with rfl | hancestor
  · exact haround
  · rcases List.mem_filterMap.1 hancestor with ⟨i, -, hclass⟩
    exact List.mem_of_getElem? hclass

theorem not_meetsUnusable (h : m.HasAddresses) (c : Conditional) (e : DiskError) :
    ¬ m.MeetsUnusable c e := by
  rintro ⟨owner, field, declaration, hchecks, -, hunusable, -⟩
  rw [h owner hchecks.mem_classes] at hunusable
  cases hunusable

/-- Of one conditional at most one declaration is checked. -/
theorem ChecksField.unique {owner owner' : SourceClass} {field field' : Text}
    {declaration declaration' : Declaration} (h : m.ChecksField c owner field declaration)
    (h' : m.ChecksField c owner' field' declaration') :
    owner' = owner ∧ field' = field ∧ declaration' = declaration := by
  rcases h with ⟨around, hcheck, hfirst⟩
  rcases h' with ⟨around', hcheck', hfirst'⟩
  rw [hcheck] at hcheck'
  cases hcheck'
  have hresolve := SourceTree.resolve?_eq_some_iff.2 hfirst
  rw [SourceTree.resolve?_eq_some_iff.2 hfirst'] at hresolve
  cases hresolve
  exact ⟨rfl, rfl, rfl⟩

end SourceModule

theorem canFix_iff {δ : Type} {config : Config} {pathOf : δ → Option Text} {declaration : δ} :
    config.canFix (some pathOf) (some declaration) = true ↔
      config.suggest.isActive = true ∧ (pathOf declaration).isSome = true := by
  cases hactive : config.suggest.isActive <;> simp [Config.canFix, hactive]

theorem toOption_eq_some_iff {ε α : Type} {x : Except ε α} {a : α} :
    x.toOption = some a ↔ x = .ok a := by
  cases x <;> simp [Except.toOption]

namespace Ledgers

theorem fixableField?_eq_some_iff {owner : SourceClass} {field : Text} :
    l.fixableField? m c = some (owner, field) ↔
      ∃ around declaration, m.tree.nullCheck? c = some ⟨around, field⟩ ∧
        m.tree.resolve? around field = some (owner, declaration) ∧
          l.config.suggest.isActive = true ∧
            (m.declarationPath? (owner, declaration)).isSome = true := by
  simp only [fixableField?, Option.bind_eq_bind, Option.bind_eq_some_iff]
  constructor
  · rintro ⟨⟨around, checked⟩, hcheck, ⟨found, declaration⟩, hresolve, hfix⟩
    split at hfix
    · next hcan =>
      cases hfix
      exact ⟨around, declaration, hcheck, hresolve, canFix_iff.1 hcan⟩
    · cases hfix
  · rintro ⟨around, declaration, hcheck, hresolve, hcan⟩
    refine ⟨⟨around, field⟩, hcheck, (owner, declaration), hresolve, ?_⟩
    rw [if_pos (canFix_iff.2 hcan)]

/-- The violation that is reported at a conditional. -/
def violationAt? (l : Ledgers) (m : SourceModule) (c : Conditional) : Option Violation := do
  let (owner, field) ← l.fixableField? m c
  (m.nullCheckViolation? owner field).toOption

/-- The fix that comes of a conditional. -/
def fixAt? (l : Ledgers) (m : SourceModule) (c : Conditional) : Option Fix := do
  let violation ← l.violationAt? m c
  (← (l.config.decide? violation).toOption)

theorem violationAt?_eq_some_iff {v : Violation} :
    l.violationAt? m c = some v ↔ l.config.Reports m c v := by
  simp only [violationAt?, Option.bind_eq_bind, Option.bind_eq_some_iff]
  constructor
  · rintro ⟨⟨owner, field⟩, hfixable, hviolation⟩
    rcases fixableField?_eq_some_iff.1 hfixable with
      ⟨around, declaration, hcheck, hresolve, hactive, hpath⟩
    rcases SourceModule.declarationPath?_isSome_iff.1 hpath with ⟨hline, hfile⟩
    have hfirst := SourceTree.resolve?_eq_some_iff.1 hresolve
    -- A path is known, but it need not be one that a file can have.
    cases husable : (m.homeOf owner).hasUnusablePath with
    | true =>
        rw [SourceModule.nullCheckViolation?_of_unusable field husable] at hviolation
        cases hviolation
    | false =>
        rw [SourceModule.nullCheckViolation?_eq hresolve husable] at hviolation
        cases hviolation
        exact .check ⟨around, hcheck, hfirst⟩ hactive
          ⟨hline, ModuleHome.isOfFile_iff.2 ⟨hfile, husable⟩⟩
  · intro h
    cases h with
    | @check owner field declaration hchecks hactive hplaces =>
        rcases hchecks with ⟨around, hcheck, hfirst⟩
        have hresolve := SourceTree.resolve?_eq_some_iff.2 hfirst
        rcases ModuleHome.isOfFile_iff.1 hplaces.file with ⟨hfile, husable⟩
        have hpath := SourceModule.declarationPath?_isSome_iff.2 ⟨hplaces.line, hfile⟩
        have hfixable := fixableField?_eq_some_iff.2
          ⟨around, declaration, hcheck, hresolve, hactive, hpath⟩
        refine ⟨(owner, field), hfixable, ?_⟩
        rw [SourceModule.nullCheckViolation?_eq hresolve husable]
        rfl

end Ledgers

/-! ## What is decided at a conditional -/

section Deciding

variable {config : Config} {owner : SourceClass} {field : Text} {declaration : Declaration}

theorem isReassignable_fieldLocation (m : SourceModule) (owner : SourceClass) (field : Text)
    (declaration : Declaration) :
    (m.fieldLocation owner field declaration).IsReassignable ↔ ¬ owner.IsFinalField field := by
  rw [← SourceClass.isFinal_fieldSymbol_iff]
  simp [Location.IsReassignable, SourceModule.fieldLocation, Location.ofField, Symbol.isFinal,
    NameSet.contains]

theorem ruling_nullCheck_iff {outcome : Outcome} :
    Ruling config (m.nullCheckViolation owner field declaration) (some outcome) ↔
      outcome = .insert ∧ ¬ owner.IsFinalField field := by
  rw [← isReassignable_fieldLocation m owner field declaration]
  constructor
  · intro h
    cases h with
    | assigned _ _ h => exact ⟨rfl, h⟩
    -- The rest of the table is about other kinds of violations.
    | conflicting hkind => rcases hkind with hkind | hkind <;> cases hkind
    | compatible hkind => rcases hkind with hkind | hkind <;> cases hkind
    | unmarked hkind => rcases hkind with hkind | hkind <;> cases hkind
    | overridden hkind => cases hkind
    | passed hkind => cases hkind
  · rintro ⟨rfl, h⟩
    exact .assigned (Or.inl rfl) rfl h

/-- The decision on a violation that a null check stands for is never an error. -/
theorem decide?_nullCheck (config : Config) (m : SourceModule) (owner : SourceClass)
    (field : Text) (declaration : Declaration) :
    ∃ found, config.decide? (m.nullCheckViolation owner field declaration) = .ok found := by
  by_cases hgate : config.PassesOver (m.fieldLocation owner field declaration)
  · exact ⟨none, decide?_of_passesOver hgate⟩
  · have hruled : ∃ outcome, Ruling config (m.nullCheckViolation owner field declaration) outcome :=
      ruling_of_field (Or.inl rfl) rfl
    rcases hruled with ⟨outcome, hruling⟩
    rw [decide?_of_not_passesOver hgate rfl, Config.propose?, outcome?_of_ruling hruling]
    exact ⟨_, rfl⟩

theorem decide?_nullCheck_eq_some_iff {f : Fix} :
    config.decide? (m.nullCheckViolation owner field declaration) = .ok (some f) ↔
      config.suggest.isActive = true ∧ (m.className owner).isAnonymous = false ∧
        (WorkList.wildcard ∈ config.workList.toList ∨
          (m.className owner).qualified ∈ config.workList.toList) ∧
        ¬ owner.IsFinalField field ∧
        f = ⟨m.fieldLocation owner field declaration, config.markers.nullable.name,
          "FIELD_NO_INIT", .insert⟩ := by
  have howner : (m.nullCheckViolation owner field declaration).location.owner =
      some (m.className owner) := rfl
  rw [decide?_eq_some_iff, passesOver_iff howner, ← Config.inScope_iff]
  simp only [ruling_nullCheck_iff]
  constructor
  · rintro ⟨hgate, -, outcome, ⟨rfl, hopen⟩, rfl⟩
    simp only [not_or, Bool.not_eq_false, Bool.not_eq_true, Bool.or_eq_false_iff,
      Bool.not_eq_false'] at hgate
    exact ⟨hgate.1, hgate.2.1, hgate.2.2, hopen, rfl⟩
  · rintro ⟨hactive, hnamed, hscope, hopen, rfl⟩
    refine ⟨?_, ?_, .insert, ⟨rfl, hopen⟩, rfl⟩
    · simp [hactive, hnamed, hscope]
    · simp [howner]

end Deciding

namespace Ledgers

theorem fixAt?_eq_some_iff {f : Fix} : l.fixAt? m c = some f ↔ l.config.Proposes m c f := by
  simp only [fixAt?, Option.bind_eq_bind, Option.bind_eq_some_iff, violationAt?_eq_some_iff]
  constructor
  · rintro ⟨v, ⟨hcheck, hactive, hplaces⟩, found, hdecide, rfl⟩
    have hdecide := toOption_eq_some_iff.1 hdecide
    rcases decide?_nullCheck_eq_some_iff.1 hdecide with ⟨-, hnamed, hscope, hopen, rfl⟩
    exact .check hcheck hactive hplaces hnamed hscope hopen
  · intro h
    cases h with
    | @check owner field declaration hcheck hactive hplaces hnamed hscope hopen =>
        have hdecide : l.config.decide? (m.nullCheckViolation owner field declaration) = .ok _ :=
          decide?_nullCheck_eq_some_iff.2 ⟨hactive, hnamed, hscope, hopen, rfl⟩
        exact ⟨_, .check hcheck hactive hplaces, _, toOption_eq_some_iff.2 hdecide, rfl⟩

/-! ## Exploring -/

/-- The index of a field has a text, so the fix of a null check can always be written. -/
theorem answer?_nullCheck (config : Config) (m : SourceModule) (owner : SourceClass)
    (field : Text) (declaration : Declaration) :
    ∃ found, config.decide? (m.nullCheckViolation owner field declaration) = .ok found ∧
      config.answer? (m.nullCheckViolation owner field declaration) = .ok found := by
  rcases decide?_nullCheck config m owner field declaration with ⟨found, hdecide⟩
  refine ⟨found, hdecide, ?_⟩
  cases found with
  | none => simp [Config.answer?, hdecide]
  | some f =>
      rcases decide?_nullCheck_eq_some_iff.1 hdecide with ⟨-, -, -, -, rfl⟩
      simp only [Config.answer?, hdecide]
      exact if_pos (show Text.IsShort 0 by decide +kernel)

/-- What acting on a conditional comes to, whatever the disk is like: nothing, where nothing is
reported; a report of its violation, with the fix for an answer; or the end of the work, where the
field stands in a file that has no address. -/
inductive Explores (l : Ledgers) (m : SourceModule) (c : Conditional) (run : Run)
    (answer : Except Breakdown (Option Fix)) (after : Run) : Prop where
  | ignored (hnone : l.violationAt? m c = none) (hanswer : answer = .ok none) (hsame : after = run)
  | reported {v : Violation} (message : Text) (hreports : l.violationAt? m c = some v)
      (hanswer : answer = .ok (l.fixAt? m c))
      (hreport : after = ((Call.report v).perform l (run.note .debug message)).2)
  | unaddressed {e : DiskError} (hpath : m.MeetsUnusable c e) (hanswer : answer = .error (.disk e))
      (hsame : after = run)

theorem explores_exploreAt (l : Ledgers) (m : SourceModule) (c : Conditional) (run : Run) :
    l.Explores m c run (l.exploreAt m c run).1 (l.exploreAt m c run).2 := by
  unfold exploreAt
  cases hfixable : l.fixableField? m c with
  | none => exact .ignored (by simp [violationAt?, hfixable]) rfl rfl
  | some found =>
      rcases found with ⟨owner, field⟩
      rcases fixableField?_eq_some_iff.1 hfixable with
        ⟨around, declaration, hcheck, hresolve, -, hpath⟩
      cases husable : (m.homeOf owner).hasUnusablePath with
      | true =>
          have hrefused := SourceModule.nullCheckViolation?_of_unusable field husable
          have hchecks : m.ChecksField c owner field declaration :=
            ⟨around, hcheck, SourceTree.resolve?_eq_some_iff.1 hresolve⟩
          have hline := (SourceModule.declarationPath?_isSome_iff.1 hpath).1
          simp only [hrefused]
          exact .unaddressed ⟨owner, field, declaration, hchecks, hline, husable, rfl⟩ rfl rfl
      | false =>
          have hviolation := SourceModule.nullCheckViolation?_eq hresolve husable
          simp only [hviolation]
          have hreports : l.violationAt? m c =
              some (m.nullCheckViolation owner field declaration) := by
            simp [violationAt?, hfixable, hviolation, Except.toOption]
          rcases answer?_nullCheck l.config m owner field declaration with
            ⟨found, hdecide, hanswer⟩
          have hfix : l.fixAt? m c = found := by
            simp [fixAt?, hreports, hdecide, Except.toOption]
          -- The answer of a report is the decision, whatever the disk makes of the records.
          exact .reported _ hreports (by rw [l.fst_report, hanswer, hfix]) rfl

theorem fixAt?_of_none (h : l.violationAt? m c = none) : l.fixAt? m c = none := by
  simp [fixAt?, h]

/-- Where the field stands in a file that has no address nothing is reported. -/
theorem violationAt?_of_unusable {e : DiskError} (hpath : m.MeetsUnusable c e) :
    l.violationAt? m c = none := by
  cases hreports : l.violationAt? m c with
  | none => rfl
  | some v =>
      rcases hpath with ⟨owner, field, declaration, hchecks, -, hunusable, -⟩
      cases violationAt?_eq_some_iff.1 hreports with
      | check hcheck _ hplaces =>
          rcases hchecks.unique hcheck with ⟨rfl, -, -⟩
          rw [(ModuleHome.isOfFile_iff.1 hplaces.file).2] at hunusable
          cases hunusable

/-- The records of the violations that are reported at some conditionals. -/
def recordsAt (l : Ledgers) (m : SourceModule) (cs : List Conditional) (channel : Channel) :
    List Record :=
  (cs.filterMap (l.violationAt? m)).flatMap fun v => (Call.report v).records l.config channel

theorem recordsAt_of_none (h : l.violationAt? m c = none) (channel : Channel) :
    l.recordsAt m [c] channel = [] := by
  simp [recordsAt, h]

theorem recordsAt_cons (l : Ledgers) (m : SourceModule) (c : Conditional) (rest : List Conditional)
    (channel : Channel) : l.recordsAt m (c :: rest) channel =
      l.recordsAt m [c] channel ++ l.recordsAt m rest channel := by
  cases hreports : l.violationAt? m c <;> simp [recordsAt, hreports]

theorem fst_exploreAt (l : Ledgers) (m : SourceModule) (c : Conditional) (run : Run) :
    (l.exploreAt m c run).1 = .ok (l.fixAt? m c) ∨
      ∃ e, m.MeetsUnusable c e ∧ (l.exploreAt m c run).1 = .error (.disk e) := by
  cases explores_exploreAt l m c run with
  | ignored hnone hanswer => exact Or.inl (by rw [hanswer, fixAt?_of_none hnone])
  | reported _ _ hanswer => exact Or.inl hanswer
  | unaddressed hpath hanswer => exact Or.inr ⟨_, hpath, hanswer⟩

/-- A relation between an earlier and a later run, with the records in between, that holds where
nothing happens, of one part after another, and of every report with the notice before it. -/
structure Tracks (l : Ledgers) (R : (Channel → List Record) → Run → Run → Prop) : Prop where
  refl : ∀ run, R (fun _ => []) run run
  trans : ∀ {records records' run run₁ run₂}, R records run run₁ → R records' run₁ run₂ →
    R (fun channel => records channel ++ records' channel) run run₂
  report : ∀ v message run, R (fun channel => Call.records l.config channel (.report v)) run
    ((Call.report v).perform l (run.note .debug message)).2

variable {R : (Channel → List Record) → Run → Run → Prop}

theorem Tracks.exploreAt (h : l.Tracks R) (m : SourceModule) (c : Conditional) (run : Run) :
    R (l.recordsAt m [c]) run (l.exploreAt m c run).2 := by
  cases explores_exploreAt l m c run with
  | ignored hnone _ hsame =>
      rw [hsame, funext (recordsAt_of_none hnone)]
      exact h.refl run
  | @reported v message hreports _ hreport =>
      have hrecords : l.recordsAt m [c] =
          fun channel => Call.records l.config channel (.report v) := by
        funext channel
        simp [recordsAt, hreports]
      rw [hreport, hrecords]
      exact h.report v message run
  | unaddressed hpath _ hsame =>
      rw [hsame, funext (recordsAt_of_none (violationAt?_of_unusable hpath))]
      exact h.refl run

theorem tracks_grows (l : Ledgers) : l.Tracks l.Grows where
  refl := Grows.refl l
  trans := Grows.trans
  -- A notice that the check was found comes first, and it is none of an error.
  report v message run :=
    ((Grows.note l run .debug message).trans (grows_perform (.report v) _)).congr fun _ => by simp

theorem grows_exploreAt (l : Ledgers) (m : SourceModule) (c : Conditional) (run : Run) :
    l.Grows (l.recordsAt m [c]) run (l.exploreAt m c run).2 :=
  (tracks_grows l).exploreAt m c run

/-! ## Exploring a module -/

variable {cs rest : List Conditional} {run after : Run}

theorem exploreAll_cons_of_ok {found : Option Fix} (h : l.exploreAt m c run = (.ok found, after)) :
    l.exploreAll m (c :: rest) run =
      ((l.exploreAll m rest after).1.map fun fixes => found.toList ++ fixes,
        (l.exploreAll m rest after).2) := by
  rw [exploreAll, h]
  dsimp only
  rcases l.exploreAll m rest after with ⟨answer, last⟩
  cases answer <;> rfl

theorem exploreAll_cons_of_error {e : Breakdown} (h : l.exploreAt m c run = (.error e, after)) :
    l.exploreAll m (c :: rest) run = (.error e, after) := by
  rw [exploreAll, h]

/-- How far exploring gets: through all conditionals, whose fixes it gives in their order, or up to
one whose field stands in a file that has no address. -/
inductive Reaches (l : Ledgers) (m : SourceModule) (cs reached : List Conditional)
    (answer : Except Breakdown (List Fix)) : Prop where
  | all (hreached : reached = cs) (hanswer : answer = .ok (cs.filterMap (l.fixAt? m)))
  | upTo {c : Conditional} {rest : List Conditional} {e : DiskError}
      (hcs : cs = reached ++ c :: rest) (hpath : m.MeetsUnusable c e)
      (hanswer : answer = .error (.disk e))

/-- The records are those of the conditionals that were reached. -/
theorem Tracks.exploreAll (h : l.Tracks R) (m : SourceModule) (cs : List Conditional) (run : Run) :
    ∃ reached, l.Reaches m cs reached (l.exploreAll m cs run).1 ∧
      R (l.recordsAt m reached) run (l.exploreAll m cs run).2 := by
  induction cs generalizing run with
  | nil => exact ⟨[], .all rfl rfl, h.refl run⟩
  | cons c rest ih =>
      rcases hstep : l.exploreAt m c run with ⟨answer, after⟩
      have hfirst := h.exploreAt m c run
      have hanswer := fst_exploreAt l m c run
      rw [hstep] at hfirst hanswer
      rcases hanswer with rfl | ⟨e, hpath, rfl⟩
      · rcases ih after with ⟨reached, hreaches, htracks⟩
        refine ⟨c :: reached, ?_, ?_⟩
        · rw [exploreAll_cons_of_ok hstep]
          cases hreaches with
          | all hreached hrest =>
              refine .all (by rw [hreached]) ?_
              rw [hrest]
              cases hfix : l.fixAt? m c <;> simp [Except.map, hfix]
          | upTo hcs hpath hrest => exact .upTo (by rw [hcs]; rfl) hpath (by rw [hrest]; rfl)
        · rw [exploreAll_cons_of_ok hstep, funext (recordsAt_cons l m c reached)]
          exact h.trans hfirst htracks
      · -- Nothing is recorded where the work ends.
        refine ⟨[], .upTo rfl hpath (by rw [exploreAll_cons_of_error hstep]), ?_⟩
        rw [exploreAll_cons_of_error hstep]
        rwa [funext (recordsAt_of_none (violationAt?_of_unusable hpath))] at hfirst

theorem recordsAt_violations : l.recordsAt m cs .violations =
    (cs.filterMap (l.violationAt? m)).map (Violation.record l.config.logErrors.isDeep) := by
  rw [List.map_eq_flatMap]
  rfl

/-- The fixes that are recorded are those that come of the conditionals. -/
theorem recordsAt_fixes :
    l.recordsAt m cs .fixes = (cs.filterMap (l.fixAt? m)).map Fix.record := by
  induction cs with
  | nil => rfl
  | cons c rest ih =>
      have hdecided : ∀ v, l.violationAt? m c = some v →
          Call.decided l.config v = (l.fixAt? m c).toList.map Fix.record := by
        intro v hreports
        cases violationAt?_eq_some_iff.1 hreports with
        | @check owner field declaration =>
            rcases answer?_nullCheck l.config m owner field declaration with
              ⟨found, hdecide, hanswer⟩
            cases found <;>
              simp [Call.decided, fixAt?, hreports, hdecide, hanswer, Except.toOption]
      simp only [recordsAt, List.filterMap_cons] at ih ⊢
      cases hreports : l.violationAt? m c with
      | none => simpa [fixAt?_of_none hreports] using ih
      | some v =>
          have hfirst := hdecided v hreports
          cases hfix : l.fixAt? m c <;>
            simpa [Call.records, hfirst, hfix] using ih

end Ledgers
end Nullability
