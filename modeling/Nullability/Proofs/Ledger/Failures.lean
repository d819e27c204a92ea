import Nullability.Config.File
import Nullability.Proofs.Disk.Failures
import Nullability.Proofs.Ledger.Session

/-!
# What comes of failures at the edge of a run

Opening the ledgers and writing a configuration are each a boundary for failures of the disk. The
first is to turn them into one error of its own, and the second into a notice. Both let through
what the system did not cause.

* `Ledgers.openingActions`: what opening does to the disk, one operation after the other;
* `open?_write_failures`: which failures each boundary takes in and which it lets through;
* `open?_write_failures_escape`: a null character in a path, or a failure asked for that is not the
  system's, comes through both.
-/

namespace Nullability

/-! ## Null characters in the path of a ledger -/

namespace Path

theorem mem_render_iff {p : Path} (hne : p.segments ≠ []) {c : Letter} (hc : c ≠ '/') :
    c ∈ p.render.toList ↔ ∃ s ∈ p.segments, c ∈ s.toList := by
  rw [toList_render hne, List.mem_append, Text.mem_glue_iff (by simpa using hc)]
  simp [hc]

/-- Every character of a segment is one of the text. -/
theorem mem_of_mem_segments_parse {text s : Text} (hs : s ∈ (parse text).segments) {c : Letter}
    (hc : c ∈ s.toList) : c ∈ text.toList := by
  have hname : s ∈ Text.piecesOf "/" text :=
    (List.mem_filter.1 (List.mem_filter.1 hs).1).1
  rcases List.mem_map.1 hname with ⟨piece, hpiece, rfl⟩
  have hslash : ("/" : Text).toList = [.char '/'] := rfl
  rw [hslash] at hpiece
  have hkept : c ≠ '/' := by
    rintro rfl
    exact Text.not_mem_of_mem_pieces hpiece (by simpa using hc)
  rw [← Text.glue_pieces (show [.char '/'] ≠ [] by simp) text.toList,
    Text.mem_glue_iff (by simpa using hkept)]
  exact ⟨piece, hpiece, by simpa using hc⟩

end Path

/-- The names of the ledgers are harmless, so what cannot stand in a path stands in the output
directory. -/
theorem Channel.isRefused_path {l : Ledgers} {channel : Channel}
    (h : Disk.isRefused (channel.path l) = true) :
    Disk.isRefused l.config.outputDirectory = true := by
  rcases List.any_eq_true.1 h with ⟨c, hmem, hbad⟩
  have hslash : c ≠ '/' := by
    rintro rfl
    exact absurd hbad (by decide)
  have hin := (Path.mem_render_iff (segments_joined_ne_nil l channel) hslash).1 hmem
  rw [joined_eq] at hin
  rcases hin with ⟨s, hs, hc⟩
  rcases List.mem_append.1 hs with hs | hs
  · have hparse : s ∈ (Path.parse l.config.outputDirectory).segments := by
      simp only [Path.joined, List.map_cons, List.map_nil, List.foldl_cons, List.foldl_nil,
        Path.join] at hs
      split at hs
      · exact hs
      · simpa using hs
    exact List.any_eq_true.2 ⟨c, Path.mem_of_mem_segments_parse hparse hc, hbad⟩
  · have hplain : ∀ c ∈ channel.name.toList, c.isNameable = true := by cases channel <;> decide
    obtain rfl : s = channel.name := by simpa using hs
    exact absurd (hplain c hc) (by simpa using hbad)

/-! ## Opening as a list of operations -/

namespace Ledgers

/-- What starting a ledger afresh does to the disk. -/
def resetActions (l : Ledgers) (channel : Channel) : List Disk.Action :=
  if channel.isKept l.config then
    [fun d => d.remove (channel.path l),
     fun d => d.writeText (channel.path l) (l.heading channel) .utf8]
  else []

/-- What opening the ledgers does to the disk. -/
def openingActions (l : Ledgers) : List Disk.Action :=
  (fun d => d.makeDirectories l.config.outputDirectory true) ::
    (l.resetActions .violations ++ l.resetActions .fixes)

theorem resetChannel_eq_inTurn (l : Ledgers) (channel : Channel) (run : Run) :
    ((l.resetChannel channel run).1, (l.resetChannel channel run).2.disk) =
      Disk.inTurn (l.resetActions channel) run.disk := by
  unfold resetChannel resetIf resetActions
  by_cases hkept : channel.isKept l.config = true
  · rw [if_pos hkept, if_pos hkept]
    unfold reset Run.act
    cases hremove : run.disk.remove (channel.path l) with
    | mk removed d₁ =>
        cases removed with
        | error e => simp [Disk.inTurn, hremove]
        | ok _ =>
            cases hwrite : d₁.writeText (channel.path l) (l.heading channel) .utf8 with
            | mk written d₂ =>
                rw [heading] at hwrite
                cases written <;> simp [Disk.inTurn, hremove, heading, hwrite, Run.note]
  · rw [if_neg hkept, if_neg hkept]
    rfl

theorem prepare_eq_inTurn (l : Ledgers) (run : Run) :
    ((l.prepare run).1, (l.prepare run).2.disk) = Disk.inTurn l.openingActions run.disk := by
  unfold prepare openingActions Run.act
  cases hmake : run.disk.makeDirectories l.config.outputDirectory true with
  | mk made d₁ =>
      cases made with
      | error e => simp [Disk.inTurn, hmake]
      | ok _ =>
          have hfirst := l.resetChannel_eq_inTurn .violations { run with disk := d₁ }
          simp only [Disk.inTurn, hmake, Disk.inTurn_append, ← hfirst]
          cases hreset : l.resetChannel .violations { run with disk := d₁ } with
          | mk result mid =>
              have hreset' : l.resetIf l.config.logErrors.isActive l.errorPath Violation.columns
                  { run with disk := d₁ } = (result, mid) := hreset
              cases result with
              | error e => simp [hreset']
              | ok _ =>
                  simp only [hreset']
                  exact l.resetChannel_eq_inTurn .fixes mid

/-! ## Failures that opening cannot name -/

/-- The failures that opening can meet and that the system has no part in: an output directory that
is none, a delimiter without bytes, and whatever was asked for on one of the operations. -/
def IsForeign (l : Ledgers) (d : Disk) (e : DiskError) : Prop :=
  Disk.isRefused l.config.outputDirectory = true ∧
      e = Disk.refusal (Path.parse l.config.outputDirectory).render ∨
    Encoding.utf8.covers l.delimiter = false ∧
      (∃ channel : Channel, e = .unencodable (Encoding.utf8.complaint (l.heading channel))) ∨
    ∃ operation ∈ [DiskOperation.makeDirectories, .remove, .writeText],
      d.fault? operation = some e

variable {l : Ledgers} {d d' : Disk} {e : DiskError}

theorem isForeign_of_failsEarly {operation : DiskOperation} {path : Text}
    (h : d.FailsEarly operation path e)
    (hmem : operation ∈ [DiskOperation.makeDirectories, .remove, .writeText])
    (hpath : Disk.isRefused path = false) : l.IsForeign d e := by
  rcases h with hfault | ⟨-, hrefused, -⟩
  · exact Or.inr (Or.inr ⟨operation, hmem, hfault⟩)
  · rw [hpath] at hrefused
    cases hrefused

/-- The operations of opening, each with the failures it can have and what it leaves, where the
output directory can be given to the system. -/
theorem of_mem_openingActions (husable : Disk.isRefused l.config.outputDirectory = false)
    {operation : Disk.Action} (h : operation ∈ l.openingActions) :
    (∀ d e, e.isSystem = false → (operation d).1 = .error e → l.IsForeign d e) ∧
      ∀ d d', operation d = (.ok (), d') → d'.faults = d.faults := by
  have hreset : ∀ channel : Channel, operation ∈ l.resetActions channel →
      (∀ d e, e.isSystem = false → (operation d).1 = .error e → l.IsForeign d e) ∧
        ∀ d d', operation d = (.ok (), d') → d'.faults = d.faults := by
    intro channel hmem
    have hpath : Disk.isRefused (channel.path l) = false := by
      by_contra hrefused
      rw [Channel.isRefused_path (by simpa using hrefused)] at husable
      cases husable
    unfold resetActions at hmem
    split at hmem
    · rcases List.mem_cons.1 hmem with rfl | hmem
      · refine ⟨?_, fun _ _ => Disk.remove_faults⟩
        intro d e he herror
        exact isForeign_of_failsEarly ((Disk.remove_error_iff he).1 herror) (by simp) hpath
      · obtain rfl := List.mem_singleton.1 hmem
        refine ⟨?_, fun _ _ => Disk.writeText_faults⟩
        intro d e he herror
        rcases (Disk.writeText_error_iff he).1 herror with hearly | ⟨-, hcovers, rfl⟩
        · exact isForeign_of_failsEarly hearly (by simp) hpath
        · -- The columns are words of the program, so the delimiter alone can be at fault.
          refine Or.inr (Or.inl ⟨?_, channel, rfl⟩)
          by_contra hdelimiter
          rw [covers_heading (by simpa using hdelimiter) channel] at hcovers
          cases hcovers
    · cases hmem
  rcases List.mem_cons.1 h with rfl | h
  · refine ⟨?_, fun _ _ => Disk.makeDirectories_faults⟩
    intro d e he herror
    exact isForeign_of_failsEarly ((Disk.makeDirectories_error_iff he).1 herror) (by simp) husable
  · rcases List.mem_append.1 h with h | h
    · exact hreset .violations h
    · exact hreset .fixes h

/-- An output directory that is none stops the first operation. -/
theorem isForeign_of_isRefused (hrefused : Disk.isRefused l.config.outputDirectory = true)
    (he : e.isSystem = false) (h : Disk.FailsFirst l.openingActions d e) : l.IsForeign d e := by
  cases h with
  | here hop =>
      have herror := congrArg Prod.fst hop
      rcases (Disk.makeDirectories_error_iff he).1 herror with hfault | ⟨-, -, heq⟩
      · exact Or.inr (Or.inr ⟨.makeDirectories, by simp, hfault⟩)
      · exact Or.inl ⟨hrefused, heq⟩
  | later hop =>
      cases hfault : d.fault? .makeDirectories <;>
        simp [Disk.makeDirectories, hfault, hrefused] at hop

/-- A failure of opening that is not the system's is a foreign one from the start. -/
theorem isForeign_of_failsFirst (he : e.isSystem = false)
    (h : Disk.FailsFirst l.openingActions d e) : l.IsForeign d e := by
  by_cases hrefused : Disk.isRefused l.config.outputDirectory = true
  · exact isForeign_of_isRefused hrefused he h
  have husable : Disk.isRefused l.config.outputDirectory = false := by simpa using hrefused
  -- The failures asked for stay the same over the operations that succeed.
  have hall : ∀ {operations : List Disk.Action} {d : Disk} {e : DiskError},
      Disk.FailsFirst operations d e → (∀ operation ∈ operations, operation ∈ l.openingActions) →
        e.isSystem = false → l.IsForeign d e := by
    intro operations d e h
    induction h with
    | here hop =>
        intro hmem he
        exact (of_mem_openingActions husable (hmem _ List.mem_cons_self)).1 _ _ he (by rw [hop])
    | later hop _ ih =>
        intro hmem he
        have hfaults := (of_mem_openingActions husable (hmem _ List.mem_cons_self)).2 _ _ hop
        have hforeign := ih (fun operation h => hmem operation (List.mem_cons_of_mem _ h)) he
        simpa [IsForeign, Disk.fault?, hfaults] using hforeign
  exact hall h (fun _ h => h) he

end Ledgers

/-! ## Opening -/

namespace OpenError

variable {directory given : Text} {cause e : DiskError}

theorem ofDisk_eq_reset_iff : ofDisk given cause = reset directory e ↔
    directory = given ∧ e.isSystem = true ∧ cause = e := by
  unfold ofDisk
  constructor
  · intro h
    split at h
    · next hsystem =>
      cases h
      exact ⟨rfl, hsystem, rfl⟩
    · cases h
  · rintro ⟨rfl, he, rfl⟩
    rw [if_pos he]

theorem ofDisk_eq_raw_iff : ofDisk given cause = raw e ↔ e.isSystem = false ∧ cause = e := by
  unfold ofDisk
  constructor
  · intro h
    split at h
    · cases h
    · next hsystem =>
      cases h
      exact ⟨by simpa using hsystem, rfl⟩
  · rintro ⟨he, rfl⟩
    rw [if_neg (by simp [he])]

end OpenError

namespace Ledgers

variable {config : Config} {delimiter : Text} {run : Run}

/-- Opening ends as its operations do: with the first failure among them, if one fails. -/
theorem fst_open? (config : Config) (delimiter : Text) (run : Run) :
    (open? config delimiter run).1 =
      match (Disk.inTurn (openingActions ⟨config, delimiter⟩) run.disk).1 with
      | .ok () => .ok ⟨config, delimiter⟩
      | .error e => .error (.ofDisk config.outputDirectory e) := by
  rw [← prepare_eq_inTurn]
  unfold open?
  dsimp only
  cases hprepare : prepare ⟨config, delimiter⟩ run with
  | mk result after => cases result <;> rfl

theorem disk_open? (config : Config) (delimiter : Text) (run : Run) :
    (open? config delimiter run).2.disk =
      (Disk.inTurn (openingActions ⟨config, delimiter⟩) run.disk).2 := by
  rw [← prepare_eq_inTurn]
  unfold open?
  dsimp only
  cases hprepare : prepare ⟨config, delimiter⟩ run with
  | mk result after => cases result <;> rfl

theorem open?_ok_iff {l : Ledgers} : (open? config delimiter run).1 = .ok l ↔
    l = ⟨config, delimiter⟩ ∧
      ∀ e, ¬ Disk.FailsFirst (openingActions ⟨config, delimiter⟩) run.disk e := by
  simp only [fst_open?, ← Disk.inTurn_error_iff]
  cases (Disk.inTurn (openingActions ⟨config, delimiter⟩) run.disk).1 with
  | ok _ => simp [eq_comm]
  | error e => simp

theorem open?_reset_iff {directory : Text} {e : DiskError} :
    (open? config delimiter run).1 = .error (.reset directory e) ↔
      directory = config.outputDirectory ∧ e.isSystem = true ∧
        Disk.FailsFirst (openingActions ⟨config, delimiter⟩) run.disk e := by
  simp only [fst_open?, ← Disk.inTurn_error_iff]
  cases (Disk.inTurn (openingActions ⟨config, delimiter⟩) run.disk).1 with
  | ok _ => simp
  | error cause => simp [OpenError.ofDisk_eq_reset_iff]

theorem open?_raw_iff {e : DiskError} :
    (open? config delimiter run).1 = .error (.raw e) ↔ e.isSystem = false ∧
      Disk.FailsFirst (openingActions ⟨config, delimiter⟩) run.disk e := by
  simp only [fst_open?, ← Disk.inTurn_error_iff]
  cases (Disk.inTurn (openingActions ⟨config, delimiter⟩) run.disk).1 with
  | ok _ => simp
  | error cause => simp [OpenError.ofDisk_eq_raw_iff]

end Ledgers

/-! ## Writing a configuration -/

namespace Draft

variable {draft : Draft} {path : Text} {noted : Bool} {run : Run}

/-- The notice of a configuration that could not be written. -/
def writeNotice (path : Text) (e : DiskError) : Notice :=
  ⟨.error, "Error happened in writing config at " ++ path ++ ": " ++ e.message⟩

/-- What is given back and noted goes by what the disk answers. -/
theorem write_of_isShort (h : Text.IsShort draft.paramIndex) (path : Text) (noted : Bool)
    (run : Run) :
    let attempt := run.disk.writeText path (draft.toJson ++ "\n") .utf8
    draft.write path noted run =
      match attempt.1 with
      | .ok () => (.ok true, ⟨attempt.2, run.notices⟩)
      | .error e =>
          if e.isSystem then
            (.ok false, ⟨attempt.2, run.notices ++ if noted then [writeNotice path e] else []⟩)
          else (.error (.disk e), ⟨attempt.2, run.notices⟩) := by
  intro attempt
  rw [write, if_pos h]
  unfold Run.act
  cases hwrite : run.disk.writeText path (draft.toJson ++ "\n") .utf8 with
  | mk result after =>
      cases result with
      | ok _ => simp [attempt, hwrite]
      | error e => cases noted <;> simp [attempt, hwrite, writeNotice, Run.note]

/-- An index without a text ends the writing before the file is looked at. -/
theorem write_of_not_isShort (h : ¬ Text.IsShort draft.paramIndex) (path : Text) (noted : Bool)
    (run : Run) : draft.write path noted run = (.error .integerTooLong, run) := by
  rw [write, if_neg h]

theorem isShort_of_write {wrote : Bool} (h : (draft.write path noted run).1 = .ok wrote) :
    Text.IsShort draft.paramIndex := by
  by_contra hlong
  rw [write_of_not_isShort hlong] at h
  cases h

theorem writeText_of_write_true (h : (draft.write path noted run).1 = .ok true) :
    ∃ after, run.disk.writeText path (draft.toJson ++ "\n") .utf8 = (.ok (), after) ∧
      (draft.write path noted run).2 = ⟨after, run.notices⟩ := by
  have hshort := isShort_of_write h
  rw [write_of_isShort hshort] at h ⊢
  cases hwrite : run.disk.writeText path (draft.toJson ++ "\n") .utf8 with
  | mk result after =>
      cases result with
      | ok _ => exact ⟨after, rfl, by simp⟩
      | error e =>
          simp only [hwrite] at h
          split at h <;> simp at h

theorem of_write_true (h : (draft.write path noted run).1 = .ok true) :
    (draft.write path noted run).2.notices = run.notices ∧
      (draft.write path noted run).2.disk.readBytes (Path.parse path) =
        .ok (draft.toJson ++ "\n").toUTF8 := by
  rcases writeText_of_write_true h with ⟨after, hwrite, hrun⟩
  rw [hrun]
  exact ⟨rfl, (Disk.writeText_ok hwrite).2.2.2⟩

theorem of_write_false (h : (draft.write path noted run).1 = .ok false) :
    ∃ e : DiskError, e.isSystem = true ∧ (draft.write path noted run).2.notices =
      run.notices ++ if noted then [writeNotice path e] else [] := by
  have hshort := isShort_of_write h
  rw [write_of_isShort hshort] at h ⊢
  cases hwrite : run.disk.writeText path (draft.toJson ++ "\n") .utf8 with
  | mk result after =>
      cases result with
      | ok _ => simp [hwrite] at h
      | error e =>
          simp only [hwrite] at h
          split at h
          · next hsystem => exact ⟨e, hsystem, by simp [hsystem]⟩
          · simp at h

/-- Whatever the texts of a configuration are, its document has its bytes, so that writing them
fails early or not at all. -/
theorem write_error_iff {e : Breakdown} : (draft.write path noted run).1 = .error e ↔
    ¬ Text.IsShort draft.paramIndex ∧ e = .integerTooLong ∨
      Text.IsShort draft.paramIndex ∧ ∃ cause : DiskError, e = .disk cause ∧
        cause.isSystem = false ∧ run.disk.FailsEarly .writeText path cause := by
  -- An index that is too long has no text, and then the disk is not asked at all.
  by_cases hshort : Text.IsShort draft.paramIndex
  · have hearly : ∀ cause : DiskError, cause.isSystem = false →
        ((run.disk.writeText path (draft.toJson ++ "\n") .utf8).1 = .error cause ↔
          run.disk.FailsEarly .writeText path cause) := by
      intro cause hcause
      rw [Disk.writeText_error_iff hcause, draft.covers_toJson]
      simp
    simp only [hshort, not_true_eq_false, false_and, false_or, true_and]
    rw [write_of_isShort hshort]
    constructor
    · intro h
      cases hwrite : (run.disk.writeText path (draft.toJson ++ "\n") .utf8).1 with
      | ok _ => simp [hwrite] at h
      | error cause =>
          cases hsystem : cause.isSystem with
          | true => simp [hwrite, hsystem] at h
          | false =>
              obtain rfl : Breakdown.disk cause = e := by simpa [hwrite, hsystem] using h
              exact ⟨cause, rfl, hsystem, (hearly cause hsystem).1 hwrite⟩
    · rintro ⟨cause, rfl, hcause, hfails⟩
      simp [(hearly cause hcause).2 hfails, hcause]
  · rw [write_of_not_isShort hshort]
    constructor
    · rintro ⟨rfl⟩
      exact Or.inl ⟨hshort, rfl⟩
    · rintro (⟨-, rfl⟩ | ⟨h, -⟩)
      · rfl
      · exact absurd h hshort

end Draft

/-! ## The two boundaries -/

/-- Opening succeeds unless an operation of it fails. The first failure becomes an error that names
the output directory if it is the system's, and comes through as it is if it is foreign. Writing a
configuration says whether it worked and notes a failure of the system; any other failure comes
through, as an index that is too long to be written does. -/
theorem open?_write_failures (config : Config) (delimiter : Text) (draft : Draft) (path : Text)
    (noted : Bool) (run : Run) :
    let l : Ledgers := ⟨config, delimiter⟩
    let opened := (Ledgers.open? config delimiter run).1
    let wrote := draft.write path noted run
    (∀ l', opened = .ok l' ↔ l' = l ∧ ∀ e, ¬ Disk.FailsFirst l.openingActions run.disk e) ∧
    (∀ directory e, opened = .error (.reset directory e) ↔ directory = config.outputDirectory ∧
      e.isSystem = true ∧ Disk.FailsFirst l.openingActions run.disk e) ∧
    (∀ e, opened = .error (.raw e) ↔
      e.isSystem = false ∧ Disk.FailsFirst l.openingActions run.disk e) ∧
    (∀ e, opened = .error (.raw e) → l.IsForeign run.disk e) ∧
    (wrote.1 = .ok true → wrote.2.notices = run.notices ∧
      wrote.2.disk.readBytes (Path.parse path) = .ok (draft.toJson ++ "\n").toUTF8) ∧
    (wrote.1 = .ok false → ∃ e : DiskError, e.isSystem = true ∧
      wrote.2.notices = run.notices ++ if noted then [Draft.writeNotice path e] else []) ∧
    ∀ e, wrote.1 = .error e ↔
      ¬ Text.IsShort draft.paramIndex ∧ e = .integerTooLong ∨
        Text.IsShort draft.paramIndex ∧ ∃ cause : DiskError, e = .disk cause ∧
          cause.isSystem = false ∧ run.disk.FailsEarly .writeText path cause := by
  intro l opened wrote
  refine ⟨fun _ => Ledgers.open?_ok_iff, fun _ _ => Ledgers.open?_reset_iff,
    fun _ => Ledgers.open?_raw_iff, ?_, Draft.of_write_true, Draft.of_write_false,
    fun _ => Draft.write_error_iff⟩
  -- A raw error has a cause outside of the ledgers, whichever operation it comes from.
  intro e hraw
  rcases Ledgers.open?_raw_iff.1 hraw with ⟨he, hfails⟩
  exact Ledgers.isForeign_of_failsFirst he hfails

/-- With a null character in the path, and with a failure asked for that is not the system's,
opening ends with an error of another kind, and writing does not say that it failed. -/
theorem open?_write_failures_escape :
    let config (directory : Text) : Config :=
      { Config.disabled with suggest := .shallow, outputDirectory := directory }
    let empty : Disk := ⟨FileTree.empty, [], []⟩
    let refusal := DiskError.injected false "denied"
    (Ledgers.open? (config "out\x00") "$*$" (Run.on empty)).1 = .error (.raw .nullInPath) ∧
    (Draft.blank.write "cfg\x00.json" true (Run.on empty)).1 = .error (.disk .nullInPath) ∧
    (∀ operation ∈ [DiskOperation.makeDirectories, .remove, .writeText],
      (Ledgers.open? (config "out") "$*$" (Run.on (empty.withFault operation refusal))).1 =
        .error (.raw refusal)) ∧
    (Draft.blank.write "cfg.json" true (Run.on (empty.withFault .writeText refusal))).1 =
      .error (.disk refusal) := by
  intro config empty refusal
  have hnull : Disk.FailsFirst (Ledgers.openingActions ⟨config "out\x00", "$*$"⟩) empty
      .nullInPath := Disk.inTurn_error_iff.1 (by decide +kernel)
  have hasked : ∀ operation ∈ [DiskOperation.makeDirectories, .remove, .writeText],
      Disk.FailsFirst (Ledgers.openingActions ⟨config "out", "$*$"⟩)
        (empty.withFault operation refusal) refusal := by
    simp only [← Disk.inTurn_error_iff]
    decide +kernel
  refine ⟨Ledgers.open?_raw_iff.2 ⟨rfl, hnull⟩, by decide +kernel, ?_, by decide +kernel⟩
  intro operation hmem
  exact Ledgers.open?_raw_iff.2 ⟨rfl, hasked operation hmem⟩

end Nullability
