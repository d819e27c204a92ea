import Nullability.Proofs.Disk.Writing

/-!
# Why file operations fail

Most failures are the system's: the path leads nowhere, or to the wrong kind of entry. The others
come before the system is asked for anything.

* `Disk.FailsEarly`: a failure was asked for on the operation, or the text cannot be a path;
* `makeDirectories_error_iff`, `remove_error_iff`, `writeText_error_iff`: the failures of the
  operations that are not the system's are the early ones, and those of a text without bytes;
* `remove_error`: a removal that fails leaves everything as it was;
* `Disk.FailsFirst` is the failure that stops some operations done one after the other, and
  `inTurn_error_iff` says that `Disk.inTurn` ends with it;
* `inTurn_keeps`: what each of the operations keeps is kept by all of them.
-/

namespace Nullability
namespace Disk

variable {d d' : Disk} {path : Text} {e : DiskError}

/-! ## Failures that are not the system's -/

/-- The operation fails before the system is asked. -/
def FailsEarly (d : Disk) (operation : DiskOperation) (path : Text) (e : DiskError) : Prop :=
  d.fault? operation = some e ∨
    d.fault? operation = none ∧ isRefused path = true ∧ e = refusal (Path.parse path).render

theorem failsEarly_of_fault {operation : DiskOperation} {e' : DiskError}
    (h : d.fault? operation = some e') : d.FailsEarly operation path e ↔ e' = e := by
  simp [FailsEarly, h]

theorem failsEarly_of_refused {operation : DiskOperation} (h : d.fault? operation = none)
    (hrefused : isRefused path = true) :
    d.FailsEarly operation path e ↔ e = refusal (Path.parse path).render := by
  simp [FailsEarly, h, hrefused]

theorem not_failsEarly {operation : DiskOperation} (h : d.fault? operation = none)
    (hnull : isRefused path = false) : ¬ d.FailsEarly operation path e := by
  simp [FailsEarly, h, hnull]

theorem ne_system (he : e.isSystem = false) (cause : SystemError) (text : Text) :
    DiskError.system cause text ≠ e := by
  rintro rfl
  cases he

theorem writeText_error_iff_of_not_isOpenTo {s : Text} (he : e.isSystem = false)
    (hclosed : ¬ d.IsOpenTo .writeText path) :
    (d.writeText path s .utf8).1 = .error e ↔ d.FailsEarly .writeText path e := by
  unfold writeText
  cases hfault : d.fault? .writeText with
  | some e' => simp [failsEarly_of_fault hfault]
  | none =>
      cases hnull : isRefused path with
      | true => simp [failsEarly_of_refused hfault hnull, eq_comm]
      | false =>
          -- From here on only the system is left to refuse.
          simp only [not_failsEarly hfault hnull, Bool.false_eq_true, if_false, iff_false]
          cases hlocate : d.locate (Path.parse path) with
          | error cause => simp [Except.bind, ne_system he]
          | ok q =>
              obtain rfl : q = d.placeOf path := locate_eq_ofPath hlocate
              have hentry : d.tree.at? (d.placeOf path) = some .directory := by
                by_contra hentry
                exact hclosed ⟨hfault, hnull, hlocate, hentry⟩
              simp [Except.bind, Except.map, openFile, hentry, ne_system he]

/-- Writing a text fails early, or because the encoding does not cover the text. -/
theorem writeText_error_iff {s : Text} (he : e.isSystem = false) :
    (d.writeText path s .utf8).1 = .error e ↔ d.FailsEarly .writeText path e ∨
      d.IsOpenTo .writeText path ∧ Encoding.utf8.covers s = false ∧
        e = .unencodable (Encoding.utf8.complaint s) := by
  rcases writeText_cases d path s with
    ⟨hopen, hcovers, hwrite⟩ | ⟨hopen, hcovers, hwrite⟩ | ⟨hclosed, e', hwrite⟩
  · simp [hwrite, hcovers, not_failsEarly hopen.fault hopen.usable]
  · simp [hwrite, hcovers, hopen, not_failsEarly hopen.fault hopen.usable, eq_comm]
  · simp only [hclosed, false_and, or_false]
    exact writeText_error_iff_of_not_isOpenTo he hclosed

theorem delete_error_iff (he : e.isSystem = false) :
    (d.delete path).1 = .error e ↔
      isRefused path = true ∧ e = refusal (Path.parse path).render := by
  unfold delete
  cases hnull : isRefused path with
  | true => simp [eq_comm]
  | false =>
      cases hleft : d.withoutFile (Path.parse path) with
      | ok tree => simp [leave]
      | error cause => simp [leave, ne_system he]

theorem remove_error_iff (he : e.isSystem = false) :
    (d.remove path).1 = .error e ↔ d.FailsEarly .remove path e := by
  unfold remove
  cases hfault : d.fault? .remove with
  | some e' => simp [failsEarly_of_fault hfault]
  | none =>
      have hdelete : (d.delete path).1 = .error e ↔ d.FailsEarly .remove path e := by
        simp [delete_error_iff he, FailsEarly, hfault]
      dsimp only
      rw [← hdelete]
      split
      · next text after hmissing =>
        have hother := ne_system he .notFound text
        simp [hmissing, hother]
      · rfl

theorem makeDirectories_error_iff {existing : Bool} (he : e.isSystem = false) :
    (d.makeDirectories path existing).1 = .error e ↔ d.FailsEarly .makeDirectories path e := by
  unfold makeDirectories
  cases hfault : d.fault? .makeDirectories with
  | some e' => simp [failsEarly_of_fault hfault]
  | none =>
      cases hnull : isRefused path with
      | true => simp [failsEarly_of_refused hfault hnull, eq_comm]
      | false =>
          simp only [not_failsEarly hfault hnull, Bool.false_eq_true, if_false, iff_false]
          split
          · simp [ne_system he]
          · split <;> simp [ne_system he]

/-! ## What a failure leaves -/

theorem delete_error (h : d.delete path = (.error e, d')) : d' = d := by
  unfold delete at h
  split at h
  · cases h
    rfl
  · cases hleft : d.withoutFile (Path.parse path) with
    | ok tree => simp [hleft, leave] at h
    | error cause =>
        rw [hleft] at h
        cases h
        rfl

/-- A file that cannot be removed stays, and so does everything else. -/
theorem remove_error (h : d.remove path = (.error e, d')) : d' = d := by
  unfold remove at h
  cases hfault : d.fault? .remove with
  | some e' =>
      rw [hfault] at h
      cases h
      rfl
  | none =>
      simp only [hfault] at h
      split at h
      · cases h
      · exact delete_error h

/-! ## Failures asked for -/

theorem fault?_of_remove (h : d.remove path = (.ok (), d')) : d.fault? .remove = none := by
  cases hfault : d.fault? .remove with
  | none => rfl
  | some e' => simp [remove, hfault] at h

theorem fault?_of_writeText {s : Text} (h : d.writeText path s .utf8 = (.ok (), d')) :
    d.fault? .writeText = none := by
  cases hfault : d.fault? .writeText with
  | none => rfl
  | some e' => simp [writeText, hfault] at h

theorem remove_faults (h : d.remove path = (.ok (), d')) : d'.faults = d.faults := by
  rcases remove_ok h with rfl | halters
  · rfl
  · exact halters.faults

theorem writeText_faults {s : Text} (h : d.writeText path s .utf8 = (.ok (), d')) :
    d'.faults = d.faults :=
  (writeText_ok h).2.2.1.faults

theorem makeDirectories_faults {existing : Bool}
    (h : d.makeDirectories path existing = (.ok (), d')) : d'.faults = d.faults := by
  have hadds := makeDirectories_adds d path existing
  rw [h] at hadds
  exact hadds.faults

/-! ## One operation after the other -/

/-- An operation without a result of its own. -/
abbrev Action := Disk → Except DiskError Unit × Disk

/-- Does operations one after the other until one fails. -/
def inTurn : List Action → Action
  | [], d => (.ok (), d)
  | operation :: rest, d =>
      match operation d with
      | (.error e, d) => (.error e, d)
      | (.ok (), d) => inTurn rest d

/-- One of the operations fails, after all before it have succeeded. -/
inductive FailsFirst : List Action → Disk → DiskError → Prop where
  | here {operation : Action} {rest : List Action} {d d' : Disk} {e : DiskError}
      (h : operation d = (.error e, d')) : FailsFirst (operation :: rest) d e
  | later {operation : Action} {rest : List Action} {d d' : Disk} {e : DiskError}
      (h : operation d = (.ok (), d')) (hrest : FailsFirst rest d' e) :
      FailsFirst (operation :: rest) d e

theorem inTurn_append (first second : List Action) (d : Disk) :
    inTurn (first ++ second) d =
      match inTurn first d with
      | (.error e, d) => (.error e, d)
      | (.ok (), d) => inTurn second d := by
  induction first generalizing d with
  | nil => rfl
  | cons operation rest ih =>
      cases hop : operation d with
      | mk result after =>
          cases result with
          | error e => simp [inTurn, hop]
          | ok _ => simpa [inTurn, hop] using ih after

theorem inTurn_error_iff {operations : List Action} :
    (inTurn operations d).1 = .error e ↔ FailsFirst operations d e := by
  constructor
  · intro h
    induction operations generalizing d with
    | nil => cases h
    | cons operation rest ih =>
        cases hop : operation d with
        | mk result after =>
            cases result with
            | error e' =>
                obtain rfl : e' = e := by simpa [inTurn, hop] using h
                exact .here hop
            | ok _ => exact .later hop (ih (by simpa [inTurn, hop] using h))
  · intro h
    induction h with
    | here hop => simp [inTurn, hop]
    | later hop _ ih => simpa [inTurn, hop] using ih

section Keeping

variable {R : Disk → Disk → Prop} {operations : List Action} (refl : ∀ d, R d d)
  (trans : ∀ {d₁ d₂ d₃}, R d₁ d₂ → R d₂ d₃ → R d₁ d₃)
  (steps : ∀ operation ∈ operations, ∀ d, R d (operation d).2)

include refl trans steps

/-- What each operation keeps is kept by all of them, wherever they end. -/
theorem inTurn_keeps (d : Disk) : R d (inTurn operations d).2 := by
  induction operations generalizing d with
  | nil => exact refl d
  | cons operation rest ih =>
      have hfirst := steps operation List.mem_cons_self d
      have hrest := ih fun other hother => steps other (List.mem_cons_of_mem _ hother)
      cases hop : operation d with
      | mk result after =>
          rw [hop] at hfirst
          cases result with
          | error e => simpa [inTurn, hop] using hfirst
          | ok _ => simpa [inTurn, hop] using trans hfirst (hrest after)

/-- Where all operations succeed, each does so on a disk that the ones before it have left. -/
theorem exists_of_inTurn_ok (h : inTurn operations d = (.ok (), d')) {operation : Action}
    (hmem : operation ∈ operations) : ∃ d₁ d₂, R d d₁ ∧ operation d₁ = (.ok (), d₂) := by
  induction operations generalizing d with
  | nil => cases hmem
  | cons first rest ih =>
      have hfirst := steps first List.mem_cons_self d
      cases hop : first d with
      | mk result after =>
          rw [hop] at hfirst
          cases result with
          | error e => simp [inTurn, hop] at h
          | ok _ =>
              rcases List.mem_cons.1 hmem with rfl | hmem
              · exact ⟨d, after, refl d, hop⟩
              · have hrest : inTurn rest after = (.ok (), d') := by simpa [inTurn, hop] using h
                rcases ih (fun other hother => steps other (List.mem_cons_of_mem _ hother)) hrest
                  hmem with ⟨d₁, d₂, hkept, hlater⟩
                exact ⟨d₁, d₂, trans hfirst hkept, hlater⟩

end Keeping

end Disk
end Nullability
