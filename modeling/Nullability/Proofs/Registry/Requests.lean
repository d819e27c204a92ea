import Nullability.Proofs.Ledger.Session
import Nullability.Registry

/-!
# Services that are asked for

The first request that gets ledgers opens them; a request that cannot leaves nothing behind, and
once there are ledgers no request does anything to a file.

* `Registry.IsWired`: the explorer holds the advisor, which holds the ledgers, which are those of
  the configuration;
* `Registry.Retains`: what is registered stays registered;
* `Registry.Served`: the three ways in which a request can end;
* `served_request`: every request ends in one of them and keeps the services wired.
-/

namespace Nullability

/-! ## Services that hold each other -/

namespace Registry

/-- The services that need each other hold each other, and the ledgers are those of the
configuration. -/
structure IsWired (config : Config) (r : Registry) : Prop where
  ownConfig : ∃ id, r.config = .config id config
  ownDisk : ∃ id, r.disk = .disk id
  ownConsole : ∃ id, r.console = .console id
  ledgers : ∀ w, r.ledgers = some w → ∃ id, w = .ledgers id ⟨config, Ledgers.defaultDelimiter⟩
  advisor : ∀ a, r.advisor = some a →
    ∃ id w, r.ledgers = some w ∧ a = .advisor id r.config w r.console
  explorer : ∀ x, r.explorer = some x →
    ∃ id a, r.advisor = some a ∧ x = .explorer id a r.config r.sites r.index r.console

variable {config : Config} {r : Registry} {run : Run}

theorem isWired_ofConfig (config : Config) : (ofConfig config).IsWired config where
  ownConfig := ⟨0, rfl⟩
  ownDisk := ⟨2, rfl⟩
  ownConsole := ⟨1, rfl⟩
  ledgers w h := by cases h
  advisor a h := by cases h
  explorer x h := by cases h

namespace IsWired

theorem advisor_none (h : r.IsWired config) (hnone : r.ledgers = none) : r.advisor = none := by
  cases hadvisor : r.advisor with
  | none => rfl
  | some a =>
      rcases h.advisor a hadvisor with ⟨_, w, hledgers, -⟩
      rw [hnone] at hledgers
      cases hledgers

theorem explorer_none (h : r.IsWired config) (hnone : r.advisor = none) : r.explorer = none := by
  cases hexplorer : r.explorer with
  | none => rfl
  | some x =>
      rcases h.explorer x hexplorer with ⟨_, a, hadvisor, -⟩
      rw [hnone] at hadvisor
      cases hadvisor

theorem register_ledgers (h : r.IsWired config) (hnone : r.ledgers = none) :
    (r.register .ledgers (.ledgers · ⟨config, Ledgers.defaultDelimiter⟩)).2.IsWired config where
  ownConfig := h.ownConfig
  ownDisk := h.ownDisk
  ownConsole := h.ownConsole
  ledgers := by
    rintro w ⟨⟩
    exact ⟨_, rfl⟩
  advisor a ha := by
    have hadvisor : r.advisor = some a := ha
    rw [h.advisor_none hnone] at hadvisor
    cases hadvisor
  explorer x hx := by
    have hexplorer : r.explorer = some x := hx
    rw [h.explorer_none (h.advisor_none hnone)] at hexplorer
    cases hexplorer

theorem register_advisor (h : r.IsWired config) (hnone : r.advisor = none) {w : Service}
    (hw : r.ledgers = some w) :
    (r.register .advisor (.advisor · r.config w r.console)).2.IsWired config where
  ownConfig := h.ownConfig
  ownDisk := h.ownDisk
  ownConsole := h.ownConsole
  ledgers := h.ledgers
  advisor := by
    rintro a ⟨⟩
    exact ⟨_, w, hw, rfl⟩
  explorer x hx := by
    have hexplorer : r.explorer = some x := hx
    rw [h.explorer_none hnone] at hexplorer
    cases hexplorer

theorem register_explorer (h : r.IsWired config) {a : Service} (ha : r.advisor = some a) :
    (r.register .explorer (.explorer · a r.config r.sites r.index r.console)).2.IsWired
      config where
  ownConfig := h.ownConfig
  ownDisk := h.ownDisk
  ownConsole := h.ownConsole
  ledgers := h.ledgers
  advisor := h.advisor
  explorer := by
    rintro x ⟨⟩
    exact ⟨_, a, ha, rfl⟩

end IsWired

/-! ## Services that are made on demand -/

/-- The services that are made when they are first asked for. -/
inductive Made where
  | ledgers
  | advisor
  | explorer
  deriving DecidableEq, Repr

namespace Made

/-- What such a service is registered as. -/
def role : Made → Role
  | ledgers => .ledgers
  | advisor => .advisor
  | explorer => .explorer

/-- Such a service, if it is registered. -/
def service? (made : Made) (r : Registry) : Option Service :=
  match made with
  | ledgers => r.ledgers
  | advisor => r.advisor
  | explorer => r.explorer

/-- Asks for such a service. -/
def request (made : Made) (r : Registry) (run : Run) :
    Except ServiceError Service × Registry × Run :=
  match made with
  | ledgers => r.getLedgers run
  | advisor => r.getAdvisor run
  | explorer => r.getExplorer run

end Made

/-! ## What is registered stays registered -/

/-- Every service of the earlier registry is found in the later one. -/
def Retains (before after : Registry) : Prop :=
  ∀ role s, before.get? role = .ok s → after.get? role = .ok s

theorem Retains.refl (r : Registry) : r.Retains r :=
  fun _ _ h => h

theorem Retains.trans {r₁ r₂ : Registry} (h : r.Retains r₁) (h' : r₁.Retains r₂) : r.Retains r₂ :=
  fun role s hs => h' role s (h role s hs)

theorem retains_register (made : Made) (hfree : made.service? r = none) (make : Nat → Service) :
    r.Retains (r.register made.role make).2 := by
  intro role s hs
  -- Only the entry that was free changes, and nothing was found there before.
  cases made <;> cases role <;>
    first
      | exact hs
      | simp_all [Made.service?, get?, found]

theorem getLedgers_rest (r : Registry) (run : Run) :
    (r.getLedgers run).2.1.advisor = r.advisor ∧ (r.getLedgers run).2.1.explorer = r.explorer := by
  unfold getLedgers
  split
  · exact ⟨rfl, rfl⟩
  · split <;> exact ⟨rfl, rfl⟩

theorem getAdvisor_rest (r : Registry) (run : Run) :
    (r.getAdvisor run).2.1.explorer = r.explorer := by
  have hrest := (getLedgers_rest r run).2
  unfold getAdvisor
  split
  · rfl
  · rcases hget : r.getLedgers run with ⟨answer, r', run'⟩
    rw [hget] at hrest
    cases answer with
    | error e => exact hrest
    | ok w => exact hrest

theorem retains_getLedgers (r : Registry) (run : Run) : r.Retains (r.getLedgers run).2.1 := by
  unfold getLedgers
  cases hledgers : r.ledgers with
  | some w => exact .refl r
  | none =>
      rcases r.openLedgers run with ⟨answer, opened⟩
      cases answer with
      | error e => exact .refl r
      | ok l => exact retains_register .ledgers hledgers (.ledgers · l)

theorem retains_getAdvisor (r : Registry) (run : Run) : r.Retains (r.getAdvisor run).2.1 := by
  have hfirst := retains_getLedgers r run
  have hrest := (getLedgers_rest r run).1
  unfold getAdvisor
  cases hadvisor : r.advisor with
  | some a => exact .refl r
  | none =>
      rcases hget : r.getLedgers run with ⟨answer, r', run'⟩
      rw [hget] at hfirst hrest
      cases answer with
      | error e => exact hfirst
      | ok w =>
          exact hfirst.trans (retains_register .advisor (hrest.trans hadvisor)
            (.advisor · r'.config w r'.console))

theorem retains_getExplorer (r : Registry) (run : Run) : r.Retains (r.getExplorer run).2.1 := by
  have hfirst := retains_getAdvisor r run
  have hrest := getAdvisor_rest r run
  unfold getExplorer
  cases hexplorer : r.explorer with
  | some x => exact .refl r
  | none =>
      rcases hget : r.getAdvisor run with ⟨answer, r', run'⟩
      rw [hget] at hfirst hrest
      cases answer with
      | error e => exact hfirst
      | ok a =>
          exact hfirst.trans (retains_register .explorer (hrest.trans hexplorer)
            (.explorer · a r'.config r'.sites r'.index r'.console))

theorem retains_request (made : Made) (r : Registry) (run : Run) :
    r.Retains (made.request r run).2.1 := by
  cases made with
  | ledgers => exact retains_getLedgers r run
  | advisor => exact retains_getAdvisor r run
  | explorer => exact retains_getExplorer r run

/-! ## How a request ends -/

/-- The services and the run at some moment. -/
structure Moment where
  registry : Registry
  run : Run

/-- How a request for ledgers, or for something that holds ledgers, can end: it opens the ledgers
and they are there from then on; it fails to open them and nothing is registered; or the ledgers
are there already and no file is looked at. -/
inductive Served (config : Config) (made : Made) (before : Moment)
    (answer : Except ServiceError Service) (after : Moment) : Prop where
  | opened (id : Nat) (l : Ledgers) (service : Service) (hbefore : before.registry.ledgers = none)
      (hopen : Ledgers.open? config Ledgers.defaultDelimiter before.run = (.ok l, after.run))
      (hfresh : l.Holds before.run.disk after.run.disk fun _ => [])
      (hledgers : after.registry.ledgers = some (.ledgers id l))
      (hanswer : answer = .ok service) (hservice : after.registry.get? made.role = .ok service)
  | failed (cause : OpenError) (hbefore : before.registry.ledgers = none)
      (hopen : Ledgers.open? config Ledgers.defaultDelimiter before.run = (.error cause, after.run))
      (hregistry : after.registry = before.registry)
      (hledgers : after.registry.get? .ledgers = .error (.missing "Writer"))
      (hadvisor : after.registry.get? .advisor = .error (.missing "Fixer"))
      (hexplorer : after.registry.get? .explorer = .error (.missing "NullCheckExplorer"))
      (hanswer : answer = .error (.opening cause))
  | present (w service : Service) (hbefore : before.registry.ledgers = some w)
      (hrun : after.run = before.run) (hledgers : after.registry.ledgers = some w)
      (hanswer : answer = .ok service) (hservice : after.registry.get? made.role = .ok service)

theorem openLedgers_eq (h : r.IsWired config) (run : Run) :
    r.openLedgers run =
      match Ledgers.open? config Ledgers.defaultDelimiter run with
      | (.ok l, run) => (.ok l, run)
      | (.error e, run) => (.error (.opening e), run) := by
  rcases h.ownConfig with ⟨_, hconfig⟩
  rcases h.ownDisk with ⟨_, hdisk⟩
  rcases h.ownConsole with ⟨_, hconsole⟩
  rcases hopen : Ledgers.open? config Ledgers.defaultDelimiter run with ⟨answer, opened⟩
  cases answer <;> simp [openLedgers, hconfig, hdisk, hconsole, hopen]

theorem served_ledgers (h : r.IsWired config) (run : Run) :
    Served config .ledgers ⟨r, run⟩ (r.getLedgers run).1
        ⟨(r.getLedgers run).2.1, (r.getLedgers run).2.2⟩ ∧
      (r.getLedgers run).2.1.IsWired config := by
  cases hledgers : r.ledgers with
  | some w =>
      rw [getLedgers_of_some hledgers]
      exact ⟨.present w w hledgers rfl hledgers rfl (by simp [get?, Made.role, hledgers, found]), h⟩
  | none =>
      have hadvisor := h.advisor_none hledgers
      have hexplorer := h.explorer_none hadvisor
      rw [getLedgers, hledgers]
      simp only [openLedgers_eq h]
      cases hopen : Ledgers.open? config Ledgers.defaultDelimiter run with
      | mk result opened =>
          cases result with
          | error e =>
              exact ⟨.failed e hledgers hopen rfl (by simp [get?, hledgers, found])
                (by simp [get?, hadvisor, found]) (by simp [get?, hexplorer, found]) rfl, h⟩
          | ok l =>
              -- What is opened are the ledgers that the wiring asks for.
              obtain rfl := (Ledgers.open?_ok hopen).1
              exact ⟨.opened _ _ _ hledgers hopen (Ledgers.holds_of_open hopen) rfl rfl rfl,
                h.register_ledgers hledgers⟩

theorem eq_some_of_found {name : Text} {service? : Option Service} {s : Service}
    (h : found name service? = .ok s) : service? = some s := by
  cases service? with
  | none => cases h
  | some s' =>
      cases h
      rfl

namespace Served

variable {made other : Made} {before after : Moment} {s : Service}

/-- A request that failed to open the ledgers fails whatever they were needed for. -/
theorem of_error {e : ServiceError} (h : Served config made before (.error e) after) :
    Served config other before (.error e) after := by
  cases h with
  | opened _ _ _ _ _ _ _ hanswer _ => cases hanswer
  | failed cause hbefore hopen hregistry hledgers hadvisor hexplorer hanswer =>
      exact .failed cause hbefore hopen hregistry hledgers hadvisor hexplorer hanswer
  | present _ _ _ _ _ hanswer _ => cases hanswer

/-- What is made of a service that was served is served with it. -/
theorem of_ok (h : Served config made before (.ok s) after) (hother : other ≠ .ledgers)
    (make : Nat → Service) :
    let registered := after.registry.register other.role make
    Served config other before (.ok registered.1) ⟨registered.2, after.run⟩ := by
  have hkept : (after.registry.register other.role make).2.ledgers = after.registry.ledgers := by
    cases other <;> first | rfl | exact absurd rfl hother
  have hservice : (after.registry.register other.role make).2.get? other.role =
      .ok (after.registry.register other.role make).1 := by
    cases other <;> rfl
  cases h with
  | opened id l _ hbefore hopen hfresh hledgers _ _ =>
      exact .opened id l _ hbefore hopen hfresh (hkept.trans hledgers) rfl hservice
  | failed _ _ _ _ _ _ _ hanswer => cases hanswer
  | present w _ hbefore hrun hledgers _ _ =>
      exact .present w _ hbefore hrun (hkept.trans hledgers) rfl hservice

theorem get?_eq (h : Served config made before (.ok s) after) :
    after.registry.get? made.role = .ok s := by
  cases h with
  | opened _ _ _ _ _ _ _ hanswer hservice =>
      cases hanswer
      exact hservice
  | failed _ _ _ _ _ _ _ hanswer => cases hanswer
  | present _ _ _ _ _ hanswer hservice =>
      cases hanswer
      exact hservice

end Served

theorem served_advisor (h : r.IsWired config) (run : Run) :
    Served config .advisor ⟨r, run⟩ (r.getAdvisor run).1
        ⟨(r.getAdvisor run).2.1, (r.getAdvisor run).2.2⟩ ∧
      (r.getAdvisor run).2.1.IsWired config := by
  cases hadvisor : r.advisor with
  | some a =>
      rcases h.advisor a hadvisor with ⟨_, w, hledgers, -⟩
      rw [getAdvisor, hadvisor]
      exact ⟨.present w a hledgers rfl hledgers rfl (by simp [get?, Made.role, hadvisor, found]), h⟩
  | none =>
      rcases served_ledgers h run with ⟨hserved, hwired⟩
      have hfree := (getLedgers_rest r run).1.trans hadvisor
      rw [getAdvisor, hadvisor]
      rcases hget : r.getLedgers run with ⟨answer, r', run'⟩
      rw [hget] at hserved hwired hfree
      cases answer with
      | error e => exact ⟨hserved.of_error, hwired⟩
      | ok w =>
          exact ⟨hserved.of_ok (by decide) _,
            hwired.register_advisor hfree (eq_some_of_found hserved.get?_eq)⟩

theorem served_explorer (h : r.IsWired config) (run : Run) :
    Served config .explorer ⟨r, run⟩ (r.getExplorer run).1
        ⟨(r.getExplorer run).2.1, (r.getExplorer run).2.2⟩ ∧
      (r.getExplorer run).2.1.IsWired config := by
  cases hexplorer : r.explorer with
  | some x =>
      rcases h.explorer x hexplorer with ⟨_, a, hadvisor, -⟩
      rcases h.advisor a hadvisor with ⟨_, w, hledgers, -⟩
      rw [getExplorer, hexplorer]
      exact ⟨.present w x hledgers rfl hledgers rfl
        (by simp [get?, Made.role, hexplorer, found]), h⟩
  | none =>
      rcases served_advisor h run with ⟨hserved, hwired⟩
      rw [getExplorer, hexplorer]
      rcases hget : r.getAdvisor run with ⟨answer, r', run'⟩
      rw [hget] at hserved hwired
      cases answer with
      | error e => exact ⟨hserved.of_error, hwired⟩
      | ok a =>
          exact ⟨hserved.of_ok (by decide) _,
            hwired.register_explorer (eq_some_of_found hserved.get?_eq)⟩

theorem served_request (h : r.IsWired config) (made : Made) (run : Run) :
    Served config made ⟨r, run⟩ (made.request r run).1
        ⟨(made.request r run).2.1, (made.request r run).2.2⟩ ∧
      (made.request r run).2.1.IsWired config := by
  cases made with
  | ledgers => exact served_ledgers h run
  | advisor => exact served_advisor h run
  | explorer => exact served_explorer h run

end Registry
end Nullability
