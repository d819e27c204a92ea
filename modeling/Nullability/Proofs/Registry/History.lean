import Nullability.Proofs.Ledger.Growth
import Nullability.Proofs.Registry.Requests

/-!
# Histories of services

Requests in any order, reports to the advisor and failures of the disk: the first request that
succeeds opens the ledgers, no other one does, and what was recorded since then stays.

* `Ledgers.Extends`: ledgers are read as before, followed by some records;
* `Registry.Event` and `Registry.Moment.perform`: what can happen, and what it does;
* `Registry.Step.IsSound`: what one event comes to;
* `requests_sound`: every step of a history, and the history as a whole.
-/

namespace Nullability

/-! ## What stays in ledgers -/

namespace Ledgers

variable {l : Ledgers} {records records' : Channel → List Record} {d d₁ d₂ : Disk} {run run' : Run}

/-- Every ledger that is kept is read as before, followed by some of the records in their order. -/
def Extends (l : Ledgers) (records : Channel → List Record) (before after : Disk) : Prop :=
  ∀ channel : Channel, channel.isKept l.config = true → ∀ old,
    before.readBytes (channel.joined l) = .ok old → ∃ added, added.Sublist (records channel) ∧
      after.readBytes (channel.joined l) = .ok (old ++ (l.lines added).toUTF8)

namespace Extends

theorem refl (l : Ledgers) (records : Channel → List Record) (d : Disk) :
    l.Extends records d d := by
  intro channel _ old hold
  refine ⟨[], List.nil_sublist _, ?_⟩
  simpa [lines, Text.join] using hold

theorem trans (h : l.Extends records d d₁) (h' : l.Extends records' d₁ d₂) :
    l.Extends (fun channel => records channel ++ records' channel) d d₂ := by
  intro channel hkept old hold
  rcases h channel hkept old hold with ⟨first, hfirst, hread⟩
  rcases h' channel hkept _ hread with ⟨second, hsecond, hread'⟩
  refine ⟨first ++ second, hfirst.append hsecond, ?_⟩
  rw [hread', lines_append, ByteArray.append_assoc]
  simp

theorem mono (h : l.Extends records d d₁)
    (hrecords : ∀ channel, (records channel).Sublist (records' channel)) :
    l.Extends records' d d₁ := by
  intro channel hkept old hold
  rcases h channel hkept old hold with ⟨added, hadded, hread⟩
  exact ⟨added, hadded.trans (hrecords channel), hread⟩

theorem of_readBytes (h : ∀ path, d₁.readBytes path = d.readBytes path) :
    l.Extends records d d₁ := by
  intro channel hkept old hold
  rw [← h] at hold
  exact refl l records d₁ channel hkept old hold

end Extends

theorem extends_of_gains {channel : Channel} {rs : List Record}
    (h : Disk.Gains (d.placeOf (channel.path l)) (l.lines rs).toUTF8 d d₁) :
    l.Extends (fun other => if other = channel then rs else []) d d₁ := by
  intro other _ old hold
  by_cases hsame : other = channel
  · subst hsame
    rcases Disk.readBytes_eq_ok_iff.1 hold with ⟨hlocate, hentry⟩
    have hcontent : d.tree.contentAt (d.placeOf (other.path l)) = old := by
      simp [FileTree.contentAt, FileTree.file?, Disk.placeOf, Channel.parse_path, hentry]
    refine ⟨rs, by simp, Disk.readBytes_eq_ok_iff.2 ?_⟩
    have hplace : Place.ofPath d₁.here (other.joined l) = d.placeOf (other.path l) := by
      rw [h.here, Disk.placeOf, Channel.parse_path]
    rw [hplace, h.content, hcontent]
    refine ⟨?_, rfl⟩
    rw [Disk.placeOf, Channel.parse_path]
    exact h.toAltersFile.locate hlocate
  · refine ⟨[], by simp, ?_⟩
    -- Different ledgers stand at different places, so that a line of one is none of the other.
    have hne : Place.ofPath d.here (other.joined l) ≠ d.placeOf (channel.path l) := by
      intro hplaces
      rw [← Channel.parse_path] at hplaces
      exact hsame (Channel.placeOf_path_injective hplaces)
    simpa [lines, Text.join] using h.toAltersFile.readBytes hne hold

theorem extends_of_keeps {channel : Channel} {r : Record}
    (h : l.Keeps channel r (run.disk.placeOf (channel.path l)) run run') :
    l.Extends (fun other => if other = channel then [r] else []) run.disk run'.disk := by
  cases h with
  | unkept _ hsame => rw [hsame]; exact .refl l _ _
  | added _ _ _ hdisk _ => exact extends_of_gains (by simpa [lines, Text.join] using hdisk)
  | uncovered _ _ _ hdisk _ =>
      -- Nothing behind the old content is nothing of the record.
      have hnothing : l.Extends (fun other => if other = channel then [] else []) run.disk
          run'.disk := extends_of_gains (by simpa [lines, Text.join] using hdisk)
      exact hnothing.mono fun other => by split <;> simp
  | refused _ _ _ hdisk _ => rw [hdisk]; exact .refl l _ _

theorem extends_of_concludes {v : Violation}
    (h : l.Concludes v (run.disk.placeOf (Channel.fixes.path l)) run run') :
    l.Extends (fun channel => Call.records l.config channel (.fix v)) run.disk run'.disk := by
  cases h with
  | failed _ _ hsame => rw [hsame]; exact .refl l _ _
  | nothing _ hnote => rw [hnote]; exact .refl l _ _
  | fixed f kept hanswer hkeeps hnote =>
      have hrecords : (fun channel => Call.records l.config channel (.fix v)) =
          fun other => if other = Channel.fixes then [f.record] else [] := by
        funext channel
        cases channel <;> simp [Call.records, Call.decided, hanswer]
      have hdisk : (kept.note .debug (fixNotice f)).disk = kept.disk := rfl
      rw [hnote, hdisk, hrecords]
      exact extends_of_keeps hkeeps

end Ledgers

/-! ## Events -/

/-- The ledgers that an advisor records in. -/
def Service.recordsIn? : Service → Option Ledgers
  | .advisor _ _ (.ledgers _ l) _ => some l
  | _ => none

namespace Registry

variable {config : Config}

/-- What can happen to the services of a run: a request for one that is made when it is first asked
for, a look at what is registered, a violation that is reported to the registered advisor, and
failures of the disk that are asked for or taken back. -/
inductive Event where
  | request (made : Made)
  | look (role : Role)
  | report (v : Violation)
  | fail (operation : DiskOperation) (e : DiskError)
  | clear

/-- What an event may add to a ledger that is kept. -/
def Event.records (config : Config) (channel : Channel) : Event → List Record
  | .report v => Call.records config channel (.report v)
  | _ => []

namespace Moment

/-- The ledgers that the registered advisor records in. -/
def advised? (m : Moment) : Option Ledgers :=
  m.registry.advisor.bind Service.recordsIn?

/-- The answer to an event, if a service was asked for, and the moment after it. -/
def perform (m : Moment) : Event → Option (Except ServiceError Service) × Moment
  | .request made =>
      (some (made.request m.registry m.run).1,
        ⟨(made.request m.registry m.run).2.1, (made.request m.registry m.run).2.2⟩)
  | .look role => (some (m.registry.get? role), m)
  | .report v =>
      match m.advised? with
      | none => (none, m)
      | some l => (none, ⟨m.registry, (l.report v m.run).2⟩)
  | .fail operation e =>
      (none, ⟨m.registry, { m.run with disk := m.run.disk.withFault operation e }⟩)
  | .clear => (none, ⟨m.registry, { m.run with disk := { m.run.disk with faults := [] } }⟩)

/-- The moment after some events. -/
def after (m : Moment) (events : List Event) : Moment :=
  events.foldl (fun m event => (m.perform event).2) m

end Moment

/-- One event with the moment before it, the answer to it and the moment after it. -/
structure Step where
  event : Event
  before : Moment
  answer : Option (Except ServiceError Service)
  after : Moment

namespace Step

/-- What one event comes to. Only a request may open ledgers, and only a report may add to them. -/
def IsSound (config : Config) (s : Step) : Prop :=
  s.before.registry.IsWired config ∧ s.after.registry.IsWired config ∧
    match s.event with
    | .request made => ∃ answer, s.answer = some answer ∧ Served config made s.before answer s.after
    | .look role => s.answer = some (s.before.registry.get? role) ∧ s.after = s.before
    | .report v => s.after.registry = s.before.registry ∧
        match s.before.advised? with
        | none => s.after.run = s.before.run
        | some l => ∃ reported,
            l.Keeps .violations (v.record l.config.logErrors.isDeep)
              (s.before.run.disk.placeOf (Channel.violations.path l)) s.before.run reported ∧
            l.Concludes v (reported.disk.placeOf (Channel.fixes.path l)) reported s.after.run
    | .fail _ _ | .clear => s.after.registry = s.before.registry ∧
        s.after.run.disk.tree = s.before.run.disk.tree ∧ s.after.run.notices = s.before.run.notices

/-- A request that gives a service. -/
def Succeeds (s : Step) : Prop :=
  ∃ made service, s.event = .request made ∧ s.answer = some (.ok service)

/-- Whether there are ledgers after the step and were none before it. -/
def opens (s : Step) : Bool :=
  s.before.registry.ledgers.isNone && s.after.registry.ledgers.isSome

end Step

/-- An event as a step. -/
def Moment.step (m : Moment) (event : Event) : Step :=
  ⟨event, m, (m.perform event).1, (m.perform event).2⟩

/-- The steps of some events, one after the other. -/
def history : List Event → Moment → List Step
  | [], _ => []
  | event :: rest, m => m.step event :: history rest (m.perform event).2

variable {m : Moment}

theorem isSound_perform (h : m.registry.IsWired config) (event : Event) :
    (m.step event).IsSound config := by
  cases event with
  | request made =>
      rcases served_request h made m.run with ⟨hserved, hwired⟩
      exact ⟨h, hwired, _, rfl, hserved⟩
  | look role => exact ⟨h, h, rfl, rfl⟩
  | report v =>
      unfold Step.IsSound Moment.step Moment.perform
      cases hadvised : m.advised? with
      | none => exact ⟨h, h, rfl, by simp⟩
      | some l =>
          refine ⟨h, h, rfl, ?_⟩
          -- A report is the saving of the violation and, after that, the decision about its fix.
          simpa [hadvised] using Ledgers.keeps_concludes_report l v m.run
  | fail operation e => exact ⟨h, h, rfl, rfl, rfl⟩
  | clear => exact ⟨h, h, rfl, rfl, rfl⟩

theorem isWired_after (h : m.registry.IsWired config) (events : List Event) :
    (m.after events).registry.IsWired config := by
  induction events generalizing m with
  | nil => exact h
  | cons event rest ih => exact ih (isSound_perform h event).2.1

theorem isSound_of_mem_history (h : m.registry.IsWired config) (events : List Event) :
    ∀ step ∈ history events m, step.IsSound config := by
  induction events generalizing m with
  | nil =>
      intro step hstep
      cases hstep
  | cons event rest ih =>
      have hsound := isSound_perform h event
      intro step hstep
      rcases List.mem_cons.1 hstep with rfl | hrest
      · exact hsound
      · exact ih hsound.2.1 step hrest

theorem retains_perform (m : Moment) (event : Event) :
    m.registry.Retains (m.perform event).2.registry := by
  cases event with
  | request made => exact retains_request made m.registry m.run
  | report v =>
      unfold Moment.perform
      cases m.advised? <;> exact .refl _
  | look _ | fail _ _ | clear => exact .refl _

theorem retains_after (m : Moment) (events : List Event) :
    m.registry.Retains (m.after events).registry := by
  induction events generalizing m with
  | nil => exact .refl _
  | cons event rest ih => exact (retains_perform m event).trans (ih _)

/-! ## Before the first request -/

theorem registry_perform {event : Event} (hevent : ∀ made, event ≠ .request made) :
    (m.perform event).2.registry = m.registry := by
  cases event with
  | request made => exact absurd rfl (hevent made)
  | report v =>
      unfold Moment.perform
      cases m.advised? <;> rfl
  | look _ | fail _ _ | clear => rfl

/-- Without an advisor nothing but a request does anything to a file. -/
theorem tree_perform {event : Event} (hevent : ∀ made, event ≠ .request made)
    (hfree : m.registry.advisor = none) : (m.perform event).2.run.disk.tree = m.run.disk.tree := by
  cases event with
  | request made => exact absurd rfl (hevent made)
  | report v => simp [Moment.perform, Moment.advised?, hfree]
  | look _ | fail _ _ | clear => rfl

theorem tree_after {events : List Event} (hevents : ∀ made, .request made ∉ events)
    (hfree : m.registry.advisor = none) : (m.after events).run.disk.tree = m.run.disk.tree := by
  induction events generalizing m with
  | nil => rfl
  | cons event rest ih =>
      have hevent : ∀ made, event ≠ .request made := by
        rintro made rfl
        exact hevents made List.mem_cons_self
      have hrest := ih (m := (m.perform event).2)
        (fun made hmade => hevents made (List.mem_cons_of_mem _ hmade))
        (by rw [registry_perform hevent, hfree])
      exact hrest.trans (tree_perform hevent hfree)

/-! ## The request that opens the ledgers -/

theorem not_succeeds {event : Event} (hevent : ∀ made, event ≠ .request made) :
    ¬ (m.step event).Succeeds := by
  rintro ⟨made, _, hrequest, -⟩
  exact hevent made hrequest

theorem succeeds_request_iff {made : Made} : (m.step (.request made)).Succeeds ↔
    ∃ service, (made.request m.registry m.run).1 = .ok service := by
  simp [Step.Succeeds, Moment.step, Moment.perform]

theorem Served.ledgers_eq_none_iff {made : Made} {before after : Moment}
    {answer : Except ServiceError Service} (h : Served config made before answer after) :
    after.registry.ledgers = none ↔
      before.registry.ledgers = none ∧ ¬ ∃ service, answer = .ok service := by
  cases h with
  | opened _ _ _ _ _ _ hledgers hanswer _ => simp [hledgers, hanswer]
  | failed _ hbefore _ hregistry _ _ _ hanswer => simp [hregistry, hbefore, hanswer]
  | present _ _ hbefore _ hledgers _ _ => simp [hbefore, hledgers]

/-- There are no ledgers after an event when there were none before it and it is no request that
succeeds. -/
theorem ledgers_perform_eq_none_iff (h : m.registry.IsWired config) (event : Event) :
    (m.perform event).2.registry.ledgers = none ↔
      m.registry.ledgers = none ∧ ¬ (m.step event).Succeeds := by
  by_cases hevent : ∀ made, event ≠ .request made
  · simp [registry_perform hevent, not_succeeds hevent]
  · obtain ⟨made, rfl⟩ : ∃ made, event = .request made := by simpa using hevent
    rw [succeeds_request_iff]
    exact (served_request h made m.run).1.ledgers_eq_none_iff

theorem opens_step_iff (h : m.registry.IsWired config) (event : Event) :
    (m.step event).opens = true ↔ m.registry.ledgers = none ∧ (m.step event).Succeeds := by
  have hnone := ledgers_perform_eq_none_iff h event
  have hopens : (m.step event).opens = true ↔
      m.registry.ledgers = none ∧ (m.perform event).2.registry.ledgers ≠ none := by
    simp [Step.opens, Moment.step, Option.isSome_iff_ne_none]
  rw [hopens, ne_eq, hnone]
  tauto

/-- A step opens the ledgers when it is the first request that succeeds. -/
theorem opens_iff_of_history (h : m.registry.IsWired config) {events : List Event}
    {earlier later : List Step} {step : Step}
    (hsteps : history events m = earlier ++ step :: later) :
    step.opens = true ↔
      m.registry.ledgers = none ∧ step.Succeeds ∧ ∀ s ∈ earlier, ¬ s.Succeeds := by
  induction events generalizing m earlier with
  | nil => simp [history] at hsteps
  | cons event rest ih =>
      cases earlier with
      | nil =>
          obtain ⟨rfl, -⟩ : m.step event = step ∧ _ := by simpa [history] using hsteps
          simp [opens_step_iff h]
      | cons s earlier =>
          obtain ⟨rfl, hrest⟩ : m.step event = s ∧ history rest (m.perform event).2 = _ := by
            simpa [history] using hsteps
          have hlater : step.opens = true ↔ (m.perform event).2.registry.ledgers = none ∧
              step.Succeeds ∧ ∀ s ∈ earlier, ¬ s.Succeeds :=
            ih (isSound_perform h event).2.1 hrest
          -- Being the first to succeed from here on is being it after an event that did not.
          rw [hlater, ledgers_perform_eq_none_iff h, List.forall_mem_cons]
          tauto

/-! ## What was recorded stays -/

theorem ledgers_of_advised? (h : m.registry.IsWired config) {l : Ledgers}
    (hadvised : m.advised? = some l) : ∃ id, m.registry.ledgers = some (.ledgers id l) := by
  rcases Option.bind_eq_some_iff.1 hadvised with ⟨a, hadvisor, hrecords⟩
  rcases h.advisor a hadvisor with ⟨_, w, hledgers, rfl⟩
  rcases h.ledgers w hledgers with ⟨id, rfl⟩
  cases hrecords
  exact ⟨id, hledgers⟩

/-- Once there are ledgers, an event adds to them at most the records of a report. -/
theorem extends_perform (h : m.registry.IsWired config) {id : Nat} {l : Ledgers}
    (hledgers : m.registry.ledgers = some (.ledgers id l)) (event : Event) :
    l.Extends (fun channel => event.records config channel) m.run.disk
      (m.perform event).2.run.disk := by
  cases event with
  | request made =>
      -- Where there are ledgers, a request can end in one way only: it finds them.
      cases (served_request h made m.run).1 with
      | opened _ _ _ hbefore _ _ _ _ _ =>
          rw [hledgers] at hbefore
          cases hbefore
      | failed _ hbefore _ _ _ _ _ _ =>
          rw [hledgers] at hbefore
          cases hbefore
      | present _ _ _ hrun _ _ _ =>
          have hsame : (m.perform (.request made)).2.run = m.run := hrun
          rw [hsame]
          exact .refl l _ _
  | look role => exact .refl l _ _
  | report v =>
      unfold Moment.perform
      cases hadvised : m.advised? with
      | none => exact .refl l _ _
      | some l' =>
          -- The ledgers of the advisor are the registered ones, and these are of the configuration.
          rcases ledgers_of_advised? h hadvised with ⟨_, hsame⟩
          rw [hledgers] at hsame
          cases hsame
          rcases h.ledgers _ hledgers with ⟨_, hown⟩
          cases hown
          rcases Ledgers.keeps_concludes_report _ v m.run with ⟨reported, hkeeps, hconcludes⟩
          -- The records of the event in the order in which the two parts of a report add them.
          have hrecords : (fun channel => (Event.report v).records config channel) = fun channel =>
              (if channel = .violations then [v.record config.logErrors.isDeep] else []) ++
                Call.records config channel (.fix v) := by
            funext channel
            cases channel <;> simp [Event.records, Call.records]
          rw [hrecords]
          exact (Ledgers.extends_of_keeps hkeeps).trans (Ledgers.extends_of_concludes hconcludes)
  | fail operation e => exact .of_readBytes fun _ => rfl
  | clear => exact .of_readBytes fun _ => rfl

theorem extends_after (h : m.registry.IsWired config) {id : Nat} {l : Ledgers}
    (hledgers : m.registry.ledgers = some (.ledgers id l)) (events : List Event) :
    l.Extends (fun channel => events.flatMap (Event.records config channel)) m.run.disk
      (m.after events).run.disk := by
  induction events generalizing m with
  | nil => exact .refl l _ _
  | cons event rest ih =>
      -- The same ledgers are registered after the event, so that the rest extends them as well.
      have hkept : (m.perform event).2.registry.ledgers = some (.ledgers id l) :=
        eq_some_of_found (retains_perform m event .ledgers _ (by simp [get?, hledgers, found]))
      exact (extends_perform h hledgers event).trans (ih (isSound_perform h event).2.1 hkept)

/-! ## Whole histories -/

theorem exists_ofConfig_of_create? {disk : Disk} {document : Option Document} {master : Bool}
    {registry : Registry} (h : create? disk document master = .ok registry) :
    ∃ config, registry = ofConfig config := by
  cases document with
  | some document =>
      cases h
      exact ⟨_, rfl⟩
  | none =>
      unfold create? at h
      cases hdiscover : Config.discover? disk with
      | error e => simp [hdiscover, Except.map] at h
      | ok document =>
          rw [hdiscover] at h
          cases h
          exact ⟨_, rfl⟩

/-- Whatever is done with the services of a new registry, every step is sound. No file is changed
before the first request for a service that needs ledgers. The first such request that succeeds
opens the ledgers and no other step does; from then on they hold what they held, followed by
records of the reports since then, and every service that was given stays the registered one. -/
theorem requests_sound {disk : Disk} {document : Option Document} {master : Bool}
    {registry : Registry} (hcreate : create? disk document master = .ok registry) (run : Run)
    (events : List Event) :
    ∃ config, registry = ofConfig config ∧
      let start : Moment := ⟨registry, run⟩
      (∀ step ∈ history events start, step.IsSound config) ∧
      (start.after events).registry.IsWired config ∧
      ((∀ made, .request made ∉ events) →
        (start.after events).run.disk.tree = run.disk.tree) ∧
      (∀ earlier step later, history events start = earlier ++ step :: later →
        (step.opens = true ↔ step.Succeeds ∧ ∀ s ∈ earlier, ¬ s.Succeeds)) ∧
      ∀ first later, events = first ++ later →
        (start.after first).registry.Retains (start.after events).registry ∧
        ∀ id l, (start.after first).registry.ledgers = some (.ledgers id l) →
          l.Extends (fun channel => later.flatMap (Event.records config channel))
            (start.after first).run.disk (start.after events).run.disk := by
  obtain ⟨config, rfl⟩ := exists_ofConfig_of_create? hcreate
  have hstart : (⟨ofConfig config, run⟩ : Moment).registry.IsWired config := isWired_ofConfig config
  refine ⟨config, rfl, isSound_of_mem_history hstart events, isWired_after hstart events,
    fun hevents => tree_after hevents rfl, ?_, ?_⟩
  · intro earlier step later hsteps
    rw [opens_iff_of_history hstart hsteps]
    exact and_iff_right rfl
  · -- The moment in the middle is wired as well, and the rest goes on from there.
    rintro first later rfl
    have hafter : (⟨ofConfig config, run⟩ : Moment).after (first ++ later) =
        ((⟨ofConfig config, run⟩ : Moment).after first).after later := List.foldl_append
    rw [hafter]
    exact ⟨retains_after _ later, fun id l hledgers =>
      extends_after (isWired_after hstart first) hledgers later⟩

/-- A first request fails because no text can be written and leaves nothing behind. Once this is
taken back a second one opens the ledgers, and a third one leaves the fix that is on record. -/
theorem requests_sound_retried :
    let document : Document := .table [("SUGGEST", .table [("ACTIVE", .bool true)]),
      ("OUTPUT_DIRECTORY", .text "out")]
    let config := Config.ofDocument document true
    let run := Run.on ⟨.empty, [], []⟩
    let site := Location.ofField ⟨"shop", "file:///shop.py"⟩ (some ⟨"shop.Basket"⟩)
      (some (Symbol.bare "total")) none none
    let f : Fix := ⟨site, "javax.annotation.Nullable", "FIELD_NO_INIT", .insert⟩
    let events := [.fail .writeText (.injected true "full"), .request .explorer, .look .advisor,
      .clear, .request .advisor, .report ⟨.fieldNoInit, "Must be nullable", site⟩,
      .request .explorer]
    let start : Moment := ⟨ofConfig config, run⟩
    create? run.disk (some document) true = .ok (ofConfig config) ∧
      (∃ config', ofConfig config = ofConfig config' ∧
        ∀ step ∈ history events start, step.IsSound config') ∧
      (history events start).map Step.opens = [false, false, false, false, true, false, false] ∧
      ((start.after events).run.disk.tree.contentAt ["out", "fixes.csv"]).data =
        (Ledgers.written ⟨config, Ledgers.defaultDelimiter⟩ .fixes [f.record]).toUTF8.data := by
  intro document config run site f events start
  have hcreate : create? run.disk (some document) true = .ok (ofConfig config) := rfl
  rcases requests_sound hcreate run events with ⟨config', hconfig, hsteps, -⟩
  refine ⟨hcreate, ⟨config', hconfig, hsteps⟩, ?_, ?_⟩
  · decide +kernel
  · decide +kernel

end Registry
end Nullability
