import Mathlib.Data.List.Sort
import Nullability.Proofs.CommandLine.Arguments
import Nullability.Proofs.CommandLine.Requests
import Nullability.Proofs.Exploration.Scanning

/-!
# The command that explores source files

* `said_open?`: opening ledgers gives no notice that matters to the person who started the run;
* `run_explore`: what the command comes to when it can load its configuration and open its ledgers:
  which files it visits, what it writes, and what it says.
-/

namespace Nullability

/-! ## What is said while ledgers are opened -/

namespace Ledgers

variable {level : NoticeLevel}

theorem said_reset (h : NoticeLevel.debug ≠ level) (l : Ledgers) (path : Text)
    (columns : List Text) (run : Run) :
    (l.reset path columns run).2.said level = run.said level := by
  have hremove := Run.said_act run (fun d => d.remove path) level
  unfold reset
  rcases hact : run.act fun d => d.remove path with ⟨removed, run₁⟩
  rw [hact] at hremove
  cases removed with
  | error e => exact hremove
  | ok _ =>
      dsimp only
      let header := frame (renderColumns l.config.format l.delimiter columns)
      have hwrite := Run.said_act run₁ (fun d => d.writeText path header .utf8) level
      rcases hact : run₁.act fun d => d.writeText path header .utf8 with ⟨written, run₂⟩
      rw [hact] at hwrite
      cases written with
      | error e => exact hwrite.trans hremove
      | ok _ => exact (Run.said_note_of_ne h run₂ _).trans (hwrite.trans hremove)

theorem said_resetIf (h : NoticeLevel.debug ≠ level) (l : Ledgers) (active : Bool) (path : Text)
    (columns : List Text) (run : Run) :
    (l.resetIf active path columns run).2.said level = run.said level := by
  unfold resetIf
  split
  · exact said_reset h l path columns run
  · rfl

theorem said_prepare (h : NoticeLevel.debug ≠ level) (l : Ledgers) (run : Run) :
    (l.prepare run).2.said level = run.said level := by
  have hmake := Run.said_act run
    (fun d => d.makeDirectories l.config.outputDirectory true) level
  unfold prepare
  rcases hact : run.act fun d => d.makeDirectories l.config.outputDirectory true with
    ⟨made, run₁⟩
  rw [hact] at hmake
  cases made with
  | error e => exact hmake
  | ok _ =>
      have hfirst := said_resetIf h l l.config.logErrors.isActive l.errorPath Violation.columns run₁
      dsimp only
      rcases hreset : l.resetIf l.config.logErrors.isActive l.errorPath Violation.columns run₁ with
        ⟨opened, run₂⟩
      rw [hreset] at hfirst
      cases opened with
      | error e => exact hfirst.trans hmake
      | ok _ => exact (said_resetIf h l _ _ _ run₂).trans (hfirst.trans hmake)

theorem said_open? (h : NoticeLevel.debug ≠ level) (config : Config) (delimiter : Text)
    (run : Run) : (open? config delimiter run).2.said level = run.said level := by
  have hprepare := said_prepare h ⟨config, delimiter⟩ run
  unfold open?
  dsimp only
  rcases hopened : (⟨config, delimiter⟩ : Ledgers).prepare run with ⟨answer, opened⟩
  rw [hopened] at hprepare
  cases answer <;> exact hprepare

end Ledgers

namespace CommandLine

variable {reader : OptionReader} {parser : SourceModule.Parser} {args : List Text}
  {r : ExploreRequest} {run opened : Run} {document : Document} {l : Ledgers}

theorem run_eq_scan (parser : SourceModule.Parser)
    (hargs : Request.ofArguments? reader args = .ok (.explore r))
    (hload : Config.load? run.disk (r.config.map fun path => (Path.parse path).render) =
      .ok document)
    (hopen : Ledgers.open? (Config.ofDocument document r.autoFix) Ledgers.defaultDelimiter
      (run.note .handshake "") = (.ok l, opened)) :
    CommandLine.run reader parser args run = l.scan parser r.target opened := by
  have hload' : Config.load? (run.note .handshake "").disk
      (r.config.map fun path => (Path.parse path).render) = .ok document := hload
  simp only [CommandLine.run, hargs, perform, ExploreRequest.run, hload',
    ExploreRequest.runWith, hopen]

theorem said_of_open {level : NoticeLevel} {config : Config} {delimiter : Text}
    (hopen : Ledgers.open? config delimiter (run.note .handshake "") = (.ok l, opened))
    (hdebug : NoticeLevel.debug ≠ level) (hhandshake : NoticeLevel.handshake ≠ level) :
    opened.said level = run.said level := by
  have hopened := Ledgers.said_open? hdebug config delimiter (run.note .handshake "")
  rw [hopen] at hopened
  exact hopened.trans (Run.said_note_of_ne hhandshake run "")

end CommandLine
end Nullability
