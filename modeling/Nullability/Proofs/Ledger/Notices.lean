import Nullability.Run

/-!
# The notices of a run

* `Run.said`: the messages of one level, oldest first;
* `Run.Untroubled`: no notice of an error between two moments of a run.
-/

namespace Nullability
namespace Run

variable {run run' run₁ run₂ : Run}

/-- The messages of the notices of a level, oldest first. -/
def said (run : Run) (level : NoticeLevel) : List Text :=
  (run.notices.filter fun n => n.level = level).map Notice.message

theorem said_congr (h : run'.notices = run.notices) (level : NoticeLevel) :
    run'.said level = run.said level := by
  rw [said, h, said]

theorem said_act {α : Type} (run : Run) (operation : Disk → Except DiskError α × Disk)
    (level : NoticeLevel) : (run.act operation).2.said level = run.said level := rfl

theorem said_of_append {n : Notice} (h : run'.notices = run.notices ++ [n]) {level : NoticeLevel}
    (hlevel : n.level ≠ level) : run'.said level = run.said level := by
  simp [said, h, hlevel]

theorem said_note (run : Run) (level : NoticeLevel) (message : Text) :
    (run.note level message).said level = run.said level ++ [message] := by
  simp [said, note]

theorem said_note_of_ne {level other : NoticeLevel} (h : other ≠ level) (run : Run)
    (message : Text) : (run.note other message).said level = run.said level :=
  said_of_append rfl h

theorem said_foldl_note (run : Run) (level : NoticeLevel) (messages : List Text) :
    (messages.foldl (fun run message => run.note level message) run).said level =
      run.said level ++ messages := by
  induction messages generalizing run with
  | nil => simp
  | cons message rest ih => simp [ih, said_note]

theorem said_foldl_note_of_ne {level other : NoticeLevel} (h : other ≠ level) (run : Run)
    (messages : List Text) :
    (messages.foldl (fun run message => run.note other message) run).said level =
      run.said level := by
  induction messages generalizing run with
  | nil => rfl
  | cons message rest ih => rw [List.foldl_cons, ih, said_note_of_ne h]

theorem disk_foldl_note (run : Run) (level : NoticeLevel) (messages : List Text) :
    (messages.foldl (fun run message => run.note level message) run).disk = run.disk := by
  induction messages generalizing run with
  | nil => rfl
  | cons message rest ih => exact ih _

/-! ## No errors -/

/-- Between two moments of a run no notice of an error was given. -/
def Untroubled (before after : Run) : Prop :=
  ∃ notices, after.notices = before.notices ++ notices ∧ ∀ n ∈ notices, n.level ≠ .error

theorem Untroubled.split (h : run.Untroubled run₂) (hfirst : run.notices <+: run₁.notices)
    (hsecond : run₁.notices <+: run₂.notices) : run.Untroubled run₁ ∧ run₁.Untroubled run₂ := by
  rcases h with ⟨notices, hnotices, hlevel⟩
  rcases hfirst with ⟨first, hfirst⟩
  rcases hsecond with ⟨second, hsecond⟩
  have hparts : notices = first ++ second := by
    have hboth : run.notices ++ notices = run.notices ++ (first ++ second) := by
      rw [← hnotices, ← hsecond, ← hfirst, List.append_assoc]
    exact List.append_cancel_left hboth
  subst hparts
  exact ⟨⟨first, hfirst.symm, fun n hn => hlevel n (List.mem_append_left _ hn)⟩,
    ⟨second, hsecond.symm, fun n hn => hlevel n (List.mem_append_right _ hn)⟩⟩

theorem not_untroubled {n : Notice} (h : run₁.notices = run.notices ++ [n])
    (hlevel : n.level = .error) : ¬ run.Untroubled run₁ := by
  rintro ⟨notices, hnotices, hnone⟩
  rw [h] at hnotices
  have hsame : [n] = notices := List.append_cancel_left hnotices
  exact hnone n (by simp [← hsame]) hlevel

end Run
end Nullability
