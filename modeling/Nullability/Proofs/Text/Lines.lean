import Mathlib.Data.List.TakeWhile
import Nullability.Text.Line

/-!
# Flattened texts and their lines

* `collapse` states what flattening means: every maximal run of a class of characters becomes one
  space. `joinLines_eq_collapse` says that `joinLines` does this to the line breaks, and
  `collapses_iff` that nothing else does;
* `cuts_iff`: the characters at which a text is cut into lines;
* `splitLines_terminated`: lines without line breaks that end in a line feed each are read back
  as they were written;
* `unifyNewlines_eq_self`: reading in text mode does not change a text without carriage returns.
-/

namespace Nullability
namespace Text

/-! ## Runs of a class of characters -/

/-- The text in which every maximal run of characters of a class is one space. -/
def collapse (p : Letter → Bool) : List Letter → List Letter
  | [] => []
  | c :: rest =>
      if p c then .char ' ' :: collapse p (rest.dropWhile p) else c :: collapse p rest
termination_by cs => cs.length
decreasing_by
  · have := List.length_dropWhile_le p rest
    simp
    omega
  · simp

variable {p : Letter → Bool}

@[simp]
theorem collapse_nil : collapse p [] = [] := by
  simp [collapse]

theorem collapse_cons_pos {c : Letter} (h : p c = true) (rest : List Letter) :
    collapse p (c :: rest) = .char ' ' :: collapse p (rest.dropWhile p) := by
  simp [collapse, h]

theorem collapse_cons_neg {c : Letter} (h : p c = false) (rest : List Letter) :
    collapse p (c :: rest) = c :: collapse p rest := by
  simp [collapse, h]

/-- A text without characters of the class stays. -/
theorem collapse_append_of_not {cs : List Letter} (h : ∀ c ∈ cs, p c = false) (rest : List Letter) :
    collapse p (cs ++ rest) = cs ++ collapse p rest := by
  induction cs with
  | nil => simp
  | cons c cs ih =>
      have hc : p c = false := h c (by simp)
      have hcs := ih fun d hd => h d (by simp [hd])
      rw [List.cons_append, collapse_cons_neg hc, hcs, List.cons_append]

theorem collapse_eq_self {cs : List Letter} (h : ∀ c ∈ cs, p c = false) : collapse p cs = cs := by
  simpa using collapse_append_of_not h []

/-- No run goes on into a text that starts with a character outside of the class. -/
theorem collapse_append {rest : List Letter} (h : ∀ c ∈ rest.head?, p c = false)
    (cs : List Letter) : collapse p (cs ++ rest) = collapse p cs ++ collapse p rest := by
  have hrest : rest.dropWhile p = rest := by
    cases rest with
    | nil => rfl
    | cons d rest =>
        have hd : p d = false := h d (by simp)
        simp [hd]
  induction cs using collapse.induct p with
  | case1 => simp
  | case2 c cs hc ih =>
      -- The run ends inside of the first text or with it, in either case before the second.
      have hdrop : (cs ++ rest).dropWhile p = cs.dropWhile p ++ rest := by
        rw [List.dropWhile_append]
        by_cases hempty : (cs.dropWhile p).isEmpty = true
        · rw [if_pos hempty, hrest, List.isEmpty_iff.1 hempty, List.nil_append]
        · rw [if_neg hempty]
      rw [List.cons_append, collapse_cons_pos hc, collapse_cons_pos hc, hdrop, ih,
        List.cons_append]
  | case3 c cs hc ih =>
      have hc : p c = false := by simpa using hc
      rw [List.cons_append, collapse_cons_neg hc, collapse_cons_neg hc, ih, List.cons_append]

/-- A text, and what it becomes when every maximal run of characters of a class is one space. -/
inductive Collapses (P : Letter → Prop) : List Letter → List Letter → Prop where
  | nil : Collapses P [] []
  | keep {c : Letter} {rest flat : List Letter} (hc : ¬ P c) (h : Collapses P rest flat) :
      Collapses P (c :: rest) (c :: flat)
  | run {run rest flat : List Letter} (hne : run ≠ []) (hrun : ∀ c ∈ run, P c)
      (hmaximal : ∀ c ∈ rest.head?, ¬ P c) (h : Collapses P rest flat) :
      Collapses P (run ++ rest) (.char ' ' :: flat)

theorem collapses_collapse (p : Letter → Bool) (cs : List Letter) :
    Collapses (fun c => p c = true) cs (collapse p cs) := by
  induction cs using collapse.induct p with
  | case1 => simpa using Collapses.nil
  | case2 c rest hc ih =>
      have hsplit : c :: rest = (c :: rest.takeWhile p) ++ rest.dropWhile p := by
        rw [List.cons_append, List.takeWhile_append_dropWhile]
      have hrun : ∀ d ∈ c :: rest.takeWhile p, p d = true := by
        intro d hd
        rcases List.mem_cons.1 hd with rfl | hd
        · exact hc
        · exact List.mem_takeWhile_imp hd
      have hmaximal : ∀ d ∈ (rest.dropWhile p).head?, ¬ p d = true := by
        intro d hd
        have hstop := List.head?_dropWhile_not p rest
        rw [Option.mem_def.1 hd] at hstop
        simpa using hstop
      rw [collapse_cons_pos hc, hsplit]
      exact .run (by simp) hrun hmaximal ih
  | case3 c rest hc ih =>
      rw [collapse_cons_neg (by simpa using hc)]
      exact .keep hc ih

/-- Collapsing is the only way to make every maximal run one space. -/
theorem collapses_iff {cs flat : List Letter} :
    Collapses (fun c => p c = true) cs flat ↔ flat = collapse p cs := by
  constructor
  · intro h
    induction h with
    | nil => simp
    | keep hc _ ih => rw [collapse_cons_neg (by simpa using hc), ih]
    | @run run rest flat hne hrun hmaximal _ ih =>
        rcases List.exists_cons_of_ne_nil hne with ⟨c, run, rfl⟩
        have hinner : ∀ d ∈ run, p d = true := fun d hd => hrun d (List.mem_cons_of_mem _ hd)
        -- The rest of the run goes, and what comes behind it stays.
        have hrest : (run ++ rest).dropWhile p = rest := by
          rw [List.dropWhile_append_of_pos hinner]
          cases rest with
          | nil => rfl
          | cons d rest => rw [List.dropWhile_cons_of_neg (hmaximal d rfl)]
        rw [List.cons_append, collapse_cons_pos (hrun c List.mem_cons_self), hrest, ih]
  · rintro rfl
    exact collapses_collapse p cs

/-! ## Flattening -/

theorem joinLinesFrom_true (cs : List Letter) :
    joinLinesFrom true cs = joinLinesFrom false (cs.dropWhile isLineBreak) := by
  induction cs with
  | nil => rfl
  | cons c rest ih =>
      by_cases hc : isLineBreak c = true
      · simpa [joinLinesFrom, mem_flattened_iff, hc] using ih
      · simp [joinLinesFrom, mem_flattened_iff, hc]

/-- Flattening makes one space of every maximal run of line breaks. -/
theorem joinLines_eq_collapse (cs : List Letter) : joinLines cs = collapse isLineBreak cs := by
  rw [joinLines]
  induction cs using collapse.induct isLineBreak with
  | case1 => simp [joinLinesFrom]
  | case2 c rest hc ih =>
      rw [collapse_cons_pos hc, ← ih, ← joinLinesFrom_true]
      simp [joinLinesFrom, mem_flattened_iff, hc]
  | case3 c rest hc ih =>
      have hc : isLineBreak c = false := by simpa using hc
      rw [collapse_cons_neg hc, ← ih]
      simp [joinLinesFrom, mem_flattened_iff, hc]

/-! ## Lines -/

/-- A character at which texts are cut into lines. -/
def Cuts (c : Letter) : Prop :=
  splitLines [.char 'x', c, .char 'x'] = [[.char 'x'], [.char 'x']]

theorem cuts_iff {c : Letter} : Cuts c ↔ isLineBreak c = true := by
  have hletter : isLineBreak 'x' = false := by decide
  cases hc : isLineBreak c <;> simp [Cuts, splitLines, hletter, hc]

/-- A text without anything that a line cannot hold. -/
def IsPlain (cs : List Letter) : Prop :=
  ∀ c ∈ cs, isLineBreak c = false ∧ c ≠ '\t'

instance (cs : List Letter) : Decidable (IsPlain cs) :=
  List.decidableBAll _ cs

/-- A text without line breaks, ended by a line feed, is a line. -/
theorem splitLines_append_newline {body : List Letter} (h : ∀ c ∈ body, isLineBreak c = false)
    (rest : List Letter) : splitLines (body ++ .char '\n' :: rest) = body :: splitLines rest := by
  have hnewline : isLineBreak '\n' = true := by decide
  induction body with
  | nil => simp [splitLines, hnewline]
  | cons c body ih =>
      have hc : isLineBreak c = false := h c (by simp)
      have hreturn : c ≠ '\r' := by
        rintro rfl
        exact absurd hc (by decide)
      have hbody := ih fun d hd => h d (by simp [hd])
      simp [splitLines, hc, hreturn, hbody]

/-- Lines that each end in a line feed are read back as they were written. -/
theorem splitLines_terminated {bodies : List (List Letter)}
    (h : ∀ body ∈ bodies, ∀ c ∈ body, isLineBreak c = false) :
    splitLines (bodies.flatMap fun body => body ++ [.char '\n']) = bodies := by
  induction bodies with
  | nil => simp [splitLines]
  | cons body bodies ih =>
      have hbody := h body (by simp)
      have hbodies := ih fun b hb => h b (by simp [hb])
      rw [List.flatMap_cons, List.append_assoc, List.singleton_append,
        splitLines_append_newline hbody, hbodies]

/-- Reading in text mode does not change a text without carriage returns. -/
theorem unifyNewlines_eq_self {cs : List Letter} (h : .char '\r' ∉ cs) : unifyNewlines cs = cs := by
  induction cs with
  | nil => rfl
  | cons c rest ih =>
      have hc : c ≠ '\r' := by
        rintro rfl
        simp at h
      have hrest : unifyNewlines rest = rest := ih (by simp at h; exact h.2)
      simp [unifyNewlines, hc, hrest]

end Text
end Nullability
