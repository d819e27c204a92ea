import Mathlib.Data.List.TakeWhile
import Nullability.Proofs.Text.Separators
import Nullability.Text.Blank

/-!
# Trimmed pieces

A text is cut at a separator and the blanks around each piece are dropped. When the separator is
one character that is not blank itself, this file says on what the result depends:

* `pieces_glue_eq_flatMap`: joined texts have the pieces of all of them;
* `trim_trim`: what is trimmed stays as it is;
* `trims_iff`: `trim` takes all blanks around a text and nothing else;
* `map_trim_pieces_trim`: blanks around the whole text do not show in the trimmed pieces.
-/

namespace Nullability
namespace Text

variable {sep : Letter}

/-! ## Pieces of a text that is put together -/

theorem pieces_cons_self (sep : Letter) (rest : List Letter) :
    pieces [sep] (sep :: rest) = [] :: pieces [sep] rest :=
  pieces_append_sep (by simp) rest

theorem pieces_cons_of_ne {c : Letter} (h : c ≠ sep) (rest : List Letter) :
    pieces [sep] (c :: rest) = consFirst c (pieces [sep] rest) := by
  apply pieces_cons
  simpa [List.cons_prefix_cons] using Ne.symm h

theorem consFirst_append {ps : List (List Letter)} (h : ps ≠ []) (c : Letter)
    (qs : List (List Letter)) : consFirst c (ps ++ qs) = consFirst c ps ++ qs := by
  cases ps with
  | nil => exact absurd rfl h
  | cons p ps => rfl

/-- A separator parts the pieces before it from those after it. -/
theorem pieces_append_cons (v rest : List Letter) :
    pieces [sep] (v ++ sep :: rest) = pieces [sep] v ++ pieces [sep] rest := by
  induction v with
  | nil => simp [pieces_cons_self]
  | cons c v ih =>
      by_cases hc : c = sep
      · subst hc
        simp [pieces_cons_self, ih]
      · rw [List.cons_append, pieces_cons_of_ne hc, pieces_cons_of_ne hc, ih,
          consFirst_append (pieces_ne_nil v)]

theorem pieces_glue_eq_flatMap {texts : List (List Letter)} (h : texts ≠ []) :
    pieces [sep] (glue [sep] texts) = texts.flatMap (pieces [sep]) := by
  induction texts with
  | nil => exact absurd rfl h
  | cons v rest ih =>
      cases rest with
      | nil => simp
      | cons w rest =>
          have hrest := ih (by simp)
          rw [glue_cons (by simp), List.append_assoc, List.singleton_append, pieces_append_cons,
            hrest, ← List.flatMap_cons]

/-- A text without the separator is added to the last piece. -/
theorem pieces_append_of_not_mem {w : List Letter} (h : sep ∉ w) (v : List Letter) :
    ∃ init last, pieces [sep] v = init ++ [last] ∧
      pieces [sep] (v ++ w) = init ++ [last ++ w] := by
  induction v with
  | nil =>
      have hw : pieces [sep] w = [w] :=
        (pieces_eq_singleton_iff (by simp) w).2 (by simpa [singleton_infix_iff] using h)
      exact ⟨[], [], by simp, by simpa using hw⟩
  | cons c v ih =>
      rcases ih with ⟨init, last, hv, hvw⟩
      by_cases hc : c = sep
      · subst hc
        exact ⟨[] :: init, last, by simp [pieces_cons_self, hv],
          by simp [pieces_cons_self, hvw]⟩
      · rw [List.cons_append, pieces_cons_of_ne hc, pieces_cons_of_ne hc, hv, hvw]
        -- The character joins the first piece, which is also the last where there is no other.
        cases init with
        | nil => exact ⟨[], c :: last, rfl, rfl⟩
        | cons p init => exact ⟨(c :: p) :: init, last, rfl, rfl⟩

/-! ## Blanks around a text -/

theorem trim_cons_of_isBlank {c : Letter} (h : isBlank c = true) (cs : List Letter) :
    trim (c :: cs) = trim cs := by
  simp [trim, h]

/-- A text is cut down to nothing exactly when it is blank throughout. -/
theorem trim_eq_nil_iff {cs : List Letter} : trim cs = [] ↔ ∀ c ∈ cs, isBlank c = true := by
  rw [trim, trimEnd, List.reverse_eq_nil_iff, List.dropWhile_eq_nil_iff]
  simp only [List.mem_reverse]
  constructor
  · intro h c hc
    rw [← List.takeWhile_append_dropWhile (l := cs) (p := isBlank), List.mem_append] at hc
    rcases hc with hc | hc
    · exact List.mem_takeWhile_imp hc
    · exact h c hc
  · exact fun h c hc => h c ((List.dropWhile_suffix isBlank).subset hc)

theorem trimEnd_append_of_blank {blanks : List Letter} (h : ∀ b ∈ blanks, isBlank b = true)
    (cs : List Letter) : trimEnd (cs ++ blanks) = trimEnd cs := by
  have hdrop : (blanks.reverse ++ cs.reverse).dropWhile isBlank = cs.reverse.dropWhile isBlank :=
    List.dropWhile_append_of_pos (by simpa using h)
  simp [trimEnd, hdrop]

theorem trim_append_of_blank {blanks : List Letter} (h : ∀ b ∈ blanks, isBlank b = true)
    (cs : List Letter) : trim (cs ++ blanks) = trim cs := by
  by_cases hcs : cs.dropWhile isBlank = []
  · -- The whole text is blank, with the blanks at its end or without them.
    have hall := List.dropWhile_eq_nil_iff.1 hcs
    have hblank : ∀ b ∈ cs ++ blanks, isBlank b = true := by
      intro b hb
      rcases List.mem_append.1 hb with hb | hb
      · exact hall b hb
      · exact h b hb
    rw [trim_eq_nil_iff.2 hblank, trim_eq_nil_iff.2 hall]
  · have hdrop : (cs ++ blanks).dropWhile isBlank = cs.dropWhile isBlank ++ blanks := by
      simp [List.dropWhile_append, hcs]
    rw [trim, hdrop, trimEnd_append_of_blank h, ← trim]

theorem eq_trimEnd_append (cs : List Letter) :
    ∃ after, cs = trimEnd cs ++ after ∧ ∀ b ∈ after, isBlank b = true := by
  refine ⟨(cs.reverse.takeWhile isBlank).reverse, ?_, ?_⟩
  · rw [trimEnd, ← List.reverse_append, List.takeWhile_append_dropWhile, List.reverse_reverse]
  · intro b hb
    exact List.mem_takeWhile_imp (List.mem_reverse.1 hb)

/-- A text is its trimmed form between blanks. -/
theorem eq_append_trim (cs : List Letter) : ∃ before after,
    cs = before ++ (trim cs ++ after) ∧ (∀ b ∈ before, isBlank b = true) ∧
      ∀ b ∈ after, isBlank b = true := by
  rcases eq_trimEnd_append (cs.dropWhile isBlank) with ⟨after, hbody, hafter⟩
  refine ⟨cs.takeWhile isBlank, after, ?_, ?_, hafter⟩
  · rw [trim, ← hbody, List.takeWhile_append_dropWhile]
  · intro b hb
    exact List.mem_takeWhile_imp hb

theorem trim_append_left_of_blank {blanks : List Letter} (h : ∀ b ∈ blanks, isBlank b = true)
    (cs : List Letter) : trim (blanks ++ cs) = trim cs := by
  simp [trim, List.dropWhile_append_of_pos h]

theorem trim_trim (cs : List Letter) : trim (trim cs) = trim cs := by
  rcases eq_append_trim cs with ⟨before, after, hcs, hbefore, hafter⟩
  calc trim (trim cs) = trim (before ++ (trim cs ++ after)) := by
        rw [trim_append_left_of_blank hbefore, trim_append_of_blank hafter]
    _ = trim cs := by rw [← hcs]

theorem length_trim_le (cs : List Letter) : (trim cs).length ≤ cs.length := by
  rcases eq_append_trim cs with ⟨before, after, hcs, -, -⟩
  have hlength := congrArg List.length hcs
  simp only [List.length_append] at hlength
  omega

/-- A text that neither starts nor ends with a blank. -/
structure IsTrimmed (cs : List Letter) : Prop where
  first : ∀ c ∈ cs.head?, isBlank c = false
  last : ∀ c ∈ cs.getLast?, isBlank c = false

theorem trim_eq_self {cs : List Letter} (h : IsTrimmed cs) : trim cs = cs := by
  have hfront : cs.dropWhile isBlank = cs := by
    cases cs with
    | nil => rfl
    | cons c rest => simp [h.first c (by simp)]
  have hback : cs.reverse.dropWhile isBlank = cs.reverse := by
    cases hreverse : cs.reverse with
    | nil => rfl
    | cons c rest =>
        have hlast : cs.getLast? = some c := by
          rw [← List.head?_reverse, hreverse, List.head?_cons]
        simp [h.last c hlast]
  rw [trim, hfront, trimEnd, hback, List.reverse_reverse]

/-- A blank at either end would be cut off a second time, and the text be shorter. -/
theorem isTrimmed_trim (cs : List Letter) : IsTrimmed (trim cs) := by
  have hagain := trim_trim cs
  constructor
  · intro c hc
    by_contra hblank
    rcases List.head?_eq_some_iff.1 hc with ⟨rest, hrest⟩
    rw [hrest, trim_cons_of_isBlank (by simpa using hblank)] at hagain
    have hlength := length_trim_le rest
    rw [hagain, List.length_cons] at hlength
    omega
  · intro c hc
    by_contra hblank
    rcases List.getLast?_eq_some_iff.1 hc with ⟨init, hinit⟩
    rw [hinit, trim_append_of_blank (by simpa using hblank)] at hagain
    have hlength := length_trim_le init
    rw [hagain, List.length_append, List.length_singleton] at hlength
    omega

/-- A text, and what is left of it without the blanks around it. -/
inductive Trims : List Letter → List Letter → Prop where
  | between {before core after : List Letter} (hbefore : ∀ b ∈ before, isBlank b = true)
      (hcore : IsTrimmed core) (hafter : ∀ b ∈ after, isBlank b = true) :
      Trims (before ++ (core ++ after)) core

theorem trims_iff {cs core : List Letter} : Trims cs core ↔ trim cs = core := by
  constructor
  · intro h
    cases h with
    | between hbefore hcore hafter =>
        rw [trim_append_left_of_blank hbefore, trim_append_of_blank hafter, trim_eq_self hcore]
  · rintro rfl
    rcases eq_append_trim cs with ⟨before, after, hcs, hbefore, hafter⟩
    have h := Trims.between hbefore (isTrimmed_trim cs) hafter
    rwa [← hcs] at h

theorem mem_of_mem_trim {c : Letter} {cs : List Letter} (h : c ∈ trim cs) : c ∈ cs := by
  rcases eq_append_trim cs with ⟨before, after, hcs, -, -⟩
  rw [hcs]
  simp [h]

/-! ## Blanks around a text that is cut -/

theorem map_trim_consFirst {c : Letter} (h : isBlank c = true) {ps : List (List Letter)}
    (hne : ps ≠ []) : (consFirst c ps).map trim = ps.map trim := by
  cases ps with
  | nil => exact absurd rfl hne
  | cons p ps => simp [consFirst, trim_cons_of_isBlank h]

theorem map_trim_pieces_append_left (hsep : isBlank sep = false) {blanks : List Letter}
    (h : ∀ b ∈ blanks, isBlank b = true) (cs : List Letter) :
    (pieces [sep] (blanks ++ cs)).map trim = (pieces [sep] cs).map trim := by
  induction blanks with
  | nil => rfl
  | cons b blanks ih =>
      have hb : isBlank b = true := h b (by simp)
      have hne : b ≠ sep := by
        rintro rfl
        rw [hb] at hsep
        cases hsep
      -- A blank is no separator, so it stands at the front of the first piece.
      rw [List.cons_append, pieces_cons_of_ne hne, map_trim_consFirst hb (pieces_ne_nil _)]
      exact ih fun c hc => h c (by simp [hc])

theorem map_trim_pieces_append_right (hsep : isBlank sep = false) {blanks : List Letter}
    (h : ∀ b ∈ blanks, isBlank b = true) (cs : List Letter) :
    (pieces [sep] (cs ++ blanks)).map trim = (pieces [sep] cs).map trim := by
  have hmem : sep ∉ blanks := by
    intro hmem
    rw [h sep hmem] at hsep
    cases hsep
  -- Blanks at the end can only show in the last piece.
  rcases pieces_append_of_not_mem hmem cs with ⟨init, last, hcs, happend⟩
  rw [hcs, happend]
  simp [trim_append_of_blank h]

theorem map_trim_pieces_trim (hsep : isBlank sep = false) (cs : List Letter) :
    (pieces [sep] (trim cs)).map trim = (pieces [sep] cs).map trim := by
  rcases eq_append_trim cs with ⟨before, after, hcs, hbefore, hafter⟩
  calc (pieces [sep] (trim cs)).map trim
      = (pieces [sep] (trim cs ++ after)).map trim :=
        (map_trim_pieces_append_right hsep hafter _).symm
    _ = (pieces [sep] (before ++ (trim cs ++ after))).map trim :=
        (map_trim_pieces_append_left hsep hbefore _).symm
    _ = (pieces [sep] cs).map trim := by rw [← hcs]

end Text
end Nullability
