import Mathlib.Data.List.Infix
import Mathlib.Data.List.TakeWhile
import Mathlib.Tactic.Tauto
import Nullability.Text.Pieces

/-!
# Splitting what was joined

`glue` writes a separator between texts without any escaping, and `pieces` looks for it again from
the left. This file says exactly when the second undoes the first:

* `glue_pieces`: joining the pieces of a text always gives the text back;
* `pieces_glue_eq_iff`: splitting joined texts gives the texts back if and only if they are
  `CollisionFree`;
* `afterLast_append_cons`, `beforeLast_append_cons`: cutting at the last of the occurrences of a
  character;
* `lastPart_iff`: `afterLast` finds the `LastPart` of a text and nothing else.

A separator can overlap itself, so a text can collide without holding the separator: the end of
the text and the beginning of the separator after it may form one too early.
-/

namespace Nullability
namespace Text

variable {sep : List Letter}

/-- Neither a text before another one, together with all but the last character of the separator
after it, nor the last text holds the separator. -/
structure CollisionFree (sep : List Letter) (texts : List (List Letter)) : Prop where
  inner : ∀ v ∈ texts.dropLast, ¬ sep <:+: v ++ sep.dropLast
  last : ∀ v ∈ texts.getLast?, ¬ sep <:+: v

theorem collisionFree_nil : CollisionFree sep [] :=
  ⟨by simp, by simp⟩

theorem collisionFree_singleton (v : List Letter) : CollisionFree sep [v] ↔ ¬ sep <:+: v := by
  constructor
  · intro h
    exact h.last v (by simp)
  · intro h
    exact ⟨by simp, by simpa using h⟩

theorem collisionFree_cons_cons (v w : List Letter) (rest : List (List Letter)) :
    CollisionFree sep (v :: w :: rest) ↔
      ¬ sep <:+: v ++ sep.dropLast ∧ CollisionFree sep (w :: rest) := by
  constructor
  · intro h
    refine ⟨h.inner v (by simp), ?_, ?_⟩
    · intro u hu
      exact h.inner u (by simpa using Or.inr hu)
    · intro u hu
      exact h.last u (by simpa using hu)
  · rintro ⟨hv, hrest⟩
    refine ⟨?_, ?_⟩
    · intro u hu
      have hcases : u = v ∨ u ∈ (w :: rest).dropLast := by simpa using hu
      rcases hcases with rfl | hu
      · exact hv
      · exact hrest.inner u hu
    · intro u hu
      exact hrest.last u (by simpa using hu)

instance (sep : List Letter) (texts : List (List Letter)) : Decidable (CollisionFree sep texts) :=
  decidable_of_iff
    ((∀ v ∈ texts.dropLast, ¬ sep <:+: v ++ sep.dropLast) ∧ ∀ v ∈ texts.getLast?, ¬ sep <:+: v)
    ⟨fun h => ⟨h.1, h.2⟩, fun h => ⟨h.inner, h.last⟩⟩

/-! ## Joining -/

@[simp]
theorem glue_nil : glue sep [] = [] := rfl

@[simp]
theorem glue_singleton (v : List Letter) : glue sep [v] = v := by
  simp [glue]

theorem glue_cons {rest : List (List Letter)} (h : rest ≠ []) (v : List Letter) :
    glue sep (v :: rest) = v ++ sep ++ glue sep rest := by
  cases rest with
  | nil => exact absurd rfl h
  | cons w rest => simp [glue, List.intercalate]

theorem glue_concat {texts : List (List Letter)} (hne : texts ≠ []) (v : List Letter) :
    glue sep (texts ++ [v]) = glue sep texts ++ sep ++ v := by
  induction texts with
  | nil => exact absurd rfl hne
  | cons w rest ih =>
      cases rest with
      | nil => simp [glue_cons]
      | cons u rest =>
          have hne : u :: rest ≠ [] := List.cons_ne_nil u rest
          rw [List.cons_append, glue_cons (by simp), ih hne, glue_cons hne]
          simp only [List.append_assoc]

theorem suffix_glue_concat (texts : List (List Letter)) (v : List Letter) :
    v <:+ glue sep (texts ++ [v]) := by
  by_cases hne : texts = []
  · rw [hne, List.nil_append, glue_singleton]
  · rw [glue_concat hne]
    exact List.suffix_append _ _

theorem mem_glue_iff {c : Letter} (hc : c ∉ sep) (texts : List (List Letter)) :
    c ∈ glue sep texts ↔ ∃ v ∈ texts, c ∈ v := by
  induction texts with
  | nil => simp
  | cons v rest ih =>
      cases rest with
      | nil => simp
      | cons w rest =>
          rw [glue_cons (by simp), List.mem_append, List.mem_append, ih]
          simp [hc]

theorem mem_of_mem_glue {c : Letter} {texts : List (List Letter)} (h : c ∈ glue sep texts) :
    c ∈ sep ∨ ∃ v ∈ texts, c ∈ v := by
  by_cases hc : c ∈ sep
  · exact Or.inl hc
  · exact Or.inr ((mem_glue_iff hc texts).1 h)

theorem infix_glue_of_mem {v : List Letter} {texts : List (List Letter)} (h : v ∈ texts) :
    v <:+: glue sep texts := by
  induction texts with
  | nil => cases h
  | cons w rest ih =>
      by_cases hrest : rest = []
      · obtain rfl : v = w := by simpa [hrest] using h
        rw [hrest, glue_singleton]
      · rw [glue_cons hrest]
        rcases List.mem_cons.1 h with rfl | h
        · exact (List.prefix_append _ _).isInfix.trans (List.prefix_append _ _).isInfix
        · exact (ih h).trans (List.suffix_append _ _).isInfix

theorem glue_ne_nil_of_mem {v : List Letter} {texts : List (List Letter)} (h : v ∈ texts)
    (hv : v ≠ []) : glue sep texts ≠ [] := by
  intro hnil
  have hinfix : v <:+: glue sep texts := infix_glue_of_mem h
  exact hv (List.infix_nil.1 (hnil ▸ hinfix))

theorem glue_consFirst {texts : List (List Letter)} (h : texts ≠ []) (c : Letter) :
    glue sep (consFirst c texts) = c :: glue sep texts := by
  cases texts with
  | nil => exact absurd rfl h
  | cons v rest =>
      cases rest with
      | nil => simp [consFirst]
      | cons w rest => simp [consFirst, glue_cons]

/-! ## Splitting, one step at a time -/

theorem piecesFrom_eq_drop (n : Nat) (cs : List Letter) :
    piecesFrom sep n cs = pieces sep (cs.drop n) := by
  induction n generalizing cs with
  | zero => simp [pieces]
  | succ n ih =>
      cases cs with
      | nil => simp [pieces, piecesFrom]
      | cons c rest => simpa [piecesFrom] using ih rest

@[simp]
theorem pieces_nil : pieces sep [] = [[]] := by
  simp [pieces, piecesFrom]

theorem pieces_ne_nil (cs : List Letter) : pieces sep cs ≠ [] :=
  piecesFrom_ne_nil sep 0 cs

/-- A separator at the start ends an empty piece. -/
theorem pieces_append_sep (hsep : sep ≠ []) (rest : List Letter) :
    pieces sep (sep ++ rest) = [] :: pieces sep rest := by
  rcases List.exists_cons_of_ne_nil hsep with ⟨s, tail, rfl⟩
  have hstart : (s :: tail).isPrefixOf (s :: (tail ++ rest)) = true := by
    simp [List.isPrefixOf_iff_prefix]
  have hskip := @piecesFrom_eq_drop (s :: tail) tail.length (tail ++ rest)
  simpa [pieces, piecesFrom, hstart] using hskip

/-- Where no separator starts, the character belongs to the first piece. -/
theorem pieces_cons {c : Letter} {rest : List Letter} (h : ¬ sep <+: c :: rest) :
    pieces sep (c :: rest) = consFirst c (pieces sep rest) := by
  have hstart : sep.isPrefixOf (c :: rest) = false := by
    simpa [← Bool.not_eq_true, List.isPrefixOf_iff_prefix] using h
  simp [pieces, piecesFrom, hstart]

/-- Joining the pieces of a text gives the text back. -/
theorem glue_pieces (hsep : sep ≠ []) (cs : List Letter) : glue sep (pieces sep cs) = cs := by
  -- A separator is skipped as a whole, so the induction is on the length of what is left.
  induction hn : cs.length using Nat.strong_induction_on generalizing cs with
  | _ n ih =>
      by_cases hstart : sep <+: cs
      · rcases hstart with ⟨rest, rfl⟩
        have hpos : 0 < sep.length := List.length_pos_iff.2 hsep
        have hrest := ih rest.length (by simp at hn; omega) rest rfl
        rw [pieces_append_sep hsep, glue_cons (pieces_ne_nil rest), hrest]
        simp
      · cases cs with
        | nil => simp
        | cons c rest =>
            have hrest := ih rest.length (by simp at hn; omega) rest rfl
            rw [pieces_cons hstart, glue_consFirst (pieces_ne_nil rest), hrest]

/-! ## The first piece -/

/-- A separator that starts inside `v ++ sep` before its end lies in `v` and all of the separator
but its last character. -/
theorem prefix_append_dropLast {v rest : List Letter} (hv : v ≠ []) (h : sep <+: v ++ sep ++ rest) :
    sep <+: v ++ sep.dropLast := by
  have hlength : sep.length ≤ (v ++ sep.dropLast).length := by
    have := List.length_pos_iff.2 hv
    simp
    omega
  have hlonger : v ++ sep.dropLast <+: v ++ sep ++ rest := by
    rw [List.append_assoc, List.prefix_append_right_inj]
    exact (List.dropLast_prefix sep).trans (List.prefix_append sep rest)
  exact List.prefix_of_prefix_length_le h hlonger hlength

/-- The text before a separator is the first piece if and only if it does not collide. -/
theorem pieces_append_eq_cons_iff (hsep : sep ≠ []) (v rest : List Letter)
    (others : List (List Letter)) :
    pieces sep (v ++ sep ++ rest) = v :: others ↔
      ¬ sep <:+: v ++ sep.dropLast ∧ pieces sep rest = others := by
  -- Each step asks whether the separator starts at the next character: then both sides fail.
  induction v with
  | nil =>
      have hshort : ¬ sep <:+: sep.dropLast := by
        intro h
        have := h.length_le
        have := List.length_pos_iff.2 hsep
        simp at *
        omega
      simp [pieces_append_sep hsep, hshort]
  | cons c v ih =>
      by_cases hstart : sep <+: (c :: v) ++ sep ++ rest
      · have hinfix : sep <:+: (c :: v) ++ sep.dropLast :=
          (prefix_append_dropLast (by simp) hstart).isInfix
        rcases hstart with ⟨after, hafter⟩
        have hempty : pieces sep ((c :: v) ++ sep ++ rest) = [] :: pieces sep after := by
          rw [← hafter, pieces_append_sep hsep]
        rw [hempty]
        constructor
        · intro h
          simp at h
        · rintro ⟨h, -⟩
          exact absurd hinfix h
      · -- No separator starts here, so the character is passed on to the first piece.
        have hinfix : sep <:+: (c :: v) ++ sep.dropLast ↔ sep <:+: v ++ sep.dropLast := by
          rw [List.cons_append, List.infix_cons_iff]
          constructor
          · rintro (h | h)
            · refine absurd (h.trans ?_) hstart
              rw [List.append_assoc, List.cons_append, List.cons_prefix_cons]
              refine ⟨rfl, ?_⟩
              rw [List.prefix_append_right_inj]
              exact (List.dropLast_prefix sep).trans (List.prefix_append sep rest)
            · exact h
          · exact Or.inr
        have hcons : pieces sep ((c :: v) ++ sep ++ rest) =
            consFirst c (pieces sep (v ++ sep ++ rest)) := pieces_cons hstart
        rw [hcons, hinfix, ← ih]
        cases hpieces : pieces sep (v ++ sep ++ rest) with
        | nil => exact absurd hpieces (pieces_ne_nil _)
        | cons first tail => simp [consFirst]

/-- A text is its own only piece if and only if it does not hold the separator. -/
theorem pieces_eq_singleton_iff (hsep : sep ≠ []) (v : List Letter) :
    pieces sep v = [v] ↔ ¬ sep <:+: v := by
  induction v with
  | nil => simp [hsep]
  | cons c v ih =>
      by_cases hstart : sep <+: c :: v
      · have hinfix : sep <:+: c :: v := hstart.isInfix
        rcases hstart with ⟨after, hafter⟩
        have hempty : pieces sep (c :: v) = [] :: pieces sep after := by
          rw [← hafter, pieces_append_sep hsep]
        simp [hempty, hinfix]
      · have hinfix : sep <:+: c :: v ↔ sep <:+: v := by
          rw [List.infix_cons_iff]
          simp [hstart]
        rw [pieces_cons hstart, hinfix, ← ih]
        cases hpieces : pieces sep v with
        | nil => exact absurd hpieces (pieces_ne_nil v)
        | cons first tail => simp [consFirst]

/-- Splitting joined texts gives the texts back if and only if no text collides. -/
theorem pieces_glue_eq_iff (hsep : sep ≠ []) {texts : List (List Letter)} (hne : texts ≠ []) :
    pieces sep (glue sep texts) = texts ↔ CollisionFree sep texts := by
  induction texts with
  | nil => exact absurd rfl hne
  | cons v rest ih =>
      cases rest with
      | nil =>
          rw [glue_singleton, pieces_eq_singleton_iff hsep, collisionFree_singleton]
      | cons w rest =>
          rw [glue_cons (by simp), pieces_append_eq_cons_iff hsep, ih (by simp),
            collisionFree_cons_cons]

/-! ## A separator of one character -/

theorem singleton_infix_iff {c : Letter} {cs : List Letter} : [c] <:+: cs ↔ c ∈ cs := by
  constructor
  · intro h
    exact h.subset (by simp)
  · intro h
    rcases List.append_of_mem h with ⟨before, after, rfl⟩
    exact ⟨before, after, by simp⟩

/-- Texts without the character are collision-free. -/
theorem pieces_glue_of_not_mem {c : Letter} {texts : List (List Letter)} (hne : texts ≠ [])
    (h : ∀ v ∈ texts, c ∉ v) : pieces [c] (glue [c] texts) = texts := by
  rw [pieces_glue_eq_iff (by simp) hne]
  refine ⟨?_, ?_⟩
  · intro v hv
    simpa [singleton_infix_iff] using h v (List.dropLast_subset texts hv)
  · intro v hv
    simpa [singleton_infix_iff] using h v (List.mem_of_getLast? hv)

/-- No piece holds the character. -/
theorem not_mem_of_mem_pieces {c : Letter} {cs piece : List Letter} (h : piece ∈ pieces [c] cs) :
    c ∉ piece := by
  -- The induction follows the splitting: a character of the text either ends a piece or joins it.
  induction cs generalizing piece with
  | nil =>
      have : piece = [] := by simpa using h
      simp [this]
  | cons d rest ih =>
      by_cases hd : d = c
      · subst hd
        have hcons : pieces [d] (d :: rest) = [] :: pieces [d] rest :=
          pieces_append_sep (by simp) rest
        rw [hcons] at h
        rcases List.mem_cons.1 h with rfl | h
        · simp
        · exact ih h
      · have hstart : ¬ [c] <+: d :: rest := by
          simpa [List.cons_prefix_cons] using Ne.symm hd
        rw [pieces_cons hstart] at h
        cases hpieces : pieces [c] rest with
        | nil => exact absurd hpieces (pieces_ne_nil rest)
        | cons first others =>
            rw [hpieces] at ih h
            rcases List.mem_cons.1 h with rfl | h
            · have := ih (List.mem_cons_self : first ∈ first :: others)
              simp [this, Ne.symm hd]
            · exact ih (List.mem_cons_of_mem _ h)

/-- What a text ends in is what its last piece ends in, if no separator is in it. -/
theorem suffix_last_piece {c : Letter} {cs ending : List Letter} (h : ending <:+ cs)
    (hc : c ∉ ending) : ∃ init last, pieces [c] cs = init ++ [last] ∧ ending <:+ last := by
  have hglue := glue_pieces (show [c] ≠ [] by simp) cs
  rcases List.eq_nil_or_concat' (pieces [c] cs) with hnil | ⟨init, last, hpieces⟩
  · exact absurd hnil (pieces_ne_nil cs)
  · refine ⟨init, last, hpieces, ?_⟩
    rw [hpieces] at hglue
    by_cases hinit : init = []
    · rw [hinit, List.nil_append, glue_singleton] at hglue
      rwa [hglue]
    · -- The separator in front of the last piece is not in the ending.
      have hlast : [c] ++ last <:+ cs := by
        rw [← hglue, glue_concat hinit]
        exact ⟨glue [c] init, by simp⟩
      rcases List.suffix_or_suffix_of_suffix hlast h with hinside | hbefore
      · exact absurd (hinside.subset (by simp)) hc
      · rcases List.suffix_cons_iff.1 hbefore with rfl | hsuffix
        · simp at hc
        · exact hsuffix

/-! ## A separator that overlaps itself -/

theorem infix_append_iff {a b : Letter} (hab : a ≠ b) (v : List Letter) :
    [a, b, a] <:+: v ++ [a, b] ↔ [a, b, a] <:+: v ∨ [a, b] <:+ v := by
  induction v with
  | nil => simp [List.infix_cons_iff, List.cons_prefix_cons, hab]
  | cons c v ih =>
      -- Only a text of at most two characters lets the separator start in it and end behind it.
      have hstart : [a, b, a] <+: c :: (v ++ [a, b]) ↔ [a, b, a] <+: c :: v ∨ [a, b] = c :: v := by
        match v with
        | [] => simp [List.cons_prefix_cons, hab.symm]
        | [d] => simp [List.cons_prefix_cons]
        | d :: e :: v => simp [List.cons_prefix_cons]
      rw [List.cons_append, List.infix_cons_iff, List.infix_cons_iff, List.suffix_cons_iff, ih,
        hstart]
      tauto

/-- Texts do not collide at a separator such as `$*$` exactly when none holds it and none before
another ends in its first half. -/
theorem collisionFree_overlapping_iff {a b : Letter} (hab : a ≠ b) {texts : List (List Letter)} :
    CollisionFree [a, b, a] texts ↔
      (∀ v ∈ texts, ¬ [a, b, a] <:+: v) ∧ ∀ v ∈ texts.dropLast, ¬ [a, b] <:+ v := by
  induction texts with
  | nil => simp [collisionFree_nil]
  | cons v rest ih =>
      cases rest with
      | nil => simp [collisionFree_singleton]
      | cons w rest =>
          have hinner : ¬ [a, b, a] <:+: v ++ [a, b, a].dropLast ↔
              ¬ [a, b, a] <:+: v ∧ ¬ [a, b] <:+ v := by
            rw [show [a, b, a].dropLast = [a, b] from rfl, infix_append_iff hab, not_or]
          rw [collisionFree_cons_cons, hinner, ih]
          simp only [List.forall_mem_cons, List.dropLast_cons_cons]
          tauto

/-! ## The last occurrence -/

section LastOccurrence

variable {c : Letter} {cs before after : List Letter}

private theorem bne_of_mem_reverse (h : c ∉ cs) : ∀ d ∈ cs.reverse, (d != c) = true := by
  intro d hd
  simpa using fun hdc : d = c => h (hdc ▸ List.mem_reverse.1 hd)

theorem afterLast_append_cons (h : c ∉ after) : afterLast c (before ++ c :: after) = after := by
  rw [afterLast, List.reverse_append, List.reverse_cons, List.append_assoc,
    List.takeWhile_append_of_pos (bne_of_mem_reverse h)]
  simp

theorem beforeLast_append_cons (h : c ∉ after) : beforeLast c (before ++ c :: after) = before := by
  rw [beforeLast, List.reverse_append, List.reverse_cons, List.append_assoc,
    List.dropWhile_append_of_pos (bne_of_mem_reverse h)]
  simp

theorem afterLast_of_not_mem (h : c ∉ cs) : afterLast c cs = cs := by
  rw [afterLast, List.takeWhile_eq_self_iff.2 (bne_of_mem_reverse h), List.reverse_reverse]

theorem beforeLast_of_not_mem (h : c ∉ cs) : beforeLast c cs = [] := by
  rw [beforeLast, List.dropWhile_eq_nil_iff.2 (bne_of_mem_reverse h)]
  rfl

/-- A text is taken apart at the last of the occurrences of a character. -/
theorem exists_eq_append_cons_last (h : c ∈ cs) :
    ∃ before after, cs = before ++ c :: after ∧ c ∉ after := by
  obtain ⟨after, before, hreverse, hlast⟩ := List.eq_append_cons_of_mem (List.mem_reverse.2 h)
  refine ⟨before.reverse, after.reverse, ?_, by simpa using hlast⟩
  rw [← List.reverse_reverse cs, hreverse]
  simp

/-- A character of a text stands in front of what follows its last occurrence. -/
theorem cons_afterLast_suffix (h : c ∈ cs) : c :: afterLast c cs <:+ cs := by
  rcases exists_eq_append_cons_last h with ⟨before, after, rfl, hlast⟩
  rw [afterLast_append_cons hlast]
  exact List.suffix_append before _

/-- A text, and its part without the character: the whole text, or what the character stands in
front of at its end. -/
inductive LastPart (c : Letter) : List Letter → List Letter → Prop where
  | whole {part : List Letter} (h : c ∉ part) : LastPart c part part
  | behind (before : List Letter) {part : List Letter} (h : c ∉ part) :
      LastPart c (before ++ c :: part) part

theorem LastPart.eq_or_suffix {part : List Letter} (h : LastPart c cs part) :
    cs = part ∨ c :: part <:+ cs := by
  cases h with
  | whole h => exact Or.inl rfl
  | behind before h => exact Or.inr (List.suffix_append before _)

theorem LastPart.not_mem {part : List Letter} (h : LastPart c cs part) : c ∉ part := by
  cases h with
  | whole h => exact h
  | behind before h => exact h

theorem lastPart_afterLast (c : Letter) (cs : List Letter) : LastPart c cs (afterLast c cs) := by
  by_cases hmem : c ∈ cs
  · rcases exists_eq_append_cons_last hmem with ⟨before, after, rfl, hlast⟩
    rw [afterLast_append_cons hlast]
    exact .behind before hlast
  · rw [afterLast_of_not_mem hmem]
    exact .whole hmem

theorem lastPart_iff {part : List Letter} : LastPart c cs part ↔ afterLast c cs = part := by
  constructor
  · intro h
    cases h with
    | whole h => exact afterLast_of_not_mem h
    | behind before h => exact afterLast_append_cons h
  · rintro rfl
    exact lastPart_afterLast c cs

theorem ofList_afterLast_eq_iff {s : Text} :
    Text.ofList (afterLast c cs) = s ↔ LastPart c cs s.toList := by
  rw [lastPart_iff, Text.ext_iff, Text.toList_ofList]

end LastOccurrence

end Text
end Nullability
