import Mathlib.Data.List.Chain
import Nullability.Proofs.Text.Trimming

/-!
# Texts without pairs

In ASCII a character beyond the first plane is escaped as the two halves of a pair. A text that has
such halves side by side would be read back with that character in their place, so it matters where
they do not meet.

* `IsUnpaired`: no first half of a pair stands directly before a second half;
* `IsUnpaired.between`, `isUnpaired_glue`: texts that something else keeps apart;
* `isUnpaired_piecesOf`, `isUnpaired_trimmed`: parts of texts.
-/

namespace Nullability
namespace Json

/-- No first half of a pair stands directly before a second half. -/
def IsUnpaired (cs : List Letter) : Prop :=
  cs.IsChain fun c d => ¬ (c.isHigh = true ∧ d.isLow = true)

instance : DecidablePred IsUnpaired := fun cs =>
  inferInstanceAs (Decidable (cs.IsChain _))

theorem isUnpaired_of_forall {cs : List Letter} (h : ∀ c ∈ cs, c.isHigh = false) :
    IsUnpaired cs := by
  induction cs with
  | nil => exact .nil
  | cons c cs ih =>
      have hrest := ih fun d hd => h d (List.mem_cons_of_mem c hd)
      cases cs with
      | nil => exact .singleton c
      | cons d cs => exact .cons_cons (by simp [h c List.mem_cons_self]) hrest

theorem isUnpaired_ofString (s : String) : IsUnpaired (s : Text).toList := by
  refine isUnpaired_of_forall fun c hc => ?_
  rcases List.mem_map.1 hc with ⟨d, -, rfl⟩
  exact Letter.isHigh_char d

theorem IsUnpaired.of_isInfix {part cs : List Letter} (h : IsUnpaired cs) (hpart : part <:+: cs) :
    IsUnpaired part := by
  rcases hpart with ⟨before, after, rfl⟩
  exact h.left_of_append.right_of_append

/-- A character is no half of a pair, so nothing meets across it. -/
theorem IsUnpaired.between {cs ds : List Letter} (hcs : IsUnpaired cs) (hds : IsUnpaired ds)
    (mark : Char) : IsUnpaired (cs ++ [.char mark] ++ ds) := by
  refine List.IsChain.append (List.IsChain.append hcs (.singleton _) ?_) hds ?_
  · intro c _ d hd
    obtain rfl : Letter.char mark = d := by simpa using hd
    simp [Letter.isLow_char]
  · intro c hc d _
    obtain rfl : Letter.char mark = c := by simpa using hc
    simp [Letter.isHigh_char]

theorem isUnpaired_glue {texts : List (List Letter)} (h : ∀ v ∈ texts, IsUnpaired v)
    (mark : Char) : IsUnpaired (Text.glue [.char mark] texts) := by
  induction texts with
  | nil => exact .nil
  | cons v rest ih =>
      have hv := h v List.mem_cons_self
      by_cases hrest : rest = []
      · rwa [hrest, Text.glue_singleton]
      · rw [Text.glue_cons hrest]
        exact hv.between (ih fun w hw => h w (List.mem_cons_of_mem v hw)) mark

theorem isUnpaired_piecesOf {mark : Char} {s : Text} (h : IsUnpaired s.toList) :
    ∀ piece ∈ Text.piecesOf (.ofList [.char mark]) s, IsUnpaired piece.toList := by
  intro piece hpiece
  rcases List.mem_map.1 hpiece with ⟨cs, hcs, rfl⟩
  have hpart : cs <:+: Text.glue [.char mark] (Text.pieces [.char mark] s.toList) :=
    Text.infix_glue_of_mem hcs
  rw [Text.toList_ofList, Text.glue_pieces (by simp)] at hpart
  simpa using h.of_isInfix hpart

theorem isUnpaired_trimmed {s : Text} (h : IsUnpaired s.toList) :
    IsUnpaired (Text.trimmed s).toList := by
  rcases Text.eq_append_trim s.toList with ⟨before, after, hs, -, -⟩
  refine h.of_isInfix ⟨before, after, ?_⟩
  rw [Text.trimmed, Text.toList_ofList, List.append_assoc, ← hs]

end Json
end Nullability
