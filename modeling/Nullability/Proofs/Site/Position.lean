import Nullability.Site

/-!
# The position of a symbol

A method may declare one symbol several times, and look-alikes of it that differ in what is written
on them. The position of the symbol is the first of its own.

* `Method.DeclaresFirstAt`: where a method declares a symbol for the first time;
* `position?_eq_some_iff`, `position?_eq_none_iff`: this is what the search finds;
* `indexOf_eq_natCast_iff`, `indexOf_eq_neg_one_iff`: the same for the position as a number;
* `parameter?_eq`: what the look-up of a symbol gives.
-/

namespace Nullability
namespace Method

variable {m : Method} {s : Symbol} {i : Nat}

/-- The method declares the symbol at a position and at none before it. -/
def DeclaresFirstAt (m : Method) (s : Symbol) (i : Nat) : Prop :=
  m.parameters[i]? = some s ∧ ∀ j < i, m.parameters[j]? ≠ some s

theorem position?_eq_none_iff : m.position? s = none ↔ s ∉ m.parameters := by
  rw [position?, List.findIdx?_eq_none_iff]
  constructor
  · intro h hmem
    simpa using h s hmem
  · intro h p hp
    have hne : p ≠ s := by
      rintro rfl
      exact h hp
    simpa using hne

theorem position?_eq_some_iff : m.position? s = some i ↔ m.DeclaresFirstAt s i := by
  rw [position?, List.findIdx?_eq_some_iff_getElem]
  constructor
  · rintro ⟨hi, hfound, hbefore⟩
    refine ⟨List.getElem?_eq_some_iff.2 ⟨hi, by simpa using hfound⟩, ?_⟩
    intro j hj hsame
    rcases List.getElem?_eq_some_iff.1 hsame with ⟨_, hself⟩
    exact hbefore j hj (by simpa using hself)
  · rintro ⟨hfound, hbefore⟩
    rcases List.getElem?_eq_some_iff.1 hfound with ⟨hi, hself⟩
    refine ⟨hi, by simpa using hself, ?_⟩
    intro j hj hsame
    have hlt : j < m.parameters.length := Nat.lt_trans hj hi
    exact hbefore j hj (List.getElem?_eq_some_iff.2 ⟨hlt, by simpa using hsame⟩)

/-- A symbol stands where it is declared. -/
theorem getElem?_of_position? (h : m.position? s = some i) : m.parameters[i]? = some s :=
  (position?_eq_some_iff.1 h).1

/-- Only a declared parameter is found, and it is found as it is declared. -/
theorem parameter?_eq (m : Method) (s : Symbol) :
    m.parameter? s = if s ∈ m.parameters then some s else none := by
  cases hposition : m.position? s with
  | none => simp [parameter?, hposition, position?_eq_none_iff.1 hposition]
  | some i =>
      have hself := getElem?_of_position? hposition
      have hmem : s ∈ m.parameters := List.mem_of_getElem? hself
      simp [parameter?, hposition, hself, hmem]

/-! ## The position as a number -/

theorem indexOf_eq_natCast_iff : m.indexOf s = i ↔ m.DeclaresFirstAt s i := by
  rw [← position?_eq_some_iff, indexOf]
  cases m.position? s with
  | none => simp
  | some j =>
      rw [Option.some.injEq]
      exact Int.ofNat_inj

theorem indexOf_eq_neg_one_iff : m.indexOf s = -1 ↔ s ∉ m.parameters := by
  rw [← position?_eq_none_iff, indexOf]
  cases m.position? s <;> simp

theorem indexOf_of_mem (h : s ∈ m.parameters) :
    ∃ i : Nat, m.indexOf s = i ∧ i < m.parameters.length ∧ m.parameters[i]? = some s := by
  cases hposition : m.position? s with
  | none => exact absurd h (position?_eq_none_iff.1 hposition)
  | some i =>
      have hself := getElem?_of_position? hposition
      rcases List.getElem?_eq_some_iff.1 hself with ⟨hi, -⟩
      exact ⟨i, by simp [indexOf, hposition], hi, hself⟩

end Method
end Nullability
