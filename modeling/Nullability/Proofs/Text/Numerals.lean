import Mathlib.Algebra.Order.Ring.Nat
import Mathlib.Tactic.Ring
import Nullability.Text.Numeral

/-!
# How long a written integer is

The reader of integers takes no more than `longestInteger` digits. `IsShort` says that an integer
has no more, and what a person can type as an option is short:

* `length_decimalDigits_le_iff`: the number of digits is a bound on the number;
* `isShort_of_readInteger?`: an integer that was read is short.
-/

namespace Nullability
namespace Text

theorem decimalDigits_of_lt {n : Nat} (h : n < 10) : decimalDigits n = [digitChar n] := by
  rw [decimalDigits, if_pos h]

theorem decimalDigits_of_ge {n : Nat} (h : ¬ n < 10) :
    decimalDigits n = decimalDigits (n / 10) ++ [digitChar (n % 10)] := by
  rw [decimalDigits, if_neg h]

theorem length_decimalDigits_le_iff {k n : Nat} :
    (decimalDigits n).length ≤ k + 1 ↔ n < 10 ^ (k + 1) := by
  induction k generalizing n with
  | zero =>
      by_cases h : n < 10
      · simp [decimalDigits_of_lt h, h]
      · have hne := List.length_pos_iff.2 (decimalDigits_ne_nil (n / 10))
        simp only [decimalDigits_of_ge h, List.length_append, List.length_singleton]
        omega
  | succ k ih =>
      by_cases h : n < 10
      · have hle : 10 ^ 1 ≤ 10 ^ (k + 1 + 1) := Nat.pow_le_pow_right (by decide) (by omega)
        have hlt : n < 10 ^ (k + 1 + 1) := by omega
        simp [decimalDigits_of_lt h, hlt]
      · have hdiv : n / 10 < 10 ^ (k + 1) ↔ n < 10 ^ (k + 1 + 1) := by
          rw [Nat.div_lt_iff_lt_mul (by decide), ← Nat.pow_succ]
        rw [decimalDigits_of_ge h, List.length_append, List.length_singleton, ← hdiv, ← ih]
        omega

/-! ## What was read -/

/-- Every digit makes room for ten times as many numbers. -/
theorem readDigits?_lt {value : Nat} {afterDigit : Bool} {cs : List Letter} {n : Nat}
    (h : readDigits? value afterDigit cs = some n) :
    n < (value + 1) * 10 ^ cs.countP Letter.isDigit := by
  -- The value so far stays below a bound that each digit multiplies by ten; underscores do nothing.
  induction cs generalizing value afterDigit with
  | nil =>
      cases afterDigit <;> simp [readDigits?] at h
      simp [h]
  | cons c rest ih =>
      rw [readDigits?] at h
      split at h
      · next hdigit =>
        have hnine : c.toNat - 0x30 ≤ 9 := by
          have hle := Letter.toNat_le_of_isDigit hdigit
          omega
        have hrest := ih h
        have hroom : (10 * value + (c.toNat - 0x30) + 1) * 10 ^ rest.countP Letter.isDigit ≤
            10 * (value + 1) * 10 ^ rest.countP Letter.isDigit :=
          Nat.mul_le_mul_right _ (by omega)
        calc n < (10 * value + (c.toNat - 0x30) + 1) * 10 ^ rest.countP Letter.isDigit := hrest
          _ ≤ 10 * (value + 1) * 10 ^ rest.countP Letter.isDigit := hroom
          _ = (value + 1) * 10 ^ (c :: rest).countP Letter.isDigit := by
              rw [List.countP_cons_of_pos hdigit, Nat.pow_succ]
              ring
      · next hdigit =>
        split at h
        · rw [List.countP_cons_of_neg hdigit]
          exact ih h
        · cases h

theorem isShort_of_readNatural? {cs : List Letter} {n : Nat} (h : readNatural? cs = some n) :
    (decimalDigits n).length ≤ longestInteger := by
  unfold readNatural? at h
  dsimp only at h
  split at h
  · cases h
  · next hcount =>
    have hlt := readDigits?_lt h
    -- The limit stays a variable, since the power of it is never to be computed.
    obtain ⟨k, hk⟩ : ∃ k, longestInteger = k + 1 := ⟨_, rfl⟩
    rw [hk] at hcount ⊢
    rw [length_decimalDigits_le_iff]
    calc n < (0 + 1) * 10 ^ _ := hlt
      _ = 10 ^ _ := by rw [Nat.zero_add, Nat.one_mul]
      _ ≤ 10 ^ (k + 1) := Nat.pow_le_pow_right (by decide) (by omega)

/-- An integer that was read has no more digits than the reader takes. -/
theorem isShort_of_readInteger? {cs : List Letter} {n : Int} (h : readInteger? cs = some n) :
    IsShort n := by
  unfold readInteger? at h
  split at h
  · rcases Option.map_eq_some_iff.1 h with ⟨m, hm, rfl⟩
    simpa [IsShort] using isShort_of_readNatural? hm
  · rcases Option.map_eq_some_iff.1 h with ⟨m, hm, rfl⟩
    exact isShort_of_readNatural? hm
  · rcases Option.map_eq_some_iff.1 h with ⟨m, hm, rfl⟩
    exact isShort_of_readNatural? hm

end Text
end Nullability
