import Nullability.Json.Reader
import Nullability.Proofs.Text.Numerals

/-!
# Integers in a JSON text

A written integer is read back where the text behind it does not go on with the number.

* `digitsValue_decimalDigits`: the digits of a number stand for it;
* `wholeDigits_decimalDigits`: the reader takes all of them and no more;
* `readAtom?_integerChars`: an integer is read back if it is short, and is too long otherwise.
-/

namespace Nullability
namespace Json

/-! ## Digits -/

theorem isDigit_digitChar {n : Nat} (h : n < 10) : isDigit (Text.digitChar n) = true := by
  revert n
  decide

theorem toNat_digitChar {n : Nat} (h : n < 10) : (Text.digitChar n).toNat - 0x30 = n := by
  revert n
  decide

theorem digitChar_ne_zero {n : Nat} (h : n < 10) (hn : n ≠ 0) : Text.digitChar n ≠ '0' := by
  revert n
  decide

theorem digitsValue_append (digits : List Letter) (c : Letter) :
    digitsValue (digits ++ [c]) = 10 * digitsValue digits + (c.toNat - 0x30) := by
  simp [digitsValue]

theorem digitsValue_decimalDigits (n : Nat) : digitsValue (Text.decimalDigits n) = n := by
  induction n using Text.decimalDigits.induct with
  | case1 n h =>
      simpa [Text.decimalDigits_of_lt h, digitsValue] using toNat_digitChar h
  | case2 n h ih =>
      have hlast := toNat_digitChar (Nat.mod_lt n (show 0 < 10 by decide))
      rw [Text.decimalDigits_of_ge h, digitsValue_append, ih, hlast]
      exact Nat.div_add_mod n 10

theorem isDigit_of_mem_decimalDigits {n : Nat} {c : Letter} (h : c ∈ Text.decimalDigits n) :
    isDigit c = true := by
  induction n using Text.decimalDigits.induct with
  | case1 n hn =>
      obtain rfl : c = Text.digitChar n := by simpa [Text.decimalDigits_of_lt hn] using h
      exact isDigit_digitChar hn
  | case2 n hn ih =>
      rw [Text.decimalDigits_of_ge hn, List.mem_append, List.mem_singleton] at h
      rcases h with hfront | rfl
      · exact ih hfront
      · exact isDigit_digitChar (Nat.mod_lt n (by decide))

theorem decimalDigits_cons (n : Nat) :
    ∃ c digits, Text.decimalDigits n = c :: digits ∧ isDigit c = true := by
  cases hdigits : Text.decimalDigits n with
  | nil => exact absurd hdigits (Text.decimalDigits_ne_nil n)
  | cons c digits =>
      exact ⟨c, digits, rfl, isDigit_of_mem_decimalDigits (n := n) (by simp [hdigits])⟩

theorem integerChars_cons (n : Int) :
    ∃ c tail, Text.integerChars n = c :: tail ∧ (c = '-' ∨ isDigit c = true) := by
  cases n with
  | ofNat m =>
      rcases decimalDigits_cons m with ⟨c, digits, heq, hdigit⟩
      exact ⟨c, digits, heq, Or.inr hdigit⟩
  | negSucc m => exact ⟨'-', _, rfl, Or.inl rfl⟩

/-- Only the number zero starts with a zero. -/
theorem head?_decimalDigits {n : Nat} (h : n ≠ 0) :
    (Text.decimalDigits n).head? ≠ some (.char '0') := by
  induction n using Text.decimalDigits.induct with
  | case1 n hn => simpa [Text.decimalDigits_of_lt hn] using digitChar_ne_zero hn h
  | case2 n hn ih =>
      have hfront := ih (by omega)
      rw [Text.decimalDigits_of_ge hn]
      cases hdigits : Text.decimalDigits (n / 10) with
      | nil => exact absurd hdigits (Text.decimalDigits_ne_nil _)
      | cons c digits => simpa [hdigits] using hfront

/-! ## The end of a number -/

/-- What may follow a value inside a document: nothing, a blank, a comma, or what closes a list or
a table. -/
def Closes (rest : List Letter) : Prop :=
  ∀ c ∈ rest.head?, isSpace c = true ∨ c ∈ [.char ',', .char ']', .char '\x7d']

theorem closes_nil : Closes [] := by
  simp [Closes]

theorem closes_cons {c : Letter} (h : isSpace c = true ∨ c ∈ [.char ',', .char ']', .char '\x7d'])
    (rest : List Letter) :
    Closes (c :: rest) := by
  rintro d ⟨⟩
  exact h

/-- What follows a value does not go on with a number. -/
theorem Closes.not_number {c : Letter} {rest : List Letter} (h : Closes (c :: rest)) :
    isDigit c = false ∧ c ≠ '.' ∧ c ≠ 'e' ∧ c ≠ 'E' := by
  have hcases : c ∈ [.char ' ', .char '\t', .char '\n', .char '\r', .char ',', .char ']',
      .char '\x7d'] := by
    simpa [isSpace, or_assoc] using h c rfl
  simp only [List.mem_cons, List.not_mem_nil, or_false] at hcases
  rcases hcases with rfl | rfl | rfl | rfl | rfl | rfl | rfl <;> decide

theorem Closes.takeWhile_isDigit {rest : List Letter} (h : Closes rest) :
    rest.takeWhile isDigit = [] := by
  cases rest with
  | nil => rfl
  | cons c rest => simp [h.not_number.1]

theorem Closes.fractionPart {rest : List Letter} (h : Closes rest) : fractionPart rest = [] := by
  cases rest with
  | nil => rfl
  | cons c rest =>
      have hpoint := h.not_number.2.1
      unfold Json.fractionPart
      split
      · next heq => cases heq; exact absurd rfl hpoint
      · rfl

theorem Closes.exponentPart {rest : List Letter} (h : Closes rest) : exponentPart rest = [] := by
  cases rest with
  | nil => rfl
  | cons c rest => simp [Json.exponentPart, h.not_number.2.2.1, h.not_number.2.2.2]

/-! ## Integers -/

theorem wholeDigits_decimalDigits (n : Nat) {rest : List Letter} (h : Closes rest) :
    wholeDigits (Text.decimalDigits n ++ rest) = Text.decimalDigits n := by
  by_cases hn : n = 0
  · rw [hn, Text.decimalDigits_of_lt (by decide)]
    rfl
  · have htake : (Text.decimalDigits n ++ rest).takeWhile isDigit = Text.decimalDigits n := by
      rw [List.takeWhile_append_of_pos fun c hc => isDigit_of_mem_decimalDigits hc,
        h.takeWhile_isDigit, List.append_nil]
    -- The reader takes a leading zero for the whole number, which only zero itself has.
    have hhead := head?_decimalDigits hn
    rcases decimalDigits_cons n with ⟨c, digits, hdigits, -⟩
    unfold wholeDigits
    split
    · next tail heq =>
      rw [hdigits] at heq hhead
      cases heq
      exact absurd rfl hhead
    · exact htake

/-- What the reader makes of digits behind which a number ends, with or without a sign. -/
theorem readNumber?_of_whole {cs whole rest : List Letter} {negative : Bool}
    (hsign : (cs.head? == some (.char '-')) = negative)
    (hdigits : (if negative then cs.tail else cs) = whole ++ rest)
    (hwhole : wholeDigits (whole ++ rest) = whole) (hne : whole ≠ []) (h : Closes rest) :
    readNumber? cs =
      if whole.length ≤ Text.longestInteger then
        .ok (.integer (if negative then -(digitsValue whole : Int) else digitsValue whole), rest)
      else .error .integerTooLong := by
  by_cases hlength : Text.longestInteger < whole.length
  · have hlong : ¬ whole.length ≤ Text.longestInteger := by omega
    simp [readNumber?, hsign, hdigits, hwhole, hne, h.fractionPart, h.exponentPart, hlength, hlong]
  · have hshort : whole.length ≤ Text.longestInteger := by omega
    simp [readNumber?, hsign, hdigits, hwhole, hne, h.fractionPart, h.exponentPart, hlength,
      hshort]

/-- Neither a sign nor the start of a word is a digit. -/
theorem ne_of_isDigit {c : Letter} (h : isDigit c = true) :
    '-' ≠ c ∧ 'n' ≠ c ∧ 't' ≠ c ∧ 'f' ≠ c ∧ 'N' ≠ c ∧ 'I' ≠ c := by
  refine ⟨?_, ?_, ?_, ?_, ?_, ?_⟩ <;> (rintro rfl; revert h; decide)

theorem find?_words_digit {c : Letter} (h : isDigit c = true) (cs : List Letter) :
    words.find? (fun (word, _) => word.toList.isPrefixOf (c :: cs)) = none := by
  simp [words, ne_of_isDigit h]

theorem find?_words_minus {c : Letter} (h : isDigit c = true) (cs : List Letter) :
    words.find? (fun (word, _) => word.toList.isPrefixOf (.char '-' :: c :: cs)) = none := by
  simp [words, ne_of_isDigit h]

/-- A written integer is no word, and it is read back if it is short. -/
theorem readAtom?_integerChars (n : Int) {rest : List Letter} (h : Closes rest) :
    readAtom? (Text.integerChars n ++ rest) =
      if Text.IsShort n then .ok (.integer n, rest) else .error .integerTooLong := by
  -- Words are tried first, and two of them start with the sign that a negative integer has.
  cases n with
  | ofNat m =>
      rcases decimalDigits_cons m with ⟨c, digits, heq, hc⟩
      have hminus : ((Text.decimalDigits m ++ rest).head? == some (.char '-')) = false := by
        simpa [heq] using (ne_of_isDigit hc).1.symm
      have hnumber := readNumber?_of_whole hminus rfl (wholeDigits_decimalDigits m h)
        (Text.decimalDigits_ne_nil m) h
      have hword : words.find? (fun (word, _) =>
          word.toList.isPrefixOf (Text.decimalDigits m ++ rest)) = none := by
        rw [heq]
        exact find?_words_digit hc (digits ++ rest)
      simp only [Text.integerChars, readAtom?, hword, hnumber, digitsValue_decimalDigits]
      rfl
  | negSucc m =>
      rcases decimalDigits_cons (m + 1) with ⟨c, digits, heq, hc⟩
      have hsign :
          ((.char '-' :: (Text.decimalDigits (m + 1) ++ rest)).head? == some (.char '-')) = true :=
        rfl
      have hnumber := readNumber?_of_whole hsign rfl
        (wholeDigits_decimalDigits (m + 1) h) (Text.decimalDigits_ne_nil (m + 1)) h
      have hword : words.find? (fun (word, _) =>
          word.toList.isPrefixOf (.char '-' :: (Text.decimalDigits (m + 1) ++ rest))) = none := by
        rw [heq]
        exact find?_words_minus hc (digits ++ rest)
      simp only [Text.integerChars, List.cons_append, readAtom?, hword, hnumber,
        digitsValue_decimalDigits]
      rfl

end Json
end Nullability
