import Nullability.Text.Encoding
import Nullability.Toml.Reader

/-!
# Integers that are too long for TOML

The notation sets no bound on the digits of an integer, but the reader takes only so many. A text
with a longer one is written as it should be, and is not read all the same.

* `IsOverlong`: digits that are one integer, of which there are too many;
* `readPlain?_of_digits`: no other kind of value is seen in them;
* `read?_assignment`: a key with such digits as its value.
-/

namespace Nullability
namespace Toml

/-- Digits that are written like an integer, more of them than an integer may have. -/
structure IsOverlong (digits : List Letter) : Prop where
  all : ∀ c ∈ digits, Json.isDigit c = true
  head : digits.head? ≠ some (.char '0')
  long : Text.longestInteger < digits.length

variable {digits : List Letter}

namespace IsOverlong

theorem exists_cons (h : IsOverlong digits) :
    ∃ c tail, digits = c :: tail ∧ Json.isDigit c = true := by
  cases digits with
  | nil => exact absurd h.long (by simp)
  | cons c tail => exact ⟨c, tail, rfl, h.all c (by simp)⟩

theorem not_mem (h : IsOverlong digits) {mark : Letter} (hmark : Json.isDigit mark = false) :
    mark ∉ digits := by
  intro hmem
  simp [h.all mark hmem] at hmark

/-- Wherever the digits are cut, no mark comes next. -/
theorem drop_ne (h : IsOverlong digits) {mark : Letter} (hmark : Json.isDigit mark = false)
    (n : Nat) (rest : List Letter) : digits.drop n ≠ mark :: rest := by
  intro heq
  exact h.not_mem hmark (List.mem_of_mem_drop (i := n) (by simp [heq]))

theorem ne_cons (h : IsOverlong digits) {mark : Letter} (hmark : Json.isDigit mark = false)
    (rest : List Letter) : digits ≠ mark :: rest :=
  h.drop_ne hmark 0 rest

end IsOverlong

theorem isOverlong_replicate {n : Nat} (h : Text.longestInteger < n) :
    IsOverlong (List.replicate n (.char '1')) := by
  refine ⟨?_, ?_, by rwa [List.length_replicate]⟩
  · intro c hc
    rw [List.eq_of_mem_replicate hc]
    decide
  · rw [List.head?_replicate]
    split <;> decide

/-! ## What the digits are taken for -/

theorem digitRun_of_digits (h : ∀ c ∈ digits, Json.isDigit c = true) (afterDigit : Bool) :
    digitRun Json.isDigit afterDigit digits = digits := by
  induction digits generalizing afterDigit with
  | nil => simp [digitRun]
  | cons c rest ih =>
      have hc := h c (by simp)
      have hrest := ih (fun d hd => h d (by simp [hd])) true
      simp [digitRun, hc, hrest]

theorem readDate?_of_digits (h : IsOverlong digits) : readDate? digits = none := by
  unfold readDate?
  split
  · next hdash _ _ _ => exact absurd hdash (h.drop_ne (by decide) 4 _)
  · rfl

theorem readTime?_of_digits (h : IsOverlong digits) : readTime? digits = none := by
  have hlength : timeLength? digits = none := by
    unfold timeLength?
    split
    · next hcolon _ _ _ => exact absurd hcolon (h.drop_ne (by decide) 2 _)
    · rfl
  simp [readTime?, hlength]

theorem readBased?_of_digits (h : IsOverlong digits) : readBased? digits = none := by
  unfold readBased?
  split
  · exact absurd rfl h.head
  · rfl

theorem readDecimal?_of_digits (h : IsOverlong digits) :
    readDecimal? digits = some (.error .integerTooLong) := by
  have hrun := digitRun_of_digits h.all false
  have hcount : digits.countP Json.isDigit = digits.length := List.countP_eq_length.2 h.all
  have hlong := h.long
  have hne : digits ≠ [] := by
    rcases h.exists_cons with ⟨c, tail, rfl, -⟩
    simp
  have hsign : ((digits.take 1).filter fun c => c == .char '+' || c == .char '-') = [] := by
    rw [List.filter_eq_nil_iff]
    intro c hc
    have hmem := List.mem_of_mem_take hc
    simp only [Bool.or_eq_true, beq_iff_eq, not_or]
    exact ⟨fun heq => h.not_mem (by decide) (heq ▸ hmem),
      fun heq => h.not_mem (by decide) (heq ▸ hmem)⟩
  unfold readDecimal?
  simp only [hsign, List.length_nil, List.drop_zero]
  split
  · exact absurd rfl h.head
  · -- The digits are the whole number, and nothing is left for a fraction or an exponent.
    simp [hrun, hcount, hlong, hne, fractionPart, exponentPart]

theorem readPlain?_of_digits (h : IsOverlong digits) :
    readPlain? digits = .error .integerTooLong := by
  -- A word, a date, a time and a number in another base all need a mark among the digits.
  have hword : ∀ (c : Letter) (word : List Letter), Json.isDigit c = false →
      (c :: word).isPrefixOf digits = false := by
    intro c word hc
    cases hprefix : (c :: word).isPrefixOf digits with
    | false => rfl
    | true =>
        rcases List.isPrefixOf_iff_prefix.1 hprefix with ⟨rest, heq⟩
        exact absurd heq.symm (h.ne_cons hc (word ++ rest))
  have htrue := hword 't' [.char 'r', .char 'u', .char 'e'] (by decide)
  have hfalse := hword 'f' [.char 'a', .char 'l', .char 's', .char 'e'] (by decide)
  simp [readPlain?, htrue, hfalse, readDate?_of_digits h, readTime?_of_digits h,
    readBased?_of_digits h, readDecimal?_of_digits h]

/-! ## A key with too many digits -/

/-- The text that gives a key some characters for its value. -/
def assignment (value : List Letter) : List Letter :=
  .char 'x' :: .char ' ' :: .char '=' :: .char ' ' :: value

theorem readKey?_assignment (value : List Letter) (bound : Nat) :
    readKey? (bound + 1) (assignment value) =
      some ([.ofString "x"], .char '=' :: .char ' ' :: value) := by
  have hx : isNameChar 'x' = true := by decide
  have hblank : isNameChar ' ' = false := by decide
  simp [readKey?, readName?, assignment, hx, hblank, skipSpace, isSpace]

theorem readValue?_of_digits (h : IsOverlong digits) (fuel : Nat) :
    readValue? (fuel + 1) digits = .error .integerTooLong := by
  have hplain := readPlain?_of_digits h
  unfold readValue?
  split
  · exact absurd rfl (h.ne_cons (by decide) _)
  · exact absurd rfl (h.ne_cons (by decide) _)
  · next c rest _ _ =>
    have hquote : ¬ ((c = '"' || c = '\'') = true) := by
      simp only [Bool.or_eq_true, decide_eq_true_eq, not_or]
      exact ⟨by rintro rfl; exact h.ne_cons (by decide) rest rfl,
        by rintro rfl; exact h.ne_cons (by decide) rest rfl⟩
    rw [if_neg hquote]
    exact hplain
  · exact absurd h.long (by simp)

theorem readStatement?_assignment (h : IsOverlong digits) (s : State) :
    readStatement? s (assignment digits) = .error .integerTooLong := by
  have hskip : skipSpace (.char ' ' :: digits) = digits := by
    rcases h.exists_cons with ⟨c, tail, rfl, -⟩
    have hblank : isSpace c = false := by
      have hspace : c ≠ ' ' := by rintro rfl; exact h.ne_cons (by decide) tail rfl
      have htab : c ≠ '\t' := by rintro rfl; exact h.ne_cons (by decide) tail rfl
      simp [isSpace, hspace, htab]
    rw [skipSpace, List.dropWhile_cons_of_pos (by decide),
      List.dropWhile_cons_of_neg (by simp [hblank])]
  have hkey := readKey?_assignment digits (digits.length + 3)
  have hvalue := readValue?_of_digits h ((.char ' ' :: digits).length)
  unfold readStatement?
  simp only [assignment] at hkey ⊢
  simp only [List.length_cons] at hkey hvalue ⊢
  simp [hkey, hskip, hvalue]

theorem readStatements?_of_error (bound : Nat) {s : State} {cs rest : List Letter} {c : Letter}
    {e : Document.ReadError} (hskip : skipSpaceAndLines cs = c :: rest)
    (hstatement : readStatement? s (c :: rest) = .error e) :
    readStatements? (bound + 1) s cs = .error e := by
  unfold readStatements?
  simp only [hskip, hstatement]

/-- A text that gives a key too many digits breaks no rule, and is not read all the same. -/
theorem covers_assignment (h : IsOverlong digits) :
    Encoding.utf8.covers (Text.ofList (assignment digits)) = true := by
  have hdigits : ∀ c ∈ digits, Encoding.utf8.takes c = true := by
    intro c hc
    have hdigit : c.toNat ≤ ('9' : Letter).toNat :=
      of_decide_eq_true (Bool.and_eq_true_iff.1 (h.all c hc)).2
    rw [Encoding.takes_utf8]
    cases c with
    | char c => rfl
    | half i => exact absurd hdigit (by simp [Letter.toNat]; omega)
  simpa [Encoding.covers, assignment] using ⟨by decide, by decide, by decide, by decide, hdigits⟩

theorem read?_assignment (h : IsOverlong digits) :
    read? (Text.ofList (assignment digits)) = .error .integerTooLong := by
  -- There is one statement on one line, so the text is taken as it stands.
  have hends : ∀ cs : List Letter, .char '\r' ∉ cs → unifyLineEnds cs = cs := by
    intro cs hcs
    induction cs using unifyLineEnds.induct with
    | case1 => rfl
    | case2 rest => simp at hcs
    | case3 c rest hne ih => rw [unifyLineEnds.eq_3 _ _ hne, ih (by simp_all)]
  have hreturn : .char '\r' ∉ assignment digits := by
    simpa [assignment] using h.not_mem (by decide)
  have hskip : skipSpaceAndLines (assignment digits) = assignment digits := by
    simp [skipSpaceAndLines, assignment, isSpace]
  have hstatements := readStatements?_of_error (assignment digits).length hskip
    (readStatement?_assignment h State.initial)
  simp only [read?, hends _ hreturn, hstatements, Except.map]

end Toml
end Nullability
