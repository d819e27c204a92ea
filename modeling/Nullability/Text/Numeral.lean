import Nullability.Text.Blank

/-!
# Integers in decimal

* `decimalDigits` and `integerText` write a number, the shortest way;
* `readInteger?` reads one as a person may type it: white space around it, a sign, zeros in front
  of it, single underscores between the digits, and zeros behind a point.
-/

namespace Nullability
namespace Text

/-! ## Writing -/

/-- The digit for a number below ten. -/
def digitChar (n : Nat) : Letter :=
  Char.ofNat (0x30 + n)

/-- The decimal digits of a number, without leading zeros. -/
def decimalDigits (n : Nat) : List Letter :=
  if n < 10 then [digitChar n] else decimalDigits (n / 10) ++ [digitChar (n % 10)]
termination_by n
decreasing_by omega

/-- An integer in decimal, with a minus sign when it is negative. -/
def integerChars : Int → List Letter
  | .ofNat n => decimalDigits n
  | .negSucc n => .char '-' :: decimalDigits (n + 1)

/-- An integer in decimal, as a string. -/
def integerText (n : Int) : Text :=
  Text.ofList (integerChars n)

theorem decimalDigits_ne_nil (n : Nat) : decimalDigits n ≠ [] := by
  rw [decimalDigits]
  split <;> simp

/-! ## The longest integers -/

/-- The most digits that an integer may have which is read from a text or written to one. -/
def longestInteger : Nat := 4300

/-- The message for an integer with more digits. -/
def tooManyDigits : Text :=
  "an integer has more than " ++ integerText longestInteger ++ " digits"

/-- An integer with no more digits than that. -/
def IsShort (n : Int) : Prop :=
  (decimalDigits n.natAbs).length ≤ longestInteger

instance (n : Int) : Decidable (IsShort n) :=
  inferInstanceAs (Decidable (_ ≤ _))

/-! ## Reading -/

/-- The text without the white space around it. -/
def stripped (cs : List Letter) : List Letter :=
  ((cs.dropWhile isWhiteSpace).reverse.dropWhile isWhiteSpace).reverse

/-- The text without the zeros it starts with, behind each of which underscores may stand. One is
kept where no other digit follows. -/
def dropLeadingZeros (cs : List Letter) : List Letter :=
  match cs with
  | .char '0' :: _ =>
      let zeros := cs.takeWhile fun c => c == .char '0' || c == .char '_'
      let rest := cs.drop zeros.length
      if (rest.head?.map Letter.isDigit).getD false then rest else zeros.getLast?.toList ++ rest
  | _ => cs

/-- The text without a point and the zeros behind it that end it. -/
def dropZeroFraction (cs : List Letter) : List Letter :=
  let whole := cs.takeWhile (· != .char '.')
  let fraction := cs.drop (whole.length + 1)
  if !fraction.isEmpty && fraction.all (· == .char '0') then whole else cs

/-- The value of digits with at most one underscore between two of them, read after digits of
value `value`; `afterDigit` says that the character before was a digit. -/
def readDigits? (value : Nat) (afterDigit : Bool) : List Letter → Option Nat
  | [] => if afterDigit then some value else none
  | c :: rest =>
      if c.isDigit then readDigits? (10 * value + (c.toNat - 0x30)) true rest
      else if c = '_' && afterDigit then readDigits? value false rest
      else none

/-- The number that a text without a sign stands for, if it stands for one. -/
def readNatural? (cs : List Letter) : Option Nat :=
  let digits := dropZeroFraction (dropLeadingZeros cs)
  if longestInteger < digits.countP Letter.isDigit then none else readDigits? 0 false digits

/-- The integer that a text stands for, if it stands for one. -/
def readInteger? (cs : List Letter) : Option Int :=
  match stripped cs with
  | .char '-' :: rest => (readNatural? rest).map fun n => -Int.ofNat n
  | .char '+' :: rest => (readNatural? rest).map Int.ofNat
  | rest => (readNatural? rest).map Int.ofNat

end Text
end Nullability
