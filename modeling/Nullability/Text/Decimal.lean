import Nullability.Text.Numeral

/-!
# Numbers with a fraction

A number with a fraction or an exponent is kept as it was written and counts as the closest double:
`mantissa · 2 ^ exponent` with a mantissa of at most 53 bits. It is shown with the fewest digits
that are read back as the same double.

* `Binary.ofDecimal` is the closest double, `Binary.shortest` finds the digits;
* `Binary.text` writes them, positionally where the exponent is small.

All arithmetic is on natural numbers, and exact.
-/

namespace Nullability
namespace Text

/-! ## Decimal literals -/

/-- The number `digits · 10 ^ exponent`. -/
structure Decimal where
  negative : Bool
  digits : Nat
  exponent : Int
  deriving DecidableEq, Repr

namespace Decimal

/-- The digits of a text as one number; other characters are left out. -/
def digitsOf (cs : List Letter) : Nat :=
  (cs.filter Letter.isDigit).foldl (fun n c => 10 * n + (c.toNat - 0x30)) 0

/-- The integer that an exponent stands for. -/
def exponentOf (cs : List Letter) : Int :=
  if cs.head? = some (.char '-') then -(digitsOf cs : Int) else digitsOf cs

/-- The number that a literal stands for, such as `-1.50e3`. -/
def ofLiteral (literal : Text) : Decimal :=
  let isMark (c : Letter) : Bool := c == .char 'e' || c == .char 'E'
  let mantissa := literal.toList.takeWhile fun c => !isMark c
  let exponent := literal.toList.drop (mantissa.length + 1)
  let fraction := mantissa.dropWhile (· != .char '.')
  ⟨literal.toList.head? = some (.char '-'), digitsOf mantissa,
    exponentOf exponent - (fraction.length - 1 : Nat)⟩

end Decimal

/-! ## Doubles -/

/-- A double: a number, or one of the three values beyond numbers. -/
inductive Binary where
  | finite (negative : Bool) (mantissa : Nat) (exponent : Int)
  | infinite (negative : Bool)
  | nan
  deriving DecidableEq, Repr

namespace Binary

/-- The exponent of the smallest doubles. -/
def lowestExponent : Int := -1074

/-- The exponent of the largest doubles. -/
def highestExponent : Int := 971

/-- The bits of a mantissa. -/
def mantissaBits : Nat := 53

/-- A quotient rounded to the nearest integer, a half to the even one. -/
def roundDiv (num den : Nat) : Nat :=
  let whole := num / den
  let twice := 2 * (num % den)
  if twice < den then whole
  else if den < twice then whole + 1
  else if whole % 2 = 0 then whole else whole + 1

/-- A power of ten. -/
def tenTo (exponent : Nat) : Nat :=
  Nat.pow 10 exponent

/-- A quotient divided by a power of two, as a quotient. -/
def divPow (num den : Nat) (exponent : Int) : Nat × Nat :=
  (num <<< (-exponent).toNat, den <<< exponent.toNat)

/-- The double that is closest to a quotient. -/
def ofQuotient (negative : Bool) (num den : Nat) : Binary :=
  if num = 0 then finite negative 0 lowestExponent
  else
    let guess : Int := (num.log2 : Int) - den.log2 - mantissaBits
    -- The quotient has 53 or 54 bits at this exponent.
    let (n, d) := divPow num den guess
    let exponent := max (if 1 <<< mantissaBits ≤ n / d then guess + 1 else guess) lowestExponent
    let (n, d) := divPow num den exponent
    let mantissa := roundDiv n d
    -- Rounding up may have added a bit.
    let (mantissa, exponent) :=
      if mantissa = 1 <<< mantissaBits then (1 <<< (mantissaBits - 1), exponent + 1)
      else (mantissa, exponent)
    if highestExponent < exponent then infinite negative
    else finite negative mantissa exponent

/-- The double that is closest to a decimal number. Numbers far beyond all doubles are decided by
their size alone. -/
def ofDecimal (d : Decimal) : Binary :=
  let size := d.exponent + (decimalDigits d.digits).length
  if d.digits = 0 || size < -400 then finite d.negative 0 lowestExponent
  else if 400 < size then infinite d.negative
  else ofQuotient d.negative (d.digits * tenTo d.exponent.toNat) (tenTo (-d.exponent).toNat)

/-- The double that a literal stands for. -/
def ofLiteral (literal : Text) : Binary :=
  if literal = "NaN" then nan
  else if literal = "Infinity" then infinite false
  else if literal = "-Infinity" then infinite true
  else ofDecimal (.ofLiteral literal)

/-! ## The fewest digits -/

/-- The points around a mantissa between which its double is the closest one, in quarters of the
unit of the mantissa. Below a power of two the doubles are closer together. -/
def bounds (mantissa : Nat) (exponent : Int) : Nat × Nat :=
  let isPower := mantissa = 1 <<< (mantissaBits - 1) && lowestExponent < exponent
  (4 * mantissa - (if isPower then 1 else 2), 4 * mantissa + 2)

/-- A point of a decimal grid and a number of quarters, both as multiples of one unit. -/
def aligned (point : Nat) (grid : Int) (quarters : Nat) (exponent : Int) : Nat × Nat :=
  ((point * tenTo grid.toNat) <<< (2 - exponent).toNat,
    (quarters * tenTo (-grid).toNat) <<< (exponent - 2).toNat)

/-- Whether a point of a decimal grid is read back as the double. -/
def readsBack (mantissa : Nat) (exponent : Int) (grid : Int) (point : Nat) : Bool :=
  let (low, high) := bounds mantissa exponent
  let (p, low) := aligned point grid low exponent
  let (_, high) := aligned point grid high exponent
  if mantissa % 2 = 0 then low ≤ p && p ≤ high else low < p && p < high

/-- The point of a decimal grid that is read back as the double, if there is one: of its two
neighbours the closer one. -/
def pointOn? (mantissa : Nat) (exponent : Int) (grid : Int) : Option Nat :=
  let (unit, value) := aligned 1 grid (4 * mantissa) exponent
  let below := value / unit
  let fits := readsBack mantissa exponent grid
  match fits below, fits (below + 1) with
  | true, true => some (roundDiv value unit)
  | true, false => some below
  | false, true => some (below + 1)
  | false, false => none

/-- The exponent of the first digit of a double that is not zero. -/
def leadingExponent (mantissa : Nat) (exponent : Int) : Int :=
  let num := mantissa <<< exponent.toNat
  let den := 1 <<< (-exponent).toNat
  if den ≤ num then ((decimalDigits (num / den)).length : Int) - 1
  else -(decimalDigits ((den - 1) / num)).length

/-- The fewest digits that are read back as a double, with the exponent of the first one. -/
def shortest (mantissa : Nat) (exponent : Int) : List Letter × Int :=
  let leading := leadingExponent mantissa exponent
  let found := (List.range 17).findSome? fun (more : Nat) =>
    (pointOn? mantissa exponent (leading - more)).map fun point => (point, leading - more)
  let (point, grid) := found.getD (mantissa, 0)
  let digits := decimalDigits point
  let kept := (digits.reverse.dropWhile (· == .char '0')).reverse
  (kept, grid + (digits.length - 1 : Nat))

/-! ## Text -/

/-- The exponent from which on numbers are not written positionally. -/
def positionalBelow : Int := 16

/-- The smallest exponent of numbers that are written positionally. -/
def positionalFrom : Int := -4

/-- Digits with the point in its place. -/
def positional (digits : List Letter) (leading : Int) : List Letter :=
  if leading < 0 then
    .char '0' :: .char '.' :: List.replicate (-leading - 1).toNat (.char '0') ++ digits
  else
    -- A number without a fraction still shows a point and a zero.
    let whole := leading.toNat + 1
    if digits.length ≤ whole then
      digits ++ List.replicate (whole - digits.length) (.char '0') ++ [.char '.', .char '0']
    else digits.take whole ++ .char '.' :: digits.drop whole

/-- Digits with an exponent of at least two digits. -/
def scientific (digits : List Letter) (leading : Int) : List Letter :=
  let point : List Letter := if digits.length ≤ 1 then [] else ['.']
  let size := decimalDigits leading.natAbs
  let padded := if size.length < 2 then .char '0' :: size else size
  digits.take 1 ++ point ++ digits.drop 1 ++
    .char 'e' :: .char (if leading < 0 then '-' else '+') :: padded

/-- The text of a double. -/
def text : Binary → Text
  | nan => "nan"
  | infinite negative => if negative then "-inf" else "inf"
  | finite negative mantissa exponent =>
      let sign : List Letter := if negative then ['-'] else []
      if mantissa = 0 then Text.ofList (sign ++ [.char '0', .char '.', .char '0'])
      else
        let (digits, leading) := shortest mantissa exponent
        let body :=
          if positionalFrom ≤ leading && leading < positionalBelow then positional digits leading
          else scientific digits leading
        Text.ofList (sign ++ body)

/-- Whether a double is an integer. -/
def isInteger (b : Binary) (n : Int) : Bool :=
  match b with
  | finite negative mantissa exponent =>
      (n < 0) = negative && mantissa <<< exponent.toNat = n.natAbs <<< (-exponent).toNat ||
        (n = 0 && mantissa = 0)
  | _ => false

/-- Whether two doubles stand for the same value, where the sign of zero makes no difference. -/
def sameValue : Binary → Binary → Bool
  | finite s m q, finite t n r => (m == 0 && n == 0) || (s == t && m == n && q == r)
  | a, b => a = b

end Binary
end Text
end Nullability
