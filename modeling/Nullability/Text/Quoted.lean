import Nullability.Text.Printable

/-!
# Quoted text

Text as it is quoted inside messages: between single quotes, or between double quotes when it
holds single quotes only; what is not printable is written by its code point.

* `quotedChar` writes one character, `quoted` a whole text.
-/

namespace Nullability
namespace Text

/-- The hexadecimal digit of a number below sixteen. -/
def hexDigit (n : Nat) : Letter :=
  if n < 10 then Char.ofNat (0x30 + n) else Char.ofNat (0x57 + n)

/-- The last `width` hexadecimal digits of a number. -/
def hexDigits : Nat → Nat → List Letter
  | 0, _ => []
  | width + 1, n => hexDigits width (n / 16) ++ [hexDigit (n % 16)]

/-- The quote that a text is put in: single, unless it holds single quotes and no double ones. -/
def quoteMark (cs : List Letter) : Letter :=
  if cs.contains '\'' && !cs.contains '"' then '"' else '\''

/-- A character that is not printable, by its code point. -/
def escapedCode (c : Letter) : List Letter :=
  let n := c.toNat
  if n < 0x100 then .char '\\' :: .char 'x' :: hexDigits 2 n
  else if n < 0x10000 then .char '\\' :: .char 'u' :: hexDigits 4 n
  else .char '\\' :: .char 'U' :: hexDigits 8 n

/-- A character as it stands between the quotes `mark`. -/
def quotedChar (mark c : Letter) : List Letter :=
  if c = mark || c = '\\' then [.char '\\', c]
  else if c = '\n' then [.char '\\', .char 'n']
  else if c = '\r' then [.char '\\', .char 'r']
  else if c = '\t' then [.char '\\', .char 't']
  else if isPrintable c then [c]
  else escapedCode c

/-- A text in quotes. -/
def quoted (s : Text) : Text :=
  let mark := quoteMark s.toList
  Text.ofList (mark :: s.toList.flatMap (quotedChar mark) ++ [mark])

end Text
end Nullability
