import Nullability.Text.Letter

/-!
# Blank characters

Names and markers are compared after the blanks around them are cut off. Which characters are
blank follows the Unicode property `White_Space`, together with the four information separators
`U+001C` to `U+001F`.

`isWhiteSpace` is the property, `isBlank` the class, and `trim` cuts blanks off at both ends.
-/

namespace Nullability
namespace Text

/-- A character with the property `White_Space`. -/
def isWhiteSpace (c : Letter) : Bool :=
  let n := c.toNat
  (0x09 ≤ n && n ≤ 0x0d) || n == 0x20 || n == 0x85 || n == 0xa0 || n == 0x1680 ||
    (0x2000 ≤ n && n ≤ 0x200a) || n == 0x2028 || n == 0x2029 || n == 0x202f || n == 0x205f ||
    n == 0x3000

/-- A character that may surround a name without being part of it. -/
def isBlank (c : Letter) : Bool :=
  isWhiteSpace c || (0x1c ≤ c.toNat && c.toNat ≤ 0x1f)

/-- The text without the blanks it ends with. -/
def trimEnd (cs : List Letter) : List Letter :=
  (cs.reverse.dropWhile isBlank).reverse

/-- The text without the blanks around it. -/
def trim (cs : List Letter) : List Letter :=
  trimEnd (cs.dropWhile isBlank)

/-- The string without the blanks around it. -/
def trimmed (s : Text) : Text :=
  Text.ofList (trim s.toList)

end Text
end Nullability
