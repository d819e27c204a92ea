import Nullability.Text.Letter

/-!
# Pieces between separators

* `pieces` cuts a text at every occurrence of a separator, from the left and without overlap;
* `glue` writes a separator between texts;
* `afterLast` and `beforeLast` look at the last occurrence of one character, as in dotted names.
-/

namespace Nullability
namespace Text

/-- Puts a character in front of the first piece. -/
def consFirst (c : Letter) : List (List Letter) → List (List Letter)
  | [] => [[c]]
  | first :: others => (c :: first) :: others

/-- The pieces of a text between occurrences of `sep`, after the first `skip` characters, which
are still part of the separator found before them. -/
def piecesFrom (sep : List Letter) : Nat → List Letter → List (List Letter)
  | _, [] => [[]]
  | skip + 1, _ :: rest => piecesFrom sep skip rest
  | 0, c :: rest =>
      if sep.isPrefixOf (c :: rest) then [] :: piecesFrom sep (sep.length - 1) rest
      else consFirst c (piecesFrom sep 0 rest)

/-- The pieces of a text between occurrences of `sep`, found from the left and without overlap.
The separator is not empty. -/
def pieces (sep : List Letter) (cs : List Letter) : List (List Letter) :=
  piecesFrom sep 0 cs

/-- The pieces of a string between occurrences of a separator that is not empty. -/
def piecesOf (sep s : Text) : List Text :=
  (pieces sep.toList s.toList).map Text.ofList

/-- The texts one after the other, with `sep` between them. -/
def glue (sep : List Letter) (texts : List (List Letter)) : List Letter :=
  sep.intercalate texts

/-- The strings one after the other, with `sep` between them. -/
def glued (sep : Text) (texts : List Text) : Text :=
  Text.ofList (glue sep.toList (texts.map Text.toList))

/-- What follows the last `c`, or the whole text when it holds none. -/
def afterLast (c : Letter) (cs : List Letter) : List Letter :=
  (cs.reverse.takeWhile (· != c)).reverse

/-- What precedes the last `c`, or nothing when the text holds none. -/
def beforeLast (c : Letter) (cs : List Letter) : List Letter :=
  (cs.reverse.dropWhile (· != c)).tail.reverse

/-- The number of pieces is never zero. -/
theorem piecesFrom_ne_nil (sep : List Letter) (skip : Nat) (cs : List Letter) :
    piecesFrom sep skip cs ≠ [] := by
  induction cs generalizing skip with
  | nil => simp [piecesFrom]
  | cons c rest ih =>
      cases skip with
      | succ skip => simpa [piecesFrom] using ih skip
      | zero =>
          by_cases h : sep.isPrefixOf (c :: rest) = true
          · simp [piecesFrom, h]
          · cases hp : piecesFrom sep 0 rest with
            | nil => exact absurd hp (ih 0)
            | cons first others => simp [piecesFrom, h, hp, consFirst]

end Text
end Nullability
