import Nullability.Document
import Nullability.Text.Numeral

/-!
# Reading JSON

`read?` gives the document that a text stands for, or says why it stands for none: the first
fault in the text decides. Blanks may stand between the tokens and around the whole; nothing else
may follow the value. A key that is repeated keeps its first place and its last value. Besides the
numbers of the standard the names of the three floating-point values without digits are read, and
a UTF-16 escape must form whole characters.

The reader of strings runs along the text; the reader of values takes a bound on the number of
steps, for which the length of the text is always enough, because each step takes a character.

* `readValue?_list`, `readValue?_table`: what a step reads behind an opening bracket or brace.
-/

namespace Nullability
namespace Json

/-- What was read from the start of a text, and the text after it. -/
abbrev Reading (α : Type) := Except Document.ReadError (α × List Letter)

/-- The blanks that may stand between tokens. -/
def isSpace (c : Letter) : Bool :=
  c == .char ' ' || c == .char '\t' || c == .char '\n' || c == .char '\r'

/-- The text after the blanks it starts with. -/
def skipSpace (cs : List Letter) : List Letter :=
  cs.dropWhile isSpace

theorem skipSpace_cons {c : Letter} (h : isSpace c = false) (rest : List Letter) :
    skipSpace (c :: rest) = c :: rest := by
  simp [skipSpace, h]

theorem skipSpace_append {gap : List Letter} (h : ∀ c ∈ gap, isSpace c = true)
    (rest : List Letter) :
    skipSpace (gap ++ rest) = skipSpace rest :=
  List.dropWhile_append_of_pos h

/-- An ASCII digit. -/
def isDigit (c : Letter) : Bool :=
  '0' ≤ c && c ≤ '9'

/-! ## Strings -/

/-- The value of a hexadecimal digit. -/
def hexValue? (c : Letter) : Option Nat :=
  if '0' ≤ c && c ≤ '9' then some (c.toNat - 0x30)
  else if 'a' ≤ c && c ≤ 'f' then some (c.toNat - 0x57)
  else if 'A' ≤ c && c ≤ 'F' then some (c.toNat - 0x37)
  else none

/-- The number that hexadecimal digits stand for. -/
def hexNumber? (cs : List Letter) : Option Nat :=
  cs.foldl (fun done c => done.bind fun n => (hexValue? c).map (16 * n + ·)) (some 0)

/-- The UTF-16 unit whose four digits start the text. -/
def unit? (cs : List Letter) : Option Nat :=
  if 4 ≤ cs.length then hexNumber? (cs.take 4) else none

/-- The second unit of a pair, if its escape starts the text. -/
def lowUnit? (cs : List Letter) : Option Nat :=
  if cs.take 2 = [.char '\\', .char 'u'] then
    (unit? (cs.drop 2)).filter fun low => 0xdc00 ≤ low && low < 0xe000
  else none

/-- The code point that a numeric escape stands for, and how many characters after the letter `u`
it takes: four, or ten for a pair of units. Half a pair is read as it is. -/
def unitChar? (cs : List Letter) : Option (Letter × Nat) :=
  (unit? cs).map fun unit =>
    match lowUnit? (cs.drop 4) with
    | some low =>
        if 0xd800 ≤ unit && unit < 0xdc00 then
          (Letter.ofNat (0x10000 + 0x400 * (unit - 0xd800) + (low - 0xdc00)), 10)
        else (Letter.ofNat unit, 4)
    | none => (Letter.ofNat unit, 4)

/-- The character that an escape stands for, and how many characters after the backslash it
takes. -/
def escape? : List Letter → Option (Letter × Nat)
  | [] => none
  | c :: rest =>
      if c = '"' || c = '\\' || c = '/' then some (c, 1)
      else if c = 'n' then some ('\n', 1)
      else if c = 'r' then some ('\r', 1)
      else if c = 't' then some ('\t', 1)
      else if c = 'b' then some ('\x08', 1)
      else if c = 'f' then some ('\x0c', 1)
      else if c = 'u' then (unitChar? rest).map fun (d, taken) => (d, taken + 1)
      else none

/-- The characters of a string up to its closing quote, and the text after that quote. The first
`skip` characters belong to the escape before them. -/
def readString? : Nat → List Letter → Option (List Letter × List Letter)
  | _, [] => none
  | skip + 1, _ :: rest => readString? skip rest
  | 0, c :: rest =>
      if c = '"' then some ([], rest)
      else if c = '\\' then
        match escape? rest with
        | some (d, taken) => (readString? taken rest).map fun (s, after) => (d :: s, after)
        | none => none
      else if c.toNat < 0x20 then none
      else (readString? 0 rest).map fun (s, after) => (c :: s, after)

/-! ## Numbers -/

/-- The number that decimal digits stand for. -/
def digitsValue (digits : List Letter) : Nat :=
  digits.foldl (fun n c => 10 * n + (c.toNat - 0x30)) 0

/-- The digits before the point: a zero alone, or digits that start with another one. -/
def wholeDigits (cs : List Letter) : List Letter :=
  match cs with
  | .char '0' :: _ => [.char '0']
  | _ => cs.takeWhile isDigit

/-- The point and the digits after it, or nothing. -/
def fractionPart (cs : List Letter) : List Letter :=
  match cs with
  | .char '.' :: rest =>
      match rest.takeWhile isDigit with
      | [] => []
      | digits => .char '.' :: digits
  | _ => []

/-- The letter, the sign and the digits of an exponent, or nothing. -/
def exponentPart (cs : List Letter) : List Letter :=
  match cs with
  | mark :: rest =>
      if mark = 'e' || mark = 'E' then
        let sign := rest.takeWhile fun c => c == .char '+' || c == .char '-'
        let digits := (rest.drop sign.length).takeWhile isDigit
        if sign.length ≤ 1 && !digits.isEmpty then mark :: sign ++ digits else []
      else []
  | [] => []

/-- The number at the start of a text, and the text after it. -/
def readNumber? (cs : List Letter) : Reading Document :=
  let negative := cs.head? == some (.char '-')
  let unsigned := if negative then cs.tail else cs
  let whole := wholeDigits unsigned
  if whole.isEmpty then .error .malformed
  else
    let rest := unsigned.drop whole.length
    let fraction := fractionPart rest
    let exponent := exponentPart (rest.drop fraction.length)
    let after := rest.drop (fraction.length + exponent.length)
    -- Without fraction and exponent the number is an integer, whose length is limited.
    if fraction.isEmpty && exponent.isEmpty then
      let n : Int := digitsValue whole
      if Text.longestInteger < whole.length then .error .integerTooLong
      else .ok (.integer (if negative then -n else n), after)
    else
      let sign := if negative then [.char '-'] else []
      .ok (.decimal (Text.ofList (sign ++ whole ++ fraction ++ exponent)), after)

/-! ## Values -/

/-- The values that are written as a word. -/
def words : List (Text × Document) :=
  [("null", .null), ("true", .bool true), ("false", .bool false), ("NaN", .decimal "NaN"),
   ("Infinity", .decimal "Infinity"), ("-Infinity", .decimal "-Infinity")]

/-- The word or number at the start of a text, and the text after it. -/
def readAtom? (cs : List Letter) : Reading Document :=
  match words.find? fun (word, _) => word.toList.isPrefixOf cs with
  | some (word, value) => .ok (value, cs.drop word.toList.length)
  | none => readNumber? cs

/-- The string whose opening quote precedes the text, and the text after it. -/
def readQuoted? (cs : List Letter) : Reading Text :=
  (Document.wellFormed (readString? 0 cs)).map fun (s, after) => (Text.ofList s, after)

mutual

/-- The value at the start of a text, and the text after it. -/
def readValue? : Nat → List Letter → Reading Document
  | 0, _ => .error .malformed
  | fuel + 1, cs =>
      match cs with
      | .char '"' :: rest => (readQuoted? rest).map fun (s, after) => (.text s, after)
      | .char '[' :: rest =>
          match skipSpace rest with
          | .char ']' :: after => .ok (.list [], after)
          | items => (readItems? fuel items).map fun (values, after) => (.list values, after)
      | .char '\x7b' :: rest =>
          match skipSpace rest with
          | .char '\x7d' :: after => .ok (.table [], after)
          | entries =>
              (readEntries? fuel entries).map fun (found, after) =>
                (Document.ofEntries found, after)
      | _ => readAtom? cs

/-- The items of a list, up to the bracket that closes it. -/
def readItems? : Nat → List Letter → Reading (List Document)
  | 0, _ => .error .malformed
  | fuel + 1, cs =>
      match readValue? fuel cs with
      | .error e => .error e
      | .ok (value, rest) =>
          match skipSpace rest with
          | .char ',' :: more =>
              (readItems? fuel (skipSpace more)).map fun (values, after) => (value :: values, after)
          | .char ']' :: after => .ok ([value], after)
          | _ => .error .malformed

/-- The entries of a table, up to the brace that closes it. -/
def readEntries? : Nat → List Letter → Reading (List (Text × Document))
  | 0, _ => .error .malformed
  | fuel + 1, cs =>
      match cs with
      | .char '"' :: quotedKey =>
          match readQuoted? quotedKey with
          | .error e => .error e
          | .ok (key, afterKey) =>
              match skipSpace afterKey with
              | .char ':' :: rest =>
                  match readValue? fuel (skipSpace rest) with
                  | .error e => .error e
                  | .ok (value, afterValue) =>
                      match skipSpace afterValue with
                      | .char ',' :: more =>
                          (readEntries? fuel (skipSpace more)).map fun (entries, after) =>
                            ((key, value) :: entries, after)
                      | .char '\x7d' :: after => .ok ([(key, value)], after)
                      | _ => .error .malformed
              | _ => .error .malformed
      | _ => .error .malformed

end

theorem readValue?_list (fuel : Nat) {cs : List Letter}
    (h : ∀ after, skipSpace cs ≠ .char ']' :: after) :
    readValue? (fuel + 1) (.char '[' :: cs) =
      (readItems? fuel (skipSpace cs)).map fun (values, after) => (.list values, after) := by
  rw [readValue?]
  split
  · next after heq => exact absurd heq (h after)
  · rfl

theorem readValue?_table (fuel : Nat) {cs more : List Letter}
    (h : skipSpace cs = .char '"' :: more) :
    readValue? (fuel + 1) (.char '\x7b' :: cs) =
      (readEntries? fuel (.char '"' :: more)).map fun (found, after) =>
        (Document.ofEntries found, after) := by
  rw [readValue?, h]
  rfl

/-- The document that a text stands for. -/
def readChars? (cs : List Letter) : Except Document.ReadError Document :=
  match readValue? (cs.length + 1) (skipSpace cs) with
  | .ok (value, rest) => if (skipSpace rest).isEmpty then .ok value else .error .malformed
  | .error e => .error e

/-- The document that a string stands for. -/
def read? (s : Text) : Except Document.ReadError Document :=
  readChars? s.toList

end Json
end Nullability
