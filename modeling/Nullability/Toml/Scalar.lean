import Nullability.Document
import Nullability.Json.Reader

/-!
# Scalars of TOML

Strings, numbers, dates and times at the start of a text. Each reader gives what it read and the
text after it, or `none` when the text starts with nothing of its kind or with something malformed;
`readPlain?`, which tries one kind after the other, says why it gives nothing. The text is one
whose lines end in a line feed.
-/

namespace Nullability
namespace Toml

/-- The blanks that may stand inside a line. -/
def isSpace (c : Letter) : Bool :=
  c == .char ' ' || c == .char '\t'

/-- The text after the blanks it starts with. -/
def skipSpace (cs : List Letter) : List Letter :=
  cs.dropWhile isSpace

/-- The text after the blanks and line feeds it starts with. -/
def skipSpaceAndLines (cs : List Letter) : List Letter :=
  cs.dropWhile fun c => isSpace c || c == .char '\n'

/-- A control character other than the tab, which stands in no comment and no string. -/
def isControl (c : Letter) : Bool :=
  (c.toNat < 0x20 || c.toNat == 0x7f) && c != .char '\t'

/-! ## Strings -/

/-- The character whose number is given by `width` hexadecimal digits. -/
def scalar? (width : Nat) (cs : List Letter) : Option Letter :=
  if cs.length < width then none
  else
    match Json.hexNumber? (cs.take width) with
    | some n => if n.isValidChar then some (.char (Char.ofNat n)) else none
    | none => none

/-- How many characters an escaped line end takes: the blanks before it, itself, and the blanks
and lines after it. -/
def lineEnd? (cs : List Letter) : Option Nat :=
  let blanks := (cs.takeWhile isSpace).length
  match cs.drop blanks with
  | .char '\n' :: rest =>
      some (blanks + 1 + (rest.takeWhile fun c => isSpace c || c == .char '\n').length)
  | [] => some blanks
  | _ => none

/-- What an escape stands for, and how many characters after the backslash it takes. -/
def escape? (multiline : Bool) (cs : List Letter) : Option (List Letter × Nat) :=
  match cs with
  | [] => none
  | c :: rest =>
      if multiline && (isSpace c || c == .char '\n') then (lineEnd? cs).map fun taken => ([], taken)
      else if c = 'u' then (scalar? 4 rest).map fun d => ([d], 5)
      else if c = 'U' then (scalar? 8 rest).map fun d => ([d], 9)
      else if c = '"' || c = '\\' then some ([c], 1)
      else if c = 'b' then some ([.char '\x08'], 1)
      else if c = 't' then some ([.char '\t'], 1)
      else if c = 'n' then some ([.char '\n'], 1)
      else if c = 'f' then some ([.char '\x0c'], 1)
      else if c = 'r' then some ([.char '\r'], 1)
      else none

/-- A string with escapes up to its closing quotes, and the text after them. The first `skip`
characters belong to the escape before them. -/
def readBasic? (multiline : Bool) : Nat → List Letter → Option (List Letter × List Letter)
  | _, [] => none
  | skip + 1, _ :: rest => readBasic? multiline skip rest
  | 0, c :: rest =>
      if c = '"' && (!multiline || rest.take 2 = [.char '"', .char '"']) then
        some ([], if multiline then rest.drop 2 else rest)
      else if c = '\\' then
        match escape? multiline rest with
        | some (chars, taken) =>
            (readBasic? multiline taken rest).map fun (s, after) => (chars ++ s, after)
        | none => none
      else if isControl c && !(multiline && c == .char '\n') then none
      else (readBasic? multiline 0 rest).map fun (s, after) => (c :: s, after)

/-- A string without escapes up to its closing quotes, and the text after them. -/
def readLiteral? (multiline : Bool) : List Letter → Option (List Letter × List Letter)
  | [] => none
  | c :: rest =>
      if c = '\'' && (!multiline || rest.take 2 = [.char '\'', .char '\'']) then
        some ([], if multiline then rest.drop 2 else rest)
      else if isControl c && !(multiline && c == .char '\n') then none
      else (readLiteral? multiline rest).map fun (s, after) => (c :: s, after)

/-- At most two quotes right after the closing ones still belong to a string. -/
def closeMultiline (mark : Letter) (found : List Letter × List Letter) :
    List Letter × List Letter :=
  let extra := (found.2.take 2).takeWhile (· == mark)
  (found.1 ++ extra, found.2.drop extra.length)

/-- The text without the line feed it starts with. -/
def dropLineFeed : List Letter → List Letter
  | .char '\n' :: rest => rest
  | cs => cs

/-- The string on one line at the start of a text. -/
def readLineString? : List Letter → Option (List Letter × List Letter)
  | .char '"' :: rest => readBasic? false 0 rest
  | .char '\'' :: rest => readLiteral? false rest
  | _ => none

/-- The string at the start of a text. -/
def readString? (cs : List Letter) : Option (List Letter × List Letter) :=
  if cs.take 3 = [.char '"', .char '"', .char '"'] then
    (readBasic? true 0 (dropLineFeed (cs.drop 3))).map (closeMultiline '"')
  else if cs.take 3 = [.char '\'', .char '\'', .char '\''] then
    (readLiteral? true (dropLineFeed (cs.drop 3))).map (closeMultiline '\'')
  else readLineString? cs

/-! ## Numbers -/

/-- The digits at the start of a text, with single underscores between them. `afterDigit` says
that a digit precedes, so that an underscore may follow. -/
def digitRun (isDigit : Letter → Bool) : Bool → List Letter → List Letter
  | _, [] => []
  | afterDigit, c :: rest =>
      if isDigit c then c :: digitRun isDigit true rest
      else if c = '_' && afterDigit then
        match digitRun isDigit false rest with
        | [] => []
        | digits => c :: digits
      else []

/-- The number that the digits of a run stand for in a base. -/
def runValue (base : Nat) (run : List Letter) : Nat :=
  run.foldl (fun n c => match Json.hexValue? c with
    | some d => base * n + d
    | none => n) 0

/-- A binary digit. -/
def isBinaryDigit (c : Letter) : Bool := c == .char '0' || c == .char '1'

/-- An octal digit. -/
def isOctalDigit (c : Letter) : Bool := '0' ≤ c && c ≤ '7'

/-- A hexadecimal digit. -/
def isHexDigit (c : Letter) : Bool := (Json.hexValue? c).isSome

/-- The letter after the zero of a number in another base than ten, with the base and its
digits. -/
def bases : List (Letter × Nat × (Letter → Bool)) :=
  [('x', 16, isHexDigit), ('b', 2, isBinaryDigit), ('o', 8, isOctalDigit)]

/-- The number in another base than ten at the start of a text. -/
def readBased? (cs : List Letter) : Option (Document × List Letter) :=
  match cs with
  | .char '0' :: letter :: rest =>
      match bases.find? fun entry => entry.1 == letter with
      | some (_, base, isDigit) =>
          match digitRun isDigit false rest with
          | [] => none
          | run => some (.integer (runValue base run), rest.drop run.length)
      | none => none
  | _ => none

/-- The point and the digits of a fraction, or nothing. -/
def fractionPart (cs : List Letter) : List Letter :=
  match cs with
  | .char '.' :: rest =>
      match digitRun Json.isDigit false rest with
      | [] => []
      | run => .char '.' :: run
  | _ => []

/-- The letter, the sign and the digits of an exponent, or nothing. -/
def exponentPart (cs : List Letter) : List Letter :=
  match cs with
  | mark :: rest =>
      if mark = 'e' || mark = 'E' then
        let sign := (rest.take 1).filter fun c => c == .char '+' || c == .char '-'
        match digitRun Json.isDigit false (rest.drop sign.length) with
        | [] => []
        | run => mark :: sign ++ run
      else []
  | [] => []

/-- The decimal number at the start of a text. The inner error says that there is one, but that it
cannot be read. -/
def readDecimal? (cs : List Letter) : Option (Json.Reading Document) :=
  let sign := (cs.take 1).filter fun c => c == .char '+' || c == .char '-'
  let unsigned := cs.drop sign.length
  let whole : List Letter :=
    match unsigned with
    | .char '0' :: _ => ['0']
    | _ => digitRun Json.isDigit false unsigned
  if whole.isEmpty then none
  else
    let rest := unsigned.drop whole.length
    let fraction := fractionPart rest
    let exponent := exponentPart (rest.drop fraction.length)
    let after := rest.drop (fraction.length + exponent.length)
    let negative := sign == [.char '-']
    if fraction.isEmpty && exponent.isEmpty then
      let n : Int := runValue 10 whole
      if Text.longestInteger < whole.countP Json.isDigit then some (.error .integerTooLong)
      else some (.ok (.integer (if negative then -n else n), after))
    else
      let minus : List Letter := if negative then ['-'] else []
      let digits := (whole ++ fraction ++ exponent).filter fun c => c != .char '_'
      some (.ok (.decimal (Text.ofList (minus ++ digits)), after))

/-- The floating-point values without digits, with what each is kept as. -/
def specials : List (Text × Text) :=
  [("inf", "Infinity"), ("nan", "NaN"), ("+inf", "Infinity"), ("+nan", "NaN"),
   ("-inf", "-Infinity"), ("-nan", "NaN")]

/-- The floating-point value without digits at the start of a text. -/
def readSpecial? (cs : List Letter) : Option (Document × List Letter) :=
  (specials.find? fun entry => entry.1.toList.isPrefixOf cs).map fun (word, literal) =>
    (.decimal literal, cs.drop word.toList.length)

/-! ## Dates and times -/

/-- The number in the first `width` characters, which are digits. -/
def fixed? (width : Nat) (cs : List Letter) : Option Nat :=
  let digits := cs.take width
  if digits.length = width && digits.all Json.isDigit then some (Json.digitsValue digits) else none

/-- How many days a month has. -/
def daysIn (year month : Nat) : Nat :=
  if month = 2 then
    if year % 4 = 0 && (year % 100 != 0 || year % 400 = 0) then 29 else 28
  else if month = 4 || month = 6 || month = 9 || month = 11 then 30
  else 31

/-- How many characters the time of day at the start of a text takes, if there is one. -/
def timeLength? (cs : List Letter) : Option Nat :=
  match fixed? 2 cs, cs.drop 2, fixed? 2 (cs.drop 3), cs.drop 5, fixed? 2 (cs.drop 6) with
  | some hour, .char ':' :: _, some minute, .char ':' :: _, some second =>
      if hour < 24 && minute < 60 && second < 60 then
        match cs.drop 8 with
        | .char '.' :: rest =>
            match (rest.takeWhile Json.isDigit).length with
            | 0 => some 8
            | n => some (9 + n)
        | _ => some 8
      else none
  | _, _, _, _, _ => none

/-- How many characters the offset from universal time at the start of a text takes. -/
def offsetLength (cs : List Letter) : Nat :=
  match cs with
  | c :: rest =>
      if c = 'Z' || c = 'z' then 1
      else if c = '+' || c = '-' then
        match fixed? 2 rest, rest.drop 2, fixed? 2 (rest.drop 3) with
        | some hour, .char ':' :: _, some minute => if hour < 24 && minute < 60 then 6 else 0
        | _, _, _ => 0
      else 0
  | [] => 0

/-- How many characters the time after a date takes, with the sign that joins them. -/
def timePartLength (cs : List Letter) : Nat :=
  match cs with
  | c :: rest =>
      if c = 'T' || c = 't' || c = ' ' then
        match timeLength? rest with
        | some n => 1 + n + offsetLength (rest.drop n)
        | none => 0
      else 0
  | [] => 0

/-- The date at the start of a text. The outer `none` says that there is none, the inner one that
there is no such day. -/
def readDate? (cs : List Letter) : Option (Option (Document × List Letter)) :=
  match fixed? 4 cs, cs.drop 4, fixed? 2 (cs.drop 5), cs.drop 7, fixed? 2 (cs.drop 8) with
  | some year, .char '-' :: _, some month, .char '-' :: _, some day =>
      if 1 ≤ month && month ≤ 12 && 1 ≤ day && day ≤ 31 then
        if 1 ≤ year && day ≤ daysIn year month then
          let taken := 10 + timePartLength (cs.drop 10)
          some (some (.moment (Text.ofList (cs.take taken)), cs.drop taken))
        else some none
      else none
  | _, _, _, _, _ => none

/-- The time of day at the start of a text. -/
def readTime? (cs : List Letter) : Option (Document × List Letter) :=
  (timeLength? cs).map fun n => (.moment (Text.ofList (cs.take n)), cs.drop n)

/-! ## Scalars -/

/-- The scalar without quotes at the start of a text. -/
def readPlain? (cs : List Letter) : Json.Reading Document :=
  if ("true" : Text).toList.isPrefixOf cs then .ok (.bool true, cs.drop 4)
  else if ("false" : Text).toList.isPrefixOf cs then .ok (.bool false, cs.drop 5)
  else
    match readDate? cs with
    | some found => Document.wellFormed found
    | none =>
        match readTime? cs <|> readBased? cs with
        | some found => .ok found
        | none => (readDecimal? cs).getD (Document.wellFormed (readSpecial? cs))

end Toml
end Nullability
