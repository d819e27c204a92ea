import Nullability.Document
import Nullability.Text.Numeral
import Nullability.Text.Quoted

/-!
# Writing JSON

Two layouts of a document: `line` puts all of it on one line, `block` puts each entry on a line
of its own. Either keeps non-ASCII characters or writes them by their UTF-16 units.

* `lineItems_eq`, `blockItems_eq` and those for entries: both layouts write what comes after the
  first part of a list or a table in one way, `following`, and differ in the gap only.
-/

namespace Nullability
namespace Json

/-! ## Strings -/

/-- A UTF-16 unit by its number. -/
def unitEscape (n : Nat) : List Letter :=
  .char '\\' :: .char 'u' :: Text.hexDigits 4 n

/-- A character by its UTF-16 units, of which it has one or two. -/
def codeEscape (c : Letter) : List Letter :=
  let n := c.toNat
  if n < 0x10000 then unitEscape n
  else
    let offset := n - 0x10000
    unitEscape (0xd800 + offset / 0x400) ++ unitEscape (0xdc00 + offset % 0x400)

/-- A character inside a written string. Quotes, backslashes and control characters are always
escaped, and with `ascii` everything that is not printable ASCII is. -/
def charChars (ascii : Bool) (c : Letter) : List Letter :=
  if c = '"' then [.char '\\', .char '"']
  else if c = '\\' then [.char '\\', .char '\\']
  else if c = '\n' then [.char '\\', .char 'n']
  else if c = '\r' then [.char '\\', .char 'r']
  else if c = '\t' then [.char '\\', .char 't']
  else if c = '\x08' then [.char '\\', .char 'b']
  else if c = '\x0c' then [.char '\\', .char 'f']
  else if c.toNat < 0x20 then codeEscape c
  else if ascii && 0x7e < c.toNat then codeEscape c
  else [c]

/-- A written string, with its quotes. -/
def stringChars (ascii : Bool) (s : Text) : List Letter :=
  .char '"' :: s.toList.flatMap (charChars ascii) ++ [.char '"']

/-! ## Values -/

/-- The characters of a value that holds no other values. -/
def atomChars (ascii : Bool) : Document → List Letter
  | .null => [.char 'n', .char 'u', .char 'l', .char 'l']
  | .bool true => [.char 't', .char 'r', .char 'u', .char 'e']
  | .bool false => [.char 'f', .char 'a', .char 'l', .char 's', .char 'e']
  | .integer n => Text.integerChars n
  | .decimal literal => literal.toList
  | .text s => stringChars ascii s
  | .moment literal => stringChars ascii literal
  | .list _ => []
  | .table _ => []

mutual

/-- A document on one line. -/
def lineChars (ascii : Bool) : Document → List Letter
  | .list [] => [.char '[', .char ']']
  | .list (item :: items) => .char '[' :: lineChars ascii item ++ lineItems ascii items ++
      [.char ']']
  | .table [] => [.char '\x7b', .char '\x7d']
  | .table ((key, value) :: entries) =>
      .char '\x7b' :: stringChars ascii key ++ .char ':' :: .char ' ' :: lineChars ascii value ++
        lineEntries ascii entries ++ [.char '\x7d']
  | atom => atomChars ascii atom

/-- The items of a list after the first. -/
def lineItems (ascii : Bool) : List Document → List Letter
  | [] => []
  | item :: items => .char ',' :: .char ' ' :: lineChars ascii item ++ lineItems ascii items

/-- The entries of a table after the first. -/
def lineEntries (ascii : Bool) : List (Text × Document) → List Letter
  | [] => []
  | (key, value) :: entries =>
      .char ',' :: .char ' ' :: stringChars ascii key ++
        .char ':' :: .char ' ' :: lineChars ascii value ++
        lineEntries ascii entries

end

/-- A line break and the indentation of a level, two blanks a level. -/
def newLine (level : Nat) : List Letter :=
  .char '\n' :: List.replicate (2 * level) (.char ' ')

mutual

/-- A document with each entry on a line of its own; `level` is the depth it stands at. -/
def blockChars (ascii : Bool) (level : Nat) : Document → List Letter
  | .list [] => [.char '[', .char ']']
  | .list (item :: items) =>
      .char '[' :: newLine (level + 1) ++ blockChars ascii (level + 1) item ++
        blockItems ascii (level + 1) items ++ newLine level ++ [.char ']']
  | .table [] => [.char '\x7b', .char '\x7d']
  | .table ((key, value) :: entries) =>
      .char '\x7b' :: newLine (level + 1) ++ stringChars ascii key ++ .char ':' :: .char ' ' ::
        blockChars ascii (level + 1) value ++ blockEntries ascii (level + 1) entries ++
        newLine level ++ [.char '\x7d']
  | atom => atomChars ascii atom

/-- The items of a list after the first. -/
def blockItems (ascii : Bool) (level : Nat) : List Document → List Letter
  | [] => []
  | item :: items =>
      .char ',' :: newLine level ++ blockChars ascii level item ++ blockItems ascii level items

/-- The entries of a table after the first. -/
def blockEntries (ascii : Bool) (level : Nat) : List (Text × Document) → List Letter
  | [] => []
  | (key, value) :: entries =>
      .char ',' :: newLine level ++ stringChars ascii key ++ .char ':' :: .char ' ' ::
        blockChars ascii level value ++ blockEntries ascii level entries

end

/-! ## Parts after the first -/

/-- The parts of a list or a table after the first, each behind a comma and a gap. -/
def following {α : Type} (gap : List Letter) (write : α → List Letter) (parts : List α) :
    List Letter :=
  parts.flatMap fun part => .char ',' :: gap ++ write part

/-- A key and its value. -/
def entryChars (ascii : Bool) (write : Document → List Letter) (entry : Text × Document) :
    List Letter :=
  stringChars ascii entry.1 ++ .char ':' :: .char ' ' :: write entry.2

theorem lineItems_eq (ascii : Bool) (items : List Document) :
    lineItems ascii items = following [.char ' '] (lineChars ascii) items := by
  induction items with
  | nil => simp [lineItems, following]
  | cons item items ih =>
      rw [lineItems, ih]
      simp [following]

theorem lineEntries_eq (ascii : Bool) (entries : List (Text × Document)) :
    lineEntries ascii entries =
      following [.char ' '] (entryChars ascii (lineChars ascii)) entries := by
  induction entries with
  | nil => simp [lineEntries, following]
  | cons entry entries ih =>
      rcases entry with ⟨key, value⟩
      rw [lineEntries, ih]
      simp [following, entryChars]

theorem blockItems_eq (ascii : Bool) (level : Nat) (items : List Document) :
    blockItems ascii level items = following (newLine level) (blockChars ascii level) items := by
  induction items with
  | nil => simp [blockItems, following]
  | cons item items ih =>
      rw [blockItems, ih]
      simp [following]

theorem blockEntries_eq (ascii : Bool) (level : Nat) (entries : List (Text × Document)) :
    blockEntries ascii level entries =
      following (newLine level) (entryChars ascii (blockChars ascii level)) entries := by
  induction entries with
  | nil => simp [blockEntries, following]
  | cons entry entries ih =>
      rcases entry with ⟨key, value⟩
      rw [blockEntries, ih]
      simp [following, entryChars]

/-! ## Texts -/

/-- A document on one line, as text. -/
def line (ascii : Bool) (document : Document) : Text :=
  Text.ofList (lineChars ascii document)

/-- A document over several lines, in ASCII. -/
def block (document : Document) : Text :=
  Text.ofList (blockChars true 0 document)

end Json
end Nullability
