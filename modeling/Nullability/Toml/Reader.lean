import Nullability.Toml.Scalar
import Nullability.Text.Line

/-!
# Reading TOML

`read?` gives the table that a text stands for, or says why it stands for none: the first fault in
the text decides.

A text is a sequence of statements, one a line: a key with its value, or the header of a table or
of an item of a list of tables, to which the keys after it belong. `Declared` keeps which tables
may not be opened or changed again. Values nest, so their reader takes a bound on the number of
steps, for which the length of the text is always enough.
-/

namespace Nullability
namespace Toml

/-- A path of names. -/
abbrev Key := List Text

/-- The entries of a table. -/
abbrev Entries := List (Text × Document)

/-! ## Keys -/

/-- A character of a name without quotes. -/
def isNameChar (c : Letter) : Bool :=
  c.isAlphanum || c == .char '-' || c == .char '_'

/-- The name at the start of a text. -/
def readName? (cs : List Letter) : Option (Text × List Letter) :=
  match cs.takeWhile isNameChar with
  | [] => (readLineString? cs).map fun (s, after) => (Text.ofList s, after)
  | name => some (Text.ofList name, cs.drop name.length)

/-- The names between dots at the start of a text, at most `bound` of them. -/
def readKey? : Nat → List Letter → Option (Key × List Letter)
  | 0, _ => none
  | bound + 1, cs =>
      match readName? cs with
      | none => none
      | some (name, rest) =>
          match skipSpace rest with
          | .char '.' :: more =>
              (readKey? bound (skipSpace more)).map fun (names, after) => (name :: names, after)
          | after => some ([name], after)

/-! ## Nested tables -/

/-- Changes the table at a path, which is made if it is missing. With `throughLists` a list on the
way stands for its last item. -/
def change? (throughLists : Bool) (f : Entries → Option Entries) :
    Key → Entries → Option Entries
  | [], entries => f entries
  | name :: path, entries =>
      match Document.lookup? name entries with
      | none => (change? throughLists f path []).map fun inner =>
          Document.insert name (.table inner) entries
      | some (.table inner) => (change? throughLists f path inner).map fun inner =>
          Document.insert name (.table inner) entries
      | some (.list items) =>
          -- A header goes on in the item that was opened last.
          match throughLists, items.getLast? with
          | true, some (.table inner) => (change? throughLists f path inner).map fun inner =>
              Document.insert name (.list (items.dropLast ++ [.table inner])) entries
          | _, _ => none
      | some _ => none

/-- Adds an entry under a name that is not there yet. -/
def addNew? (name : Text) (value : Document) (entries : Entries) : Option Entries :=
  match Document.lookup? name entries with
  | some _ => none
  | none => some (entries ++ [(name, value)])

/-- Adds an empty table to the list under a name, which is made if it is missing. -/
def addItem? (name : Text) (entries : Entries) : Option Entries :=
  match Document.lookup? name entries with
  | none => some (Document.insert name (.list [.table []]) entries)
  | some (.list items) => some (Document.insert name (.list (items ++ [.table []])) entries)
  | some _ => none

/-- Whether a value is a table or a list, which later statements may not change. -/
def isNested : Document → Bool
  | .table _ => true
  | .list _ => true
  | _ => false

/-! ## Values -/

/-- The text after a comment, if it starts with one; the comment holds no control characters. -/
def skipComment? (cs : List Letter) : Option (List Letter) :=
  match cs with
  | .char '#' :: rest =>
      if (rest.takeWhile (· != .char '\n')).any isControl then none
      else some (rest.dropWhile (· != .char '\n'))
  | _ => some cs

/-- The text after blanks, line feeds and at most `bound` comments. -/
def skipFiller? : Nat → List Letter → Option (List Letter)
  | 0, cs => some (skipSpaceAndLines cs)
  | bound + 1, cs =>
      match skipSpaceAndLines cs with
      | .char '#' :: rest => (skipComment? (.char '#' :: rest)).bind (skipFiller? bound)
      | after => some after

/-- A table that is being written on one line, and the keys in it that are closed. -/
structure InlineTable where
  entries : Entries
  closed : List Key

/-- The table on one line with one more key. -/
def InlineTable.add? (t : InlineTable) (key : Key) (value : Document) : Option InlineTable :=
  if t.closed.any fun k => k.isPrefixOf key then none
  else
    match key.getLast? with
    | none => none
    | some name =>
        (change? false (addNew? name value) key.dropLast t.entries).map fun entries =>
          ⟨entries, if isNested value then key :: t.closed else t.closed⟩

mutual

/-- The value at the start of a text. -/
def readValue? : Nat → List Letter → Json.Reading Document
  | 0, _ => .error .malformed
  | fuel + 1, cs =>
      match cs with
      | .char '[' :: rest =>
          match skipFiller? rest.length rest with
          | none => .error .malformed
          | some items => (readItems? fuel items).map fun (values, after) => (.list values, after)
      | .char '\x7b' :: rest =>
          match skipSpace rest with
          | .char '\x7d' :: after => .ok (.table [], after)
          | entries =>
              (readInline? fuel ⟨[], []⟩ entries).map fun (found, after) => (.table found, after)
      | c :: _ =>
          if c = '"' || c = '\'' then
            (Document.wellFormed (readString? cs)).map fun (s, after) =>
              (.text (Text.ofList s), after)
          else readPlain? cs
      | [] => .error .malformed

/-- The items of a list, up to the bracket that closes it. -/
def readItems? : Nat → List Letter → Json.Reading (List Document)
  | 0, _ => .error .malformed
  | fuel + 1, cs =>
      match cs with
      | .char ']' :: after => .ok ([], after)
      | _ =>
          match readValue? fuel cs with
          | .error e => .error e
          | .ok (value, rest) =>
              match skipFiller? rest.length rest with
              | some (.char ']' :: after) => .ok ([value], after)
              | some (.char ',' :: more) =>
                  match skipFiller? more.length more with
                  | none => .error .malformed
                  | some next =>
                      (readItems? fuel next).map fun (values, after) => (value :: values, after)
              | _ => .error .malformed

/-- The entries of a table on one line, up to the brace that closes it. -/
def readInline? : Nat → InlineTable → List Letter → Json.Reading Entries
  | 0, _, _ => .error .malformed
  | fuel + 1, t, cs =>
      match readKey? cs.length cs with
      | some (key, .char '=' :: rest) =>
          match readValue? fuel (skipSpace rest) with
          | .error e => .error e
          | .ok (value, rest) =>
              match t.add? key value with
              | none => .error .malformed
              | some t =>
                  match skipSpace rest with
                  | .char '\x7d' :: after => .ok (t.entries, after)
                  | .char ',' :: more => readInline? fuel t (skipSpace more)
                  | _ => .error .malformed
      | _ => .error .malformed

end

/-! ## Statements -/

/-- What the statements so far have declared. -/
structure Declared where
  /-- Tables that may not be opened by a header or by a dotted key. -/
  opened : List Key
  /-- Values that may not be changed, nor anything in them. -/
  closed : List Key
  /-- Tables that will count as opened from the next header on. -/
  pending : List Key

namespace Declared

/-- Whether a table was opened. -/
def isOpened (d : Declared) (key : Key) : Bool :=
  d.opened.contains key

/-- Whether a key lies in a value that may not be changed. -/
def isClosed (d : Declared) (key : Key) : Bool :=
  d.closed.any fun k => k.isPrefixOf key

/-- The declarations at the next header: what was pending holds. -/
def settle (d : Declared) : Declared :=
  { d with opened := d.pending ++ d.opened, pending := [] }

/-- The declarations with a table opened. -/
def openTable (d : Declared) (key : Key) : Declared :=
  { d with opened := key :: d.opened }

/-- The declarations without those at a key and below it. -/
def release (d : Declared) (key : Key) : Declared :=
  { d with
    opened := d.opened.filter fun k => !key.isPrefixOf k
    closed := d.closed.filter fun k => !key.isPrefixOf k }

end Declared

/-- The table that is being read: its entries, what is declared, and the table that the next keys
belong to. -/
structure State where
  entries : Entries
  declared : Declared
  header : Key

/-- The state before the first statement. -/
def State.initial : State := ⟨[], ⟨[], [], []⟩, []⟩

/-- The state after the header of a table. -/
def State.table? (s : State) (key : Key) : Option State :=
  if s.declared.isOpened key || s.declared.isClosed key then none
  else
    (change? true some key s.entries).map fun entries =>
      ⟨entries, s.declared.openTable key, key⟩

/-- The state after the header of an item of a list of tables. -/
def State.item? (s : State) (key : Key) : Option State :=
  match key.getLast? with
  | none => none
  | some name =>
      if s.declared.isClosed key then none
      else
        -- Tables in the items before may be opened once more in this one.
        (change? true (addItem? name) key.dropLast s.entries).map fun entries =>
          ⟨entries, (s.declared.release key).openTable key, key⟩

/-- The tables on the way along a key: its beginnings that are neither empty nor the whole. -/
def beginnings (key : Key) : List Key :=
  (List.range key.length).drop 1 |>.map fun n => key.take n

/-- The state after a key and its value. -/
def State.pair? (s : State) (key : Key) (value : Document) : Option State :=
  match key.getLast? with
  | none => none
  | some name =>
      let onTheWay := (beginnings key).map (s.header ++ ·)
      let parent := s.header ++ key.dropLast
      if onTheWay.any s.declared.isOpened || s.declared.isClosed parent then none
      else
        (change? true (addNew? name value) parent s.entries).map fun entries =>
          { entries
            header := s.header
            -- The keys that follow may add to these tables until the next header comes.
            declared := { s.declared with
              pending := onTheWay ++ s.declared.pending
              closed :=
                if isNested value then (s.header ++ key) :: s.declared.closed
                else s.declared.closed } }

/-- The state after the statement at the start of a text, and the text after it. -/
def readStatement? (s : State) (cs : List Letter) : Json.Reading State :=
  match cs with
  | .char '[' :: .char '[' :: rest =>
      match readKey? rest.length (skipSpace rest) with
      | some (key, .char ']' :: .char ']' :: after) =>
          (Document.wellFormed (State.item? { s with declared := s.declared.settle } key)).map
            fun s => (s, after)
      | _ => .error .malformed
  | .char '[' :: rest =>
      match readKey? rest.length (skipSpace rest) with
      | some (key, .char ']' :: after) =>
          (Document.wellFormed (State.table? { s with declared := s.declared.settle } key)).map
            fun s => (s, after)
      | _ => .error .malformed
  -- A comment alone is skipped behind the statement.
  | .char '#' :: _ => .ok (s, cs)
  | _ =>
      match readKey? cs.length cs with
      | some (key, .char '=' :: rest) =>
          match readValue? (rest.length + 1) (skipSpace rest) with
          | .ok (value, after) =>
              (Document.wellFormed (s.pair? key value)).map fun s => (s, after)
          | .error e => .error e
      | _ => .error .malformed

/-- The state after the statements of a text, of which there are at most `bound`. -/
def readStatements? : Nat → State → List Letter → Except Document.ReadError State
  | 0, _, _ => .error .malformed
  | bound + 1, s, cs =>
      match skipSpaceAndLines cs with
      | [] => .ok s
      | statement =>
          match readStatement? s statement with
          | .error e => .error e
          | .ok (s, rest) =>
              match skipComment? (skipSpace rest) with
              | some [] => .ok s
              | some (.char '\n' :: more) => readStatements? bound s more
              | _ => .error .malformed

/-- The text with every carriage return before a line feed left out. -/
def unifyLineEnds : List Letter → List Letter
  | [] => []
  | .char '\r' :: .char '\n' :: rest => .char '\n' :: unifyLineEnds rest
  | c :: rest => c :: unifyLineEnds rest

/-- The table that a text stands for. -/
def read? (s : Text) : Except Document.ReadError Document :=
  let cs := unifyLineEnds s.toList
  (readStatements? (cs.length + 1) State.initial cs).map fun state => .table state.entries

end Toml
end Nullability
