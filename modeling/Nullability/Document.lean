import Nullability.Text.Letter

/-!
# Key-value documents

The values that a configuration document or a ledger line can hold, whatever notation they were
written in. A table keeps its keys in the order in which they first appeared, each once.

* `Document.get?` looks one key up, `Document.follow?` a path of keys;
* `Document.put` stores a value at a key;
* `get?_put_self` and `get?_put_of_ne` say what the first sees of the second;
* `Document.ReadError` is why a text stands for no document, whatever its notation.
-/

namespace Nullability

/-- A value of a document. -/
inductive Document where
  | null
  | bool (b : Bool)
  | integer (n : Int)
  /-- A number with a fraction or an exponent, kept as it was written. -/
  | decimal (literal : Text)
  | text (s : Text)
  /-- A date or a time of day, kept as it was written. -/
  | moment (literal : Text)
  | list (items : List Document)
  | table (entries : List (Text × Document))
  deriving Inhabited, Repr

namespace Document

/-! ## Reading -/

/-- Why a text stands for no document. -/
inductive ReadError where
  /-- The text breaks the rules of its notation. -/
  | malformed
  /-- An integer in the text has more digits than an integer may have. -/
  | integerTooLong
  deriving DecidableEq, Repr

/-- What was read, where nothing means that the text breaks the rules. -/
def wellFormed {α : Type} : Option α → Except ReadError α
  | some value => .ok value
  | none => .error .malformed

/-! ## Entries of a table -/

/-- The value at a key of a list of entries. -/
def lookup? (key : Text) : List (Text × Document) → Option Document
  | [] => none
  | (k, v) :: rest => if k = key then some v else lookup? key rest

/-- Stores a value at a key: in place of the value that is there, or at the end. -/
def insert (key : Text) (value : Document) :
    List (Text × Document) → List (Text × Document)
  | [] => [(key, value)]
  | (k, v) :: rest => if k = key then (k, value) :: rest else (k, v) :: insert key value rest

/-- The table with the given entries, where a later value replaces an earlier one. -/
def ofEntries (entries : List (Text × Document)) : Document :=
  table (entries.foldl (fun done (key, value) => insert key value done) [])

/-! ## Looking up -/

/-- The value at a key, if the document is a table that has it. -/
def get? : Document → Text → Option Document
  | table entries, key => lookup? key entries
  | _, _ => none

/-- The value at the end of a path of keys. -/
def follow? : Document → List Text → Option Document
  | document, [] => some document
  | document, key :: path => (document.get? key).bind fun inner => inner.follow? path

/-- Stores a value at a key of a table; any other document is left alone. -/
def put (document : Document) (key : Text) (value : Document) : Document :=
  match document with
  | table entries => table (insert key value entries)
  | other => other

/-- The truth value, of a truth value only. -/
def asBool? : Document → Option Bool
  | bool b => some b
  | _ => none

/-- The integer, of an integer only; a truth value is none. -/
def asInteger? : Document → Option Int
  | integer n => some n
  | _ => none

/-- The text, of a text only. -/
def asText? : Document → Option Text
  | text s => some s
  | _ => none

/-! ## What a stored value changes -/

theorem lookup?_insert_self (key : Text) (value : Document)
    (entries : List (Text × Document)) : lookup? key (insert key value entries) = some value := by
  induction entries with
  | nil => simp [insert, lookup?]
  | cons entry rest ih =>
      obtain ⟨k, v⟩ := entry
      by_cases h : k = key
      · simp [insert, lookup?, h]
      · simp [insert, lookup?, h, ih]

theorem lookup?_insert_of_ne {key other : Text} (h : other ≠ key) (value : Document)
    (entries : List (Text × Document)) :
    lookup? other (insert key value entries) = lookup? other entries := by
  induction entries with
  | nil => simp [insert, lookup?, h.symm]
  | cons entry rest ih =>
      obtain ⟨k, v⟩ := entry
      by_cases hk : k = key
      · subst hk
        simp [insert, lookup?, h.symm]
      · by_cases ho : k = other
        · subst ho
          simp [insert, lookup?, hk]
        · simp [insert, lookup?, hk, ho, ih]

theorem get?_put_self (entries : List (Text × Document)) (key : Text) (value : Document) :
    ((table entries).put key value).get? key = some value :=
  lookup?_insert_self key value entries

theorem get?_put_of_ne {key other : Text} (h : other ≠ key) (document value : Document) :
    (document.put key value).get? other = document.get? other := by
  cases document with
  | table entries => exact lookup?_insert_of_ne h value entries
  | _ => rfl

end Document
end Nullability
