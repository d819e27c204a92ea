import Nullability.Disk

/-!
# Options

A command declares what it takes. How arguments are written, and how they become values, is the
business of a reader of arguments, of which any can be used.

* `CommandRule` is what a command declares: one path, and its options;
* `Values` are the values that the command is called with, one for each parameter;
* `OptionReader` reads arguments by the rules of some commands.
-/

namespace Nullability

/-! ## Values -/

/-- The value of a parameter. -/
inductive OptionValue where
  | absent
  | truth (value : Bool)
  | text (value : Text)
  | integer (value : Int)
  deriving DecidableEq, Repr

/-- The values that a command is called with, by the names of its parameters. -/
abbrev Values : Type := List (Text × OptionValue)

namespace Values

/-- The value of a parameter. -/
def get (values : Values) (parameter : Text) : OptionValue :=
  (values.lookup parameter).getD .absent

/-- Whether a parameter is true. -/
def truth (values : Values) (parameter : Text) : Bool :=
  match values.get parameter with
  | .truth value => value
  | _ => false

/-- The text that a parameter is given. -/
def text? (values : Values) (parameter : Text) : Option Text :=
  match values.get parameter with
  | .text value => some value
  | _ => none

/-- The text of a parameter that always has one. -/
def text (values : Values) (parameter : Text) : Text :=
  (values.text? parameter).getD ""

/-- The integer that a parameter is given. -/
def integer? (values : Values) (parameter : Text) : Option Int :=
  match values.get parameter with
  | .integer value => some value
  | _ => none

end Values

/-! ## Rules -/

/-- What the text behind an option stands for. -/
inductive ValueType where
  | text
  | path
  | integer
  /-- One of some names, in letters of any case. -/
  | choice (names : List Text)
  deriving DecidableEq, Repr

/-- How an option is used. -/
inductive OptionKind where
  /-- An option without a value, and the option that takes it back, if there is one. -/
  | switch (yes : Text) (no : Option Text) (default : Bool)
  /-- An option with a value, and the letter of its short form, if it has one. -/
  | valued (name : Text) (letter : Option Letter) (type : ValueType) (default : OptionValue)
  deriving DecidableEq, Repr

/-- An option of a command. -/
structure OptionRule where
  /-- The parameter that the option is there for. -/
  parameter : Text
  kind : OptionKind
  deriving DecidableEq, Repr

/-- What a command declares. -/
structure CommandRule where
  name : Text
  /-- The parameter for the one argument that is not an option, which is a path. -/
  place : Text
  /-- The path where none is given. -/
  defaultPlace : Text
  options : List OptionRule
  deriving DecidableEq, Repr

/-! ## Readers -/

/-- Why a program cannot be started with some arguments. -/
inductive UsageError where
  | missingCommand
  | unknownCommand (name : Text)
  | unknownOption (name : Text)
  | valueMissing (option : Text)
  | valueUnexpected (option : Text)
  | valueUnusable (option : Text)
  | extraArgument
  deriving DecidableEq, Repr

/-- What arguments come to. -/
inductive Answer where
  | help
  | call (command : Text) (values : Values)
  deriving DecidableEq

/-- A reader of the texts behind options. -/
structure ValueReader where
  /-- The integer that a text stands for. -/
  integer? : Text → Option Int
  /-- The one of some names that a text stands for. -/
  choice? : List Text → Text → Option Text

/-- The value that the text behind an option stands for. -/
def ValueReader.value? (reader : ValueReader) (text : Text) : ValueType → Option OptionValue
  | .text => some (.text text)
  | .path => if Disk.isRefused text then none else some (.text text)
  | .integer => (reader.integer? text).map .integer
  | .choice names => (reader.choice? names text).map .text

/-- A reader of arguments. -/
structure OptionReader extends ValueReader where
  /-- Reads the arguments of a program that has some commands. -/
  read : List CommandRule → List Text → Except UsageError Answer

end Nullability
