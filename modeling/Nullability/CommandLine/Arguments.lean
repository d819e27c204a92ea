import Nullability.CommandLine.Options
import Nullability.Text.Pieces

/-!
# A reader of arguments

The reader that the program comes with. Options and positional arguments can be mixed, up to a lone
`--`, after which everything is positional. An option that takes a value takes it from behind a `=`
or from the next argument, whatever that looks like; of several values the last one counts. A
question for help wins over any value that cannot be used, but not over an option that is unknown.

* `Arguments.parse` sorts the arguments of a command;
* `Arguments.value?` and `Arguments.choice` look options up;
* `Arguments.reader` gives the parameters of a command their values.
-/

namespace Nullability

/-- The option that asks for help. -/
def helpOption : Text := "--help"

/-- Whether an option of a name takes a value, if it is this one. -/
def OptionKind.takes? (name : Text) : OptionKind → Option Bool
  | switch yes no _ => if name = yes ∨ some name = no then some false else none
  | valued long _ _ _ => if name = long then some true else none

/-- The name of an option with a value whose short form has a letter. -/
def OptionKind.named? (letter : Letter) : OptionKind → Option Text
  | switch _ _ _ => none
  | valued long short _ _ => if short = some letter then some long else none

namespace CommandRule

/-- Whether an option of a name takes a value, if there is one. -/
def takes? (c : CommandRule) (name : Text) : Option Bool :=
  if name = helpOption then some false else c.options.findSome? fun o => o.kind.takes? name

/-- The name of the option whose short form has a letter. -/
def named? (c : CommandRule) (letter : Letter) : Option Text :=
  c.options.findSome? fun o => o.kind.named? letter

end CommandRule

/-- The arguments of a command, sorted. -/
structure Arguments where
  /-- The options in order, with their values. -/
  options : List (Text × Option Text)
  positional : List Text
  deriving DecidableEq, Repr

namespace Arguments

/-! ## One argument -/

/-- Whether an argument is meant as an option. -/
def isOption (arg : Text) : Bool :=
  match arg.toList with
  | .char '-' :: _ :: _ => true
  | _ => false

/-- What one argument is. -/
inductive Kind where
  | positional
  | option (name : Text) (value : Option Text)
  /-- An option whose value is the next argument. -/
  | awaiting (name : Text)
  | refused (cause : UsageError)

/-- The name in an argument and the text behind its first `=`. -/
def split (arg : Text) : Text × Option Text :=
  match Text.piecesOf "=" arg with
  | name :: piece :: pieces => (name, some (Text.glued "=" (piece :: pieces)))
  | _ => (arg, none)

/-- What an argument is that starts with a short option. -/
def shortKind (c : CommandRule) (arg : Text) : Kind :=
  match arg.toList with
  | .char '-' :: letter :: rest =>
      match c.named? letter with
      | none => .refused (.unknownOption arg)
      | some name =>
          -- Whatever follows the letter is the value, also an equals sign.
          if rest.isEmpty then .awaiting name else .option name (some (Text.ofList rest))
  | _ => .positional

/-- What an argument is. -/
def kind (c : CommandRule) (arg : Text) : Kind :=
  if !isOption arg then .positional
  else
    let (name, value) := split arg
    match c.takes? name, value with
    | none, _ => shortKind c arg
    | some true, some value => .option name (some value)
    | some true, none => .awaiting name
    | some false, some _ => .refused (.valueUnexpected name)
    | some false, none => .option name none

/-! ## All arguments -/

/-- The arguments with one more positional one in front. -/
def addPositional (arg : Text) (a : Arguments) : Arguments :=
  { a with positional := arg :: a.positional }

/-- The arguments with one more option in front. -/
def addOption (name : Text) (value : Option Text) (a : Arguments) : Arguments :=
  { a with options := (name, value) :: a.options }

/-- Sorts the arguments of a command. -/
def parse (c : CommandRule) : List Text → Except UsageError Arguments
  | [] => .ok ⟨[], []⟩
  | arg :: rest =>
      if arg = "--" then .ok ⟨[], rest⟩
      else
        match kind c arg with
        | .positional => (parse c rest).map (addPositional arg)
        | .option name value => (parse c rest).map (addOption name value)
        | .refused e => .error e
        | .awaiting name =>
            match rest with
            | [] => .error (.valueMissing name)
            -- The next argument is the value, even if it looks like an option.
            | value :: rest => (parse c rest).map (addOption name (some value))

/-! ## Looking options up -/

/-- Whether an option is there. -/
def has (a : Arguments) (name : Text) : Bool :=
  a.options.any fun option => option.1 = name

/-- The last value of an option. -/
def value? (a : Arguments) (name : Text) : Option Text :=
  a.options.reverse.findSome? fun option => if option.1 = name then option.2 else none

/-- Which of an option and its opposite comes last. -/
def choice (a : Arguments) (yes : Text) (no : Option Text) (default : Bool) : Bool :=
  (a.options.reverse.findSome? fun option =>
    if option.1 = yes then some true
    else if some option.1 = no then some false else none).getD default

/-! ## Values -/

/-- A name without the case of its letters, where the long s is one of an s. -/
def folded (name : Text) : List Letter :=
  name.toList.map fun c => if c = .char 'ſ' then .char 'S' else c.toUpper

/-- How the text behind an option becomes a value. -/
def valueReader : ValueReader where
  integer? text := Text.readInteger? text.toList
  choice? names text := names.find? fun name => folded name = folded text

/-- The value that an option gives its parameter. -/
def valueOf (a : Arguments) : OptionKind → Except UsageError OptionValue
  | .switch yes no default => .ok (.truth (a.choice yes no default))
  | .valued name _ type default =>
      match a.value? name with
      | none => .ok default
      | some text =>
          match valueReader.value? text type with
          | some value => .ok value
          | none => .error (.valueUnusable name)

/-- The path that is given, or the default. -/
def placeOf (a : Arguments) (c : CommandRule) : Except UsageError OptionValue :=
  match a.positional with
  | [] => .ok (.text c.defaultPlace)
  | [path] =>
      match valueReader.value? path .path with
      | some value => .ok value
      | none => .error (.valueUnusable c.place)
  | _ => .error .extraArgument

/-- The values of the parameters of some options. -/
def valuesOf (a : Arguments) : List OptionRule → Except UsageError Values
  | [] => .ok []
  | o :: rest =>
      match a.valueOf o.kind, a.valuesOf rest with
      | .ok value, .ok values => .ok ((o.parameter, value) :: values)
      | .error e, _ => .error e
      | _, .error e => .error e

/-! ## The reader -/

/-- The options before the command: whether they ask for help, and the arguments after them. -/
def leading : List Text → Except UsageError (Bool × List Text)
  | [] => .ok (false, [])
  | arg :: rest =>
      if arg = helpOption then (leading rest).map fun found => (true, found.2)
      else if arg = "--" then .ok (false, rest)
      else if isOption arg then .error (.unknownOption arg)
      else .ok (false, arg :: rest)

/-- What the arguments of a command come to. -/
def answerOf (c : CommandRule) (args : List Text) : Except UsageError Answer :=
  match parse c args with
  | .error e => .error e
  | .ok a =>
      -- Help is given before any value is looked at.
      if a.has helpOption then .ok .help
      else
        match a.placeOf c, a.valuesOf c.options with
        | .ok place, .ok values => .ok (.call c.name ((c.place, place) :: values))
        | .error e, _ => .error e
        | _, .error e => .error e

/-- What the name of a command and its arguments come to. What stands in the place of a command and
is an option may still ask for help. -/
def answerTo (commands : List CommandRule) (name : Text) (args : List Text) :
    Except UsageError Answer :=
  match commands.find? fun c => c.name = name with
  | some c => answerOf c args
  | none =>
      match leading (name :: args) with
      | .ok (true, _) => .ok .help
      | _ => .error (.unknownCommand name)

/-- What the arguments of a program come to. -/
def answer (commands : List CommandRule) (args : List Text) : Except UsageError Answer :=
  match leading args with
  | .error e => .error e
  | .ok (true, _) => .ok .help
  | .ok (false, []) => .error .missingCommand
  | .ok (false, name :: args) => answerTo commands name args

/-- The reader of arguments. -/
def reader : OptionReader :=
  { valueReader with read := answer }

end Arguments
end Nullability
