import Nullability.CommandLine.Request
import Nullability.Proofs.Text.Numerals

/-!
# Words behind a command

What a person writes behind the name of a command, word by word, and what it means. The words do
not depend on how a reader of arguments goes about them.

* `Word` is an option, an option with a value, or the path;
* `CommandRule.Takes` says which words a command takes, `OptionKind.valueIn?` what they say about an
  option;
* `OptionReader.IsFaithful` says that a reader of arguments reads words as they are meant;
* `CommandRule.IsGiven` says that a call has the values of its words.
-/

namespace Nullability

/-- What stands behind the name of a command. -/
inductive Word where
  | option (name : Text)
  | valued (name value : Text)
  /-- The value of an option in the same argument, behind an equals sign. -/
  | joined (name value : Text)
  | place (path : Text)
  deriving DecidableEq, Repr

namespace Word

/-- The arguments that a word is written as. -/
def spelled : Word → List Text
  | option name => [name]
  | valued name value => [name, value]
  | joined name value => [name ++ "=" ++ value]
  | place path => [path]

/-- The text that a word puts behind an option. -/
def textFor? (name : Text) : Word → Option Text
  | valued long value | joined long value => if long = name then some value else none
  | _ => none

/-- Whether a word is an option or the one that takes it back. -/
def turns? (yes : Text) (no : Option Text) : Word → Option Bool
  | option name => if name = yes then some true else if some name = no then some false else none
  | _ => none

/-- The path that a word is. -/
def place? : Word → Option Text
  | place path => some path
  | _ => none

variable (words : List Word)

/-- The last text behind an option. -/
def lastText? (name : Text) : Option Text :=
  words.reverse.findSome? (textFor? name)

/-- Whether an option is given, or the one that takes it back behind it. -/
def isOn (yes : Text) (no : Option Text) (default : Bool) : Bool :=
  (words.reverse.findSome? (turns? yes no)).getD default

/-- Whether an option is given that nothing takes back. -/
def has (name : Text) : Bool :=
  isOn words name none false

end Word

namespace OptionKind

/-- The names of an option. -/
def names : OptionKind → List Text
  | switch yes no _ => yes :: no.toList
  | valued name _ _ _ => [name]

/-- Whether an option has a value. -/
def takesValue : OptionKind → Bool
  | switch _ _ _ => false
  | valued _ _ _ _ => true

/-- What words say about an option, if its text can be used. -/
def valueIn? (reader : ValueReader) (words : List Word) :
    OptionKind → Option OptionValue
  | switch yes no default => some (.truth (Word.isOn words yes no default))
  | valued name _ type default =>
      match Word.lastText? words name with
      | none => some default
      | some text => reader.value? text type

end OptionKind

namespace CommandRule

/-- A word whose option a command has. A path does not look like an option. -/
def Declares (c : CommandRule) : Word → Prop
  | .option name => ∃ o ∈ c.options, o.kind.takesValue = false ∧ name ∈ o.kind.names
  | .valued name _ | .joined name _ =>
      ∃ o ∈ c.options, o.kind.takesValue = true ∧ name ∈ o.kind.names
  | .place path => path.toList.head? ≠ some (.char '-') ∧ Disk.isRefused path = false

instance (c : CommandRule) : DecidablePred c.Declares
  | .option _ => inferInstanceAs (Decidable (∃ o ∈ c.options, _))
  | .valued _ _ | .joined _ _ => inferInstanceAs (Decidable (∃ o ∈ c.options, _))
  | .place _ => inferInstanceAs (Decidable (_ ∧ _))

/-- Words that a command takes: it has their options, at most one of them is a path, and each text
behind an option can be used. -/
structure Takes (c : CommandRule) (reader : ValueReader) (words : List Word) : Prop where
  declares : ∀ w ∈ words, c.Declares w
  onePlace : (words.filterMap Word.place?).length ≤ 1
  usable : ∀ o ∈ c.options, (o.kind.valueIn? reader words).isSome

/-- The path in words, or the default. -/
def placeIn (c : CommandRule) (words : List Word) : Text :=
  (words.findSome? Word.place?).getD c.defaultPlace

end CommandRule

/-- Readers that read the words behind some commands as they are meant. Integers have no more
digits than a text can be read with, and those that are written in decimal are read; a name is
chosen in ASCII letters of any case. -/
structure OptionReader.IsFaithful (reader : OptionReader) (commands : List CommandRule) :
    Prop where
  read_spelled : ∀ c ∈ commands, ∀ words, c.Takes reader.toValueReader words →
    ∃ values : Values,
      reader.read commands (c.name :: words.flatMap Word.spelled) = .ok (.call c.name values) ∧
      values.get c.place = .text (c.placeIn words) ∧
      ∀ o ∈ c.options, o.kind.valueIn? reader.toValueReader words = some (values.get o.parameter)
  isShort_integer : ∀ text n, reader.integer? text = some n → Text.IsShort n
  integer_integerText : ∀ n, Text.IsShort n → reader.integer? (Text.integerText n) = some n
  choice_upper : ∀ c ∈ commands, ∀ o ∈ c.options, ∀ name letter names default,
    o.kind = .valued name letter (.choice names) default → ∀ chosen ∈ names, ∀ text : Text,
      text.toList.map Letter.toUpper = chosen.toList → reader.choice? names text = some chosen

/-! ## The values of parameters -/

namespace Values

variable {values : Values} {parameter : Text}

theorem truth_of_get {value : Bool} (h : values.get parameter = .truth value) :
    values.truth parameter = value := by
  rw [truth, h]

theorem text?_of_get {value : Text} (h : values.get parameter = .text value) :
    values.text? parameter = some value := by
  rw [text?, h]

theorem text_of_get {value : Text} (h : values.get parameter = .text value) :
    values.text parameter = value := by
  rw [text, text?_of_get h, Option.getD_some]

end Values

/-- The values of the options of a command are what the words say. -/
def CommandRule.IsGiven (c : CommandRule) (reader : ValueReader) (words : List Word)
    (values : Values) : Prop :=
  ∀ o ∈ c.options, o.kind.valueIn? reader words = some (values.get o.parameter)

namespace CommandRule.IsGiven

variable {c : CommandRule} {reader : ValueReader} {words : List Word} {values : Values}
  {parameter name : Text}

theorem truth {yes : Text} {no : Option Text} {default : Bool}
    (h : c.IsGiven reader words values)
    (ho : OptionRule.mk parameter (.switch yes no default) ∈ c.options) :
    values.truth parameter = Word.isOn words yes no default :=
  Values.truth_of_get (Option.some.inj (h _ ho)).symm

theorem flag (h : c.IsGiven reader words values) (ho : OptionRule.flag parameter name ∈ c.options) :
    values.truth parameter = Word.has words name :=
  h.truth ho

theorem optional (h : c.IsGiven reader words values)
    (ho : OptionRule.optional parameter name ∈ c.options) :
    values.text? parameter = Word.lastText? words name := by
  have hget := h _ ho
  cases htext : Word.lastText? words name with
  | none =>
      simp only [OptionRule.optional, OptionKind.valueIn?, htext, Option.some.injEq] at hget
      rw [Values.text?, ← hget]
  | some text =>
      simp only [OptionRule.optional, OptionKind.valueIn?, htext, ValueReader.value?,
        Option.some.injEq] at hget
      exact Values.text?_of_get hget.symm

theorem text {default : Text} (h : c.IsGiven reader words values)
    (ho : OptionRule.mk parameter (.valued name none .text (.text default)) ∈ c.options) :
    values.text parameter = (Word.lastText? words name).getD default := by
  have hget := h _ ho
  cases htext : Word.lastText? words name with
  | none =>
      simp only [OptionKind.valueIn?, htext, Option.some.injEq] at hget
      exact Values.text_of_get hget.symm
  | some text =>
      simp only [OptionKind.valueIn?, htext, ValueReader.value?, Option.some.injEq] at hget
      exact Values.text_of_get hget.symm

end CommandRule.IsGiven
end Nullability
