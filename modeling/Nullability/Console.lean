import Nullability.Run
import Nullability.Text.LowerCase

/-!
# Notices on a console

A notice is printed as a line of markup, where square brackets with a style in them have a meaning
of their own, and is also written to a journal as it is.

* `Markup.escaped` is a text whose brackets stand for themselves;
* `Console.printed` and `Console.logged` are the two forms of a notice.
-/

namespace Nullability

/-! ## Markup -/

namespace Markup

/-- A character that can follow the bracket at the start of a style. -/
def startsStyle (c : Letter) : Bool :=
  ('a' ≤ c && c ≤ 'z') || c == .char '#' || c == .char '/' || c == .char '@'

/-- Whether a text that follows a bracket makes a style of it: one that is closed before another
is opened. -/
def isStyle : List Letter → Bool
  | [] => false
  | c :: rest => startsStyle c && (rest.takeWhile (· != .char '[')).contains ']'

/-- The text with a backslash before each style and twice the backslashes that were there; `run`
counts those just before the rest. -/
def escapeFrom (run : Nat) : List Letter → List Letter
  | [] => List.replicate run (.char '\\')
  | .char '\\' :: rest => escapeFrom (run + 1) rest
  | c :: rest =>
      -- One more backslash takes the meaning of a style away.
      let slashes := if c = '[' && isStyle rest then 2 * run + 1 else run
      List.replicate slashes (.char '\\') ++ c :: escapeFrom 0 rest

/-- Doubles a single backslash at the end, which would take the meaning of what follows. -/
def closeEnd (cs : List Letter) : List Letter :=
  if [.char '\\'].isSuffixOf cs && !([.char '\\', .char '\\'].isSuffixOf cs) then
    cs ++ [.char '\\']
  else cs

/-- The markup that shows a text as it is. -/
def escaped (s : Text) : Text :=
  Text.ofList (closeEnd (escapeFrom 0 s.toList))

/-- A text between the start and the end of a style. -/
def styled (style s : Text) : Text :=
  "[" ++ style ++ "]" ++ s ++ "[/" ++ style ++ "]"

end Markup

/-! ## Consoles -/

/-- The word for a level in the journal. -/
def NoticeLevel.word : NoticeLevel → Text
  | handshake => "INFO"
  | step => "INFO"
  | error => "ERROR"
  | warning => "WARNING"
  | debug => "DEBUG"

/-- A console with the name that greets, the colour that it has, and the greeting. -/
structure Console where
  name : Text
  color : Text
  welcome : Text
  deriving DecidableEq, Repr

namespace Console

/-- The console of the program. -/
def default : Console := ⟨"NULLFIX", "cyan", "Nullability fixer ready"⟩

/-- The name of the journal: the name in lower case, where an empty one means the topmost
journal. -/
def journal (c : Console) : Text :=
  let name := Text.lowered c.name
  if name.isEmpty then "root" else name

/-- The markup of a notice, if it is printed at all. -/
def printed (c : Console) (n : Notice) : Option Text :=
  match n.level with
  | .handshake => some (Markup.styled ("bold " ++ c.color) c.name ++ " " ++ c.welcome)
  | .step => some (Markup.styled c.color ">" ++ " " ++ Markup.escaped n.message)
  | .error => some (Markup.styled "bold red" "ERROR" ++ " " ++ Markup.escaped n.message)
  | .warning => some (Markup.styled "yellow" "WARNING" ++ " " ++ Markup.escaped n.message)
  | .debug => none

/-- The text of a notice where styles cannot be shown. -/
def plain (c : Console) (n : Notice) : Option Text :=
  match n.level with
  | .handshake => some (c.name ++ " " ++ c.welcome)
  | .step => some ("> " ++ n.message)
  | .error => some ("ERROR " ++ n.message)
  | .warning => some ("WARNING " ++ n.message)
  | .debug => none

/-- What the journal says of a notice. -/
def logged (c : Console) (n : Notice) : Text :=
  match n.level with
  | .handshake => c.name ++ " " ++ c.welcome
  | _ => n.message

end Console
end Nullability
