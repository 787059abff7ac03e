import Overseer.CommandLine.Argument
import Overseer.Text.ControlSequence

/-! ## Styles

The messages and the help of the command are styled by control sequences. They are printed as they
are only if the environment asks for it; otherwise everything that a terminal would not show is
left out, also of what the user gave. -/

namespace Overseer.CommandLine

inductive Style where
  /-- What a message begins with. -/
  | error
  /-- What is wrong. -/
  | invalid
  /-- What is to be typed as it is. -/
  | literal
  | heading
deriving DecidableEq

namespace Style

/-- The sequences that switch a style on. -/
def on : Style → Text
  | .error => "\x1b[1m\x1b[31m".toList
  | .invalid => "\x1b[33m".toList
  | .literal => "\x1b[1m".toList
  | .heading => "\x1b[1m\x1b[4m".toList

/-- Switches every style off. -/
def off : Text := "\x1b[0m".toList

/-- A text in a style. -/
def apply (s : Style) (t : Text) : Text := s.on ++ t ++ off

end Style

/-- The variable that forbids styles unless it is empty. -/
def noStyleVariable : Text := "NO_COLOR".toList

/-- The variable that asks for styles unless it is zero. -/
def styleVariable : Text := "CLICOLOR_FORCE".toList

/-- Whether styles are printed. -/
def printsStyles (env : Environment) : Bool :=
  ((env noStyleVariable).getD []).isEmpty
    && (env styleVariable).any fun v => v ≠ Utf8.encode ['0']

/-- A styled text as it is printed. -/
def printed (env : Environment) (s : Text) : Text := if printsStyles env then s else s.visible

end Overseer.CommandLine
