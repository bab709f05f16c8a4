import Lexing.Report.Paint

/-!
# Messages

A message is one painted line that begins with its severity.
-/

namespace Lexing

/-- How grave a message is. -/
inductive Severity where
  | error
  | info
  | warning
  deriving DecidableEq, Repr

namespace Severity

/-- What a message of that severity begins with. -/
def header : Severity → Piece
  | .error => ⟨[.bold, .red], "[error]:"⟩
  | .info => ⟨[.bold, .green], "[info]:"⟩
  | .warning => ⟨[.bold, .yellow], "[warning]:"⟩

end Severity

/-- A line for the user of the program. -/
structure Message where
  /-- How grave it is. -/
  severity : Severity
  /-- What it says. -/
  text : Text
  deriving DecidableEq, Repr

namespace Message

/-- The message as a painted line. -/
def row (message : Message) : Row :=
  [message.severity.header, .plain [' '], ⟨[.bold], message.text⟩]

/-- The message with its escape sequences. -/
def render (message : Message) : Text :=
  message.row.render

end Message

end Lexing
