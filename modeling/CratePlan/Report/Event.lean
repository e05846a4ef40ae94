/-!
What a report says, as a list of events, and how events look on a terminal.
-/

namespace CratePlan.Report

/-- One thing that a report says. -/
inductive Event where
  | section (name : String)
  | keyValue (key value : String)
  | item (text : String)
  /-- A message for the error stream. -/
  | warning (text : String)
  | text (text : String)
  | newline
deriving Repr, DecidableEq

/-- The line for an event. -/
def Event.line : Event → String
  | .section name => name ++ ":"
  | .keyValue key value => "  " ++ key ++ ": " ++ value
  | .item line => "  - " ++ line
  | .warning line => line
  | .text line => line
  | .newline => ""

/-- Whether an event goes to the error stream. -/
def Event.isWarning : Event → Bool
  | .warning _ => true
  | _ => false

/-- The text of lines, each with its line end. -/
def ofLines (lines : List String) : String :=
  String.join (lines.map (· ++ "\n"))

/-- What events print on the output stream. -/
def output (events : List Event) : String :=
  ofLines ((events.filter fun e => !e.isWarning).map Event.line)

/-- What events print on the error stream. -/
def errorOutput (events : List Event) : String :=
  ofLines ((events.filter Event.isWarning).map Event.line)

end CratePlan.Report
