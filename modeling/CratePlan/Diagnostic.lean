/-!
What the planner has to say about a document. Naming never fails: whenever an identifier cannot be
kept, the change is noted as a diagnostic, and the caller decides what to do with it.
-/

namespace CratePlan

/-- How serious a diagnostic is. -/
inductive Severity where
  /-- The generated code will likely not survive it. -/
  | error
  /-- A change of name that users will notice. -/
  | warning
  /-- A routine change. -/
  | info
deriving Repr, DecidableEq

/-- The word for a severity. -/
def Severity.label : Severity → String
  | .error => "error"
  | .warning => "warning"
  | .info => "info"

/-- A message with its severity, the phase that raised it and, once known, the place in the document
that it speaks of. -/
structure Diagnostic where
  severity : Severity
  phase : String
  message : String
  location : Option String := none
deriving Repr, DecidableEq

namespace Diagnostic

/-- A warning without a place. -/
def warning (phase message : String) : Diagnostic :=
  { severity := .warning, phase, message }

/-- A remark without a place. -/
def info (phase message : String) : Diagnostic :=
  { severity := .info, phase, message }

/-- The diagnostic placed at `location`, unless it has a place already. -/
def locate (location : String) (d : Diagnostic) : Diagnostic :=
  { d with location := some (d.location.getD location) }

/-- The diagnostic in one line. -/
def text (d : Diagnostic) : String :=
  let place := match d.location with
    | some location => " (at " ++ location ++ ")"
    | none => ""
  d.severity.label ++ ": " ++ d.message ++ place

end Diagnostic

/-- Diagnostics in the order in which they were raised. -/
structure DiagnosticLog where
  items : List Diagnostic := []
deriving Repr, DecidableEq

namespace DiagnosticLog

/-- The log with one more diagnostic at its end. -/
def push (log : DiagnosticLog) (d : Diagnostic) : DiagnosticLog :=
  ⟨log.items ++ [d]⟩

/-- The log with more diagnostics at its end. -/
def append (log : DiagnosticLog) (more : List Diagnostic) : DiagnosticLog :=
  ⟨log.items ++ more⟩

/-- The log in which each diagnostic without a place is placed at `location`. -/
def locate (log : DiagnosticLog) (location : String) : DiagnosticLog :=
  ⟨log.items.map (Diagnostic.locate location)⟩

/-- Everything that was logged, and the log that is left: an empty one. -/
def take (log : DiagnosticLog) : List Diagnostic × DiagnosticLog :=
  (log.items, {})

end DiagnosticLog

/-- Whether an error is among the diagnostics. -/
def anyError (ds : List Diagnostic) : Bool :=
  ds.any fun d => d.severity = .error

/-- The number of warnings among the diagnostics. -/
def countWarnings (ds : List Diagnostic) : Nat :=
  ds.countP fun d => d.severity = .warning

end CratePlan
