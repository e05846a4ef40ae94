import CratePlan.Plan.Client
import CratePlan.Report.Event

/-!
The report on a document: how many records it plans, and the diagnostics sorted by severity.
-/

namespace CratePlan.Report

/-- What checking a document found. -/
structure Findings where
  documentPath : String
  models : Nat
  apis : Nat
  operations : Nat
  errors : List String
  warnings : List String
  infos : List String
deriving Repr, DecidableEq

namespace Findings

/-- Whether no errors were found. -/
def isValid (report : Findings) : Bool :=
  report.errors.isEmpty

/-- A diagnostic as a report shows it: its message, and its place on a second line. -/
def entry (d : Diagnostic) : String :=
  match d.location with
  | some location => d.message ++ "\n  --> " ++ location
  | none => d.message

/-- The entries for the diagnostics of one severity. -/
def entriesOf (severity : Severity) (ds : List Diagnostic) : List String :=
  (ds.filter fun d => d.severity = severity).map entry

/-- The report on a plan for the document at a path. -/
def ofPlan (plan : ClientPlan) (documentPath : String) : Findings :=
  { documentPath
    models := plan.models.length
    apis := plan.apis.length
    operations := (plan.apis.flatMap ApiPlan.operations).length
    errors := entriesOf .error plan.diagnostics
    warnings := entriesOf .warning plan.diagnostics
    infos := entriesOf .info plan.diagnostics }

/-- A count with its noun. -/
def counted (count : Nat) (noun : String) : String :=
  toString count ++ " " ++ noun ++ (if count = 1 then "" else "s")

/-- What the report says. -/
def events (report : Findings) : List Event :=
  report.errors.map (fun e => .warning ("error: " ++ e)) ++
    report.warnings.map (fun w => .warning ("warning: " ++ w)) ++
    report.infos.map (fun i => .text ("info: " ++ i)) ++
    (if report.warnings.isEmpty && report.errors.isEmpty then [] else [.newline]) ++
    if report.isValid then
      [.text ("✓ " ++ report.documentPath ++ " is valid"),
       .text ("  " ++ counted report.models "model" ++ ", " ++
         counted report.operations "operation" ++ " in " ++ counted report.apis "api")]
    else []

end Findings

end CratePlan.Report
