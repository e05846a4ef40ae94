import CratePlan.Plan.Client
import CratePlan.Report.Event

/-!
The report on the files that would be written.
-/

namespace CratePlan.Report

/-- Where a planner would write. -/
structure Inventory where
  outputFolder : String
  /-- The folders with their labels. -/
  folders : List (String × String)
  supportingFiles : List Output.PlacedFile
  /-- The templates with the extensions of what they are rendered to. -/
  templates : List (String × String)
deriving Repr, DecidableEq

namespace Inventory

/-- The report on a planner. -/
def ofPlanner (planner : Planner) : Inventory :=
  { outputFolder := planner.layout.root
    folders := [("apis", planner.layout.apiFolder), ("models", planner.layout.modelFolder),
      ("api docs", planner.layout.apiDocFolder), ("model docs", planner.layout.modelDocFolder)]
    supportingFiles := planner.supportingFiles
    templates := Output.clientTemplates.map fun t => (t.template, t.extension) }

/-- What the report says. -/
def events (report : Inventory) : List Event :=
  [.text ("Output: " ++ report.outputFolder), .newline, .section "Folders"] ++
    report.folders.map (fun (label, folder) => .keyValue label folder) ++
    [.newline, .section "Supporting files"] ++
    report.supportingFiles.map (fun file => .item (file.path ++ " (" ++ file.template ++ ")")) ++
    [.newline, .section "Templates"] ++
    report.templates.map fun (template, extension) => .keyValue template ("*" ++ extension)

end Inventory

end CratePlan.Report
