import CratePlan.Output.Skeleton
import CratePlan.Plan.Operation
import CratePlan.Settings.Basic

/-!
The plan for a whole client, and the planner that makes it. A planner is built from settings once
and can then serve any number of documents.
-/

namespace CratePlan

/-- Everything that is decided before a document is seen. -/
structure Planner where
  packageName : String
  packageVersion : String
  naming : Naming
  layout : Output.Layout
  skeleton : Output.Skeleton
deriving Repr, DecidableEq

/-- Everything that a renderer needs to write a client. -/
structure ClientPlan where
  outputFolder : String
  properties : List (String × String)
  supportingFiles : List Output.PlacedFile
  models : List ModelPlan
  apis : List ApiPlan
deriving Repr, DecidableEq

namespace Planner

/-- The name under which the planner is known. -/
def name : String := "rust-hyper-client"

/-- What the planner makes plans for. -/
def kind : String := "client"

/-- What the planner does, in a sentence. -/
def help : String := "Generates a rust client library."

/-- The folder, relative to the crate, that documentation is linked from. -/
def docFolder : String := "docs/"

/-- The planner for given settings. -/
def ofSettings (settings : Settings) : Planner :=
  { packageName := settings.packageName
    packageVersion := settings.packageVersion
    naming := settings.naming
    layout := ⟨settings.outputFolder⟩
    skeleton := .client }

/-- The values that every template receives. -/
def properties (planner : Planner) : List (String × String) :=
  [("packageName", planner.packageName), ("packageVersion", planner.packageVersion),
   ("apiDocPath", docFolder), ("modelDocPath", docFolder)]

/-- The supporting files below the output folder. -/
def supportingFiles (planner : Planner) : List Output.PlacedFile :=
  planner.skeleton.placeUnder planner.layout.root

/-- The plan for a document. -/
def plan (planner : Planner) (document : Document) : ClientPlan :=
  { outputFolder := planner.layout.root
    properties := planner.properties
    supportingFiles := planner.supportingFiles
    models := planner.naming.planModels planner.layout document.models
    apis := planner.naming.planApis planner.layout document.operations }

end Planner

namespace ClientPlan

/-- The operations of all interfaces in document order. -/
def operations (plan : ClientPlan) : List OperationPlan :=
  let grouped := plan.apis.flatMap ApiPlan.operations
  (grouped.mergeSort fun a b => a.position ≤ b.position).map Positioned.operation

/-- All diagnostics: those of the models, then those of the operations, each in document order. -/
def diagnostics (plan : ClientPlan) : List Diagnostic :=
  plan.models.flatMap ModelPlan.diagnostics ++ plan.operations.flatMap OperationPlan.diagnostics

end ClientPlan

end CratePlan
