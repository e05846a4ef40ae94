import CratePlan.OrderedMap
import CratePlan.Output.Path

/-!
The files that a client has whatever its document says, and the templates that are rendered once per
model or interface.
-/

namespace CratePlan.Output

/-- A template that is rendered once, into a fixed file. -/
structure SupportingFile where
  template : String
  /-- The folder below the root, with slashes; empty for the root itself. -/
  folder : String
  /-- The name of the file. -/
  destination : String
deriving Repr, DecidableEq

/-- The path of a supporting file below the root. -/
def SupportingFile.path (file : SupportingFile) : String :=
  joinAll ((pieces file.folder).filter (· != "") ++ [file.destination])

/-- A supporting file with its final path. -/
structure PlacedFile where
  template : String
  path : String
deriving Repr, DecidableEq

/-- Supporting files in the order of their registration. -/
structure Skeleton where
  files : List SupportingFile := []
deriving Repr, DecidableEq

namespace Skeleton

/-- The skeleton with one more registration. -/
def register (skeleton : Skeleton) (file : SupportingFile) : Skeleton :=
  ⟨skeleton.files ++ [file]⟩

/-- The skeleton of a client crate. -/
def client : Skeleton :=
  ⟨[⟨"README.mustache", "", "README.md"⟩,
    ⟨"git_push.sh.mustache", "", "git_push.sh"⟩,
    ⟨"gitignore.mustache", "", ".gitignore"⟩,
    ⟨"configuration.mustache", "src/apis", "configuration.rs"⟩,
    ⟨".travis.yml", "", ".travis.yml"⟩,
    ⟨"client.mustache", "src/apis", "client.rs"⟩,
    ⟨"api_mod.mustache", "src/apis", "mod.rs"⟩,
    ⟨"model_mod.mustache", "src/models", "mod.rs"⟩,
    ⟨"lib.rs", "src", "lib.rs"⟩,
    ⟨"Cargo.mustache", "", "Cargo.toml"⟩]⟩

/-- The registrations with one entry for each place. Of several registrations for one place the last
counts, where the first stood. -/
def distinct (skeleton : Skeleton) : List SupportingFile :=
  (OrderedMap.ofList (skeleton.files.map fun file => (components file.path, file))).values

/-- The registrations, one for each place, with their final paths below a root. -/
def placeUnder (skeleton : Skeleton) (root : String) : List PlacedFile :=
  skeleton.distinct.map fun file => ⟨file.template, join root file.path⟩

end Skeleton

/-- What a template is rendered for. -/
inductive Artifact where
  | model
  | api
  | modelDoc
  | apiDoc
deriving Repr, DecidableEq

/-- The name of an artifact kind. -/
def Artifact.name : Artifact → String
  | .model => "model"
  | .api => "api"
  | .modelDoc => "model_doc"
  | .apiDoc => "api_doc"

/-- A template that is rendered once per model or interface. -/
structure Template where
  template : String
  extension : String
  artifact : Artifact
deriving Repr, DecidableEq

/-- The templates of a client crate. -/
def clientTemplates : List Template :=
  [⟨"model.mustache", ".rs", .model⟩, ⟨"api.mustache", ".rs", .api⟩,
   ⟨"model_doc.mustache", ".md", .modelDoc⟩, ⟨"api_doc.mustache", ".md", .apiDoc⟩]

end CratePlan.Output
