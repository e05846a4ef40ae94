import CratePlan.Output.Path

/-!
Where the files of a client go: interfaces and models under `src`, documentation under `docs`, all
below one root.
-/

namespace CratePlan.Output

/-- The places of the files of a client below a root folder. -/
structure Layout where
  root : String
deriving Repr, DecidableEq

namespace Layout

/-- The folder of interface sources. -/
def apiFolder (layout : Layout) : String :=
  join layout.root (joinAll ["src", "apis"])

/-- The folder of model sources. -/
def modelFolder (layout : Layout) : String :=
  join layout.root (joinAll ["src", "models"])

/-- The folder of interface documentation. -/
def apiDocFolder (layout : Layout) : String :=
  join layout.root "docs"

/-- The folder of model documentation. -/
def modelDocFolder (layout : Layout) : String :=
  join layout.root "docs"

/-- The source file of an interface. -/
def apiFile (layout : Layout) (stem : String) : String :=
  join layout.apiFolder (stem ++ ".rs")

/-- The source file of a model. -/
def modelFile (layout : Layout) (stem : String) : String :=
  join layout.modelFolder (stem ++ ".rs")

/-- The documentation file of an interface. -/
def apiDocFile (layout : Layout) (stem : String) : String :=
  join layout.apiDocFolder (stem ++ ".md")

/-- The documentation file of a model. -/
def modelDocFile (layout : Layout) (stem : String) : String :=
  join layout.modelDocFolder (stem ++ ".md")

end Layout

end CratePlan.Output
