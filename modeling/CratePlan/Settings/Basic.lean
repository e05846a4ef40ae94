import CratePlan.Naming.Basic
import CratePlan.Output.Path

/-!
The settings of a run. Every setting has a default.
-/

namespace CratePlan

/-- What the planner can be told. -/
structure Settings where
  packageName : String := "swagger"
  packageVersion : String := "1.0.0"
  /-- Put before every model name with an underscore, unless empty. -/
  modelPrefix : String := ""
  /-- Put after every model name with an underscore, unless empty. -/
  modelSuffix : String := ""
  /-- The root folder of the generated files. -/
  outputFolder : String := Output.joinAll ["generated-code", "rust"]
  /-- Preferred spellings for reserved words. -/
  replacements : OrderedMap String String := {}
  /-- Names for symbols, beyond the usual ones or in their place. -/
  symbols : OrderedMap String String := {}
deriving Repr, DecidableEq

namespace Settings

/-- The settings with a further preferred spelling for a reserved word. -/
def withReplacement (settings : Settings) (word replacement : String) : Settings :=
  { settings with replacements := settings.replacements.insert word replacement }

/-- How names are made under the settings. -/
def naming (settings : Settings) : Naming :=
  let naming : Naming :=
    { reserved := ReservedTable.ofKeywords.withReplacements settings.replacements
      modelPrefix := settings.modelPrefix
      modelSuffix := settings.modelSuffix }
  naming.withSymbols settings.symbols

end Settings

end CratePlan
