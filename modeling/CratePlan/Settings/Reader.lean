import CratePlan.Settings.Check
import CratePlan.Toml.Scan

/-!
Settings from the text of a file. A section is a table, or the list of its values in a fixed order;
a table with a key that its section does not know is refused. The tables of words and symbols may
have any keys and are taken in the order of these.
-/

namespace CratePlan.Settings

open Toml (Entries Value)

/-- A value as text. -/
def text? : Value → Option String
  | .text s => some s
  | _ => none

/-- The texts that a list gives to `count` settings in turn; what the list does not reach is not
set. -/
def listedTexts? : Nat → List Value → Option (List (Option String))
  | 0, _ => some []
  | count + 1, [] => (listedTexts? count []).map (none :: ·)
  | count + 1, item :: rest => do
    let s ← text? item
    return some s :: (← listedTexts? count rest)

/-- The entries of a table whose values are all text. -/
def textEntries? (entries : Entries) : Option (List (String × String)) :=
  entries.mapM fun entry => (text? entry.2).map fun s => (entry.1, s)

/-- The settings of a section by their names, each set or not. -/
def section? (names : List String) : Value → Option (List (Option String))
  | .table _ entries => do
    let entries ← textEntries? entries
    if entries.all fun entry => names.contains entry.1 then
      return names.map fun name => entries.lookup name
    else none
  | .list items => listedTexts? names.length items
  | _ => none

/-- The settings of a section of the file; a section that is not there sets nothing. -/
def sectionOf? (root : Entries) (key : String) (names : List String) :
    Option (List (Option String)) :=
  match root.lookup key with
  | none => some (names.map fun _ => none)
  | some value => section? names value

/-- The key under which a date or a time stands where a table is read. -/
def momentKey : String := "$__toml_private_datetime"

/-- A table of texts, in the order of its keys. A date or a time is the table that holds it as its
one text. -/
def textTable? : Value → Option (OrderedMap String String)
  | .table _ entries => do
    let entries ← textEntries? entries
    return ⟨entries.mergeSort fun a b => !decide (b.1 < a.1)⟩
  | .moment moment => some ⟨[(momentKey, moment.text)]⟩
  | _ => none

/-- A table of texts of the file; a table that is not there is empty. -/
def tableOf? (root : Entries) (key : String) : Option (OrderedMap String String) :=
  match root.lookup key with
  | none => some {}
  | some value => textTable? value

/-- The sections that a file may have. -/
def sectionNames : List String :=
  ["package", "model", "output", "reserved_words_mappings", "symbol_aliases"]

/-- The settings that the tables of a file hold. -/
def ofTables? (root : Entries) : Option Settings := do
  let package ← sectionOf? root "package" ["name", "version"]
  let model ← sectionOf? root "model" ["prefix", "suffix"]
  let output ← sectionOf? root "output" ["folder"]
  let replacements ← tableOf? root "reserved_words_mappings"
  let symbols ← tableOf? root "symbol_aliases"
  if root.all fun entry => sectionNames.contains entry.1 then
    let usual : Settings := {}
    return {
      packageName := (package[0]?.join).getD usual.packageName
      packageVersion := (package[1]?.join).getD usual.packageVersion
      modelPrefix := (model[0]?.join).getD usual.modelPrefix
      modelSuffix := (model[1]?.join).getD usual.modelSuffix
      outputFolder := (output[0]?.join).getD usual.outputFolder
      replacements, symbols }
  else none

/-- The settings that a text holds, if they keep all rules. -/
def ofText (text : String) : Except Error Settings :=
  match (Toml.scan text).bind ofTables? with
  | none => .error .unparsable
  | some settings =>
    match settings.error? text with
    | some error => .error error
    | none => .ok settings

end CratePlan.Settings
