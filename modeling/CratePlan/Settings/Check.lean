import CratePlan.Settings.Basic
import CratePlan.Settings.Error

/-!
The rules that settings from a file have to keep: a package has a name and a version, and whatever
is put in the place of a word or a symbol is an identifier.
-/

namespace CratePlan.Settings

open Text Identifier

/-- Why a text is not an identifier, if it is none. -/
def identifierFault? (name : String) : Option IdentifierFault :=
  match name.toList with
  | [] => some .empty
  | first :: rest =>
    if !(first.isAlpha || first = '_') then some .start
    else if rest.all isWordChar then none
    else some .character

/-- The error of a preferred spelling, if it has one: it has to be an identifier and no keyword. -/
def replacementError? (text word replacement : String) : Option Error :=
  match identifierFault? replacement with
  | some fault =>
    some (.invalidIdentifier (.replacement word) replacement fault (valueSpan? text replacement))
  | none =>
    if isKeyword replacement then
      some (.keyword (.replacement word) replacement (valueSpan? text replacement))
    else none

/-- The error of a name for a symbol, if it has one: it has to be an identifier. -/
def aliasError? (text symbol name : String) : Option Error :=
  (identifierFault? name).map fun fault =>
    .invalidIdentifier (.alias symbol) name fault (valueSpan? text name)

/-- The first rule that settings break, with its place in the text that they come from: first the
package, then the words and then the symbols, each in their order. -/
def error? (settings : Settings) (text : String) : Option Error :=
  if isBlankText settings.packageName then some (.blankPackageName (keySpan? text "name"))
  else if isBlankText settings.packageVersion then
    some (.blankPackageVersion (keySpan? text "version"))
  else
    (settings.replacements.entries.findSome? fun entry =>
        replacementError? text entry.1 entry.2) <|>
      settings.symbols.entries.findSome? fun entry => aliasError? text entry.1 entry.2

end CratePlan.Settings
