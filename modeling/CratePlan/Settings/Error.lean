import CratePlan.Settings.Span

/-!
Why settings are refused.
-/

namespace CratePlan.Settings

/-- Why a text is not an identifier. -/
inductive IdentifierFault where
  | empty
  | start
  | character
deriving Repr, DecidableEq

/-- The reason in words. -/
def IdentifierFault.reason : IdentifierFault → String
  | .empty => "name cannot be empty"
  | .start => "name must start with a letter or underscore"
  | .character => "name contains invalid characters"

/-- What an identifier was given for. -/
inductive Purpose where
  /-- The preferred spelling of a reserved word. -/
  | replacement (word : String)
  /-- The name of a symbol. -/
  | alias (symbol : String)
deriving Repr, DecidableEq

/-- A purpose in words. -/
def Purpose.describe : Purpose → String
  | .replacement word => s!"replacement for reserved word '{word}'"
  | .alias symbol => s!"alias for symbol '{symbol}'"

/-- Why settings are refused. An error that can be shown in the text of the file has a span, unless
the place is not found there. -/
inductive Error where
  /-- The file cannot be read as text. -/
  | unreadable (path : String)
  /-- The text is not TOML, or its tables do not fit the settings. -/
  | unparsable
  | blankPackageName (span : Option Span)
  | blankPackageVersion (span : Option Span)
  | invalidIdentifier (purpose : Purpose) (name : String) (fault : IdentifierFault)
      (span : Option Span)
  | keyword (purpose : Purpose) (name : String) (span : Option Span)
deriving Repr, DecidableEq

namespace Error

/-- The error in words. -/
def message : Error → String
  | .unreadable path => s!"failed to read '{path}'"
  | .unparsable => "failed to parse rustgen.toml"
  | .blankPackageName _ => "package name cannot be empty"
  | .blankPackageVersion _ => "package version cannot be empty"
  | .invalidIdentifier purpose name _ _ => s!"invalid {purpose.describe} '{name}'"
  | .keyword purpose name _ => s!"{purpose.describe} '{name}' is a Rust reserved keyword"

/-- The code under which the error is known. -/
def code : Error → String
  | .unreadable _ => "rustgen::io"
  | .unparsable => "rustgen::parse_error"
  | .blankPackageName _ => "rustgen::validation_error"
  | .blankPackageVersion _ => "rustgen::validation_error"
  | .invalidIdentifier _ _ _ _ => "rustgen::invalid_identifier"
  | .keyword _ _ _ => "rustgen::reserved_keyword"

/-- What to do about the error. -/
def help? : Error → Option String
  | .unreadable _ => some "pass --config <path> or drop the flag to use the defaults"
  | .invalidIdentifier _ _ fault _ =>
    some <| fault.reason ++
      ". Use only letters, numbers, and underscores, starting with a letter or underscore."
  | .keyword _ name _ => some s!"pick a replacement that is not a keyword, e.g. '{name}_value'"
  | _ => none

/-- The words put at the place of the error. -/
def label : Error → String
  | .invalidIdentifier _ _ _ _ => "invalid identifier"
  | .keyword _ _ _ => "reserved keyword used here"
  | error => error.message

/-- The place of the error in the text of the file. -/
def span? : Error → Option Span
  | .blankPackageName span => span
  | .blankPackageVersion span => span
  | .invalidIdentifier _ _ _ span => span
  | .keyword _ _ span => span
  | _ => none

end Error

end CratePlan.Settings
