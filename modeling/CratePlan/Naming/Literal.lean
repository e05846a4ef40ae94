import CratePlan.Text.Blank

/-!
Text made safe to embed in generated code.
-/

namespace CratePlan.Literal

open Text

/-- A text without its double quotes. -/
def dropQuotes (s : String) : String :=
  replaceChar '"' "" s

/-- A text that neither closes nor opens a block comment. -/
def breakComments (s : String) : String :=
  replacePair '/' '*' "/_*" (replacePair '*' '/' "*_/" s)

/-- A text with tabs and line ends turned into spaces. -/
def flatten (s : String) : String :=
  String.ofList (s.toList.map fun c => if c = '\t' ∨ c = '\n' ∨ c = '\r' then ' ' else c)

/-- A text as it stands between the quotes of a string literal: on one line, with backslashes and
double quotes escaped and comment delimiters broken up. -/
def escape (s : String) : String :=
  breakComments (replaceChar '"' "\\\"" (replaceChar '\\' "\\\\" (flatten s)))

end CratePlan.Literal
