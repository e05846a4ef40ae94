import CratePlan.Text.Blank

/-!
Places in the text of a settings file. Offsets and lengths count bytes, and a line is a piece of the
text between line feeds; a carriage return before the line feed belongs to the end of the line.
-/

namespace CratePlan.Settings

open Text

/-- A piece of a text by its offset and its length in bytes. -/
structure Span where
  offset : Nat
  length : Nat
deriving Repr, DecidableEq

/-- The lines of a text, each with its line feed; `line` is the line under way, read backwards. -/
def linesFrom (line : List Char) : List Char → List (List Char)
  | [] => if line.isEmpty then [] else [line.reverse]
  | c :: rest =>
    if c = '\n' then (c :: line).reverse :: linesFrom [] rest else linesFrom (c :: line) rest

/-- A line without its line end. -/
def dropLineEnd (line : List Char) : List Char :=
  dropTrailing (fun c => c = '\r' || c = '\n') line

/-- Whether a line, apart from blanks at its start, is an assignment to a key: the key, blanks, and
an equals sign. -/
def assigns (key line : List Char) : Bool :=
  let body := trimStart line
  key.isPrefixOf body && (trimStart (body.drop key.length)).head? = some '='

/-- The first assignment to a key among lines of which the first starts at `start`. -/
def keySpanFrom (key : List Char) : Nat → List (List Char) → Option Span
  | _, [] => none
  | start, raw :: rest =>
    let line := dropLineEnd raw
    if assigns key line then
      some ⟨start + (byteLength line - byteLength (trimStart line)), byteLength (trim line)⟩
    else keySpanFrom key (start + byteLength raw) rest

/-- The first line that assigns to a key, without the blanks around it. -/
def keySpan? (text key : String) : Option Span :=
  keySpanFrom key.toList 0 (linesFrom [] text.toList)

/-- The first place where a value stands between double quotes, quotes included. -/
def valueSpan? (text value : String) : Option Span :=
  let piece := '"' :: (value.toList ++ ['"'])
  (byteOffsetOf piece text.toList).map fun offset => ⟨offset, byteLength piece⟩

end CratePlan.Settings
