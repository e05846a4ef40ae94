import CratePlan.Text.Casing
import CratePlan.Text.Blank

/-!
The spellings of an identifier. A raw name is sanitized to letters, digits and underscores, and is
then written in snake case for fields, methods and files or in Pascal case for types.

Snake case is taken in two passes. The first parts an acronym from the word that follows it, so
that `HTTPServer` becomes `HTTP_Server`; the second parts words at a capital and lowers them.
-/

namespace CratePlan.Identifier

open Text

/-- Capitalizes the first character, if `upper` is set, and each character after an underscore; the
underscores go, except one that ends the text. -/
def pascalChars (upper : Bool) : List Char → List Char
  | [] => []
  | [c] => if upper then upperChar c else [c]
  | c :: d :: rest =>
    if c = '_' then pascalChars true (d :: rest)
    else (if upper then upperChar c else [c]) ++ pascalChars false (d :: rest)

/-- A name in Pascal case: `phone_number` becomes `PhoneNumber`. -/
def pascalCase (s : String) : String :=
  String.ofList (pascalChars true s.toList)

/-- Whether a text starts with two small ASCII letters. -/
def startsWithTwoSmall : List Char → Bool
  | c :: d :: _ => c.isLower && d.isLower
  | _ => false

/-- Puts an underscore before the last capital of an acronym that runs into a word. -/
def partAcronyms (before : Option Char) : List Char → List Char
  | [] => []
  | c :: rest =>
    (if c.isUpper && before.any Char.isUpper && startsWithTwoSmall rest then ['_', c] else [c]) ++
      partAcronyms (some c) rest

/-- The lower-case form of a character; a dash and a space become underscores. -/
def snakeChar (c : Char) : List Char :=
  if c = '-' ∨ c = ' ' then ['_'] else lowerChar c

/-- Puts an underscore before each capital that follows a small letter or a digit, and lowers. -/
def partWords (before : Option Char) : List Char → List Char
  | [] => []
  | c :: rest =>
    (if c.isUpper && before.any (fun b => b.isLower || b.isDigit) then ['_'] else []) ++
      snakeChar c ++ partWords (some c) rest

/-- The text that snake case works on: a dot stands for a slash, a dollar sign for two
underscores. -/
def snakeSource (cs : List Char) : List Char :=
  (cs.map fun c => if c = '.' then '/' else c).flatMap fun c => if c = '$' then ['_', '_'] else [c]

/-- The characters of a name in snake case. -/
def snakeChars (cs : List Char) : List Char :=
  partWords none (partAcronyms none (snakeSource cs))

/-- A name in snake case: `PetId` becomes `pet_id`. -/
def snakeCase (s : String) : String :=
  String.ofList (snakeChars s.toList)

/-- Whether a character may stand in an identifier: an ASCII letter or digit, or an underscore. -/
def isWordChar (c : Char) : Bool :=
  c.isAlphanum || c = '_'

/-- What a character of a raw name leaves in an identifier: separators leave an underscore, closing
brackets and foreign characters leave nothing. -/
def sanitizeChar (c : Char) : Option Char :=
  if c = '[' ∨ c = '(' ∨ c = '.' ∨ c = '-' ∨ c = ' ' then some '_'
  else if isWordChar c then some c
  else none

/-- The characters of a raw name that can stand in an identifier; empty brackets vanish first. -/
def sanitizeChars (cs : List Char) : List Char :=
  (replacePairChars '[' ']' [] cs).filterMap sanitizeChar

/-- A raw name reduced to letters, digits and underscores. The name `$` reads as `value`. -/
def sanitize (s : String) : String :=
  if s = "$" then "value" else String.ofList (sanitizeChars s.toList)

/-- Whether a name starts with an ASCII digit. -/
def startsWithDigit (s : String) : Bool :=
  s.toList.head?.any Char.isDigit

/-- Whether a name is written like a constant: at least one character, capitals and underscores
only. -/
def looksConstant (s : String) : Bool :=
  !s.toList.isEmpty && s.toList.all fun c => c.isUpper || c = '_'

/-- The label of a request method: `PUT` becomes `Put`. -/
def methodLabel (method : String) : String :=
  pascalCase (lowercase method)

end CratePlan.Identifier
