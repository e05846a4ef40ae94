import CratePlan.Json.Basic

/-!
Values as JSON text, compact or indented. Characters beyond ASCII are written as they are.
-/

namespace CratePlan.Json

/-- A hexadecimal digit. -/
def hexDigit (n : Nat) : Char :=
  if n < 10 then Char.ofNat ('0'.toNat + n) else Char.ofNat ('a'.toNat + n - 10)

/-- A character as it stands in a string. -/
def escapeChar (c : Char) : List Char :=
  if c = '"' then ['\\', '"']
  else if c = '\\' then ['\\', '\\']
  else if c = '\n' then ['\\', 'n']
  else if c = '\r' then ['\\', 'r']
  else if c = '\t' then ['\\', 't']
  else if c = '\x08' then ['\\', 'b']
  else if c = '\x0c' then ['\\', 'f']
  else if c.toNat < 0x20 then
    ['\\', 'u', '0', '0', hexDigit (c.toNat / 16), hexDigit (c.toNat % 16)]
  else [c]

/-- A string between quotes. -/
def quoteChars (s : String) : List Char :=
  '"' :: (s.toList.flatMap escapeChar ++ ['"'])

/-- A decimal digit. -/
def digitChar (d : Fin 10) : Char :=
  Char.ofNat ('0'.toNat + d.val)

/-- A natural number in decimal digits. -/
def natChars (n : Nat) : List Char :=
  Nat.toDigits 10 n

/-- A number as it is written. -/
def numeralChars (n : Numeral) : List Char :=
  (if n.negative then ['-'] else []) ++ natChars n.whole ++
    (if n.fraction.isEmpty then [] else '.' :: n.fraction.map digitChar) ++
    match n.exponent with
    | none => []
    | some e => 'e' :: (if e < 0 then ['-'] else []) ++ natChars e.natAbs

/-- The text of a value that holds no other values. What has no text of its own leaves none. -/
def leafChars : Json → List Char
  | .null => ['n', 'u', 'l', 'l']
  | .bool true => ['t', 'r', 'u', 'e']
  | .bool false => ['f', 'a', 'l', 's', 'e']
  | .number n => numeralChars n
  | .string s => quoteChars s
  | _ => []

/-- The text of a member's name. -/
def keyChars : Key → List Char
  | .text s => quoteChars s
  | _ => []

mutual

/-- A value without gaps. -/
def compactChars : Json → List Char
  | .list items => '[' :: (compactItems items ++ [']'])
  | .object members => '{' :: (compactMembers members ++ ['}'])
  | leaf => leafChars leaf

/-- Items with commas between them. -/
def compactItems : List Json → List Char
  | [] => []
  | [item] => compactChars item
  | item :: next :: rest => compactChars item ++ ',' :: compactItems (next :: rest)

/-- Members with commas between them. -/
def compactMembers : List (Key × Json) → List Char
  | [] => []
  | [(key, value)] => keyChars key ++ ':' :: compactChars value
  | (key, value) :: next :: rest =>
    keyChars key ++ ':' :: (compactChars value ++ ',' :: compactMembers (next :: rest))

end

/-- A line end, and the indentation of the next line. -/
def newline (depth : Nat) : List Char :=
  '\n' :: List.replicate (2 * depth) ' '

mutual

/-- A value with every item and member on a line of its own, indented by two spaces a level. -/
def prettyChars (depth : Nat) : Json → List Char
  | .list [] => ['[', ']']
  | .object [] => ['{', '}']
  | .list items => '[' :: (prettyItems (depth + 1) items ++ newline depth ++ [']'])
  | .object members => '{' :: (prettyMembers (depth + 1) members ++ newline depth ++ ['}'])
  | leaf => leafChars leaf

/-- Items, each on a line of its own. -/
def prettyItems (depth : Nat) : List Json → List Char
  | [] => []
  | [item] => newline depth ++ prettyChars depth item
  | item :: next :: rest =>
    newline depth ++ prettyChars depth item ++ ',' :: prettyItems depth (next :: rest)

/-- Members, each on a line of its own. -/
def prettyMembers (depth : Nat) : List (Key × Json) → List Char
  | [] => []
  | [(key, value)] => newline depth ++ keyChars key ++ ':' :: ' ' :: prettyChars depth value
  | (key, value) :: next :: rest =>
    newline depth ++ keyChars key ++ ':' :: ' ' :: (prettyChars depth value ++
      ',' :: prettyMembers depth (next :: rest))

end

/-- A value as text without gaps. -/
def compact (value : Json) : String :=
  String.ofList (compactChars value)

/-- A value as indented text. -/
def pretty (value : Json) : String :=
  String.ofList (prettyChars 0 value)

end CratePlan.Json
