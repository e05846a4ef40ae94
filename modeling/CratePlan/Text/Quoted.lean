import CratePlan.Text.Casing
import CratePlan.Text.GlyphTable

/-!
Text quoted for a message: between double quotes, with an escape for every character that would not
show as itself.
-/

namespace CratePlan.Text

/-- A character as its code point in hexadecimal. -/
def codeEscape (c : Char) : List Char :=
  ['\\', 'u', '{'] ++ Nat.toDigits 16 c.toNat ++ ['}']

/-- A character as it stands in a quoted text. -/
def quoteChar (c : Char) : List Char :=
  if c = '\x00' then ['\\', '0']
  else if c = '\t' then ['\\', 't']
  else if c = '\r' then ['\\', 'r']
  else if c = '\n' then ['\\', 'n']
  else if c = '"' then ['\\', '"']
  else if c = '\\' then ['\\', '\\']
  else if c.toNat < 32 then codeEscape c
  else if c.toNat < 127 then [c]
  else if inRanges combiningRanges c.toNat || inRanges glyphlessRanges c.toNat then codeEscape c
  else [c]

/-- A text between double quotes. -/
def quoted (s : String) : String :=
  String.ofList ('"' :: (s.toList.flatMap quoteChar ++ ['"']))

end CratePlan.Text
