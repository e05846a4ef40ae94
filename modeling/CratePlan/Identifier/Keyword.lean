/-!
The words that Rust keeps for itself, with those it keeps for later and a few that older compilers
refused.
-/

namespace CratePlan.Identifier

/-- The words that generated code cannot use as plain identifiers. -/
def keywords : List String :=
  ["abstract", "alignof", "as", "become", "box", "break", "const", "continue", "crate", "do",
   "else", "enum", "extern", "false", "final", "fn", "for", "if", "impl", "in", "let", "loop",
   "macro", "match", "mod", "move", "mut", "offsetof", "override", "priv", "proc", "pub", "pure",
   "ref", "return", "Self", "self", "sizeof", "static", "struct", "super", "trait", "true",
   "type", "typeof", "unsafe", "unsized", "use", "virtual", "where", "while", "yield"]

/-- A text with its ASCII capitals lowered; all other characters stay. -/
def asciiLower (s : String) : String :=
  String.ofList (s.toList.map Char.toLower)

/-- Whether a name is a keyword in any mix of ASCII capitals and small letters. -/
def isKeyword (name : String) : Bool :=
  keywords.any fun word => asciiLower word = asciiLower name

end CratePlan.Identifier
