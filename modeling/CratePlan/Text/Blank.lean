/-!
Blank characters, trimming, lengths in bytes of UTF-8, and the search for a piece of text.
-/

namespace CratePlan.Text

/-- The white space of Unicode: the ASCII blanks and line ends, and the wider spaces. -/
def isBlank (c : Char) : Bool :=
  let n := c.toNat
  (decide (9 ≤ n) && decide (n ≤ 13)) || n == 32 || n == 0x85 || n == 0xA0 || n == 0x1680 ||
    (decide (0x2000 ≤ n) && decide (n ≤ 0x200A)) || n == 0x2028 || n == 0x2029 || n == 0x202F ||
    n == 0x205F || n == 0x3000

/-- A text without the blanks at its start. -/
def trimStart (cs : List Char) : List Char :=
  cs.dropWhile isBlank

/-- A text without the characters of a class at its end. -/
def dropTrailing (p : Char → Bool) (cs : List Char) : List Char :=
  (cs.reverse.dropWhile p).reverse

/-- A text without the blanks at its start and at its end. -/
def trim (cs : List Char) : List Char :=
  dropTrailing isBlank (trimStart cs)

/-- Whether a text holds nothing but blanks. -/
def isBlankText (s : String) : Bool :=
  s.toList.all isBlank

/-- The number of bytes that a text takes in UTF-8. -/
def byteLength : List Char → Nat
  | [] => 0
  | c :: rest => c.utf8Size + byteLength rest

/-- The byte offset at which a piece of text first occurs. -/
def byteOffsetOf (piece : List Char) : List Char → Option Nat
  | [] => if piece.isEmpty then some 0 else none
  | c :: rest =>
    if piece.isPrefixOf (c :: rest) then some 0
    else (byteOffsetOf piece rest).map (c.utf8Size + ·)

/-- A text in which each occurrence of one character is replaced by another text. -/
def replaceChar (c : Char) (replacement : String) (s : String) : String :=
  String.ofList (s.toList.flatMap fun d => if d = c then replacement.toList else [d])

/-- A text in which each occurrence of the two characters `a` `b`, read from the left and without
overlap, is replaced by another text. -/
def replacePairChars (a b : Char) (replacement : List Char) : List Char → List Char
  | [] => []
  | [c] => [c]
  | c :: d :: rest =>
    if c = a ∧ d = b then replacement ++ replacePairChars a b replacement rest
    else c :: replacePairChars a b replacement (d :: rest)

/-- A text in which each occurrence of a pair of characters is replaced by another text. -/
def replacePair (a b : Char) (replacement : String) (s : String) : String :=
  String.ofList (replacePairChars a b replacement.toList s.toList)

end CratePlan.Text
