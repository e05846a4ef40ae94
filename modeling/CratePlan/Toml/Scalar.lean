import CratePlan.Toml.Value

/-!
The form of TOML scalars that are not text: booleans, numbers, dates and times.

Numbers are not kept, and of their spelling only the parts that set a number off from other scalars
are checked. So the digits after the mark of a base may be missing; and once an underscore follows
the leading digits of a decimal integer, any characters may come after it that leave each underscore
between hexadecimal digits.
-/

namespace CratePlan.Toml

/-- Whether a character is a hexadecimal digit. -/
def isHexDigit (c : Char) : Bool :=
  c.isDigit || (decide ('a' ≤ c) && decide (c ≤ 'f')) || (decide ('A' ≤ c) && decide (c ≤ 'F'))

/-- Whether a character is an octal digit. -/
def isOctalDigit (c : Char) : Bool :=
  decide ('0' ≤ c) && decide (c ≤ '7')

/-- Whether a character is a binary digit. -/
def isBinaryDigit (c : Char) : Bool :=
  c = '0' || c = '1'

/-- Whether each underscore of a text stands between two digits of a class. `afterDigit` says
whether a digit stands before the text. -/
def isSpaced (digit : Char → Bool) (afterDigit : Bool) : List Char → Bool
  | [] => true
  | ['_'] => false
  | '_' :: c :: rest => afterDigit && digit c && isSpaced digit true rest
  | c :: rest => isSpaced digit (digit c) rest

/-- Whether a text is digits of a class, perhaps none, with single underscores between them. -/
def isDigitRun (digit : Char → Bool) (cs : List Char) : Bool :=
  cs.all (fun c => digit c || c = '_') && isSpaced digit false cs

/-- Whether a text is a decimal integer without a sign. -/
def isDecimal (cs : List Char) : Bool :=
  match cs.dropWhile Char.isDigit with
  | [] => cs = ['0'] || (!cs.isEmpty && cs.head? != some '0')
  | '_' :: _ => cs.head? != some '0' && isSpaced isHexDigit false cs
  | _ => false

/-- Whether a character may stand in the digits of a floating-point number. -/
def isFloatDigit (c : Char) : Bool :=
  c.isDigit || c = '_'

/-- The text after digits, of which there has to be one. -/
def skipDigits (cs : List Char) : Option (List Char) :=
  if (cs.takeWhile isFloatDigit).any Char.isDigit then some (cs.dropWhile isFloatDigit) else none

/-- A text without a sign at its start. -/
def skipSign : List Char → List Char
  | [] => []
  | c :: rest => if c = '+' ∨ c = '-' then rest else c :: rest

/-- The text after a fraction, if there is one. -/
def skipFraction : List Char → Option (List Char)
  | '.' :: rest => skipDigits rest
  | cs => some cs

/-- The text after an exponent, if there is one. -/
def skipExponent : List Char → Option (List Char)
  | [] => some []
  | c :: rest => if c = 'e' ∨ c = 'E' then skipDigits (skipSign rest) else some (c :: rest)

/-- Whether a text is a floating-point number without a sign. A zero at its start is the only digit
before the point. -/
def isFloat (cs : List Char) : Bool :=
  let whole := (cs.takeWhile isFloatDigit).filter Char.isDigit
  isSpaced Char.isDigit false cs && (whole.length == 1 || cs.head? != some '0') &&
    ((skipDigits cs).bind skipFraction).bind skipExponent == some []

/-- Whether a text is a number in base ten without a sign. A point or the mark of an exponent
anywhere in it makes it a floating-point number. -/
def isBaseTen (cs : List Char) : Bool :=
  if cs.any fun c => c = '.' || c = 'e' || c = 'E' then isFloat cs else isDecimal cs

/-- Whether a text is a number. A number in another base than ten has no sign. -/
def isNumber : List Char → Bool
  | '0' :: 'x' :: rest => isDigitRun isHexDigit rest
  | '0' :: 'o' :: rest => isDigitRun isOctalDigit rest
  | '0' :: 'b' :: rest => isDigitRun isBinaryDigit rest
  | cs => isBaseTen (skipSign cs)

/-- Whether a text stands for an infinity, or for what is not a number. -/
def isSpecial (cs : List Char) : Bool :=
  skipSign cs == ['i', 'n', 'f'] || skipSign cs == ['n', 'a', 'n']

/-- Whether a text is a truth value. -/
def isTruth (cs : List Char) : Bool :=
  cs == ['t', 'r', 'u', 'e'] || cs == ['f', 'a', 'l', 's', 'e']

/-- Whether a character belongs to a scalar that it stands next to. -/
def isTokenChar (c : Char) : Bool :=
  !(['=', ',', '[', ']', '{', '}', ' ', '\t', '#', '\r', '\n'].contains c)

/-- The scalar that a text starts with, and the text after it. A date may be parted from its time by
a space. -/
def scanScalar (cs : List Char) : Option (Value × List Char) :=
  let (token, rest) := cs.span isTokenChar
  let (next, after) := (rest.drop 1).span isTokenChar
  let joined := if rest.head? = some ' ' then Moment.ofChars? (token ++ ' ' :: next) else none
  match joined, Moment.ofChars? token with
  | some moment, _ => some (.moment moment, after)
  | none, some moment => some (.moment moment, rest)
  | none, none =>
    if isTruth token || isSpecial token || isNumber token then some (.scalar, rest) else none

end CratePlan.Toml
