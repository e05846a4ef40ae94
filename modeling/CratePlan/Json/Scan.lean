import CratePlan.Json.Basic

/-!
From a text to the value that it denotes. The scanner never fails: a text that is not JSON denotes
a value that is broken off at the first place where it stops being JSON.
-/

namespace CratePlan.Json

/-- Whether a character may stand between the tokens of a text. -/
def isGap (c : Char) : Bool :=
  c = ' ' || c = '\n' || c = '\t' || c = '\r'

/-- A text without the gap at its start. -/
def skipGap (cs : List Char) : List Char :=
  cs.dropWhile isGap

/-- A piece of a string: a character, or a code unit of 16 bits written as an escape. -/
inductive Piece where
  | char (c : Char)
  | unit (n : Nat)
deriving Repr, DecidableEq

/-- The value of a hexadecimal digit. -/
def hexValue (c : Char) : Option Nat :=
  if '0' ≤ c ∧ c ≤ '9' then some (c.toNat - '0'.toNat)
  else if 'a' ≤ c ∧ c ≤ 'f' then some (c.toNat - 'a'.toNat + 10)
  else if 'A' ≤ c ∧ c ≤ 'F' then some (c.toNat - 'A'.toNat + 10)
  else none

/-- The code unit written with four hexadecimal digits. -/
def unitOf (a b c d : Char) : Option Nat := do
  return ((← hexValue a) * 16 + (← hexValue b)) * 256 + (← hexValue c) * 16 + (← hexValue d)

/-- The character that a one-letter escape stands for. -/
def shortEscape (c : Char) : Option Char :=
  if c = '"' ∨ c = '\\' ∨ c = '/' then some c
  else if c = 'b' then some '\x08'
  else if c = 'f' then some '\x0c'
  else if c = 'n' then some '\n'
  else if c = 'r' then some '\r'
  else if c = 't' then some '\t'
  else none

/-- The pieces of a string up to its closing quote, and the text after that. -/
def scanPieces : List Char → Option (List Piece × List Char)
  | [] => none
  | '"' :: rest => some ([], rest)
  | '\\' :: 'u' :: a :: b :: c :: d :: rest => do
    let n ← unitOf a b c d
    let (pieces, rest) ← scanPieces rest
    return (.unit n :: pieces, rest)
  | '\\' :: e :: rest => do
    let c ← shortEscape e
    let (pieces, rest) ← scanPieces rest
    return (.char c :: pieces, rest)
  | c :: rest =>
    if c.toNat < 0x20 ∨ c = '\\' then none
    else do
      let (pieces, rest) ← scanPieces rest
      return (.char c :: pieces, rest)

/-- Whether a code unit is the first half of a surrogate pair. -/
def isHighHalf (n : Nat) : Bool :=
  decide (0xD800 ≤ n) && decide (n < 0xDC00)

/-- Whether a code unit is the second half of a surrogate pair. -/
def isLowHalf (n : Nat) : Bool :=
  decide (0xDC00 ≤ n) && decide (n < 0xE000)

/-- The characters of the pieces, with surrogate pairs joined, or nothing if a half is left over. -/
def joinPieces : List Piece → Option (List Char)
  | [] => some []
  | .char c :: rest => (joinPieces rest).map (c :: ·)
  | .unit high :: .unit low :: rest =>
    if isHighHalf high then
      if isLowHalf low then
        (joinPieces rest).map
          (Char.ofNat (0x10000 + (high - 0xD800) * 0x400 + (low - 0xDC00)) :: ·)
      else none
    else if isLowHalf high then none
    else (joinPieces (.unit low :: rest)).map (Char.ofNat high :: ·)
  | .unit n :: rest =>
    if isHighHalf n || isLowHalf n then none
    else (joinPieces rest).map (Char.ofNat n :: ·)

/-- A string from after its opening quote: its characters unless half of a surrogate pair is left
over, and the text after its closing quote. -/
def scanString (cs : List Char) : Option (Option String × List Char) := do
  let (pieces, rest) ← scanPieces cs
  return ((joinPieces pieces).map String.ofList, rest)

/-- The decimal digits at the start of a text, and the text after them. -/
def scanDigits (cs : List Char) : List (Fin 10) × List Char :=
  let (front, rest) := cs.span Char.isDigit
  (front.map fun c => Fin.ofNat 10 (c.toNat - '0'.toNat), rest)

/-- The natural number that digits spell. -/
def digitsValue (digits : List (Fin 10)) : Nat :=
  digits.foldl (fun n d => 10 * n + d.val) 0

/-- The integer part of a number: one zero, or digits that do not start with zero. -/
def scanWhole (cs : List Char) : Option (Nat × List Char) :=
  match scanDigits cs with
  | ([], _) => none
  | (d :: digits, rest) =>
    if d = 0 ∧ digits ≠ [] then none else some (digitsValue (d :: digits), rest)

/-- The digits after the point, if a point follows; at least one is needed. -/
def scanFraction : List Char → Option (List (Fin 10) × List Char)
  | '.' :: cs =>
    match scanDigits cs with
    | ([], _) => none
    | found => some found
  | cs => some ([], cs)

/-- The sign of an exponent: whether it is negative, and the text after it. -/
def scanSign : List Char → Bool × List Char
  | '-' :: cs => (true, cs)
  | '+' :: cs => (false, cs)
  | cs => (false, cs)

/-- The exponent, if one follows; at least one digit is needed. -/
def scanExponent (cs : List Char) : Option (Option Int × List Char) :=
  match cs with
  | [] => some (none, [])
  | e :: after =>
    if e = 'e' ∨ e = 'E' then
      let (isNegative, cs) := scanSign after
      match scanDigits cs with
      | ([], _) => none
      | (digits, rest) =>
        let value : Int := digitsValue digits
        some (some (if isNegative then -value else value), rest)
    else some (none, cs)

/-- A number from its first character on. -/
def scanNumeral (cs : List Char) : Option (Numeral × List Char) := do
  let (negative, cs) := match cs with
    | '-' :: rest => (true, rest)
    | _ => (false, cs)
  let (whole, cs) ← scanWhole cs
  let (fraction, cs) ← scanFraction cs
  let (exponent, cs) ← scanExponent cs
  return ({ negative, whole, fraction, exponent }, cs)

/-- A value that is neither a string nor a container. -/
def scanScalar : List Char → Json × List Char
  | 'n' :: 'u' :: 'l' :: 'l' :: rest => (.null, rest)
  | 't' :: 'r' :: 'u' :: 'e' :: rest => (.bool true, rest)
  | 'f' :: 'a' :: 'l' :: 's' :: 'e' :: rest => (.bool false, rest)
  | cs =>
    match scanNumeral cs with
    | some (n, rest) => (.number n, rest)
    | none => (.broken, [])

/-- The string after an opening quote, as a value. -/
def scanText (cs : List Char) : Json × List Char :=
  match scanString cs with
  | some (some s, rest) => (.string s, rest)
  | some (none, rest) => (.unpaired, rest)
  | none => (.broken, [])

mutual

/-- The value at the start of a text, and the text after it. -/
def scanValue : Nat → List Char → Json × List Char
  | 0, _ => (.broken, [])
  | fuel + 1, cs =>
    match skipGap cs with
    | '{' :: rest =>
      let (members, rest) := scanMembers fuel true rest
      (.object members, rest)
    | '[' :: rest =>
      let (items, rest) := scanItems fuel true rest
      (.list items, rest)
    | '"' :: rest => scanText rest
    | rest => scanScalar rest

/-- The items of a list up to its closing bracket; `first` says that none has been read yet. -/
def scanItems : Nat → Bool → List Char → List Json × List Char
  | 0, _, _ => ([.broken], [])
  | fuel + 1, first, cs =>
    match skipGap cs, first with
    | ']' :: rest, _ => ([], rest)
    | ',' :: rest, false => scanItem fuel rest
    | rest, true => scanItem fuel rest
    | _, false => ([.broken], [])

/-- One item and the items after it. -/
def scanItem : Nat → List Char → List Json × List Char
  | 0, _ => ([.broken], [])
  | fuel + 1, cs =>
    let (item, rest) := scanValue fuel cs
    let (items, rest) := scanItems fuel false rest
    (item :: items, rest)

/-- The members of an object up to its closing brace; `first` says that none has been read yet. -/
def scanMembers : Nat → Bool → List Char → List (Key × Json) × List Char
  | 0, _, _ => ([(.stray, .broken)], [])
  | fuel + 1, first, cs =>
    match skipGap cs, first with
    | '}' :: rest, _ => ([], rest)
    | ',' :: rest, false => scanMember fuel (skipGap rest)
    | rest, true => scanMember fuel rest
    | _, false => ([(.stray, .broken)], [])

/-- One member and the members after it. -/
def scanMember : Nat → List Char → List (Key × Json) × List Char
  | fuel + 1, '"' :: cs =>
    match scanString cs with
    | none => ([(.stray, .broken)], [])
    | some (name, rest) =>
      let key := name.elim Key.unpaired Key.text
      match skipGap rest with
      | ':' :: rest =>
        let (value, rest) := scanValue fuel rest
        let (members, rest) := scanMembers fuel false rest
        ((key, value) :: members, rest)
      | _ => ([(key, .broken)], [])
  | _, _ => ([(.stray, .broken)], [])

end

/-- The value that a text starts with, and whether nothing but gaps comes after it. -/
def scan (text : String) : Json × Bool :=
  let cs := text.toList
  let (value, rest) := scanValue (3 * cs.length + 3) cs
  (value, (skipGap rest).isEmpty)

end CratePlan.Json
