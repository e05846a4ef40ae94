import CratePlan.Toml.Scalar

/-!
From a TOML text to its tables. A text with a fault anywhere has no tables at all.
-/

namespace CratePlan.Toml

/-- Whether a character is a space within a line. -/
def isSpace (c : Char) : Bool :=
  c = ' ' || c = '\t'

/-- A text without the spaces at its start. -/
def skipSpace (cs : List Char) : List Char :=
  cs.dropWhile isSpace

/-- Whether a character may stand neither in a comment nor in a string. -/
def isControl (c : Char) : Bool :=
  (decide (c.toNat < 0x20) && c != '\t') || c.toNat == 0x7F

/-- The text after a line end. -/
def lineEnd? : List Char → Option (List Char)
  | '\n' :: rest => some rest
  | '\r' :: '\n' :: rest => some rest
  | _ => none

/-- A text without the comment at its start. -/
def skipComment : List Char → List Char
  | '#' :: rest => rest.dropWhile fun c => !isControl c
  | cs => cs

/-- The text after the rest of a line, which may only be spaces and a comment. -/
def finishLine (cs : List Char) : Option (List Char) :=
  match skipComment (skipSpace cs) with
  | [] => some []
  | rest => lineEnd? rest

/-- A text without the spaces, line ends and comments at its start. -/
def skipGap (inComment : Bool) : List Char → List Char
  | [] => []
  | '\r' :: '\n' :: rest => skipGap false rest
  | c :: rest =>
    if c = '\n' then skipGap false rest
    else if inComment then if isControl c then c :: rest else skipGap true rest
    else if c = '#' then skipGap true rest
    else if isSpace c then skipGap false rest
    else c :: rest

/-- The character with a code point spelled by `count` hexadecimal digits, and the number of
characters of the escape. -/
def codeEscape (count : Nat) (cs : List Char) : Option (Char × Nat) :=
  let digits := cs.take count
  if digits.length = count ∧ digits.all isHexDigit then
    let code := digits.foldl (fun n c =>
      16 * n + if c.isDigit then c.toNat - '0'.toNat else c.toLower.toNat - 'a'.toNat + 10) 0
    if code.isValidChar then some (Char.ofNat code, count + 1) else none
  else none

/-- The character that an escape stands for, from the text after its backslash, and the number of
characters that spell it there. -/
def scanEscape : List Char → Option (Char × Nat)
  | [] => none
  | e :: rest =>
    if e = '"' ∨ e = '\\' then some (e, 1)
    else if e = 'b' then some ('\x08', 1)
    else if e = 't' then some ('\t', 1)
    else if e = 'n' then some ('\n', 1)
    else if e = 'f' then some ('\x0c', 1)
    else if e = 'r' then some ('\r', 1)
    else if e = 'e' then some ('\x1b', 1)
    else if e = 'x' then codeEscape 2 rest
    else if e = 'u' then codeEscape 4 rest
    else if e = 'U' then codeEscape 8 rest
    else none

/-- The characters of a string up to its closing mark, and the text after that. The first `skip`
characters belong to an escape that has been dealt with; `folding` says that the line before was
continued by a backslash, so that spaces and line ends are passed over. -/
def scanQuoted (mark : Char) (multiline : Bool) :
    Nat → Bool → List Char → Option (List Char × List Char)
  | _, _, [] => none
  | skip + 1, folding, _ :: rest => scanQuoted mark multiline skip folding rest
  | 0, folding, c :: rest =>
    let keep (c : Char) (skip : Nat) : Option (List Char × List Char) := do
      let (front, rest) ← scanQuoted mark multiline skip false rest
      return (c :: front, rest)
    if folding && (isSpace c || (lineEnd? (c :: rest)).isSome) then
      scanQuoted mark multiline 0 true rest
    else if c = mark then
      if !multiline then some ([], rest)
      else if rest.take 2 = [mark, mark] then
        let marks := ((rest.drop 2).take 2).takeWhile (· = mark)
        some (marks, rest.drop (2 + marks.length))
      else keep c 0
    else if c = '\\' ∧ mark = '"' then
      if multiline && (lineEnd? (skipSpace rest)).isSome then
        scanQuoted mark multiline 0 true rest
      else do
        let (c, count) ← scanEscape rest
        keep c count
    else if (lineEnd? (c :: rest)).isSome then
      if multiline then keep c 0 else none
    else if isControl c then none
    else keep c 0

/-- A string, from after its opening mark. A line end right after the opening of a string of several
lines does not count. -/
def scanText (mark : Char) (multiline : Bool) (cs : List Char) : Option (String × List Char) := do
  let start := if multiline then (lineEnd? cs).getD cs else cs
  let (front, rest) ← scanQuoted mark multiline 0 false start
  return (String.ofList front, rest)

/-- Whether a character may stand in a key without quotes. -/
def isBareChar (c : Char) : Bool :=
  c.isAlphanum || c = '_' || c = '-'

/-- One key, bare or quoted. -/
def scanKey : List Char → Option (String × List Char)
  | '"' :: rest => scanText '"' false rest
  | '\'' :: rest => scanText '\'' false rest
  | cs =>
    let (front, rest) := cs.span isBareChar
    if front.isEmpty then none else some (String.ofList front, rest)

/-- The number of parts that a dotted key may have, and the number of brackets that may be open at a
time in a value. -/
def sizeLimit : Nat := 80

/-- A dotted key of at most `room` parts: the path that leads to its table, its last key, and the
text after it. -/
def scanKeyPath (room : Nat) (cs : List Char) : Option (List String × String × List Char) :=
  match room with
  | 0 => none
  | room + 1 => do
    let (key, rest) ← scanKey cs
    match skipSpace rest with
    | '.' :: rest => do
      let (path, last, rest) ← scanKeyPath room (skipSpace rest)
      return (key :: path, last, rest)
    | rest => return ([], key, rest)

mutual

/-- The value at the start of a text, in which `room` more brackets may be opened, and the text
after it. -/
def scanValue : Nat → Nat → List Char → Option (Value × List Char)
  | 0, _, _ => none
  | fuel + 1, room, cs =>
    match cs, room with
    | '"' :: '"' :: '"' :: rest, _ => do
      let (s, rest) ← scanText '"' true rest
      return (.text s, rest)
    | '"' :: rest, _ => do
      let (s, rest) ← scanText '"' false rest
      return (.text s, rest)
    | '\'' :: '\'' :: '\'' :: rest, _ => do
      let (s, rest) ← scanText '\'' true rest
      return (.text s, rest)
    | '\'' :: rest, _ => do
      let (s, rest) ← scanText '\'' false rest
      return (.text s, rest)
    | '[' :: rest, room + 1 => do
      let (items, rest) ← scanItems fuel room rest
      return (.list items, rest)
    | '{' :: rest, room + 1 => do
      let (entries, rest) ← scanEntries fuel room [] rest
      return (.table .inline entries, rest)
    | cs, _ => scanScalar cs

/-- The items of a list up to its closing bracket. A comma may follow the last one. -/
def scanItems : Nat → Nat → List Char → Option (List Value × List Char)
  | 0, _, _ => none
  | fuel + 1, room, cs =>
    match skipGap false cs with
    | ']' :: rest => some ([], rest)
    | cs => do
      let (item, rest) ← scanValue fuel room cs
      match skipGap false rest with
      | ',' :: rest => do
        let (items, rest) ← scanItems fuel room rest
        return (item :: items, rest)
      | ']' :: rest => return ([item], rest)
      | _ => none

/-- The entries of an inline table up to its closing brace, after those already read. A comma may
follow the last one, and a key, its equals sign and its value may stand on lines of their own. -/
def scanEntries : Nat → Nat → Entries → List Char → Option (Entries × List Char)
  | 0, _, _, _ => none
  | fuel + 1, room, entries, cs =>
    match skipGap false cs with
    | '}' :: rest => some (entries, rest)
    | cs => do
      let (path, key, rest) ← scanKeyPath sizeLimit cs
      match skipGap false rest with
      | '=' :: rest => do
        let (value, rest) ← scanValue fuel room (skipGap false rest)
        let entries ← entries.assign path key value
        match skipGap false rest with
        | ',' :: rest => scanEntries fuel room entries rest
        | '}' :: rest => return (entries, rest)
        | _ => none
      | _ => none

end

/-- Reads the statements of a text. `here` is the header of the table that keys are added to. -/
def scanStatements : Nat → List String → Entries → List Char → Option Entries
  | 0, _, _, _ => none
  | fuel + 1, here, root, cs =>
    match skipSpace cs with
    | [] => some root
    | '[' :: '[' :: rest => do
      let (path, key, rest) ← scanKeyPath sizeLimit (skipSpace rest)
      match rest with
      | ']' :: ']' :: rest => do
        let root ← root.openElement path key
        scanStatements fuel (path ++ [key]) root (← finishLine rest)
      | _ => none
    | '[' :: rest => do
      let (path, key, rest) ← scanKeyPath sizeLimit (skipSpace rest)
      match rest with
      | ']' :: rest => do
        let root ← root.openTable path key
        scanStatements fuel (path ++ [key]) root (← finishLine rest)
      | _ => none
    | cs =>
      match finishLine cs with
      | some rest => scanStatements fuel here root rest
      | none => do
        let (path, key, rest) ← scanKeyPath sizeLimit cs
        match rest with
        | '=' :: rest => do
          let (value, rest) ← scanValue fuel sizeLimit (skipSpace rest)
          let root ← root.assignAt here path key value
          scanStatements fuel here root (← finishLine rest)
        | _ => none

/-- The tables of a text, which may start with a byte order mark. -/
def scan (text : String) : Option Entries :=
  let cs := match text.toList with
    | '\uFEFF' :: rest => rest
    | cs => cs
  scanStatements (2 * cs.length + 2) [] [] cs

end CratePlan.Toml
