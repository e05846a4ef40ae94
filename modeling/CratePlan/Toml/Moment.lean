import CratePlan.Text.Blank

/-!
Dates and times of TOML: a date, a time of day, or both, and then perhaps the distance from
universal time. Seconds may be left out and count as zero; of their fraction nine digits are kept. A
moment is shown in one way only, however it was written.
-/

namespace CratePlan.Toml

/-- A day of the calendar. -/
structure Date where
  year : Nat
  month : Nat
  day : Nat
deriving Repr, DecidableEq

/-- A time of day. A minute may have a leap second. -/
structure Time where
  hour : Nat
  minute : Nat
  second : Nat := 0
  nanosecond : Nat := 0
deriving Repr, DecidableEq

/-- How a clock stands to universal time. -/
inductive Offset where
  /-- It shows universal time. -/
  | universal
  /-- It is ahead by a number of minutes. -/
  | ahead (minutes : Int)
deriving Repr, DecidableEq

/-- A date, a time of day, or both. -/
inductive Moment where
  | date (date : Date)
  | time (time : Time)
  | dateTime (date : Date) (time : Time) (offset : Option Offset)
deriving Repr, DecidableEq

/-- The number of days of a month. -/
def daysOfMonth (year month : Nat) : Nat :=
  if month = 2 then
    if year % 4 = 0 ∧ (year % 100 ≠ 0 ∨ year % 400 = 0) then 29 else 28
  else if month = 4 ∨ month = 6 ∨ month = 9 ∨ month = 11 then 30 else 31

/-! ### Reading -/

/-- The number that decimal digits spell. -/
def digitsValue (digits : List Char) : Nat :=
  digits.foldl (fun n c => 10 * n + (c.toNat - '0'.toNat)) 0

/-- The number spelled by exactly `count` digits at the start of a text, if it lies between two
bounds, and the text after them. -/
def scanNumber (count low high : Nat) (cs : List Char) : Option (Nat × List Char) :=
  let digits := cs.take count
  let n := digitsValue digits
  if digits.length = count ∧ digits.all Char.isDigit ∧ low ≤ n ∧ n ≤ high then
    some (n, cs.drop count)
  else none

/-- The text after a character that it has to start with. -/
def skipMark (mark : Char) : List Char → Option (List Char)
  | [] => none
  | c :: rest => if c = mark then some rest else none

/-- The date that a text starts with, and the text after it. -/
def scanDate (cs : List Char) : Option (Date × List Char) := do
  let (year, rest) ← scanNumber 4 0 9999 cs
  let (month, rest) ← scanNumber 2 1 12 (← skipMark '-' rest)
  let (day, rest) ← scanNumber 2 1 (daysOfMonth year month) (← skipMark '-' rest)
  return (⟨year, month, day⟩, rest)

/-- The hour and the minute that a text starts with, and the text after them. -/
def scanHourMinute (cs : List Char) : Option ((Nat × Nat) × List Char) := do
  let (hour, rest) ← scanNumber 2 0 23 cs
  let (minute, rest) ← scanNumber 2 0 59 (← skipMark ':' rest)
  return ((hour, minute), rest)

/-- The nanoseconds of a fraction, if there is one, and the text after it. Digits beyond the ninth
are passed over. -/
def scanFraction : List Char → Option (Nat × List Char)
  | '.' :: rest =>
    let (digits, rest) := rest.span Char.isDigit
    if digits.isEmpty then none
    else some (digitsValue ((digits ++ List.replicate 9 '0').take 9), rest)
  | rest => some (0, rest)

/-- The time of day that a text starts with, and the text after it. -/
def scanTime (cs : List Char) : Option (Time × List Char) := do
  let ((hour, minute), rest) ← scanHourMinute cs
  match rest with
  | ':' :: rest => do
    let (second, rest) ← scanNumber 2 0 60 rest
    let (nanosecond, rest) ← scanFraction rest
    return ({ hour, minute, second, nanosecond }, rest)
  | rest => return ({ hour, minute }, rest)

/-- The offset that a text starts with, if it starts with one, and the text after it. -/
def scanOffset : List Char → Option (Option Offset × List Char)
  | [] => some (none, [])
  | c :: rest =>
    if c = 'Z' ∨ c = 'z' then some (some .universal, rest)
    else if c = '+' ∨ c = '-' then do
      let ((hours, minutes), rest) ← scanHourMinute rest
      let distance : Int := 60 * hours + minutes
      return (some (.ahead (if c = '-' then -distance else distance)), rest)
    else some (none, c :: rest)

/-- The moment that a text starts with, and the text after it. A date is parted from its time by a
letter or a space. -/
def scanMoment (cs : List Char) : Option (Moment × List Char) :=
  match scanDate cs with
  | none => do
    let (time, rest) ← scanTime cs
    return (.time time, rest)
  | some (date, []) => some (.date date, [])
  | some (date, c :: rest) =>
    if c = 'T' ∨ c = 't' ∨ c = ' ' then do
      let (time, rest) ← scanTime rest
      let (offset, rest) ← scanOffset rest
      return (.dateTime date time offset, rest)
    else some (.date date, c :: rest)

/-- The moment that a text is. -/
def Moment.ofChars? (cs : List Char) : Option Moment :=
  match scanMoment cs with
  | some (moment, []) => some moment
  | _ => none

/-! ### Showing -/

/-- The last `count` decimal digits of a number. -/
def lastDigits : Nat → Nat → List Char
  | 0, _ => []
  | count + 1, n => lastDigits count (n / 10) ++ [Nat.digitChar (n % 10)]

/-- A number of two digits. -/
def twoDigits (n : Nat) : String :=
  String.ofList (lastDigits 2 n)

/-- A date, as year, month and day. -/
def Date.text (date : Date) : String :=
  s!"{String.ofList (lastDigits 4 date.year)}-{twoDigits date.month}-{twoDigits date.day}"

/-- A time of day, with its seconds, and with their fraction unless it is zero. -/
def Time.text (time : Time) : String :=
  let whole := s!"{twoDigits time.hour}:{twoDigits time.minute}:{twoDigits time.second}"
  if time.nanosecond = 0 then whole
  else
    whole ++ "." ++ String.ofList (Text.dropTrailing (· = '0') (lastDigits 9 time.nanosecond))

/-- An offset: a letter for universal time, otherwise hours and minutes with their sign. -/
def Offset.text : Offset → String
  | .universal => "Z"
  | .ahead minutes =>
    let distance := minutes.natAbs
    let sign := if minutes < 0 then "-" else "+"
    s!"{sign}{twoDigits (distance / 60)}:{twoDigits (distance % 60)}"

/-- A moment as text. -/
def Moment.text : Moment → String
  | .date day => day.text
  | .time clock => clock.text
  | .dateTime day clock offset => day.text ++ "T" ++ clock.text ++ (offset.map Offset.text).getD ""

end CratePlan.Toml
