import CratePlan.Identifier.Keyword
import CratePlan.Identifier.Word
import CratePlan.OrderedMap

/-!
Reserved words and how a name that collides with one is escaped.
-/

namespace CratePlan

open Text Identifier

/-- A closed set of words, kept in lower case, and the spellings that a user prefers for some of
them. -/
structure ReservedTable where
  words : List String
  replacements : OrderedMap String String := {}
deriving Repr, DecidableEq

namespace ReservedTable

/-- The table of the given words, without replacements. -/
def ofList (words : List String) : ReservedTable :=
  { words := words.map lowercase }

/-- The table of the keywords. -/
def ofKeywords : ReservedTable :=
  ofList keywords

/-- The table with the given replacements in place of its own. -/
def withReplacements (table : ReservedTable) (replacements : OrderedMap String String) :
    ReservedTable :=
  { table with replacements }

/-- Whether a name is reserved, in whatever case it is written. -/
def isReserved (table : ReservedTable) (name : String) : Bool :=
  table.words.contains (lowercase name)

/-- Whether a text can stand in for a reserved word: it is not empty, not reserved and does not
start with a digit. -/
def isUsable (table : ReservedTable) (replacement : String) : Bool :=
  replacement != "" && !table.isReserved replacement && !startsWithDigit replacement

/-- A name made safe: the replacement for exactly this spelling where there is a usable one, and the
name behind an underscore otherwise. -/
def escape (table : ReservedTable) (name : String) : String :=
  match table.replacements.find? name with
  | some replacement => if table.isUsable replacement then replacement else "_" ++ name
  | none => "_" ++ name

end ReservedTable

end CratePlan
