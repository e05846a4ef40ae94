import CratePlan.Diagnostic
import CratePlan.Naming.ReservedTable

/-!
The tables that naming goes by, and its results. A name comes with the diagnostics that its making
raised, so that no change is silent.
-/

namespace CratePlan

/-- The phase of every diagnostic that naming raises. -/
def namingPhase : String := "naming"

/-- A name and what was noted while it was made. -/
structure Named where
  name : String
  notes : List Diagnostic := []
deriving Repr, DecidableEq

namespace Named

/-- A name made from another one; its notes follow those of the first. -/
def andThen (x : Named) (next : String → Named) : Named :=
  let y := next x.name
  ⟨y.name, x.notes ++ y.notes⟩

/-- A name respelled without a further note. -/
def map (x : Named) (respell : String → String) : Named :=
  ⟨respell x.name, x.notes⟩

/-- A name noted with a warning. -/
def warned (name message : String) : Named :=
  ⟨name, [.warning namingPhase message]⟩

/-- A name noted with a remark. -/
def remarked (name message : String) : Named :=
  ⟨name, [.info namingPhase message]⟩

section

variable (x : Named) (next : String → Named) (respell : String → String) (name message : String)

@[simp] theorem name_andThen : (x.andThen next).name = (next x.name).name := rfl
@[simp] theorem notes_andThen : (x.andThen next).notes = x.notes ++ (next x.name).notes := rfl
@[simp] theorem name_map : (x.map respell).name = respell x.name := rfl
@[simp] theorem notes_map : (x.map respell).notes = x.notes := rfl
@[simp] theorem name_warned : (warned name message).name = name := rfl
@[simp] theorem notes_warned : (warned name message).notes = [.warning namingPhase message] := rfl
@[simp] theorem name_remarked : (remarked name message).name = name := rfl
@[simp] theorem notes_remarked : (remarked name message).notes = [.info namingPhase message] := rfl

end

end Named

/-- The names of literals that are pure punctuation. -/
def defaultSymbols : List (String × String) :=
  [("$", "Dollar"), ("^", "Caret"), ("|", "Pipe"), ("=", "Equal"), ("*", "Star"), ("-", "Minus"),
   ("&", "Ampersand"), ("%", "Percent"), ("#", "Hash"), ("@", "At"), ("!", "Exclamation"),
   ("+", "Plus"), (":", "Colon"), (">", "Greater_Than"), ("<", "Less_Than"), (".", "Period"),
   ("_", "Underscore"), ("?", "Question_Mark"), (",", "Comma"), ("'", "Quote"),
   ("\"", "Double_Quote"), ("/", "Slash"), ("\\", "Back_Slash"), ("(", "Left_Parenthesis"),
   (")", "Right_Parenthesis"), ("\x7b", "Left_Curly_Bracket"), ("\x7d", "Right_Curly_Bracket"),
   ("[", "Left_Square_Bracket"), ("]", "Right_Square_Bracket"), ("~", "Tilde"),
   ("`", "Backtick"), ("<=", "Less_Than_Or_Equal_To"), (">=", "Greater_Than_Or_Equal_To"),
   ("!=", "Not_Equal")]

/-- What naming goes by: the reserved words, the parts that every model name is joined to, and the
names of symbols. -/
structure Naming where
  reserved : ReservedTable
  modelPrefix : String := ""
  modelSuffix : String := ""
  symbols : OrderedMap String String := .ofList defaultSymbols
deriving Repr, DecidableEq

namespace Naming

/-- Whether a name is reserved, in whatever case it is written. -/
def isReserved (naming : Naming) (name : String) : Bool :=
  naming.reserved.isReserved name

/-- A reserved name made safe. -/
def escape (naming : Naming) (name : String) : String :=
  naming.reserved.escape name

/-- The name of a symbol, if it has one. -/
def symbolName? (naming : Naming) (symbol : String) : Option String :=
  naming.symbols.find? symbol

/-- The naming with symbol names added to its table or replaced in it. -/
def withSymbols (naming : Naming) (symbols : OrderedMap String String) : Naming :=
  { naming with symbols := naming.symbols.insertAll symbols.entries }

end Naming

end CratePlan
