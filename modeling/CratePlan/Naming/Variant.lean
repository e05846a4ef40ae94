import CratePlan.Naming.Literal
import CratePlan.Naming.Name

/-!
The names of enums, of their variants and of their defaults.
-/

namespace CratePlan.Naming

open Text Identifier

/-- The datatypes whose enum literals are numbers. -/
def numberTypes : List String :=
  ["int", "integer", "long", "float", "double", "number", "i8", "i16", "i32", "i64", "u8", "u16",
   "u32", "u64", "f32", "f64"]

/-- Whether the enum literals of a datatype are numbers. -/
def isNumeric (datatype : String) : Bool :=
  numberTypes.contains datatype

/-- A number spelled as a name: signs and dots become words. -/
def numberName (value : String) : String :=
  replaceChar '.' "_DOT_" (replaceChar '+' "PLUS_" (replaceChar '-' "MINUS_" value))

/-- A text without one underscore at its start, if it has one there. -/
def dropOneLeading : List Char → List Char
  | [] => []
  | c :: rest => if c = '_' then rest else c :: rest

/-- A text without one underscore at its start and one at its end. -/
def dropOuterUnderscores (s : String) : String :=
  String.ofList (dropOneLeading (dropOneLeading s.toList).reverse).reverse

/-- A literal in capitals and underscores. -/
def shouted (value : String) : String :=
  dropOuterUnderscores (sanitize (uppercase (snakeCase value)))

/-- The name of the variant for a literal. -/
def variantName (naming : Naming) (value datatype : String) : Named :=
  if value = "" then ⟨"EMPTY", []⟩
  else if isNumeric datatype then ⟨numberName value, []⟩
  else match naming.symbolName? value with
    | some symbol => ⟨uppercase symbol, []⟩
    | none =>
      let name := shouted value
      if name = "" then
        .warned "EMPTY" s!"enum value '{value}' has no identifier characters. Named EMPTY"
      else if naming.isReserved name || startsWithDigit name then
        .remarked (naming.escape name) s!"enum variant {name} escaped to {naming.escape name}"
      else ⟨name, []⟩

/-- The name of the enum type for a property. -/
def enumName (naming : Naming) (property : String) : Named :=
  (naming.modelName property).map fun model =>
    let name := replacePair '[' ']' "" (uppercase (snakeCase model))
    if startsWithDigit name then "_" ++ name else name

/-- The constant that stands for the default of an enum. -/
def defaultConstant (variant enumType : String) : String :=
  enumType ++ "_" ++ variant

/-- The text of an enum literal in generated code: numbers as they are, all else escaped. -/
def literalText (value datatype : String) : String :=
  if isNumeric datatype then value else Literal.escape value

end CratePlan.Naming
