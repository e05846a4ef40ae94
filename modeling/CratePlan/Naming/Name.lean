import CratePlan.Naming.Basic

/-!
The names of fields, models, methods and interfaces. Every conversion gives a name for every raw
text: a name that is reserved, starts with a digit or keeps no character is changed, and the
change is noted.
-/

namespace CratePlan.Naming

open Text Identifier

/-- The name, escaped with a remark if it is reserved. -/
def escapeReserved (naming : Naming) (name : String) : Named :=
  if naming.isReserved name then
    .remarked (naming.escape name) s!"{name} (reserved word) escaped to {naming.escape name}"
  else ⟨name, []⟩

/-- The name of a field: snake case, with constant-style names kept as they are, reserved words
escaped and `var_` put before a digit. -/
def fieldName (naming : Naming) (raw : String) : Named :=
  let clean := sanitize (replaceChar '-' "_" raw)
  if clean = "" then
    .warned "var_empty" s!"'{raw}' has no identifier characters. Renamed to var_empty"
  else if looksConstant clean then ⟨clean, []⟩
  else
    (naming.escapeReserved (snakeCase clean)).andThen fun name =>
      if startsWithDigit name then
        .remarked ("var_" ++ name) s!"{name} (starts with number) renamed to var_{name}"
      else ⟨name, []⟩

/-- The name of a parameter, which follows the rules for fields. -/
def parameterName (naming : Naming) (raw : String) : Named :=
  naming.fieldName raw

/-- A raw model name joined to the configured parts by underscores. -/
def affixed (naming : Naming) (raw : String) : String :=
  let front := if naming.modelPrefix = "" then raw else naming.modelPrefix ++ "_" ++ raw
  if naming.modelSuffix = "" then front else front ++ "_" ++ naming.modelSuffix

/-- A model name that is reserved gets `model_` put before it. -/
def avoidReservedModel (naming : Naming) (name : String) : Named :=
  if naming.isReserved name then
    .warned ("model_" ++ name)
      s!"{name} (reserved word) cannot be used as model name. Renamed to model_{name}"
  else ⟨name, []⟩

/-- A model name that starts with a digit gets `model_` put before it. -/
def avoidDigitModel (name : String) : Named :=
  if startsWithDigit name then
    .warned ("model_" ++ name) <|
      s!"{name} (model name starts with number) cannot be used as model name. " ++
        s!"Renamed to model_{name}"
  else ⟨name, []⟩

/-- The stem of a model's source file: the raw name with the configured parts, in snake case. -/
def modelStem (naming : Naming) (raw : String) : Named :=
  let clean := sanitize (naming.affixed raw)
  let start : Named :=
    if clean = "" then
      .warned "model_empty" s!"'{raw}' cannot be used as model name. Renamed to model_empty"
    else ⟨clean, []⟩
  ((start.andThen naming.avoidReservedModel).andThen avoidDigitModel).map snakeCase

/-- The name of a model's type, in Pascal case. -/
def modelName (naming : Naming) (raw : String) : Named :=
  (naming.modelStem raw).map pascalCase

/-- The stem of a model's documentation file, which is the name of its type. -/
def modelDocStem (naming : Naming) (raw : String) : Named :=
  naming.modelName raw

/-- A method name that is reserved gets `call_` put before it. -/
def avoidReservedMethod (naming : Naming) (raw name : String) : Named :=
  if naming.isReserved name then
    let renamed := "call_" ++ name
    .warned renamed <|
      s!"{raw} (reserved word) cannot be used as method name. " ++
        s!"Renamed to {snakeCase renamed}"
  else ⟨name, []⟩

/-- A method name that starts with a digit gets `call_` put before it. -/
def avoidDigitMethod (raw name : String) : Named :=
  if startsWithDigit name then
    let renamed := "call_" ++ name
    .warned renamed <|
      s!"{raw} (method name starts with number) cannot be used as method name. " ++
        s!"Renamed to {snakeCase renamed}"
  else ⟨name, []⟩

/-- The name of the method for an operation, in snake case. -/
def methodName (naming : Naming) (raw : String) : Named :=
  let clean := sanitize raw
  if clean = "" then
    .warned "call_empty" s!"'{raw}' cannot be used as method name. Renamed to call_empty"
  else
    ((naming.avoidReservedMethod raw clean).andThen (avoidDigitMethod raw)).map snakeCase

/-- The stem of an interface's source file; `_api` is always added. -/
def apiStem (raw : String) : String :=
  snakeCase (sanitize raw) ++ "_api"

/-- The name of an interface's type. -/
def apiName (raw : String) : String :=
  if raw = "" then "DefaultApi" else pascalCase (sanitize raw) ++ "Api"

/-- The stem of an interface's documentation file, which is the name of its type. -/
def apiDocStem (raw : String) : String :=
  apiName raw

/-- The group of operations with no usable tag. -/
def untagged : String := "default"

/-- The key under which operations with a tag are grouped: the tag in Pascal case without outer
underscores. -/
def tagKey (tag : Option String) : String :=
  let chars := (pascalCase (sanitize (tag.getD ""))).toList
  let trimmed := dropTrailing (· = '_') (chars.dropWhile (· = '_'))
  if trimmed.isEmpty then untagged else String.ofList trimmed

end CratePlan.Naming
