import CratePlan.Settings.Basic

/-!
Command lines. A command takes options with values, each at most once: `--name value`,
`--name=value`, `-n value`, `-nvalue` or `-n=value`. An option that waits for its value does not
take another option for it. All arguments after `--` stand for themselves.
-/

namespace CratePlan.Command

/-- The settings that a command line gives. -/
structure Overrides where
  settingsPath : Option String := none
  packageName : Option String := none
  packageVersion : Option String := none
  outputFolder : Option String := none
deriving Repr, DecidableEq

/-- Settings with what a command line gives in their place. -/
def Overrides.apply (given : Overrides) (settings : Settings) : Settings :=
  { settings with
    packageName := given.packageName.getD settings.packageName
    packageVersion := given.packageVersion.getD settings.packageVersion
    outputFolder := given.outputFolder.getD settings.outputFolder }

/-- What a command line asks for. -/
inductive Request where
  | version
  | help
  | check (document : String) (overrides : Overrides)
  | plan (document : String) (indented : Bool) (overrides : Overrides)
  | files (overrides : Overrides)
deriving Repr, DecidableEq

/-- The commands. -/
inductive Verb where
  | check
  | plan
  | files
deriving Repr, DecidableEq

/-- The command with a given name. -/
def Verb.ofName? : String → Option Verb
  | "check" => some .check
  | "plan" => some .plan
  | "files" => some .files
  | _ => none

/-- The options of the commands. -/
inductive Flag where
  | settings
  | packageName
  | packageVersion
  | output
  /-- Takes no value. -/
  | pretty
  /-- Takes no value. -/
  | help
deriving Repr, DecidableEq

namespace Flag

/-- The option with a given long name. -/
def ofLong? : String → Option Flag
  | "config" => some .settings
  | "package-name" => some .packageName
  | "package-version" => some .packageVersion
  | "output" => some .output
  | "pretty" => some .pretty
  | "help" => some .help
  | _ => none

/-- The option with a given letter. -/
def ofShort? (c : Char) : Option Flag :=
  if c = 'c' then some .settings
  else if c = 'o' then some .output
  else if c = 'h' then some .help
  else none

/-- Whether an option takes a value. -/
def takesValue : Flag → Bool
  | .pretty => false
  | .help => false
  | _ => true

/-- Whether a command knows an option. -/
def fits (verb : Verb) : Flag → Bool
  | .pretty => verb = .plan
  | _ => true

end Flag

/-- What has been read of the arguments of a command. -/
structure Draft where
  document : Option String := none
  indented : Bool := false
  overrides : Overrides := {}
deriving Repr, DecidableEq

/-- Why reading the arguments of a command ends early. -/
inductive Stop where
  | helpAsked
  | misuse
deriving Repr, DecidableEq

namespace Draft

/-- Sets what may be set once. -/
def setOnce (slot : Option String) (value : String) : Except Stop (Option String) :=
  match slot with
  | some _ => .error .misuse
  | none => .ok (some value)

/-- Sets a path, which may not be empty. -/
def setPath (slot : Option String) (value : String) : Except Stop (Option String) :=
  if value = "" then .error .misuse else setOnce slot value

/-- Takes an option with its value. -/
def takeValue (draft : Draft) (flag : Flag) (value : String) : Except Stop Draft := do
  let given := draft.overrides
  match flag with
  | .settings =>
    let path ← setPath given.settingsPath value
    return { draft with overrides := { given with settingsPath := path } }
  | .packageName =>
    let name ← setOnce given.packageName value
    return { draft with overrides := { given with packageName := name } }
  | .packageVersion =>
    let version ← setOnce given.packageVersion value
    return { draft with overrides := { given with packageVersion := version } }
  | .output =>
    let folder ← setPath given.outputFolder value
    return { draft with overrides := { given with outputFolder := folder } }
  | .pretty => .error .misuse
  | .help => .error .misuse

/-- Takes an option without a value. -/
def takeSwitch (draft : Draft) (flag : Flag) : Except Stop Draft :=
  match flag with
  | .pretty => if draft.indented then .error .misuse else .ok { draft with indented := true }
  | .help => .error .helpAsked
  | _ => .error .misuse

/-- Takes an argument that is no option: the path of the document, for a command that has one. -/
def takePositional (verb : Verb) (draft : Draft) (argument : String) : Except Stop Draft :=
  if verb = .files then .error .misuse
  else do return { draft with document := ← setPath draft.document argument }

end Draft

/-- An argument by its form. -/
inductive Form where
  /-- The argument `--`. -/
  | separator
  | long (name : String) (value : Option String)
  | short (letter : Char) (rest : List Char)
  | positional
deriving Repr, DecidableEq

/-- The form of an argument. A lone dash is no option. -/
def formOf (argument : String) : Form :=
  match argument.toList with
  | ['-', '-'] => .separator
  | '-' :: '-' :: rest =>
    let name := String.ofList (rest.takeWhile (· != '='))
    match rest.dropWhile (· != '=') with
    | [] => .long name none
    | _ :: value => .long name (some (String.ofList value))
  | '-' :: letter :: rest => .short letter rest
  | _ => .positional

/-- The value written right after the letter of an option, if there is one. -/
def attached : List Char → Option String
  | [] => none
  | '=' :: value => some (String.ofList value)
  | value => some (String.ofList value)

/-- The option of a command by its form, with the value attached to it. -/
def flagOf (verb : Verb) : Form → Except Stop (Flag × Option String)
  | .long name value =>
    match Flag.ofLong? name with
    | some flag => if flag.fits verb then .ok (flag, value) else .error .misuse
    | none => .error .misuse
  | .short letter rest =>
    match Flag.ofShort? letter with
    | some flag => .ok (flag, if flag.takesValue then attached rest else none)
    | none => .error .misuse
  | _ => .error .misuse

/-- Reads the arguments of a command. `waiting` is the option whose value has to come next, and
`literal` says that `--` has come. -/
def readArguments (verb : Verb) (literal : Bool) (waiting : Option Flag) (draft : Draft) :
    List String → Except Stop Draft
  | [] => if waiting.isSome then .error .misuse else .ok draft
  | argument :: rest =>
    if literal then do
      readArguments verb true none (← draft.takePositional verb argument) rest
    else
      match formOf argument, waiting with
      | .positional, some flag => do
        readArguments verb false none (← draft.takeValue flag argument) rest
      | _, some _ => .error .misuse
      | .positional, none => do
        readArguments verb false none (← draft.takePositional verb argument) rest
      | .separator, none => readArguments verb true none draft rest
      | form, none => do
        let (flag, value) ← flagOf verb form
        match flag.takesValue, value with
        | true, some value => readArguments verb false none (← draft.takeValue flag value) rest
        | true, none => readArguments verb false (some flag) draft rest
        | false, none => readArguments verb false none (← draft.takeSwitch flag) rest
        | false, some _ => .error .misuse

/-- What a command asks for, once all its arguments have been read. -/
def Draft.finish (verb : Verb) (draft : Draft) : Option Request :=
  match verb, draft.document with
  | .check, some document => some (.check document draft.overrides)
  | .plan, some document => some (.plan document draft.indented draft.overrides)
  | .files, _ => some (.files draft.overrides)
  | _, none => none

/-- What a command line asks for, or nothing if it cannot be understood. -/
def Request.ofArguments? : List String → Option Request
  | [] => none
  | first :: rest =>
    match Verb.ofName? first with
    | some verb =>
      match readArguments verb false none {} rest with
      | .ok draft => draft.finish verb
      | .error .helpAsked => some .help
      | .error .misuse => none
    | none =>
      match formOf first with
      | .long "version" none => some .version
      | .short 'V' _ => some .version
      | .long "help" none => some .help
      | .short 'h' _ => some .help
      | _ => none

end CratePlan.Command
