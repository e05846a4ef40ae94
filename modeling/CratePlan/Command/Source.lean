import CratePlan.Document.Reader
import CratePlan.Settings.Reader

/-!
Loading settings and documents. What a program finds at a path is given as a value, so that loading
is a function; a directory held in memory says what is found at the paths below it.
-/

namespace CratePlan.Command

/-- What is found at a path. -/
inductive Source where
  /-- No file. -/
  | missing
  /-- A file that cannot be opened. -/
  | locked
  | bytes (content : ByteArray)

/-- The text of a file, if it can be opened and is UTF-8. -/
def Source.text? : Source → Option String
  | .bytes content => String.fromUTF8? content
  | _ => none

/-- The settings file that is used when none is named. -/
def defaultSettingsFile : String := "rustgen.toml"

/-- The settings in a file. -/
def settingsAt (find : String → Source) (path : String) : Except Settings.Error Settings :=
  match (find path).text? with
  | some text => Settings.ofText text
  | none => .error (.unreadable path)

/-- The settings in the named file, or else in the usual file if it is there, or else the usual
settings. -/
def loadSettings (find : String → Source) : Option String → Except Settings.Error Settings
  | some path => settingsAt find path
  | none =>
    match find defaultSettingsFile with
    | .missing => .ok {}
    | _ => settingsAt find defaultSettingsFile

/-- Why a document cannot be loaded. -/
inductive LoadError where
  /-- The file cannot be read as text. -/
  | unreadable (path : String)
  /-- The text cannot be read as a document. -/
  | unfit (path : String) (cause : ReadError)
deriving Repr, DecidableEq

/-- The error in words, without its cause. -/
def LoadError.message : LoadError → String
  | .unreadable path => s!"Failed to read {path}"
  | .unfit path _ => s!"Failed to parse {path}"

/-- The document in a file. -/
def documentAt (find : String → Source) (path : String) : Except LoadError Document :=
  match (find path).text? with
  | none => .error (.unreadable path)
  | some text =>
    match Document.ofText text with
    | .ok document => .ok document
    | .error cause => .error (.unfit path cause)

/-- The files of a directory, by paths that lead to them from there. -/
structure Directory where
  files : List (String × ByteArray)

namespace Directory

/-- Where one piece of a path leads from a folder, given by its steps. -/
def step (here : List String) (piece : String) : List String :=
  if piece = "" ∨ piece = "." then here
  else if piece = ".." then here.dropLast
  else here ++ [piece]

/-- The steps that a path amounts to. -/
def stepsOf (path : String) : List String :=
  (Output.pieces path).foldl step []

/-- The folders that pieces of a path are looked up in, from a folder on. -/
def foldersAlong (here : List String) : List String → List (List String)
  | [] => []
  | piece :: rest => here :: foldersAlong (step here piece) rest

/-- Whether steps lead to the directory itself or to a folder on the way to a file. -/
def isFolder (directory : Directory) (steps : List String) : Bool :=
  steps.isEmpty || directory.files.any fun file =>
    (foldersAlong [] (Output.pieces file.1)).contains steps

/-- Follows pieces of a path from a folder. Each of them is looked up in a folder, and nothing is
known outside the directory. -/
def follow (directory : Directory) (here : List String) : List String → Option (List String)
  | [] => some here
  | piece :: rest =>
    if !directory.isFolder here ∨ (piece = ".." ∧ here = []) then none
    else follow directory (step here piece) rest

/-- The content of the file at the end of steps. Of several paths that amount to the same steps, the
last one counts. -/
def content? (directory : Directory) (steps : List String) : Option ByteArray :=
  (directory.files.reverse.find? fun file => stepsOf file.1 = steps).map (·.2)

/-- The number of bytes that a path may have. -/
def pathLimit : Nat := 4095

/-- What is found at a path below the directory. -/
def find (directory : Directory) (path : String) : Source :=
  if path = "" ∨ (Output.components path).absolute ∨ pathLimit < path.utf8ByteSize then .missing
  else
    match (directory.follow [] (Output.pieces path)).bind directory.content? with
    | some content => .bytes content
    | none => .missing

end Directory

end CratePlan.Command
