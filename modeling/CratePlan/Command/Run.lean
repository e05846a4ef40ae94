import CratePlan.Command.Arguments
import CratePlan.Command.Source
import CratePlan.Plan.Json
import CratePlan.Report.Findings
import CratePlan.Report.Inventory

/-!
What the program does with a command line: the text of its streams and its exit code. Settings are
loaded before the document.
-/

namespace CratePlan.Command

/-- The end of a run. -/
structure Outcome where
  exit : Nat
  output : String := ""
  errorOutput : String := ""
deriving Repr, DecidableEq

/-- The program with its version. -/
def versionLine : String := "rustgen 0.1.0"

/-- How the program is called. -/
def usage : List String :=
  ["Usage: rustgen <COMMAND>", "", "Commands:",
   "  check <DOCUMENT>  Name every model and operation and report renames",
   "  plan <DOCUMENT>   Print the generation plan as JSON (--pretty to indent it)",
   "  files             List supporting files and output folders", "", "Options:",
   "  -c, --config <PATH>, --package-name <NAME>, --package-version <VERSION>, -o, --output <PATH>",
   "  -V, --version, -h, --help"]

/-- An error of the settings as lines of text. -/
def settingsErrorLines (error : Settings.Error) : List String :=
  [error.code, error.message] ++ (error.help?.map ("help: " ++ ·)).toList

/-- An error of loading a document as lines of text. -/
def loadErrorLines (error : LoadError) : List String :=
  match error with
  | .unreadable _ => [error.message]
  | .unfit _ .malformed => [error.message, "not valid JSON"]
  | .unfit _ (.mismatch cause) => [error.message, cause.message]

/-- The end of a run that failed. -/
def failed (exit : Nat) (lines : List String) : Outcome :=
  { exit, errorOutput := Report.ofLines lines }

/-- The planner for what a command line gives. -/
def planner (find : String → Source) (given : Overrides) : Except Settings.Error Planner :=
  (loadSettings find given.settingsPath).map fun settings =>
    Planner.ofSettings (given.apply settings)

/-- Plans the document at a path and goes on with the plan. -/
def withPlan (find : String → Source) (document : String) (given : Overrides)
    (next : ClientPlan → Outcome) : Outcome :=
  match planner find given with
  | .error error => failed 1 (settingsErrorLines error)
  | .ok planner =>
    match documentAt find document with
    | .error error => failed 1 (loadErrorLines error)
    | .ok document => next (planner.plan document)

/-- Prints events. -/
def printed (exit : Nat) (events : List Report.Event) : Outcome :=
  { exit, output := Report.output events, errorOutput := Report.errorOutput events }

/-- Does what is asked for. `find` says what is found at a path. -/
def run (find : String → Source) : Request → Outcome
  | .version => { exit := 0, output := Report.ofLines [versionLine] }
  | .help => { exit := 0, output := Report.ofLines usage }
  | .check document given =>
    withPlan find document given fun plan =>
      let report := Report.Findings.ofPlan plan document
      printed (if report.isValid then 0 else 1) report.events
  | .plan document indented given =>
    withPlan find document given fun plan =>
      let text := if indented then plan.toJson.pretty else plan.toJson.compact
      { exit := 0, output := Report.ofLines [text] }
  | .files given =>
    match planner find given with
    | .error error => failed 1 (settingsErrorLines error)
    | .ok planner => printed 0 (Report.Inventory.ofPlanner planner).events

/-- Runs the program on its arguments. -/
def runArguments (find : String → Source) (arguments : List String) : Outcome :=
  match Request.ofArguments? arguments with
  | some request => run find request
  | none => failed 2 usage

/-- The paths at which a request looks for files. -/
def Request.paths : Request → List String
  | .check document given => [given.settingsPath.getD defaultSettingsFile, document]
  | .plan document _ given => [given.settingsPath.getD defaultSettingsFile, document]
  | .files given => [given.settingsPath.getD defaultSettingsFile]
  | _ => []

end CratePlan.Command
