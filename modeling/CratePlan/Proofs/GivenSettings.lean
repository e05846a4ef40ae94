import CratePlan.Command.Run
import CratePlan.Proofs.LegalName

/-! The settings that a run goes by: those of the file or the usual ones, with what the command line
gives in their place. The rules for settings are looked at when the file is loaded, and the command
line comes after that, so a name or a version of the package that it gives is taken as it is. -/

namespace CratePlan

open Text

/-! ### The package -/

theorem trim_eq_nil_iff {cs : List Char} : trim cs = [] ↔ ∀ c ∈ cs, isBlank c := by
  rw [trim, dropTrailing, trimStart, List.reverse_eq_nil_iff, List.dropWhile_eq_nil_iff]
  simp only [List.mem_reverse]
  constructor
  · intro h
    -- a blank that is left at the start would have been dropped, so nothing is left
    have hnone : cs.dropWhile isBlank = [] := by
      have hhead := List.head?_dropWhile_not isBlank cs
      cases hrest : cs.dropWhile isBlank with
      | nil => rfl
      | cons c rest =>
          rw [hrest] at hhead h
          exact absurd (h c List.mem_cons_self) (Bool.not_eq_true _ ▸ hhead)
    exact List.dropWhile_eq_nil_iff.mp hnone
  · exact fun h c hc => h c ((List.dropWhile_sublist isBlank).subset hc)

theorem isBlankText_iff {s : String} : isBlankText s = true ↔ trim s.toList = [] := by
  rw [isBlankText, List.all_eq_true, trim_eq_nil_iff]

theorem trim_getD_ne_nil_iff {given : Option String} {usual : String}
    (husual : trim usual.toList ≠ []) :
    trim (given.getD usual).toList ≠ [] ↔ ∀ value, given = some value → trim value.toList ≠ [] := by
  cases given <;> simp [husual]

/-- A package with a name and a version that are not blank once they are trimmed. -/
structure NamesPackage (name version : String) : Prop where
  name : trim name.toList ≠ []
  version : trim version.toList ≠ []

theorem namesPackage_of_error? {settings : Settings} {text : String}
    (h : settings.error? text = none) :
    NamesPackage settings.packageName settings.packageVersion := by
  unfold Settings.error? at h
  split_ifs at h with hname hversion
  exact ⟨fun hblank => hname (isBlankText_iff.mpr hblank),
    fun hblank => hversion (isBlankText_iff.mpr hblank)⟩

namespace Command

theorem namesPackage_of_settingsAt {find : String → Source} {path : String} {settings : Settings}
    (h : settingsAt find path = .ok settings) :
    NamesPackage settings.packageName settings.packageVersion := by
  unfold settingsAt at h
  split at h
  · exact namesPackage_of_error? (Settings.error?_of_ofText h)
  · cases h

/-- Settings that are loaded name their package, whether or not they come from a file. -/
theorem namesPackage_of_loadSettings {find : String → Source} {path : Option String}
    {settings : Settings} (h : loadSettings find path = .ok settings) :
    NamesPackage settings.packageName settings.packageVersion := by
  unfold loadSettings at h
  split at h
  · exact namesPackage_of_settingsAt h
  · split at h
    · cases h
      exact ⟨by decide, by decide⟩
    · exact namesPackage_of_settingsAt h

/-! ### What command lines can give -/

/-- The paths that are given are not empty. -/
structure Overrides.HasPaths (given : Overrides) : Prop where
  settings : given.settingsPath ≠ some ""
  output : given.outputFolder ≠ some ""

/-- A step of reading that leaves paths which are not empty, where it does not end the reading. -/
def LeavesPaths (step : Except Stop Draft) : Prop :=
  ∀ draft, step = .ok draft → draft.overrides.HasPaths

theorem leavesPaths_error (stop : Stop) : LeavesPaths (.error stop) :=
  fun _ h => nomatch h

theorem leavesPaths_ok {draft : Draft} (h : draft.overrides.HasPaths) : LeavesPaths (.ok draft) := by
  rintro _ ⟨⟩
  exact h

theorem leavesPaths_bind {α : Type} {step : Except Stop α} {next : α → Except Stop Draft}
    (h : ∀ x, step = .ok x → LeavesPaths (next x)) : LeavesPaths (step >>= next) := by
  cases step with
  | error stop => exact leavesPaths_error stop
  | ok x => exact h x rfl

namespace Draft

theorem setPath_ne_empty {slot set : Option String} {value : String}
    (h : setPath slot value = .ok set) : set ≠ some "" := by
  unfold setPath setOnce at h
  split_ifs at h with hvalue
  cases slot with
  | some _ => cases h
  | none =>
      cases h
      exact fun heq => hvalue (Option.some.inj heq)

variable {draft : Draft} (hdraft : draft.overrides.HasPaths)

include hdraft

theorem takeValue_leavesPaths (flag : Flag) (value : String) :
    LeavesPaths (draft.takeValue flag value) := by
  cases flag with
  | settings =>
      exact leavesPaths_bind fun _ h => leavesPaths_ok ⟨setPath_ne_empty h, hdraft.output⟩
  | packageName =>
      exact leavesPaths_bind fun _ _ => leavesPaths_ok ⟨hdraft.settings, hdraft.output⟩
  | packageVersion =>
      exact leavesPaths_bind fun _ _ => leavesPaths_ok ⟨hdraft.settings, hdraft.output⟩
  | output =>
      exact leavesPaths_bind fun _ h => leavesPaths_ok ⟨hdraft.settings, setPath_ne_empty h⟩
  | pretty => exact leavesPaths_error .misuse
  | help => exact leavesPaths_error .misuse

theorem takeSwitch_leavesPaths (flag : Flag) : LeavesPaths (draft.takeSwitch flag) := by
  unfold takeSwitch
  split
  · split_ifs
    · exact leavesPaths_error .misuse
    · exact leavesPaths_ok hdraft
  · exact leavesPaths_error .helpAsked
  · exact leavesPaths_error .misuse

theorem takePositional_leavesPaths (verb : Verb) (argument : String) :
    LeavesPaths (draft.takePositional verb argument) := by
  unfold takePositional
  split_ifs
  · exact leavesPaths_error .misuse
  · exact leavesPaths_bind fun _ _ => leavesPaths_ok hdraft

end Draft

theorem readArguments_leavesPaths (verb : Verb) (arguments : List String) {literal : Bool}
    {waiting : Option Flag} {draft : Draft} (hdraft : draft.overrides.HasPaths) :
    LeavesPaths (readArguments verb literal waiting draft arguments) := by
  induction arguments generalizing literal waiting draft with
  | nil =>
      unfold readArguments
      split_ifs
      · exact leavesPaths_error .misuse
      · exact leavesPaths_ok hdraft
  | cons argument rest ih =>
      -- whatever the argument is, reading goes on with the draft or with one that a step has left
      unfold readArguments
      have hpositional : ∀ next, draft.takePositional verb argument = .ok next →
          LeavesPaths (readArguments verb literal none next rest) :=
        fun next h => ih (Draft.takePositional_leavesPaths hdraft verb argument next h)
      have hvalue : ∀ flag value next, draft.takeValue flag value = .ok next →
          LeavesPaths (readArguments verb false none next rest) :=
        fun flag value next h => ih (Draft.takeValue_leavesPaths hdraft flag value next h)
      split_ifs with hliteral
      · exact leavesPaths_bind (hliteral ▸ hpositional)
      · rw [Bool.not_eq_true] at hliteral
        split
        · exact leavesPaths_bind (hvalue _ argument)
        · exact leavesPaths_error .misuse
        · exact leavesPaths_bind (hliteral ▸ hpositional)
        · exact ih hdraft
        · refine leavesPaths_bind fun option _ => ?_
          dsimp only
          split
          · exact leavesPaths_bind (hvalue _ _)
          · exact ih hdraft
          · exact leavesPaths_bind fun next h =>
              ih (Draft.takeSwitch_leavesPaths hdraft option.1 next h)
          · exact leavesPaths_error .misuse

/-- What a request gives, if it is one that settings matter to. -/
def Request.overrides? : Request → Option Overrides
  | .check _ given => some given
  | .plan _ _ given => some given
  | .files given => some given
  | _ => none

theorem overrides_finish {verb : Verb} {draft : Draft} {request : Request}
    (h : draft.finish verb = some request) : request.overrides? = some draft.overrides := by
  unfold Draft.finish at h
  split at h <;> cases h <;> rfl

theorem hasPaths_of_ofArguments? {arguments : List String} {request : Request} {given : Overrides}
    (hrequest : Request.ofArguments? arguments = some request)
    (hgiven : request.overrides? = some given) : given.HasPaths := by
  unfold Request.ofArguments? at hrequest
  split at hrequest
  · cases hrequest
  · next first rest =>
      split at hrequest
      · next verb _ =>
          split at hrequest
          · next draft hdraft =>
              rw [overrides_finish hrequest, Option.some.injEq] at hgiven
              rw [← hgiven]
              exact readArguments_leavesPaths verb rest ⟨by decide, by decide⟩ draft hdraft
          · cases hrequest
            cases hgiven
          · cases hrequest
      · split at hrequest <;> cases hrequest <;> cases hgiven

/-! ### Command lines for what is given -/

/-- The long name of an option. -/
def Flag.longName : Flag → String
  | .settings => "config"
  | .packageName => "package-name"
  | .packageVersion => "package-version"
  | .output => "output"
  | .pretty => "pretty"
  | .help => "help"

theorem Flag.ofLong?_longName (flag : Flag) : ofLong? flag.longName = some flag := by
  cases flag <;> rfl

theorem Flag.notMem_longName (flag : Flag) : '=' ∉ flag.longName.toList := by
  cases flag <;> decide

theorem Flag.fits_of_takesValue {flag : Flag} (h : flag.takesValue = true) (verb : Verb) :
    flag.fits verb = true := by
  cases flag <;> first | rfl | cases h

/-- An option written with its value attached. -/
def written (option : Flag × String) : String :=
  "--" ++ option.1.longName ++ "=" ++ option.2

theorem formOf_written (option : Flag × String) :
    formOf (written option) = .long option.1.longName (some option.2) := by
  obtain ⟨flag, value⟩ := option
  have hkept : ∀ c ∈ flag.longName.toList, (c != '=') = true := fun c hc =>
    bne_iff_ne.mpr fun heq => flag.notMem_longName (heq ▸ hc)
  have htext : (written (flag, value)).toList =
      '-' :: '-' :: (flag.longName.toList ++ '=' :: value.toList) := by
    simp [written, String.toList_append]
  have htake : (flag.longName.toList ++ '=' :: value.toList).takeWhile (· != '=') =
      flag.longName.toList := by
    rw [List.takeWhile_append_of_pos hkept]
    simp
  have hdrop : (flag.longName.toList ++ '=' :: value.toList).dropWhile (· != '=') =
      '=' :: value.toList := by
    rw [List.dropWhile_append_of_pos hkept]
    simp
  obtain ⟨c, rest, hbody⟩ : ∃ c rest, flag.longName.toList ++ '=' :: value.toList = c :: rest :=
    List.exists_cons_of_ne_nil (by simp)
  rw [hbody] at htext htake hdrop
  unfold formOf
  rw [htext]
  simp only [htake, hdrop, String.ofList_toList]

/-- Options that are written with their values are taken one after another. -/
theorem readArguments_map_written (verb : Verb) {options : List (Flag × String)}
    (h : ∀ option ∈ options, option.1.takesValue = true) (draft : Draft) :
    readArguments verb false none draft (options.map written) =
      options.foldlM (fun draft option => draft.takeValue option.1 option.2) draft := by
  induction options generalizing draft with
  | nil => rfl
  | cons option rest ih =>
      rw [List.forall_mem_cons] at h
      have hflag : flagOf verb (.long option.1.longName (some option.2)) =
          .ok (option.1, some option.2) := by
        simp only [flagOf, Flag.ofLong?_longName, Flag.fits_of_takesValue h.1, if_true]
      rw [List.map_cons, List.foldlM_cons, ← funext (ih h.2)]
      conv_lhs => unfold readArguments
      simp only [formOf_written, Bool.false_eq_true, if_false, hflag]
      simp only [Bind.bind, Except.bind, h.1]

/-- The options that give settings, with their values. -/
def Overrides.options (given : Overrides) : List (Flag × String) :=
  (given.settingsPath.map (Flag.settings, ·)).toList ++
    (given.packageName.map (Flag.packageName, ·)).toList ++
    (given.packageVersion.map (Flag.packageVersion, ·)).toList ++
    (given.outputFolder.map (Flag.output, ·)).toList

theorem Overrides.takesValue_of_mem_options {given : Overrides} :
    ∀ option ∈ given.options, option.1.takesValue = true := by
  intro option hoption
  simp only [options, List.mem_append, Option.mem_toList, Option.map_eq_some_iff] at hoption
  obtain ((⟨_, _, rfl⟩ | ⟨_, _, rfl⟩) | ⟨_, _, rfl⟩) | ⟨_, _, rfl⟩ := hoption <;> rfl

theorem foldlM_options {given : Overrides} (h : given.HasPaths) :
    given.options.foldlM (fun draft option => draft.takeValue option.1 option.2) ({} : Draft) =
      .ok { overrides := given } := by
  obtain ⟨settingsPath, packageName, packageVersion, outputFolder⟩ := given
  obtain ⟨hsettings, houtput⟩ := h
  -- by which of the options are given: none of them is set twice, and no path is empty
  cases settingsPath <;> cases packageName <;> cases packageVersion <;> cases outputFolder <;>
    simp_all [Overrides.options, Draft.takeValue, Draft.setPath, Draft.setOnce] <;> rfl

/-- The values that accepted command lines give are any values, except that a path is not empty. -/
theorem exists_ofArguments?_iff {given : Overrides} :
    (∃ arguments request, Request.ofArguments? arguments = some request ∧
      request.overrides? = some given) ↔ given.HasPaths := by
  constructor
  · rintro ⟨arguments, request, hrequest, hgiven⟩
    exact hasPaths_of_ofArguments? hrequest hgiven
  · intro h
    have hread : readArguments .files false none {} (given.options.map written) =
        .ok { overrides := given } := by
      rw [readArguments_map_written .files Overrides.takesValue_of_mem_options, foldlM_options h]
    refine ⟨"files" :: given.options.map written, .files given, ?_, rfl⟩
    simp only [Request.ofArguments?, Verb.ofName?, hread]
    rfl

end Command

/-- Accepted command lines give any values for the settings, except that a path is not empty. Whatever
file is loaded, what they hand to the planner names the package if and only if no blank name and no
blank version is among the values: the file and the usual settings name it, and a value that is given
is not looked at. -/
theorem package_is_named_iff (find : String → Command.Source) (given : Command.Overrides) :
    ((∃ arguments request, Command.Request.ofArguments? arguments = some request ∧
        request.overrides? = some given) ↔ given.HasPaths) ∧
      ∀ planner, Command.planner find given = .ok planner →
        (NamesPackage planner.packageName planner.packageVersion ↔
          (∀ name, given.packageName = some name → trim name.toList ≠ []) ∧
            ∀ version, given.packageVersion = some version → trim version.toList ≠ []) := by
  refine ⟨Command.exists_ofArguments?_iff, fun planner hplanner => ?_⟩
  unfold Command.planner at hplanner
  cases hload : Command.loadSettings find given.settingsPath with
  | error error => rw [hload] at hplanner; cases hplanner
  | ok settings =>
      rw [hload] at hplanner
      cases hplanner
      have hloaded := Command.namesPackage_of_loadSettings hload
      rw [← trim_getD_ne_nil_iff hloaded.name, ← trim_getD_ne_nil_iff hloaded.version]
      exact ⟨fun h => ⟨h.name, h.version⟩, fun h => ⟨h.1, h.2⟩⟩

/-- A name from a flag takes the place of the usual one, and with the usual version it names the
package. -/
theorem package_is_named_of_petstore :
    let given : Command.Overrides := { packageName := some "petstore" }
    let find : String → Command.Source := fun _ => .missing
    ∃ planner, Command.planner find given = .ok planner ∧ planner.packageName = "petstore" ∧
      NamesPackage planner.packageName planner.packageVersion := by
  intro given find
  refine ⟨_, rfl, rfl, ((package_is_named_iff find given).2 _ rfl).mpr ⟨?name, ?version⟩⟩
  case name =>
    intro name hname
    cases hname
    decide
  case version =>
    intro version hversion
    cases hversion

/-- A settings file with a blank name of the package is refused. With one that names the package a
blank name is still taken from a flag, and what is handed to the planner does not name it. -/
theorem blank_name_is_taken_from_a_flag :
    let find : String → Command.Source :=
      fun _ => .bytes "[package]\nname = \"petstore\"\n".toUTF8
    let given : Command.Overrides := { packageName := some " " }
    Settings.ofText "[package]\nname = \" \"\n" = .error (.blankPackageName (some ⟨10, 10⟩)) ∧
      Command.Request.ofArguments? ["plan", "doc.json", "--package-name", " "] =
        some (.plan "doc.json" false given) ∧
      ∃ planner, Command.planner find given = .ok planner ∧
        ¬NamesPackage planner.packageName planner.packageVersion := by
  refine ⟨by decide +kernel, by decide +kernel, .ofSettings { packageName := " " },
    by decide +kernel, fun h => h.name ?_⟩
  decide

end CratePlan
