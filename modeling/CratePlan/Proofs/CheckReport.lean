import CratePlan.Command.Run
import CratePlan.Proofs.Attribution
import Mathlib.Data.Finset.Card

/-! The report on a document and the plan that it reports on. Each diagnostic of the plan is shown once,
in the list for its severity, and the counts are those of the document. No step of naming or planning
raises an error, so a document that can be read is always found valid. -/

namespace CratePlan

theorem length_firstOccurrences {α : Type} [DecidableEq α] (items : List α) :
    (firstOccurrences items).length = items.toFinset.card := by
  have hsame : (firstOccurrences items).toFinset = items.toFinset := by
    refine List.toFinset.ext fun item => ?_
    exact mem_firstOccurrences
  rw [← List.toFinset_card_of_nodup (nodup_firstOccurrences items), hsame]

/-! ### Counts -/

namespace Naming

variable (naming : Naming) (layout : Output.Layout) (operations : List Operation)

/-- There are as many interfaces as there are different keys of tags. -/
theorem length_planApis :
    (naming.planApis layout operations).length =
      (operations.map fun o => tagKey o.tag).toFinset.card := by
  rw [← length_firstOccurrences, ← tags_planApis naming operations layout, List.length_map]

theorem length_flatMap_operations_planApis :
    ((naming.planApis layout operations).flatMap ApiPlan.operations).length =
      operations.length := by
  rw [(naming.flatMap_operations_planApis operations layout).length_eq, planInOrder,
    List.length_map, List.length_zipIdx]

end Naming

/-! ### No errors -/

theorem severity_of_mem_diagnostics {planner : Planner} {document : Document} {d : Diagnostic}
    (h : d ∈ (planner.plan document).diagnostics) : d.severity ≠ .error := by
  rw [diagnostics_plan] at h
  obtain ⟨steps, hsteps, hd⟩ := List.mem_flatMap.mp h
  obtain ⟨raised, hraised, hd⟩ := List.mem_flatMap.mp hd
  obtain ⟨source, hsource, rfl⟩ := List.mem_map.mp hd
  exact (planner.naming.allFresh_recordSteps document steps hsteps raised hraised source
    hsource).no_error

theorem anyError_diagnostics (planner : Planner) (document : Document) :
    anyError (planner.plan document).diagnostics = false := by
  rw [anyError, List.any_eq_false]
  intro d hd
  rw [decide_eq_true_eq]
  exact severity_of_mem_diagnostics hd

namespace Report.Findings

/-- A diagnostic as a report has to show it: its message and, behind an arrow on a second line, its
place in the document. -/
def shown (d : Diagnostic) : String :=
  d.message ++ d.location.elim "" fun place => "\n  --> " ++ place

/-- What the lists of a report have to be to account for diagnostics: together they show each of them
once, and each list shows those of its severity in their order. -/
structure AccountsFor (report : Findings) (ds : List Diagnostic) : Prop where
  perm : (report.errors ++ report.warnings ++ report.infos).Perm (ds.map shown)
  errors : report.errors = (ds.filter fun d => d.severity = .error).map shown
  warnings : report.warnings = (ds.filter fun d => d.severity = .warning).map shown
  infos : report.infos = (ds.filter fun d => d.severity = .info).map shown

theorem entry_eq_shown : entry = shown := by
  funext d
  unfold entry shown
  cases d.location with
  | none => exact String.append_empty.symm
  | some place => exact String.append_assoc

theorem accountsFor_ofPlan (plan : ClientPlan) (documentPath : String) :
    (ofPlan plan documentPath).AccountsFor plan.diagnostics := by
  have hlist (severity : Severity) : entriesOf severity plan.diagnostics =
      (plan.diagnostics.filter fun d => d.severity = severity).map shown := by
    rw [entriesOf, entry_eq_shown]
  refine ⟨?_, hlist .error, hlist .warning, hlist .info⟩
  have hall : ∀ d ∈ plan.diagnostics, d.severity ∈ [Severity.error, .warning, .info] := by
    intro d _
    cases d.severity <;> decide
  have hparted := (flatMap_filter_perm (by decide) hall).map shown
  simpa only [ofPlan, hlist, List.flatMap_cons, List.flatMap_nil, List.append_nil,
    List.map_append, List.append_assoc] using hparted

theorem AccountsFor.length_warnings {report : Findings} {ds : List Diagnostic}
    (h : report.AccountsFor ds) : report.warnings.length = countWarnings ds := by
  rw [h.warnings, List.length_map, countWarnings, List.countP_eq_length_filter]

theorem errors_ofPlan (planner : Planner) (document : Document) (documentPath : String) :
    (ofPlan (planner.plan document) documentPath).errors = [] := by
  have hnone : (planner.plan document).diagnostics.filter (fun d => d.severity = .error) = [] := by
    refine List.filter_eq_nil_iff.mpr fun d hd => ?_
    rw [decide_eq_true_eq]
    exact severity_of_mem_diagnostics hd
  rw [(accountsFor_ofPlan _ _).errors, hnone, List.map_nil]

theorem isValid_ofPlan (planner : Planner) (document : Document) (documentPath : String) :
    (ofPlan (planner.plan document) documentPath).isValid = true := by
  rw [isValid, errors_ofPlan, List.isEmpty_nil]

end Report.Findings

/-- The report on a document accounts for its plan: each diagnostic of the plan is shown once, with its
message and its place, in the list for its severity and in the order of the plan, and the counts are
those of models, operations and different tags in the document. Naming and planning raise no error, so
the report has none and finds the document valid, and checking a document that can be read, under
settings that can be loaded, prints that report and ends with exit code 0. -/
theorem check_accounts_for_plan (planner : Planner) (document : Document) (path : String) :
    let plan := planner.plan document
    let report := Report.Findings.ofPlan plan path
    report.AccountsFor plan.diagnostics ∧
      report.models = document.models.length ∧
      report.operations = document.operations.length ∧
      report.apis = (document.operations.map fun o => Naming.tagKey o.tag).toFinset.card ∧
      report.warnings.length = countWarnings plan.diagnostics ∧
      (∀ raw datatype, ∀ named ∈ planner.naming.conversions raw datatype,
        ∀ d ∈ named.notes, d.severity ≠ .error) ∧
      (∀ d ∈ plan.diagnostics, d.severity ≠ .error) ∧
      anyError plan.diagnostics = false ∧
      report.errors = [] ∧
      report.isValid = true ∧
      ∀ find given, Command.planner find given = .ok planner →
        Command.documentAt find path = .ok document →
        Command.run find (.check path given) = Command.printed 0 report.events := by
  intro plan report
  have hlists := Report.Findings.accountsFor_ofPlan plan path
  have hvalid := Report.Findings.isValid_ofPlan planner document path
  refine ⟨hlists, List.length_map _, planner.naming.length_flatMap_operations_planApis _ _,
    planner.naming.length_planApis _ _, hlists.length_warnings, ?names, fun d hd =>
    severity_of_mem_diagnostics hd, anyError_diagnostics planner document,
    Report.Findings.errors_ofPlan planner document path, hvalid, ?run⟩
  case names =>
    intro raw datatype named hnamed d hd
    exact (planner.naming.allFresh_conversions raw datatype named hnamed d hd).no_error
  case run =>
    intro find given hplanner hdocument
    rw [Command.run, Command.withPlan, hplanner]
    simp only [hdocument]
    rw [if_pos hvalid]

/-- A model `return`, which is renamed with a warning, with a property `type`, which is escaped with a
remark, and three operations, two of which have the same tag but for a separator. -/
theorem check_accounts_for_plan_of_return :
    let text := "[[[\"return\",null,[[\"type\",[\"primitive\",\"string\"]]]]]," ++
      "[[\"a\",\"GET\",\"\",\"pet-store\"],[\"b\",\"GET\",\"\",\"pet.store\"]," ++
      "[\"c\",\"GET\"]]]"
    let find (path : String) : Command.Source :=
      if path = "doc.json" then .bytes text.toUTF8 else .missing
    let document : Document :=
      { models :=
          [{ name := "return", properties := [{ name := "type", schema := .primitive "string" }] }]
        operations := [{ id := "a", method := "GET", tag := some "pet-store" },
          { id := "b", method := "GET", tag := some "pet.store" }, { id := "c", method := "GET" }] }
    let planner := Planner.ofSettings {}
    let plan := planner.plan document
    let report := Report.Findings.ofPlan plan "doc.json"
    Command.planner find {} = .ok planner ∧ Command.documentAt find "doc.json" = .ok document ∧
      Command.run find (.check "doc.json" {}) = Command.printed 0 report.events ∧
      report.models = 1 ∧ report.operations = 3 ∧ report.apis = 2 ∧ report.isValid = true ∧
      report.errors = [] ∧
      report.warnings = ["return (reserved word) cannot be used as model name. " ++
        "Renamed to model_return\n  --> models.return"] ∧
      report.infos = ["type (reserved word) escaped to _type\n  --> models.return.type"] ∧
      (∃ d ∈ plan.diagnostics, d.severity = .warning ∧ d.severity ≠ .error) ∧
      ∃ named ∈ planner.naming.conversions "type" "string", ∃ d ∈ named.notes,
        d.severity = .info ∧ d.severity ≠ .error := by
  intro text find document planner plan report
  obtain ⟨hlists, hmodels, hoperations, hapis, _, hnames, hplan, _, herrors, hvalid, hrun⟩ :=
    check_accounts_for_plan planner document "doc.json"
  have hplanner : Command.planner find {} = .ok planner := by
    have hmissing : find Command.defaultSettingsFile = .missing := if_neg (by decide)
    rw [Command.planner, Command.loadSettings, hmissing]
    rfl
  have hdocument : Command.documentAt find "doc.json" = .ok document := by
    have htext : (find "doc.json").text? = some text := by decide +kernel
    have hread : Document.ofText text = .ok document := by decide +kernel
    rw [Command.documentAt, htext]
    simp only [hread]
  have hkeys : (document.operations.map fun o => Naming.tagKey o.tag).toFinset.card = 2 := by
    decide +kernel
  have hdiagnostics : plan.diagnostics =
      [{ severity := .warning, phase := "naming",
         message := "return (reserved word) cannot be used as model name. Renamed to model_return",
         location := some "models.return" },
       { severity := .info, phase := "naming", message := "type (reserved word) escaped to _type",
         location := some "models.return.type" }] := by
    rw [diagnostics_plan]
    decide
  have hwarnings := hlists.warnings
  have hinfos := hlists.infos
  obtain ⟨d, hd, hwarning⟩ : ∃ d ∈ plan.diagnostics, d.severity = .warning := by
    rw [hdiagnostics]
    exact ⟨_, List.mem_cons_self, rfl⟩
  rw [hdiagnostics] at hwarnings hinfos
  obtain ⟨named, hnamed, note, hnote, hinfo⟩ :
      ∃ named ∈ planner.naming.conversions "type" "string",
        ∃ note ∈ named.notes, note.severity = .info := by
    decide +kernel
  exact ⟨hplanner, hdocument, hrun find {} hplanner hdocument, hmodels, hoperations,
    hapis.trans hkeys, hvalid, herrors, hwarnings, hinfos, ⟨d, hd, hwarning, hplan d hd⟩,
    named, hnamed, note, hnote, hinfo, hnames "type" "string" named hnamed note hnote⟩

end CratePlan
