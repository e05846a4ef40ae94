import CratePlan.Proofs.Grouping
import CratePlan.Proofs.Spelling

/-! The files of a plan lie below its root. A stem that is made of word characters can neither
replace the folder that it is joined to nor climb out of it, so the whole path is the root joined to
a fixed folder, the stem and an extension. -/

namespace CratePlan

open Identifier

namespace Output

theorem join_eq (base path : String) :
    join base path =
      if path.toList.head? = some '/' then path
      else if base = "" then path
      else if base.toList.getLast? = some '/' then base ++ path
      else base ++ "/" ++ path := by
  have hempty : base = "" ↔ base.toList.getLast? = none := by
    rw [List.getLast?_eq_none_iff, ← String.toList_inj]
    rfl
  unfold join
  split <;> simp_all

/-- What follows the first part of a path plays no role in joining. -/
theorem join_append {base path : String} (h : path ≠ "") (more : String) :
    join base (path ++ more) = join base path ++ more := by
  have hhead : (path ++ more).toList.head? = path.toList.head? := by
    rw [String.toList_append]
    exact List.head?_append_of_ne_nil _ fun hnil => h (String.toList_inj.mp hnil)
  rw [join_eq, join_eq, hhead]
  split_ifs
  · rfl
  · rfl
  · exact String.append_assoc.symm
  · exact String.append_assoc.symm

theorem getLast?_join {base path : String} (h : path ≠ "") :
    (join base path).toList.getLast? = path.toList.getLast? := by
  have hne : path.toList ≠ [] := fun hnil => h (String.toList_inj.mp hnil)
  rw [join_eq]
  split_ifs
  · rfl
  · rfl
  · rw [String.toList_append, List.getLast?_append_of_ne_nil _ hne]
  · rw [String.toList_append, List.getLast?_append_of_ne_nil _ hne]

/-- A file in a relative folder below a root, joined one after the other. -/
theorem join_join {root folder file : String} (hne : folder ≠ "")
    (hfolder : folder.toList.getLast? ≠ some '/') (hfile : file.toList.head? ≠ some '/') :
    join (join root folder) file = join root (folder ++ "/" ++ file) := by
  have hend : (join root folder).toList.getLast? = folder.toList.getLast? := getLast?_join hne
  have hbase : join root folder ≠ "" := by
    intro hempty
    rw [hempty] at hend
    exact hne (String.toList_inj.mp (List.getLast?_eq_none_iff.mp hend.symm))
  calc join (join root folder) file
      = join root folder ++ "/" ++ file := by
        rw [join_eq, if_neg hfile, if_neg hbase, hend, if_neg hfolder]
    _ = join root (folder ++ "/" ++ file) := by
        rw [String.append_assoc, ← join_append hne, ← String.append_assoc]

theorem head?_file_ne {stem : String} (h : Written isWordChar stem) (extension : String) :
    (stem ++ extension).toList.head? ≠ some '/' := by
  rw [String.toList_append, List.head?_append_of_ne_nil _ h.toList_ne_nil]
  intro hhead
  exact absurd (h.spelled '/' (List.mem_of_head? hhead)) (by decide)

namespace Layout

variable (layout : Layout) {stem : String} (h : Written isWordChar stem)

include h

theorem modelFile_eq :
    layout.modelFile stem = join layout.root ("src/models/" ++ stem ++ ".rs") := by
  have hfolder : joinAll ["src", "models"] = "src/models" := by decide
  rw [modelFile, modelFolder, hfolder, join_join (by decide) (by decide)
    (head?_file_ne h ".rs"), ← String.append_assoc]
  rfl

theorem modelDocFile_eq :
    layout.modelDocFile stem = join layout.root ("docs/" ++ stem ++ ".md") := by
  rw [modelDocFile, modelDocFolder, join_join (by decide) (by decide)
    (head?_file_ne h ".md"), ← String.append_assoc]
  rfl

theorem apiFile_eq :
    layout.apiFile stem = join layout.root ("src/apis/" ++ stem ++ ".rs") := by
  have hfolder : joinAll ["src", "apis"] = "src/apis" := by decide
  rw [apiFile, apiFolder, hfolder, join_join (by decide) (by decide)
    (head?_file_ne h ".rs"), ← String.append_assoc]
  rfl

theorem apiDocFile_eq :
    layout.apiDocFile stem = join layout.root ("docs/" ++ stem ++ ".md") :=
  layout.modelDocFile_eq h

end Layout

end Output

/-- No document and no setting leads a file out of the output tree. The path of a model is the root
joined to `src/models`, a stem of small letters, digits and underscores and `.rs`, and the path of
its documentation the root joined to `docs`, a stem of word characters and `.md`; the paths of an
interface are of the same kind, with stems that end in `_api` and `Api`. -/
theorem plan_stays_below_root (planner : Planner) (document : Document) :
    (∀ model ∈ (planner.plan document).models,
      Written isStemChar model.stem ∧
      model.path = Output.join planner.layout.root ("src/models/" ++ model.stem ++ ".rs") ∧
      Written isWordChar model.docStem ∧
      model.docPath = Output.join planner.layout.root ("docs/" ++ model.docStem ++ ".md")) ∧
    ∀ api ∈ (planner.plan document).apis,
      (Written isStemChar api.stem ∧ (∃ front, api.stem = front ++ "_api") ∧
        api.path = Output.join planner.layout.root ("src/apis/" ++ api.stem ++ ".rs")) ∧
      Written Char.isAlphanum api.docStem ∧ (∃ front, api.docStem = front ++ "Api") ∧
        api.docPath = Output.join planner.layout.root ("docs/" ++ api.docStem ++ ".md") := by
  refine ⟨fun model hmodel => ?_, fun api hapi => ?_⟩
  · obtain ⟨source, _, rfl⟩ := List.mem_map.mp hmodel
    have hstem := planner.naming.modelStem_written source.name
    have hdoc := planner.naming.modelName_written source.name
    have hfile := planner.layout.modelFile_eq (hstem.mono isWordChar_of_isStemChar)
    have hdocFile := planner.layout.modelDocFile_eq hdoc
    simp only [Naming.planModel, Naming.modelDocStem]
    exact ⟨hstem, hfile, hdoc, hdocFile⟩
  · obtain ⟨o, _, rfl⟩ := planner.naming.exists_of_mem_planApis _ _ hapi
    have hstem := Naming.apiStem_written (Naming.tagKey o.tag)
    have hkey := Naming.tagKey_written o.tag
    have hdoc := Naming.apiName_written hkey
    have hfile := planner.layout.apiFile_eq (hstem.mono isWordChar_of_isStemChar)
    have hdocFile := planner.layout.apiDocFile_eq (hdoc.mono isWordChar_of_isAlphanum)
    simp only [Naming.planApi, Naming.apiDocStem]
    exact ⟨⟨hstem, ⟨_, Naming.apiStem.eq_def _⟩, hfile⟩,
      hdoc, ⟨_, Naming.apiName_of_alphanum hkey⟩, hdocFile⟩

/-- Dots and slashes in a prefix, in the name of a model and in a tag leave no trace in the paths. -/
theorem plan_stays_below_root_of_dots :
    let planner := Planner.ofSettings { modelPrefix := "../", outputFolder := "out" }
    let document : Document :=
      ⟨[{ name := "etc/passwd" }], [{ id := "list", method := "GET", tag := some "../../etc" }]⟩
    (∃ model ∈ (planner.plan document).models,
      model.path = "out/src/models/___etcpasswd.rs" ∧ model.docPath = "out/docs/Etcpasswd.md") ∧
    ∃ api ∈ (planner.plan document).apis,
      api.path = "out/src/apis/etc_api.rs" ∧ api.docPath = "out/docs/EtcApi.md" := by
  intro planner document
  obtain ⟨hmodels, hapis⟩ := plan_stays_below_root planner document
  obtain ⟨model, hmodel, hstem, hpage⟩ : ∃ model ∈ (planner.plan document).models,
      model.stem = "___etcpasswd" ∧ model.docStem = "Etcpasswd" := by
    decide +kernel
  obtain ⟨api, hapi, hapiStem, hapiPage⟩ : ∃ api ∈ (planner.plan document).apis,
      api.stem = "etc_api" ∧ api.docStem = "EtcApi" := by
    decide +kernel
  obtain ⟨_, hpath, _, hdocPath⟩ := hmodels model hmodel
  obtain ⟨⟨_, _, hapiPath⟩, _, _, hapiDocPath⟩ := hapis api hapi
  rw [hstem] at hpath
  rw [hpage] at hdocPath
  rw [hapiStem] at hapiPath
  rw [hapiPage] at hapiDocPath
  exact ⟨⟨model, hmodel, hpath.trans (by decide), hdocPath.trans (by decide)⟩,
    api, hapi, hapiPath.trans (by decide), hapiDocPath.trans (by decide)⟩

end CratePlan
