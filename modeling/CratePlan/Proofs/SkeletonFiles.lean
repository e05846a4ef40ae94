import CratePlan.Proofs.Components
import CratePlan.Proofs.FreeName

/-! The files of the skeleton stay as they are. The sources of models share a folder with one of them,
`mod.rs`, and no free stem reads `mod`; the sources of interfaces share a folder with three, none of
which has the underscore that the stem of an interface always has; and no file of the skeleton lies
among the documentation. -/

namespace CratePlan

open Identifier

namespace Output

/-- The steps from the root to the files of a skeleton. -/
def Skeleton.places (skeleton : Skeleton) : List (List String) :=
  skeleton.distinct.map fun file => pieces file.path

theorem Skeleton.places_client :
    Skeleton.client.places =
      [["README.md"], ["git_push.sh"], [".gitignore"], ["src", "apis", "configuration.rs"],
        [".travis.yml"], ["src", "apis", "client.rs"], ["src", "apis", "mod.rs"],
        ["src", "models", "mod.rs"], ["src", "lib.rs"], ["Cargo.toml"]] := by
  decide

/-- A plain path that is none of the places of a skeleton is not in the way of its files. -/
theorem Skeleton.samePlace_eq_false {skeleton : Skeleton}
    (hskeleton : ∀ place ∈ skeleton.places, ∀ piece ∈ place, counts piece) {root path : String}
    (hpath : IsPlain path) (hnew : pieces path ∉ skeleton.places) :
    ∀ file ∈ skeleton.placeUnder root, samePlace (join root path) file.path = false := by
  intro file hfile
  obtain ⟨source, hsource, rfl⟩ := List.mem_map.mp hfile
  have hplace : pieces source.path ∈ skeleton.places := List.mem_map_of_mem hsource
  rw [← Bool.not_eq_true, samePlace_join_iff hpath (hskeleton _ hplace)]
  exact fun heq => hnew (heq ▸ hplace)

/-- A file in a folder is not in the way of the client's skeleton if it is none of its files. -/
theorem Skeleton.samePlace_client_eq_false (root folder : String) {stem extension : String}
    (hfolder : IsPlain folder) (h : Written isWordChar stem) (hextension : '/' ∉ extension.toList)
    (hnew : pieces folder ++ [stem ++ extension] ∉ Skeleton.client.places) :
    ∀ file ∈ Skeleton.client.placeUnder root,
      samePlace (join root (folder ++ "/" ++ (stem ++ extension))) file.path = false := by
  refine Skeleton.samePlace_eq_false ?_ (isPlain_file hfolder h hextension) ?_
  · rw [Skeleton.places_client]
    decide
  · rwa [pieces_file folder h hextension]

namespace Layout

variable (layout : Layout) {stem : String} (h : Written isWordChar stem)

include h

/-- A model whose stem is not `mod` keeps clear of the skeleton. -/
theorem modelFile_spares_client (hmod : stem ≠ "mod") :
    ∀ file ∈ Skeleton.client.placeUnder layout.root,
      samePlace (layout.modelFile stem) file.path = false := by
  rw [layout.modelFile_eq h, String.append_assoc]
  refine Skeleton.samePlace_client_eq_false layout.root "src/models" (by decide) h (by decide) ?_
  have hfolder : pieces "src/models" = ["src", "models"] := by decide
  have hname : stem ++ ".rs" ≠ "mod" ++ ".rs" := fun heq => hmod ((String.append_left_inj _).mp heq)
  rw [Skeleton.places_client, hfolder]
  simpa using hname

/-- An interface whose stem has an underscore keeps clear of the skeleton. -/
theorem apiFile_spares_client (hunderscore : '_' ∈ stem.toList) :
    ∀ file ∈ Skeleton.client.placeUnder layout.root,
      samePlace (layout.apiFile stem) file.path = false := by
  rw [layout.apiFile_eq h, String.append_assoc]
  refine Skeleton.samePlace_client_eq_false layout.root "src/apis" (by decide) h (by decide) ?_
  have hfolder : pieces "src/apis" = ["src", "apis"] := by decide
  have hname (name : String) (hnone : '_' ∉ name.toList) : stem ++ ".rs" ≠ name ++ ".rs" :=
    fun heq => hnone ((String.append_left_inj _).mp heq ▸ hunderscore)
  have hconfiguration := hname "configuration" (by decide)
  have hclient := hname "client" (by decide)
  have hmod := hname "mod" (by decide)
  rw [Skeleton.places_client, hfolder]
  simpa using ⟨hconfiguration, hclient, hmod⟩

theorem modelDocFile_spares_client :
    ∀ file ∈ Skeleton.client.placeUnder layout.root,
      samePlace (layout.modelDocFile stem) file.path = false := by
  rw [layout.modelDocFile_eq h, String.append_assoc]
  refine Skeleton.samePlace_client_eq_false layout.root "docs" (by decide) h (by decide) ?_
  have hfolder : pieces "docs" = ["docs"] := by decide
  rw [Skeleton.places_client, hfolder]
  simp

end Layout

end Output

namespace Planner

theorem supportingFiles_plan (planner : Planner) (document : Document) :
    (planner.plan document).supportingFiles = planner.skeleton.placeUnder planner.layout.root :=
  rfl

theorem skeleton_ofSettings (settings : Settings) : (ofSettings settings).skeleton = .client :=
  rfl

end Planner

/-- Under any settings and for any document, no file that a plan has for a model or an interface, be
it source or documentation, takes the place of a file of the skeleton. -/
theorem plan_spares_skeleton (settings : Settings) (document : Document) :
    let plan := (Planner.ofSettings settings).plan document
    ∀ file ∈ plan.supportingFiles,
      (∀ model ∈ plan.models, Output.samePlace model.path file.path = false ∧
        Output.samePlace model.docPath file.path = false) ∧
      ∀ api ∈ plan.apis, Output.samePlace api.path file.path = false ∧
        Output.samePlace api.docPath file.path = false := by
  intro plan file hfile
  have hnaming := Naming.goesByKeywords_naming settings
  rw [Planner.supportingFiles_plan, Planner.skeleton_ofSettings] at hfile
  refine ⟨fun model hmodel => ?_, fun api hapi => ?_⟩
  · obtain ⟨source, _, rfl⟩ := List.mem_map.mp hmodel
    have hstem := (Naming.modelStem_isFree hnaming source.name).mono isWordChar_of_isStemChar
    have hmod : (settings.naming.modelStem source.name).name ≠ "mod" := fun heq =>
      (hstem.isLegal hnaming).no_keyword (heq ▸ by decide)
    have hdoc := settings.naming.modelName_written source.name
    simp only [Naming.planModel, Naming.modelDocStem]
    exact ⟨Output.Layout.modelFile_spares_client _ hstem.written hmod file hfile,
      Output.Layout.modelDocFile_spares_client _ hdoc file hfile⟩
  · obtain ⟨o, _, rfl⟩ := settings.naming.exists_of_mem_planApis _ _ hapi
    have hstem := (Naming.apiStem_written (Naming.tagKey o.tag)).mono isWordChar_of_isStemChar
    have hunderscore : '_' ∈ (Naming.apiStem (Naming.tagKey o.tag)).toList := by
      rw [Naming.apiStem, String.toList_append]
      exact List.mem_append_right _ (by decide)
    have hdoc := (Naming.apiName_written (Naming.tagKey_written o.tag)).mono isWordChar_of_isAlphanum
    simp only [Naming.planApi, Naming.apiDocStem]
    exact ⟨Output.Layout.apiFile_spares_client _ hstem hunderscore file hfile,
      Output.Layout.modelDocFile_spares_client _ hdoc file hfile⟩

/-- A model called `mod` and a tag `mod` give files beside those called `mod.rs`, not in their places. -/
theorem plan_spares_skeleton_of_mod :
    let document : Document :=
      ⟨[{ name := "mod" }], [{ id := "list", method := "GET", tag := some "mod" }]⟩
    let plan := (Planner.ofSettings { outputFolder := "out" }).plan document
    ∃ file ∈ plan.supportingFiles, file.path = "out/src/models/mod.rs" ∧
      (∃ model ∈ plan.models, model.path = "out/src/models/model_mod.rs" ∧
        Output.samePlace model.path file.path = false) ∧
      ∃ api ∈ plan.apis, api.path = "out/src/apis/mod_api.rs" ∧
        Output.samePlace api.path file.path = false := by
  intro document plan
  obtain ⟨file, hfile, hpath⟩ :
      ∃ file ∈ plan.supportingFiles, file.path = "out/src/models/mod.rs" := by
    decide +kernel
  obtain ⟨model, hmodel, hmodelPath⟩ :
      ∃ model ∈ plan.models, model.path = "out/src/models/model_mod.rs" := by
    decide +kernel
  obtain ⟨api, hapi, hapiPath⟩ : ∃ api ∈ plan.apis, api.path = "out/src/apis/mod_api.rs" := by
    decide +kernel
  obtain ⟨hmodels, hapis⟩ := plan_spares_skeleton { outputFolder := "out" } document file hfile
  exact ⟨file, hfile, hpath, ⟨model, hmodel, hmodelPath, (hmodels model hmodel).1⟩,
    ⟨api, hapi, hapiPath, (hapis api hapi).1⟩⟩

end CratePlan
