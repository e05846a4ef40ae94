import CratePlan.Proofs.Components
import CratePlan.Proofs.InterfaceFiles

/-! Where the documentation of models meets that of interfaces. Both kinds of pages lie in one folder
and are named for the type that they describe, so a model and an interface share a page exactly if
their types have one name. Only a model whose name ends in `Api` can run into that. -/

namespace CratePlan

open Identifier

namespace Output

/-- Pages of documentation are told apart by the names of their files. -/
theorem samePlace_docFile_iff (layout : Layout) {a b : String} (ha : Written isWordChar a)
    (hb : Written isWordChar b) :
    samePlace (layout.modelDocFile a) (layout.apiDocFile b) = true ↔ a = b := by
  have hfolder : IsPlain "docs" := by decide
  rw [layout.modelDocFile_eq ha, layout.apiDocFile_eq hb]
  exact samePlace_stem_iff hfolder rfl (by decide) ha hb

end Output

namespace Naming

/-- The word that the type of an interface is named for: its key, or `Default` for the interface of
untagged operations. -/
def apiWord (key : String) : String :=
  if key = untagged then "Default" else key

theorem apiName_tagKey_eq (tag : Option String) :
    apiName (tagKey tag) = apiWord (tagKey tag) ++ "Api" := by
  unfold apiWord
  split_ifs with huntagged
  · rw [huntagged, apiName_untagged]
  · exact apiName_tagKey huntagged

end Naming

/-- The page of a model is the page of an interface exactly if the name of the model's type is that of
the interface's type, which is the word of the interface followed by `Api`; it makes no difference
whether the paths are compared as texts or as places. -/
theorem pages_meet_iff (planner : Planner) (document : Document) :
    let plan := planner.plan document
    ∀ model ∈ plan.models, ∀ api ∈ plan.apis,
      api.className = Naming.apiWord api.tag ++ "Api" ∧
        (model.docPath = api.docPath ↔ model.className = api.className) ∧
        (Output.samePlace model.docPath api.docPath = true ↔ model.className = api.className) := by
  intro plan model hmodel api hapi
  obtain ⟨source, _, rfl⟩ := List.mem_map.mp hmodel
  obtain ⟨o, _, rfl⟩ := planner.naming.exists_of_mem_planApis _ _ hapi
  have hpage := planner.naming.modelName_written source.name
  have hapiPage :=
    (Naming.apiName_written (Naming.tagKey_written o.tag)).mono isWordChar_of_isAlphanum
  simp only [Naming.planModel, Naming.planApi, Naming.modelDocStem, Naming.apiDocStem]
  refine ⟨Naming.apiName_tagKey_eq o.tag, ?_, Output.samePlace_docFile_iff _ hpage hapiPage⟩
  rw [planner.layout.modelDocFile_eq hpage, planner.layout.apiDocFile_eq hapiPage,
    Output.join_stem_eq_iff (by decide)]

/-- The model `PetApi` meets the interface of the tag `pet`, and the model `Pet` does not. -/
theorem pages_meet_of_petApi :
    let document : Document :=
      ⟨[{ name := "PetApi" }, { name := "Pet" }], [{ id := "list", method := "GET", tag := some "pet" }]⟩
    let plan := (Planner.ofSettings { outputFolder := "out" }).plan document
    ∃ petApi ∈ plan.models, ∃ pet ∈ plan.models, ∃ api ∈ plan.apis,
      petApi.className = "PetApi" ∧ pet.className = "Pet" ∧ api.tag = "Pet" ∧
        petApi.docPath = api.docPath ∧ Output.samePlace pet.docPath api.docPath = false := by
  intro document plan
  have hmeet := pages_meet_iff (Planner.ofSettings { outputFolder := "out" }) document
  obtain ⟨petApi, hpetApi, hpetApiName⟩ :
      ∃ model ∈ plan.models, model.className = "PetApi" := by
    decide +kernel
  obtain ⟨pet, hpet, hpetName⟩ : ∃ model ∈ plan.models, model.className = "Pet" := by
    decide +kernel
  obtain ⟨api, hapi, htag⟩ : ∃ api ∈ plan.apis, api.tag = "Pet" := by decide +kernel
  obtain ⟨hname, hshared, _⟩ := hmeet petApi hpetApi api hapi
  obtain ⟨_, _, happart⟩ := hmeet pet hpet api hapi
  have hapiName : api.className = "PetApi" := by
    rw [hname, htag]
    decide
  refine ⟨petApi, hpetApi, pet, hpet, api, hapi, hpetApiName, hpetName, htag, ?_, ?_⟩
  · rw [hshared, hpetApiName, hapiName]
  · rw [← Bool.not_eq_true, happart, hpetName, hapiName]
    decide

/-- One file documents the model `PetApi` and the interface of the tag `pet`. -/
theorem pages_meet :
    let document : Document :=
      ⟨[{ name := "PetApi" }], [{ id := "list", method := "GET", tag := some "pet" }]⟩
    let plan := (Planner.ofSettings { outputFolder := "out" }).plan document
    plan.models.map ModelPlan.docPath = ["out/docs/PetApi.md"] ∧
      plan.apis.map ApiPlan.docPath = ["out/docs/PetApi.md"] ∧
      ¬∀ model ∈ plan.models, ∀ api ∈ plan.apis, model.docPath ≠ api.docPath := by
  decide +kernel

end CratePlan
