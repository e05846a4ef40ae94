import CratePlan.Identifier.Keyword
import CratePlan.Proofs.Components

/-! Which interfaces of a plan share their files. Interfaces are told apart by the keys of their
tags, and the names of their types and of their documentation tell them apart as well. Source files
are named in snake case, which forgets case, so keys that spell the same words share one. The key of
untagged operations is outside of these rules: it is no Pascal case. -/

namespace CratePlan

open Identifier

/-- Two names have the same letters up to case, and their words start at the same places. -/
def SameWords (a b : String) : Prop :=
  asciiLower a = asciiLower b ∧ wordMarks none a.toList = wordMarks none b.toList

theorem snakeCase_eq_iff {a b : String} (ha : Spelled Char.isAlphanum a)
    (hb : Spelled Char.isAlphanum b) : snakeCase a = snakeCase b ↔ SameWords a b := by
  rw [← String.toList_inj, toList_snakeCase (ha.mono isWordChar_of_isAlphanum),
    toList_snakeCase (hb.mono isWordChar_of_isAlphanum), snakePass_eq_iff ha hb, SameWords,
    asciiLower, asciiLower, String.ofList_inj]

namespace Output

/-- Files of one folder and one extension are told apart by their stems. -/
theorem join_stem_eq_iff {root folder extension a b : String} (h : folder ≠ "") :
    join root (folder ++ a ++ extension) = join root (folder ++ b ++ extension) ↔ a = b := by
  rw [String.append_assoc, String.append_assoc, join_append h, join_append h,
    String.append_right_inj, String.append_left_inj]

end Output

namespace Naming

/-- The one pair of keys that give interfaces the same type: that of untagged operations, and its
capitalized form, which is the key of tags such as `default`. -/
def IsDefaultPair (a b : String) : Prop :=
  a = untagged ∧ b = "Default" ∨ a = "Default" ∧ b = untagged

theorem apiStem_eq_iff {a b : String} (ha : Spelled Char.isAlphanum a)
    (hb : Spelled Char.isAlphanum b) : apiStem a = apiStem b ↔ SameWords a b := by
  rw [apiStem, apiStem, sanitize_of_spelled (ha.mono isWordChar_of_isAlphanum),
    sanitize_of_spelled (hb.mono isWordChar_of_isAlphanum), String.append_left_inj,
    snakeCase_eq_iff ha hb]

/-- A key other than that of untagged operations starts with a capital or a digit. -/
theorem head_tagKey_not_isLower {tag : Option String} (h : tagKey tag ≠ untagged) :
    ∀ c ∈ (tagKey tag).toList.head?, c.isLower = false := by
  rw [tagKey_eq] at h ⊢
  split_ifs at h ⊢
  · exact absurd rfl h
  · rw [String.toList_ofList]
    exact head_pascalBody_not_isLower (spelled_sanitize _)

theorem apiName_tagKey {tag : Option String} (h : tagKey tag ≠ untagged) :
    apiName (tagKey tag) = tagKey tag ++ "Api" := by
  have hkey := tagKey_written tag
  have hhead := head_tagKey_not_isLower h
  rw [apiName_of_alphanum hkey]
  suffices hbody : pascalBody true (tagKey tag).toList = (tagKey tag).toList by
    rw [hbody, String.ofList_toList]
  obtain ⟨c, rest, hcs⟩ := List.exists_cons_of_ne_nil hkey.toList_ne_nil
  have halnum : ∀ x ∈ c :: rest, x.isAlphanum := hcs ▸ hkey.spelled
  have hunderscore : ∀ x ∈ c :: rest, x ≠ '_' := by
    rintro x hx rfl
    exact absurd (halnum '_' hx) (by decide)
  rw [hcs] at hhead ⊢
  rw [pascalBody, if_neg (hunderscore c List.mem_cons_self), if_pos rfl,
    upperChar_of_wordChar (isWordChar_of_isAlphanum c (halnum c List.mem_cons_self)),
    toUpper_of_not_isLower (halnum c List.mem_cons_self) (hhead c rfl),
    pascalBody_of_no_underscore fun hmem => hunderscore '_' (List.mem_cons_of_mem c hmem) rfl]
  rfl

theorem apiName_untagged : apiName untagged = "Default" ++ "Api" := by
  decide

theorem apiName_tagKey_ne {s t : Option String} (hne : tagKey s ≠ tagKey t)
    (hpair : ¬IsDefaultPair (tagKey s) (tagKey t)) :
    apiName (tagKey s) ≠ apiName (tagKey t) := by
  intro heq
  by_cases hs : tagKey s = untagged
  · have ht : tagKey t ≠ untagged := fun ht => hne (hs.trans ht.symm)
    rw [apiName_tagKey ht, hs, apiName_untagged, String.append_left_inj] at heq
    exact hpair (Or.inl ⟨hs, heq.symm⟩)
  · rw [apiName_tagKey hs] at heq
    by_cases ht : tagKey t = untagged
    · rw [ht, apiName_untagged, String.append_left_inj] at heq
      exact hpair (Or.inr ⟨heq, ht⟩)
    · rw [apiName_tagKey ht, String.append_left_inj] at heq
      exact hne heq

end Naming

open Naming in
/-- Two interfaces of a plan, apart from those of the default pair, differ in the names of their
types and in the paths of their documentation, and they share the path of their source file if and
only if their keys spell the same words. It makes no difference whether the paths are compared as texts
or as places. -/
theorem interfaces_share_source_iff (planner : Planner) (document : Document) :
    (planner.plan document).apis.Pairwise fun a b => ¬IsDefaultPair a.tag b.tag →
      a.className ≠ b.className ∧ a.docPath ≠ b.docPath ∧
        (a.path = b.path ↔ SameWords a.tag b.tag) ∧
        Output.samePlace a.docPath b.docPath = false ∧
        (Output.samePlace a.path b.path = true ↔ SameWords a.tag b.tag) := by
  have hgroups := planner.naming.isGrouping_planApis document.operations planner.layout
  have htags := List.pairwise_map.mp hgroups.keys_nodup
  refine htags.imp_of_mem fun {a b} ha hb hne hpair => ?_
  obtain ⟨o, _, rfl⟩ := planner.naming.exists_of_mem_planApis _ _ ha
  obtain ⟨u, _, rfl⟩ := planner.naming.exists_of_mem_planApis _ _ hb
  simp only [planApi, apiDocStem] at hne hpair ⊢
  have hname := apiName_tagKey_ne hne hpair
  have ho := tagKey_written o.tag
  have hu := tagKey_written u.tag
  have hoPage := (apiName_written ho).mono isWordChar_of_isAlphanum
  have huPage := (apiName_written hu).mono isWordChar_of_isAlphanum
  have hoStem := (apiStem_written (tagKey o.tag)).mono isWordChar_of_isStemChar
  have huStem := (apiStem_written (tagKey u.tag)).mono isWordChar_of_isStemChar
  have hpages : Output.IsPlain "docs" := by decide
  have hsources : Output.IsPlain "src/apis" := by decide
  have hshared := apiStem_eq_iff ho.spelled hu.spelled
  rw [planner.layout.apiDocFile_eq hoPage, planner.layout.apiDocFile_eq huPage,
    planner.layout.apiFile_eq hoStem, planner.layout.apiFile_eq huStem]
  refine ⟨hname, (Output.join_stem_eq_iff (by decide)).not.mpr hname,
    (Output.join_stem_eq_iff (by decide)).trans hshared, ?_, ?_⟩
  · rw [← Bool.not_eq_true]
    exact (Output.samePlace_stem_iff hpages rfl (by decide) hoPage huPage).not.mpr hname
  · exact (Output.samePlace_stem_iff hsources rfl (by decide) hoStem huStem).trans hshared

/-- The tags `pet` and `PET` give two interfaces that share their source file and nothing else. -/
theorem interfaces_share_source_of_pet :
    let operation (tag : String) : Operation := { id := "list", method := "GET", tag := some tag }
    let document : Document := { operations := ["pet", "PET"].map operation }
    let apis := ((Planner.ofSettings {}).plan document).apis
    apis.map ApiPlan.tag = ["Pet", "PET"] ∧ apis.Pairwise fun a b =>
      ¬Naming.IsDefaultPair a.tag b.tag ∧ SameWords a.tag b.tag ∧
        a.className ≠ b.className ∧ a.docPath ≠ b.docPath ∧ a.path = b.path ∧
        Output.samePlace a.docPath b.docPath = false ∧
        Output.samePlace a.path b.path = true := by
  intro operation document apis
  have hmap : apis.map ApiPlan.tag = ["Pet", "PET"] := by decide +kernel
  have htags : apis.Pairwise fun a b =>
      ¬Naming.IsDefaultPair a.tag b.tag ∧ SameWords a.tag b.tag := by
    rw [← List.pairwise_map (R := fun a b => ¬Naming.IsDefaultPair a b ∧ SameWords a b), hmap,
      List.pairwise_pair]
    exact ⟨by rintro (⟨h, _⟩ | ⟨h, _⟩) <;> exact absurd h (by decide), by decide, by decide⟩
  refine ⟨hmap, htags.imp₂ ?_ (interfaces_share_source_iff (Planner.ofSettings {}) document)⟩
  rintro a b ⟨hpair, hwords⟩ hshare
  obtain ⟨hclass, hpage, hpath, hpagePlace, hplace⟩ := hshare hpair
  exact ⟨hpair, hwords, hclass, hpage, hpath.mpr hwords, hpagePlace, hplace.mpr hwords⟩

/-- Four tags give four interfaces, but `pet` and `PET` share a source file, and an operation without
a tag shares everything with one that is tagged `default`. -/
theorem interfaces_overlap :
    let operation (tag : Option String) : Operation := { id := "list", method := "GET", tag }
    let document : Document :=
      { operations := [some "pet", some "PET", none, some "default"].map operation }
    let apis := ((Planner.ofSettings { outputFolder := "out" }).plan document).apis
    apis.map ApiPlan.tag = ["Pet", "PET", "default", "Default"] ∧
      apis.map ApiPlan.className = ["PetApi", "PETApi", "DefaultApi", "DefaultApi"] ∧
      apis.map ApiPlan.path = ["out/src/apis/pet_api.rs", "out/src/apis/pet_api.rs",
        "out/src/apis/default_api.rs", "out/src/apis/default_api.rs"] ∧
      ¬apis.Pairwise fun a b =>
        a.className ≠ b.className ∧ a.path ≠ b.path ∧ a.docPath ≠ b.docPath := by
  decide +kernel

end CratePlan
