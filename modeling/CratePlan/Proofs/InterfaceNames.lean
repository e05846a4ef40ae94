import CratePlan.Proofs.DocumentationPages
import CratePlan.Proofs.TypeName

/-! The names of interfaces as the compiler reads them. A tag leaves letters and digits alone in the
key of its interface, and what is added to the key for the type and for the source file makes a keyword
of none. But nothing guards against a digit as it does for models and methods: an interface whose tag
starts with a digit, underscores in front apart, has a type and a source file that cannot be named. -/

namespace CratePlan

open Identifier

/-- Word characters that make up no keyword are a legal name unless they start with a digit. -/
theorem isLegal_iff_of_notMem_keywords {name : String} (hname : Written isWordChar name)
    (hkeyword : name ∉ keywords) : IsLegal name ↔ startsWithDigit name = false :=
  ⟨IsLegal.no_digit, fun hdigit => ⟨hname, hdigit, hkeyword⟩⟩

namespace Naming

/-- A key starts with a digit exactly if the sanitized tag does, underscores in front apart. -/
theorem startsWithDigit_tagKey (tag : Option String) :
    startsWithDigit (tagKey tag) = startsWithDigit (withoutFront (sanitize (tag.getD ""))) := by
  have hclean := spelled_sanitize (tag.getD "")
  rw [tagKey_eq]
  generalize sanitize (tag.getD "") = clean at hclean ⊢
  by_cases hempty : clean = ""
  · subst hempty
    decide
  · rw [← startsWithDigit_pascalCase ⟨hclean, hempty⟩, pascalCase, pascalChars_eq_append,
      String.ofList_append]
    by_cases hbody : pascalBody true clean.toList = []
    · rw [if_pos hbody, hbody, trailingUnderscore]
      split_ifs <;> decide
    · have hne : String.ofList (pascalBody true clean.toList) ≠ "" :=
        (written_ofList (isAlphanum_of_mem_pascalBody hclean) hbody).ne_empty
      rw [if_neg hbody, startsWithDigit_append hne]

/-! ### Types -/

theorem append_api_notMem_keywords (word : String) : word ++ "Api" ∉ keywords := by
  have hcapital : ∀ keyword ∈ keywords, 'A' ∉ keyword.toList := by
    decide
  intro hmem
  refine hcapital _ hmem ?_
  rw [String.toList_append]
  exact List.mem_append_right _ List.mem_cons_self

theorem startsWithDigit_apiName_tagKey (tag : Option String) :
    startsWithDigit (apiName (tagKey tag)) = startsWithDigit (tagKey tag) := by
  rw [apiName_tagKey_eq]
  unfold apiWord
  split_ifs with huntagged
  · rw [huntagged]
    decide
  · exact startsWithDigit_append (tagKey_written tag).ne_empty "Api"

/-! ### Source files -/

theorem apiStem_notMem_keywords (raw : String) : apiStem raw ∉ keywords := by
  have hunderscore : '_' ∈ (apiStem raw).toList := by
    rw [apiStem, String.toList_append]
    exact List.mem_append_right _ List.mem_cons_self
  exact notMem_keywords_of_not_isKeyword (isKeyword_of_underscore hunderscore)

theorem startsWithDigit_apiStem {key : String} (h : Written Char.isAlphanum key) :
    startsWithDigit (apiStem key) = startsWithDigit key := by
  have hword : Written isWordChar key := h.mono isWordChar_of_isAlphanum
  rw [apiStem, sanitize_of_spelled hword.spelled, startsWithDigit_append hword.snakeCase.ne_empty,
    startsWithDigit_snakeCase hword.spelled]

end Naming

open Naming in
/-- The type and the source file of an interface have names that are not empty, made of word
characters and no keywords. They are legal unless the tag that the interface is named for starts with
a digit once it is sanitized, underscores in front apart. -/
theorem interface_isLegal_iff (planner : Planner) (document : Document) :
    ∀ api ∈ (planner.plan document).apis,
      Written isWordChar api.className ∧ api.className ∉ keywords ∧
        Written isWordChar api.stem ∧ api.stem ∉ keywords ∧
        ∃ operation ∈ document.operations,
          let tag := withoutFront (sanitize (operation.tag.getD ""))
          api.tag = tagKey operation.tag ∧
            (IsLegal api.className ↔ startsWithDigit tag = false) ∧
            (IsLegal api.stem ↔ startsWithDigit tag = false) := by
  intro api hapi
  obtain ⟨operation, hoperation, rfl⟩ := planner.naming.exists_of_mem_planApis _ _ hapi
  simp only [planApi]
  have hkey := tagKey_written operation.tag
  have hname := (apiName_written hkey).mono isWordChar_of_isAlphanum
  have hnameKeyword : apiName (tagKey operation.tag) ∉ keywords := by
    rw [apiName_tagKey_eq]
    exact append_api_notMem_keywords _
  have hstem := (apiStem_written (tagKey operation.tag)).mono isWordChar_of_isStemChar
  have hstemKeyword := apiStem_notMem_keywords (tagKey operation.tag)
  refine ⟨hname, hnameKeyword, hstem, hstemKeyword, operation, hoperation, rfl, ?_, ?_⟩
  · rw [isLegal_iff_of_notMem_keywords hname hnameKeyword, startsWithDigit_apiName_tagKey,
      startsWithDigit_tagKey]
  · rw [isLegal_iff_of_notMem_keywords hstem hstemKeyword, startsWithDigit_apiStem hkey,
      startsWithDigit_tagKey]

/-- The tag `self` gives an interface with legal names. -/
theorem interface_isLegal_of_self :
    let operation : Operation := { id := "list", method := "GET", tag := some "self" }
    ∃ api ∈ ((Planner.ofSettings {}).plan ⟨[], [operation]⟩).apis,
      api.className = "SelfApi" ∧ api.stem = "self_api" ∧ IsLegal api.className ∧
        IsLegal api.stem := by
  intro operation
  obtain ⟨api, hapi, hname, hstem⟩ : ∃ api ∈ ((Planner.ofSettings {}).plan ⟨[], [operation]⟩).apis,
      api.className = "SelfApi" ∧ api.stem = "self_api" := by
    decide +kernel
  obtain ⟨_, _, _, _, source, hsource, _, hnameLegal, hstemLegal⟩ :=
    interface_isLegal_iff (Planner.ofSettings {}) ⟨[], [operation]⟩ api hapi
  obtain rfl : source = operation := List.mem_singleton.mp hsource
  have hdigit : startsWithDigit (withoutFront (sanitize (operation.tag.getD ""))) = false := by
    decide +kernel
  exact ⟨api, hapi, hname, hstem, hnameLegal.mpr hdigit, hstemLegal.mpr hdigit⟩

/-- The tag `2fa` gives an interface whose type and source file start with a digit. -/
theorem interface_of_digit_not_isLegal :
    let operation : Operation := { id := "verify", method := "POST", tag := some "2fa" }
    let apis := ((Planner.ofSettings {}).plan ⟨[], [operation]⟩).apis
    apis.map ApiPlan.className = ["2faApi"] ∧ ¬IsLegal "2faApi" ∧
      apis.map ApiPlan.stem = ["2fa_api"] ∧ ¬IsLegal "2fa_api" := by
  refine ⟨by decide +kernel, fun h => ?_, by decide +kernel, fun h => ?_⟩
  · exact absurd h.no_digit (by decide)
  · exact absurd h.no_digit (by decide)

end CratePlan
