import CratePlan.Proofs.Renaming
import Mathlib.Data.List.TakeWhile

/-! The characters of the names that files and types get. Whatever the raw name, the configured
parts and the reserved words are, sanitizing comes first and every later step keeps to word
characters; so no name can hold a slash or a dot. -/

namespace CratePlan.Naming

open Text Identifier

/-! ### Models -/

theorem modelStem_written (naming : Naming) (raw : String) :
    Written isStemChar (naming.modelStem raw).name := by
  rw [name_modelStem]
  exact (naming.guarded_written (by decide) (naming.modelStart_written raw)).snakeCase

theorem modelName_written (naming : Naming) (raw : String) :
    Written isWordChar (naming.modelName raw).name :=
  ((modelStem_written naming raw).mono isWordChar_of_isStemChar).pascalCase

/-! ### Interfaces -/

theorem apiStem_written (raw : String) : Written isStemChar (apiStem raw) :=
  (spelled_snakeCase (spelled_sanitize raw)).append_written (by decide)

/-- Trimming underscores from Pascal case leaves its body: none stands inside. -/
theorem dropOuter_underscores {body tail : List Char} (hbody : ∀ c ∈ body, c.isAlphanum)
    (htail : tail = [] ∨ tail = ['_']) :
    dropTrailing (· = '_') ((body ++ tail).dropWhile (· = '_')) = body := by
  have hne : ∀ c ∈ body, ¬(decide (c = '_')) = true := by
    intro c hc heq
    rw [of_decide_eq_true heq] at hc
    exact absurd (hbody '_' hc) (by decide)
  have hback : body.reverse.dropWhile (· = '_') = body.reverse := by
    refine List.dropWhile_eq_self_iff.mpr fun hlen => ?_
    exact hne _ (List.mem_reverse.mp (List.getElem_mem hlen))
  cases body with
  | nil => rcases htail with rfl | rfl <;> decide
  | cons c rest =>
      have hfront : ((c :: rest) ++ tail).dropWhile (· = '_') = (c :: rest) ++ tail :=
        List.dropWhile_cons_of_neg (hne c List.mem_cons_self)
      rw [hfront, dropTrailing, List.reverse_append]
      rcases htail with rfl | rfl
      · rw [List.reverse_nil, List.nil_append, hback, List.reverse_reverse]
      · rw [List.reverse_singleton, List.singleton_append,
          List.dropWhile_cons_of_pos (by decide), hback, List.reverse_reverse]

/-- The key of a tag is its Pascal case without underscores, or the key of untagged operations. -/
theorem tagKey_eq (tag : Option String) :
    tagKey tag = if pascalBody true (sanitize (tag.getD "")).toList = [] then untagged
      else String.ofList (pascalBody true (sanitize (tag.getD "")).toList) := by
  have htail : trailingUnderscore (sanitize (tag.getD "")).toList = [] ∨
      trailingUnderscore (sanitize (tag.getD "")).toList = ['_'] := by
    unfold trailingUnderscore
    split_ifs
    · exact Or.inr rfl
    · exact Or.inl rfl
  have hbody : ∀ c ∈ pascalBody true (sanitize (tag.getD "")).toList, c.isAlphanum :=
    isAlphanum_of_mem_pascalBody (spelled_sanitize (tag.getD ""))
  have htrim := dropOuter_underscores hbody htail
  rw [tagKey, pascalCase, String.toList_ofList, pascalChars_eq_append]
  simp only [htrim, List.isEmpty_iff]

theorem tagKey_written (tag : Option String) : Written Char.isAlphanum (tagKey tag) := by
  rw [tagKey_eq]
  split_ifs with hempty
  · decide
  · exact written_ofList (isAlphanum_of_mem_pascalBody (spelled_sanitize _)) hempty

theorem apiName_of_alphanum {key : String} (h : Written Char.isAlphanum key) :
    apiName key = String.ofList (pascalBody true key.toList) ++ "Api" := by
  rw [apiName, if_neg h.ne_empty, sanitize_of_spelled (h.spelled.mono isWordChar_of_isAlphanum),
    pascalCase, pascalChars_of_alphanum h.spelled]

theorem apiName_written {key : String} (h : Written Char.isAlphanum key) :
    Written Char.isAlphanum (apiName key) := by
  rw [apiName_of_alphanum h]
  refine (spelled_ofList ?_).append_written (by decide)
  exact isAlphanum_of_mem_pascalBody fun c hc => isWordChar_of_isAlphanum c (h.spelled c hc)

end CratePlan.Naming
