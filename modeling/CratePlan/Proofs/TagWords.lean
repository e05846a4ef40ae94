import CratePlan.Proofs.Grouping
import CratePlan.Proofs.Spelling

/-! The key of a tag, word by word. Pascal case takes a name in one pass that remembers whether a
capital is due; what it writes are the words between the underscores, each with its first character
capitalized. So the key of a tag depends on its words alone, and tags with the same words are grouped
together, whichever separators they are written with. -/

namespace CratePlan

open Text Identifier

namespace Identifier

/-- The words of a name: the longest runs of characters other than underscores. -/
def wordsOf (cs : List Char) : List (List Char) :=
  (cs.splitOn '_').filter (· ≠ [])

/-- A word with its first character as a capital. Of a word of letters and digits, only a small letter
is changed. -/
def raiseFirst : List Char → List Char
  | [] => []
  | c :: rest => c.toUpper :: rest

/-- Pascal case continues the piece under way, whose first character is capitalized if a capital is
due, and capitalizes every later piece. -/
theorem pascalBody_of_splitOn {upper : Bool} {cs first : List Char} {others : List (List Char)}
    (h : ∀ c ∈ cs, isWordChar c) (hsplit : cs.splitOn '_' = first :: others) :
    pascalBody upper cs =
      (if upper then raiseFirst first else first) ++ others.flatMap raiseFirst := by
  induction cs generalizing upper first others with
  | nil =>
      cases hsplit
      cases upper <;> rfl
  | cons c rest ih =>
      rw [List.forall_mem_cons] at h
      obtain ⟨next, more, hrest⟩ := List.exists_cons_of_ne_nil (List.splitOn_ne_nil '_' rest)
      rw [List.splitOn_cons_eq_if_modifyHead, hrest] at hsplit
      by_cases hc : c = '_'
      · rw [if_pos (beq_iff_eq.mpr hc)] at hsplit
        cases hsplit
        rw [pascalBody, if_pos hc, ih h.2 hrest]
        cases upper <;> rfl
      · rw [if_neg fun heq => hc (beq_iff_eq.mp heq)] at hsplit
        cases hsplit
        rw [pascalBody, if_neg hc, ih h.2 hrest]
        cases upper with
        | false => rfl
        | true =>
            rw [if_pos rfl, upperChar_of_wordChar h.1]
            rfl

theorem flatMap_raiseFirst_filter (pieces : List (List Char)) :
    (pieces.filter (· ≠ [])).flatMap raiseFirst = pieces.flatMap raiseFirst := by
  induction pieces with
  | nil => rfl
  | cons piece rest ih =>
      cases piece with
      | nil =>
          rw [List.filter_cons_of_neg (by simp), ih]
          rfl
      | cons c more =>
          rw [List.filter_cons_of_pos (by simp), List.flatMap_cons, ih, List.flatMap_cons]

theorem pascalBody_eq_flatMap_wordsOf {cs : List Char} (h : ∀ c ∈ cs, isWordChar c) :
    pascalBody true cs = (wordsOf cs).flatMap raiseFirst := by
  obtain ⟨first, others, hsplit⟩ := List.exists_cons_of_ne_nil (List.splitOn_ne_nil '_' cs)
  rw [wordsOf, flatMap_raiseFirst_filter, hsplit, pascalBody_of_splitOn h hsplit, if_pos rfl,
    List.flatMap_cons]

theorem flatMap_raiseFirst_eq_nil_iff (cs : List Char) :
    (wordsOf cs).flatMap raiseFirst = [] ↔ wordsOf cs = [] := by
  refine ⟨fun h => List.eq_nil_iff_forall_not_mem.mpr fun word hword => ?_, fun h => by rw [h]; rfl⟩
  have hne : word ≠ [] := by simpa using (List.mem_filter.mp hword).2
  obtain ⟨c, rest, rfl⟩ := List.exists_cons_of_ne_nil hne
  exact absurd (List.flatMap_eq_nil_iff.mp h _ hword) (List.cons_ne_nil _ _)

end Identifier

namespace Naming

/-- The words of a tag, which are those of its sanitized name. -/
def tagWords (tag : Option String) : List (List Char) :=
  wordsOf (sanitize (tag.getD "")).toList

/-- The key of a tag is its words in order, each capitalized, unless the tag has none. -/
theorem tagKey_eq_words (tag : Option String) :
    tagKey tag = if tagWords tag = [] then untagged
      else String.ofList ((tagWords tag).flatMap raiseFirst) := by
  rw [tagKey_eq, pascalBody_eq_flatMap_wordsOf (spelled_sanitize (tag.getD ""))]
  simp only [flatMap_raiseFirst_eq_nil_iff]
  rfl

theorem underscore_notMem_tagKey (tag : Option String) : '_' ∉ (tagKey tag).toList := fun hmem =>
  absurd ((tagKey_written tag).spelled '_' hmem) (by decide)

theorem mem_membersOf (naming : Naming) {operations : List Operation} {o : Operation} {i : Nat}
    (h : operations[i]? = some o) :
    ⟨i, naming.planOperation o⟩ ∈ naming.membersOf operations (tagKey o.tag) := by
  have hmem : (o, i) ∈ operations.zipIdx := List.mem_zipIdx_iff_getElem?.mpr h
  exact List.mem_map.mpr ⟨(o, i), List.mem_filter.mpr ⟨hmem, decide_eq_true rfl⟩, rfl⟩

end Naming

open Naming in
/-- A tag is keyed by its words, each with its first character capitalized and nothing between them, or
by `default` if it has no words; no key has an underscore. So in every plan two operations whose tags
have the same words, whatever separates them, are in one group. -/
theorem tags_are_keyed_by_words (planner : Planner) (document : Document) :
    (∀ tag, tagKey tag = if tagWords tag = [] then "default"
      else String.ofList ((tagWords tag).flatMap raiseFirst)) ∧
    (∀ tag, '_' ∉ (tagKey tag).toList) ∧
    ∀ i j o u, document.operations[i]? = some o → document.operations[j]? = some u →
      tagWords o.tag = tagWords u.tag →
        ∃ api ∈ (planner.plan document).apis,
          ⟨i, planner.naming.planOperation o⟩ ∈ api.operations ∧
            ⟨j, planner.naming.planOperation u⟩ ∈ api.operations := by
  refine ⟨tagKey_eq_words, underscore_notMem_tagKey, fun i j o u ho hu hwords => ?_⟩
  have hkey : tagKey u.tag = tagKey o.tag := by
    rw [tagKey_eq_words, tagKey_eq_words, hwords]
  have hgroups := planner.naming.isGrouping_planApis document.operations planner.layout
  obtain ⟨api, hapi, htag⟩ := List.mem_map.mp
    ((hgroups.keys_complete (tagKey o.tag)).mpr ⟨o, List.mem_of_getElem? ho, rfl⟩)
  refine ⟨api, hapi, ?_, ?_⟩
  · rw [hgroups.members api hapi, htag]
    exact planner.naming.mem_membersOf ho
  · rw [hgroups.members api hapi, htag, ← hkey]
    exact planner.naming.mem_membersOf hu

open Naming in
/-- The tags `pet.store` and `__pet - store-` have the words `pet` and `store` and share a group. -/
theorem tags_are_keyed_by_words_of_petStore :
    let list : Operation := { id := "list", method := "GET", tag := some "pet.store" }
    let add : Operation := { id := "add", method := "POST", tag := some "__pet - store-" }
    let planner := Planner.ofSettings {}
    let plan := planner.plan { operations := [list, { list with tag := none }, add] }
    tagWords list.tag = ["pet".toList, "store".toList] ∧ tagWords add.tag = tagWords list.tag ∧
      tagKey list.tag = "PetStore" ∧
      ∃ api ∈ plan.apis, ⟨0, planner.naming.planOperation list⟩ ∈ api.operations ∧
        ⟨2, planner.naming.planOperation add⟩ ∈ api.operations := by
  intro list add planner plan
  have hwords : tagWords list.tag = ["pet".toList, "store".toList] := by decide +kernel
  have hsame : tagWords add.tag = tagWords list.tag := by decide +kernel
  obtain ⟨hkeys, _, hgroups⟩ := tags_are_keyed_by_words planner
    { operations := [list, { list with tag := none }, add] }
  refine ⟨hwords, hsame, ?_, hgroups 0 2 list add rfl rfl hsame.symm⟩
  rw [hkeys, hwords]
  decide

end CratePlan
