import CratePlan.Proofs.FreeName

/-! The types of models. A type is the Pascal case of a stem that is free, but Pascal case drops the
underscores in front, and these may be all that kept the stem from starting with a digit or from
spelling `self`. Those two cases apart, the name of a type is legal: of the keywords, only `Self`
starts with a capital. -/

namespace CratePlan

open Text Identifier

namespace Identifier

/-- A text without the underscores in front of it. -/
def withoutFront (s : String) : String :=
  String.ofList (s.toList.dropWhile (· = '_'))

theorem pascalChars_cons {c : Char} (h : isWordChar c) (hc : c ≠ '_') (rest : List Char) :
    pascalChars true (c :: rest) = c.toUpper :: pascalChars false rest := by
  cases rest with
  | nil => simp [pascalChars, upperChar_of_wordChar h]
  | cons d rest => simp [pascalChars, hc, upperChar_of_wordChar h]

/-- Pascal case passes over the underscores in front, unless there is nothing else. -/
theorem pascalChars_dropWhile {cs : List Char} (h : cs.dropWhile (· = '_') ≠ []) :
    pascalChars true cs = pascalChars true (cs.dropWhile (· = '_')) := by
  induction cs with
  | nil => rfl
  | cons c rest ih =>
      by_cases hc : c = '_'
      · subst hc
        rw [List.dropWhile_cons_of_pos (by decide)] at h ⊢
        rw [← ih h]
        cases rest with
        | nil => exact absurd rfl h
        | cons d rest => rw [pascalChars, if_pos rfl]
      · rw [List.dropWhile_cons_of_neg (by simpa using hc)]

theorem pascalChars_of_underscores {cs : List Char} (hne : cs ≠ [])
    (h : cs.dropWhile (· = '_') = []) : pascalChars true cs = ['_'] := by
  have hupper : upperChar '_' = ['_'] := by decide
  induction cs with
  | nil => exact absurd rfl hne
  | cons c rest ih =>
      rw [List.dropWhile_eq_nil_iff] at h
      obtain rfl : c = '_' := by simpa using h c List.mem_cons_self
      cases rest with
      | nil => simpa [pascalChars] using hupper
      | cons d rest =>
          rw [pascalChars, if_pos rfl]
          refine ih (List.cons_ne_nil d rest) (List.dropWhile_eq_nil_iff.mpr fun x hx => ?_)
          exact h x (List.mem_cons_of_mem _ hx)

theorem head_pascalChars_not_isLower {cs : List Char} (h : ∀ c ∈ cs, isWordChar c) :
    ∀ c ∈ (pascalChars true cs).head?, c.isLower = false := by
  intro c hc
  rw [pascalChars_eq_append, List.head?_append, Option.mem_def, Option.or_eq_some_iff] at hc
  rcases hc with hbody | ⟨_, htail⟩
  · exact head_pascalBody_not_isLower h c hbody
  · unfold trailingUnderscore at htail
    split_ifs at htail
    · cases htail
      decide
    · cases htail

/-- Pascal case that gives small letters alone has changed nothing: each underscore would have led to
a capital or would stand there still. -/
theorem pascalChars_of_isLower {cs : List Char} (h : ∀ c ∈ cs, isWordChar c)
    (hlower : ∀ c ∈ pascalChars false cs, c.isLower = true) : pascalChars false cs = cs := by
  induction cs with
  | nil => rfl
  | cons c rest ih =>
      cases rest with
      | nil => rfl
      | cons d rest =>
          have hrest : ∀ x ∈ d :: rest, isWordChar x :=
            fun x hx => h x (List.mem_cons_of_mem c hx)
          rw [pascalChars] at hlower ⊢
          by_cases hc : c = '_'
          · rw [if_pos hc] at hlower
            have hne : pascalChars true (d :: rest) ≠ [] :=
              pascalChars_ne_nil hrest (List.cons_ne_nil d rest)
            obtain ⟨x, tail, hx⟩ := List.exists_cons_of_ne_nil hne
            have hhead := head_pascalChars_not_isLower hrest x (by rw [hx]; rfl)
            have hmem := hlower x (by rw [hx]; exact List.mem_cons_self)
            rw [hhead] at hmem
            cases hmem
          · rw [if_neg hc] at hlower ⊢
            have hsame : pascalChars false (d :: rest) = d :: rest :=
              ih hrest fun x hx => hlower x (by simp [hx])
            rw [hsame]
            rfl

/-- What Pascal case starts with: an underscore if there is nothing else, and otherwise the capital of
the first character that is none. -/
theorem pascalChars_cases {cs : List Char} (h : ∀ c ∈ cs, isWordChar c) (hne : cs ≠ []) :
    (cs.dropWhile (· = '_') = [] ∧ pascalChars true cs = ['_']) ∨
      ∃ c rest, cs.dropWhile (· = '_') = c :: rest ∧ (∀ x ∈ c :: rest, x ∈ cs) ∧
        pascalChars true cs = c.toUpper :: pascalChars false rest := by
  by_cases hcore : cs.dropWhile (· = '_') = []
  · exact Or.inl ⟨hcore, pascalChars_of_underscores hne hcore⟩
  · obtain ⟨c, rest, hcs⟩ := List.exists_cons_of_ne_nil hcore
    have hmem : ∀ x ∈ c :: rest, x ∈ cs := fun x hx => List.dropWhile_subset _ (hcs ▸ hx)
    have hc : c ≠ '_' := by
      have hhead := List.head?_dropWhile_not (· = '_') cs
      simpa [hcs] using hhead
    refine Or.inr ⟨c, rest, hcs, hmem, ?_⟩
    rw [pascalChars_dropWhile hcore, hcs,
      pascalChars_cons (h c (hmem c List.mem_cons_self)) hc]

theorem startsWithDigit_pascalCase {s : String} (h : Written isWordChar s) :
    startsWithDigit (pascalCase s) = startsWithDigit (withoutFront s) := by
  rw [startsWithDigit, startsWithDigit, pascalCase, withoutFront, String.toList_ofList,
    String.toList_ofList]
  rcases pascalChars_cases h.spelled h.toList_ne_nil with
    ⟨hcore, hpascal⟩ | ⟨c, rest, hcore, hmem, hpascal⟩
  · rw [hcore, hpascal]
    decide
  · rw [hcore, hpascal]
    exact of_wordChar (p := fun c => c.toUpper.isDigit = c.isDigit) (by decide)
      (h.spelled c (hmem c List.mem_cons_self))

/-- A word with its first letter raised. -/
def capitalized (word : String) : String :=
  String.ofList <| match word.toList with
    | [] => []
    | c :: rest => c.toUpper :: rest

/-- Only a word itself turns into the word with a capital: a capital or an underscore further on
would stay visible. -/
theorem cons_pascalChars_eq_iff {c d : Char} {rest word : List Char}
    (h : ∀ x ∈ c :: rest, isStemChar x) (hword : ∀ x ∈ d :: word, x.isLower) :
    c.toUpper :: pascalChars false rest = d.toUpper :: word ↔ c :: rest = d :: word := by
  have hstem : ∀ x ∈ c :: rest, isWordChar x := fun x hx => isWordChar_of_isStemChar x (h x hx)
  have htail : ∀ x ∈ word, x.isLower := fun x hx => hword x (List.mem_cons_of_mem d hx)
  constructor
  · intro heq
    obtain ⟨hc, hrest⟩ := List.cons.inj heq
    have hsame : pascalChars false rest = rest :=
      pascalChars_of_isLower (fun x hx => hstem x (List.mem_cons_of_mem c hx)) (hrest ▸ htail)
    have hsmall : c = d := by
      rw [← toLower_toUpper (h c List.mem_cons_self), hc,
        toLower_toUpper (isStemChar_of_isLower (hword d List.mem_cons_self))]
    rw [hsmall, ← hsame, hrest]
  · intro heq
    obtain ⟨rfl, rfl⟩ := List.cons.inj heq
    have halnum : ∀ x ∈ rest, x.isAlphanum := fun x hx => isAlphanum_of_isLower (htail x hx)
    have hnone : '_' ∉ rest := fun hmem => absurd (htail '_' hmem) (by decide)
    rw [pascalChars_of_alphanum halnum, pascalBody_of_no_underscore hnone]

/-- A word of small letters with a capital is the Pascal case of that word alone, underscores in front
apart. -/
theorem pascalCase_eq_capitalized_iff {s word : String} (h : Written isStemChar s)
    (hword : Written Char.isLower word) :
    pascalCase s = capitalized word ↔ withoutFront s = word := by
  have hstem : ∀ c ∈ s.toList, isWordChar c := fun c hc => isWordChar_of_isStemChar c (h.spelled c hc)
  obtain ⟨d, rest, hcs⟩ := List.exists_cons_of_ne_nil hword.toList_ne_nil
  have hlower : ∀ x ∈ d :: rest, x.isLower := hcs ▸ hword.spelled
  rw [← String.toList_inj, ← String.toList_inj, pascalCase, withoutFront, capitalized,
    String.toList_ofList, String.toList_ofList, String.toList_ofList, hcs]
  rcases pascalChars_cases hstem h.toList_ne_nil with
    ⟨hcore, hpascal⟩ | ⟨c, tail, hcore, hmem, hpascal⟩
  · have hcapital : d.toUpper ≠ '_' :=
      of_wordChar (p := fun d => d.isLower → d.toUpper ≠ '_') (by decide)
        (isWordChar_of_isStemChar d (isStemChar_of_isLower (hlower d List.mem_cons_self)))
        (hlower d List.mem_cons_self)
    rw [hcore, hpascal]
    simp [hcapital.symm]
  · rw [hcore, hpascal]
    exact cons_pascalChars_eq_iff (fun x hx => h.spelled x (hmem x hx)) hlower

theorem head_pascalCase_not_isLower {s : String} (h : Spelled isWordChar s) :
    (pascalCase s).toList.head?.any Char.isLower = false := by
  rw [pascalCase, String.toList_ofList, Option.any_eq_false]
  simpa using head_pascalChars_not_isLower h

theorem eq_self_type_of_mem_keywords :
    ∀ word ∈ keywords, word.toList.head?.any Char.isLower = false → word = capitalized "self" := by
  decide

/-- Of the keywords only `Self` is in Pascal case, and it is the Pascal case of `self` alone. -/
theorem pascalCase_mem_keywords_iff {s : String} (h : Written isStemChar s) :
    pascalCase s ∈ keywords ↔ withoutFront s = "self" := by
  have hhead := head_pascalCase_not_isLower (h.spelled.mono isWordChar_of_isStemChar)
  rw [← pascalCase_eq_capitalized_iff h (by decide)]
  exact ⟨fun hmem => eq_self_type_of_mem_keywords _ hmem hhead, fun heq => heq ▸ by decide⟩

theorem withoutFront_of_head_ne {s : String} (h : s.toList.head? ≠ some '_') :
    withoutFront s = s := by
  rw [withoutFront]
  cases hcs : s.toList with
  | nil => exact String.toList_inj.mp hcs.symm
  | cons c rest =>
      have hc : c ≠ '_' := by
        rintro rfl
        exact h (by rw [hcs]; rfl)
      rw [List.dropWhile_cons_of_neg (by simpa using hc), ← hcs, String.ofList_toList]

end Identifier

/-- Pascal case of a stem is legal unless the stem, rid of the underscores in front, starts with a
digit or reads `self`. -/
theorem isLegal_pascalCase_iff {s : String} (h : Written isStemChar s) :
    IsLegal (pascalCase s) ↔ startsWithDigit (withoutFront s) = false ∧ withoutFront s ≠ "self" := by
  have hword : Written isWordChar s := h.mono isWordChar_of_isStemChar
  rw [← startsWithDigit_pascalCase hword, Ne, ← pascalCase_mem_keywords_iff h]
  exact ⟨fun hlegal => ⟨hlegal.no_digit, hlegal.no_keyword⟩,
    fun ⟨hdigit, hkeyword⟩ => ⟨hword.pascalCase, hdigit, hkeyword⟩⟩

/-- Under any settings the name of a model's type is not empty and made of word characters, and it is
legal unless the stem starts with underscores and, rid of these, with a digit or reads `self`: what
the underscores kept apart is brought back by Pascal case. -/
theorem modelName_isLegal_iff (settings : Settings) (raw : String) :
    let stem := (settings.naming.modelStem raw).name
    let name := (settings.naming.modelName raw).name
    Written isWordChar name ∧
      (IsLegal name ↔ (stem.toList.head? = some '_' →
        startsWithDigit (withoutFront stem) = false ∧ withoutFront stem ≠ "self")) := by
  intro stem name
  have hnaming := Naming.goesByKeywords_naming settings
  have hstem : settings.naming.IsFree isStemChar stem := Naming.modelStem_isFree hnaming raw
  refine ⟨settings.naming.modelName_written raw, ?_⟩
  change IsLegal (pascalCase stem) ↔ _
  rw [isLegal_pascalCase_iff hstem.written]
  by_cases hunderscore : stem.toList.head? = some '_'
  · simp only [hunderscore, forall_const]
  · -- nothing is dropped, and a free stem neither starts with a digit nor is a keyword
    have hlegal := (hstem.mono isWordChar_of_isStemChar).isLegal hnaming
    have hself : stem ≠ "self" := fun heq => hlegal.no_keyword (heq ▸ by decide)
    rw [withoutFront_of_head_ne hunderscore]
    simp only [hstem.no_digit, hself, ne_eq, not_false_eq_true, and_self, implies_true]

/-- The names `_1` and `_self` are free as stems, but their types are called `1` and `Self`. -/
theorem modelName_of_underscore_not_isLegal :
    let naming := ({} : Settings).naming
    (naming.modelName "_1").name = "1" ∧ ¬IsLegal "1" ∧
      (naming.modelName "_self").name = "Self" ∧ ¬IsLegal "Self" := by
  refine ⟨by decide +kernel, fun h => ?_, by decide +kernel, fun h => ?_⟩
  · exact absurd h.no_digit (by decide)
  · exact h.no_keyword (by decide)

end CratePlan
