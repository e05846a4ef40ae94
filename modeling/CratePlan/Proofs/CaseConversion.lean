import CratePlan.Proofs.Alphabet
import CratePlan.Proofs.PairReplacement

/-! Sanitizing and case conversion as functions on word characters. Snake case, which is taken in
two passes, is shown to be one pass that puts an underscore before each start of a word; Pascal case
leaves no underscore but one at the end. -/

namespace CratePlan.Identifier

open Text

theorem isWordChar_of_sanitizeChar {c d : Char} (h : sanitizeChar c = some d) : isWordChar d := by
  unfold sanitizeChar at h
  split_ifs at h with hsep hword
  · cases h
    decide
  · cases h
    exact hword

theorem spelled_sanitize (s : String) : Spelled isWordChar (sanitize s) := by
  unfold sanitize
  split_ifs with hs
  · decide
  · refine spelled_ofList fun d hd => ?_
    obtain ⟨c, _, hc⟩ := List.mem_filterMap.mp hd
    exact isWordChar_of_sanitizeChar hc

theorem sanitizeChar_of_wordChar {c : Char} (h : isWordChar c) : sanitizeChar c = some c :=
  of_wordChar (p := fun c => sanitizeChar c = some c) (by decide) h

/-- Sanitizing goes character by character where there are no brackets and nothing is dropped. -/
theorem toList_sanitize {s : String} {f : Char → Char} (hbracket : '[' ∉ s.toList)
    (hchar : ∀ c ∈ s.toList, sanitizeChar c = some (f c)) :
    (sanitize s).toList = s.toList.map f := by
  have hdollar : s ≠ "$" := by
    rintro rfl
    have hdropped : sanitizeChar '$' = none := by decide
    cases hdropped.symm.trans (hchar '$' (by decide))
  rw [sanitize, if_neg hdollar, String.toList_ofList, sanitizeChars,
    replacePairChars_of_notMem hbracket, List.filterMap_congr hchar, List.filterMap_eq_map']

/-- Sanitizing leaves a text of word characters alone. -/
theorem sanitize_of_spelled {s : String} (h : Spelled isWordChar s) : sanitize s = s := by
  have hbracket : '[' ∉ s.toList := fun hc => absurd (h '[' hc) (by decide)
  rw [← String.toList_inj, toList_sanitize hbracket fun c hc => sanitizeChar_of_wordChar (h c hc),
    List.map_id']

/-- A dash as the underscore that it leaves in an identifier. -/
def dashless (c : Char) : Char :=
  if c = '-' then '_' else c

theorem dashless_eq_iff {d : Char} (hdash : d ≠ '-') (hunderscore : d ≠ '_') (c : Char) :
    dashless c = d ↔ c = d := by
  rw [dashless]
  split_ifs with hc
  · exact iff_of_false hunderscore.symm fun heq => hdash (heq.symm.trans hc)
  · exact Iff.rfl

theorem toList_replaceChar_dash (s : String) :
    (replaceChar '-' "_" s).toList = s.toList.map dashless := by
  rw [replaceChar, String.toList_ofList, List.map_eq_flatMap]
  refine List.flatMap_congr fun c _ => ?_
  rw [dashless]
  split_ifs <;> rfl

theorem sanitizeChars_map_dashless (cs : List Char) :
    sanitizeChars (cs.map dashless) = sanitizeChars cs := by
  have hchar : sanitizeChar ∘ dashless = sanitizeChar := by
    funext c
    rw [Function.comp_apply, dashless]
    split_ifs with hc
    · rw [hc]
      decide
    · rfl
  rw [sanitizeChars, replacePairChars_map (dashless_eq_iff (by decide) (by decide))
    (dashless_eq_iff (by decide) (by decide)) rfl, List.filterMap_map, hchar, sanitizeChars]

/-- A dash that is turned into an underscore is what sanitizing makes of it anyway. -/
theorem sanitize_replaceChar_dash (s : String) : sanitize (replaceChar '-' "_" s) = sanitize s := by
  have hdollar : replaceChar '-' "_" s = "$" ↔ s = "$" := by
    rw [← String.toList_inj, ← String.toList_inj, toList_replaceChar_dash]
    change s.toList.map dashless = ['$'] ↔ s.toList = ['$']
    simp only [List.map_eq_singleton_iff, dashless_eq_iff (by decide : '$' ≠ '-') (by decide),
      exists_eq_right]
  rw [sanitize, sanitize, toList_replaceChar_dash, sanitizeChars_map_dashless]
  simp only [hdollar]

/-! ### Snake case in one pass -/

/-- Whether snake case starts a word at `c`, which stands between `before` and `rest`: a capital
after a small letter or a digit, or the last capital of an acronym that runs into a word. -/
def startsWord (before : Option Char) (c : Char) (rest : List Char) : Bool :=
  c.isUpper && (before.any (fun b => b.isLower || b.isDigit) ||
    before.any Char.isUpper && startsWithTwoSmall rest)

/-- Snake case read off from left to right: an underscore wherever a word starts, then the
character lowered. -/
def snakePass (before : Option Char) : List Char → List Char
  | [] => []
  | c :: rest =>
    (if startsWord before c rest then ['_'] else []) ++ snakeChar c ++ snakePass (some c) rest

/-- Where words start in a text that follows `before`, character by character. -/
def wordMarks (before : Option Char) : List Char → List Bool
  | [] => []
  | c :: rest => startsWord before c rest :: wordMarks (some c) rest

theorem partWords_partAcronyms (before : Option Char) (cs : List Char) :
    partWords before (partAcronyms before cs) = snakePass before cs := by
  induction cs generalizing before with
  | nil => rfl
  | cons c rest ih =>
      rw [partAcronyms, snakePass]
      by_cases hacronym : (c.isUpper && before.any Char.isUpper && startsWithTwoSmall rest) = true
      · -- the underscore of the first pass keeps the second from adding another one
        have hstart : startsWord before c rest = true := by
          simp only [Bool.and_eq_true] at hacronym
          simp only [startsWord, hacronym.1.1, hacronym.1.2, hacronym.2, Bool.and_self,
            Bool.or_true]
        have hunderscore : snakeChar '_' = ['_'] := by decide
        have hnoStart : (some '_').any (fun b : Char => b.isLower || b.isDigit) = false := by decide
        rw [if_pos hacronym, if_pos hstart]
        simp only [List.cons_append, List.nil_append, partWords, hunderscore, hnoStart, ih,
          Bool.and_false, Bool.false_eq_true, if_false]
        rfl
      · have hstart : startsWord before c rest =
            (c.isUpper && before.any fun b => b.isLower || b.isDigit) := by
          rw [Bool.not_eq_true, Bool.and_assoc] at hacronym
          rw [startsWord, Bool.and_or_distrib_left, hacronym, Bool.or_false]
        rw [if_neg hacronym, hstart, List.singleton_append, partWords, ih]

theorem snakeChars_eq_snakePass (cs : List Char) :
    snakeChars cs = snakePass none (snakeSource cs) :=
  partWords_partAcronyms none (snakeSource cs)

theorem snakeSource_of_notMem {cs : List Char} (hdot : '.' ∉ cs) (hdollar : '$' ∉ cs) :
    snakeSource cs = cs := by
  have hpoint : ∀ c ∈ cs, (if c = '.' then '/' else c) = c := fun c hc =>
    if_neg (ne_of_mem_of_not_mem hc hdot)
  have hsign : ∀ c ∈ cs, (if c = '$' then ['_', '_'] else [c]) = [c] := fun c hc =>
    if_neg (ne_of_mem_of_not_mem hc hdollar)
  rw [snakeSource, List.map_congr_left hpoint, List.map_id', List.flatMap_congr hsign,
    List.flatMap_singleton']

theorem snakeSource_of_word {cs : List Char} (h : ∀ c ∈ cs, isWordChar c) : snakeSource cs = cs :=
  snakeSource_of_notMem (fun hdot => absurd (h '.' hdot) (by decide))
    fun hdollar => absurd (h '$' hdollar) (by decide)

theorem toList_snakeCase {s : String} (h : Spelled isWordChar s) :
    (snakeCase s).toList = snakePass none s.toList := by
  rw [snakeCase, String.toList_ofList, snakeChars_eq_snakePass, snakeSource_of_word h]

/-- What holds of an underscore and of each character lowered holds of all that snake case writes. -/
theorem forall_mem_snakePass {P : Char → Prop} {before : Option Char} {cs : List Char}
    (hmark : P '_') (h : ∀ c ∈ cs, ∀ d ∈ snakeChar c, P d) : ∀ d ∈ snakePass before cs, P d := by
  induction cs generalizing before with
  | nil => exact fun _ hd => absurd hd List.not_mem_nil
  | cons c rest ih =>
      rw [List.forall_mem_cons] at h
      rw [snakePass, List.forall_mem_append, List.forall_mem_append]
      refine ⟨⟨?_, h.1⟩, ih h.2⟩
      split_ifs
      · exact List.forall_mem_singleton.mpr hmark
      · exact List.forall_mem_nil _

theorem isStemChar_of_mem_snakePass {before : Option Char} {cs : List Char}
    (h : ∀ c ∈ cs, isWordChar c) : ∀ c ∈ snakePass before cs, isStemChar c := by
  refine forall_mem_snakePass (by decide) fun c hc => ?_
  rw [snakeChar_of_wordChar (h c hc)]
  exact List.forall_mem_singleton.mpr (isStemChar_toLower (h c hc))

theorem snakePass_ne_nil {before : Option Char} {cs : List Char} (h : ∀ c ∈ cs, isWordChar c)
    (hne : cs ≠ []) : snakePass before cs ≠ [] := by
  cases cs with
  | nil => exact absurd rfl hne
  | cons c rest =>
      rw [snakePass, snakeChar_of_wordChar (h c List.mem_cons_self)]
      simp

theorem spelled_snakeCase {s : String} (h : Spelled isWordChar s) :
    Spelled isStemChar (snakeCase s) := by
  rw [← String.ofList_toList (s := snakeCase s), toList_snakeCase h]
  exact spelled_ofList (isStemChar_of_mem_snakePass h)

theorem Written.snakeCase {s : String} (h : Written isWordChar s) :
    Written isStemChar (snakeCase s) := by
  have hpass : snakePass none s.toList ≠ [] := snakePass_ne_nil h.spelled h.toList_ne_nil
  refine ⟨spelled_snakeCase h.spelled, fun hempty => hpass ?_⟩
  rw [← toList_snakeCase h.spelled, hempty]
  rfl

/-- A character that snake case writes as it stands, wherever that is. -/
structure IsSnake (c : Char) : Prop where
  no_capital : c.isUpper = false
  itself : snakeChar c = [c]

theorem isSnake_of_isStemChar {c : Char} (hc : isStemChar c) : IsSnake c := by
  have hword : isWordChar c := isWordChar_of_isStemChar c hc
  have hplain : c.isUpper = false ∧ c.toLower = c :=
    of_wordChar (p := fun c => isStemChar c → c.isUpper = false ∧ c.toLower = c) (by decide) hword hc
  refine ⟨hplain.1, ?_⟩
  rw [snakeChar_of_wordChar hword, hplain.2]

theorem isSnake_underscore : IsSnake '_' :=
  isSnake_of_isStemChar (by decide)

theorem snakePass_cons_of_isSnake {c : Char} (hc : IsSnake c) (before : Option Char)
    (rest : List Char) : snakePass before (c :: rest) = c :: snakePass (some c) rest := by
  have hmark : startsWord before c rest = false := by
    rw [startsWord, hc.no_capital, Bool.false_and]
  rw [snakePass, hmark, hc.itself]
  rfl

theorem snakePass_of_isSnake {before : Option Char} {cs : List Char} (h : ∀ c ∈ cs, IsSnake c) :
    snakePass before cs = cs := by
  induction cs generalizing before with
  | nil => rfl
  | cons c rest ih =>
      rw [List.forall_mem_cons] at h
      rw [snakePass_cons_of_isSnake h.1, ih h.2]

/-- Snake case leaves a stem alone. -/
theorem snakeCase_of_stem {s : String} (h : Spelled isStemChar s) : snakeCase s = s := by
  rw [← String.toList_inj, toList_snakeCase (h.mono isWordChar_of_isStemChar),
    snakePass_of_isSnake fun c hc => isSnake_of_isStemChar (h c hc)]

/-- Snake case leaves a front in small letters alone, and what stands behind its last underscore is
put in snake case as if it stood there by itself. -/
theorem snakePass_append {before : Option Char} {front : List Char} (h : ∀ c ∈ front, isStemChar c)
    (cs : List Char) :
    snakePass before (front ++ '_' :: cs) = front ++ '_' :: snakePass none cs := by
  have hafter : snakePass (some '_') cs = snakePass none cs := by
    cases cs with
    | nil => rfl
    | cons c rest => simp [snakePass, startsWord]
  induction front generalizing before with
  | nil =>
      rw [List.nil_append, snakePass_cons_of_isSnake isSnake_underscore, hafter, List.nil_append]
  | cons c rest ih =>
      rw [List.forall_mem_cons] at h
      rw [List.cons_append, snakePass_cons_of_isSnake (isSnake_of_isStemChar h.1), ih h.2,
        List.cons_append]

theorem snakeCase_append {front name : String} (hfront : Spelled isStemChar front)
    (hname : Spelled isWordChar name) :
    snakeCase (front ++ "_" ++ name) = front ++ "_" ++ snakeCase name := by
  have hword : Spelled isWordChar (front ++ "_" ++ name) :=
    .append (.append (hfront.mono isWordChar_of_isStemChar) (by decide)) hname
  have hsplit : (front ++ "_" ++ name).toList = front.toList ++ '_' :: name.toList := by
    rw [String.toList_append, String.toList_append, List.append_assoc]
    rfl
  rw [← String.toList_inj, toList_snakeCase hword, hsplit, snakePass_append hfront,
    String.toList_append, String.toList_append, toList_snakeCase hname, List.append_assoc]
  rfl

/-- Snake case of letters and digits forgets their case and nothing else: two texts become the same
if and only if they agree up to case and their words start at the same places. -/
theorem snakePass_eq_iff {before₁ before₂ : Option Char} {cs₁ cs₂ : List Char}
    (h₁ : ∀ c ∈ cs₁, c.isAlphanum) (h₂ : ∀ c ∈ cs₂, c.isAlphanum) :
    snakePass before₁ cs₁ = snakePass before₂ cs₂ ↔
      cs₁.map Char.toLower = cs₂.map Char.toLower ∧
        wordMarks before₁ cs₁ = wordMarks before₂ cs₂ := by
  have hchar : ∀ c : Char, c.isAlphanum → snakeChar c = [c.toLower] :=
    fun c hc => snakeChar_of_wordChar (isWordChar_of_isAlphanum c hc)
  induction cs₁ generalizing before₁ before₂ cs₂ with
  | nil =>
      cases cs₂ with
      | nil => simp [snakePass, wordMarks]
      | cons d rest₂ => simp [snakePass, wordMarks, hchar d (h₂ d List.mem_cons_self)]
  | cons c rest₁ ih =>
      have hc : c.isAlphanum := h₁ c List.mem_cons_self
      cases cs₂ with
      | nil => simp [snakePass, wordMarks, hchar c hc]
      | cons d rest₂ =>
          have hd : d.isAlphanum := h₂ d List.mem_cons_self
          have hrest : snakePass (some c) rest₁ = snakePass (some d) rest₂ ↔
              rest₁.map Char.toLower = rest₂.map Char.toLower ∧
                wordMarks (some c) rest₁ = wordMarks (some d) rest₂ :=
            ih (fun x hx => h₁ x (List.mem_cons_of_mem c hx))
              (fun x hx => h₂ x (List.mem_cons_of_mem d hx))
          rw [snakePass, snakePass, hchar c hc, hchar d hd]
          cases hmark₁ : startsWord before₁ c rest₁ <;> cases hmark₂ : startsWord before₂ d rest₂
          · simp [wordMarks, hmark₁, hmark₂, hrest, and_assoc]
          · simp [wordMarks, hmark₁, hmark₂, toLower_ne_underscore hc]
          · simp [wordMarks, hmark₁, hmark₂, (toLower_ne_underscore hd).symm]
          · simp [wordMarks, hmark₁, hmark₂, hrest, and_assoc]

/-! ### Pascal case -/

/-- Pascal case without the underscore that may end it. -/
def pascalBody (upper : Bool) : List Char → List Char
  | [] => []
  | c :: rest =>
    if c = '_' then pascalBody true rest
    else (if upper then upperChar c else [c]) ++ pascalBody false rest

/-- The underscore at the end of a text, if there is one. -/
def trailingUnderscore (cs : List Char) : List Char :=
  if cs.getLast? = some '_' then ['_'] else []

theorem pascalChars_eq_append (upper : Bool) (cs : List Char) :
    pascalChars upper cs = pascalBody upper cs ++ trailingUnderscore cs := by
  have hupper : upperChar '_' = ['_'] := by decide
  fun_induction pascalChars upper cs with
  | case1 => rfl
  | case2 c =>
      by_cases hc : c = '_'
      · subst hc
        simp [pascalBody, trailingUnderscore, hupper]
      · simp [pascalBody, trailingUnderscore, hc]
  | case3 upper c _ =>
      by_cases hc : c = '_' <;> simp_all [pascalBody, trailingUnderscore]
  | case4 upper d rest ih =>
      rw [ih]
      simp [pascalBody, trailingUnderscore]
  | case5 upper c d rest hc ih =>
      rw [ih]
      simp [pascalBody, trailingUnderscore, hc]

theorem pascalBody_of_no_underscore {cs : List Char} (h : '_' ∉ cs) :
    pascalBody false cs = cs := by
  induction cs with
  | nil => rfl
  | cons c rest ih =>
      rw [List.mem_cons, not_or] at h
      rw [pascalBody, if_neg (Ne.symm h.1), ih h.2]
      rfl

theorem isAlphanum_of_mem_pascalBody {upper : Bool} {cs : List Char}
    (h : ∀ c ∈ cs, isWordChar c) : ∀ c ∈ pascalBody upper cs, c.isAlphanum := by
  induction cs generalizing upper with
  | nil => simp [pascalBody]
  | cons d rest ih =>
      have hd : isWordChar d := h d List.mem_cons_self
      have hrest : ∀ x ∈ rest, isWordChar x := fun x hx => h x (List.mem_cons_of_mem d hx)
      rw [pascalBody]
      split_ifs with hunderscore hupper
      · exact ih hrest
      · intro c hc
        rw [upperChar_of_wordChar hd, List.singleton_append, List.mem_cons] at hc
        rcases hc with rfl | hc
        · exact isAlphanum_toUpper (isAlphanum_of_isWordChar hd hunderscore)
        · exact ih hrest c hc
      · intro c hc
        rw [List.singleton_append, List.mem_cons] at hc
        rcases hc with rfl | hc
        · exact isAlphanum_of_isWordChar hd hunderscore
        · exact ih hrest c hc

/-- The first letter in Pascal case is no small one. -/
theorem head_pascalBody_not_isLower {cs : List Char} (h : ∀ c ∈ cs, isWordChar c) :
    ∀ c ∈ (pascalBody true cs).head?, c.isLower = false := by
  induction cs with
  | nil => simp [pascalBody]
  | cons d rest ih =>
      have hd : isWordChar d := h d List.mem_cons_self
      rw [pascalBody]
      by_cases hunderscore : d = '_'
      · rw [if_pos hunderscore]
        exact ih fun x hx => h x (List.mem_cons_of_mem d hx)
      · rw [if_neg hunderscore, if_pos rfl]
        intro c hc
        obtain rfl : d.toUpper = c := by simpa [upperChar_of_wordChar hd] using hc
        exact of_wordChar (p := fun c => c.toUpper.isLower = false) (by decide) hd

theorem isWordChar_of_mem_pascalChars {upper : Bool} {cs : List Char}
    (h : ∀ c ∈ cs, isWordChar c) : ∀ c ∈ pascalChars upper cs, isWordChar c := by
  intro c hc
  rw [pascalChars_eq_append, List.mem_append] at hc
  rcases hc with hbody | htail
  · exact isWordChar_of_isAlphanum c (isAlphanum_of_mem_pascalBody h c hbody)
  · unfold trailingUnderscore at htail
    split_ifs at htail
    · rw [List.mem_singleton.mp htail]
      decide
    · cases htail

/-- Pascal case of letters and digits alone only raises the first of them. -/
theorem pascalChars_of_alphanum {upper : Bool} {cs : List Char} (h : ∀ c ∈ cs, c.isAlphanum) :
    pascalChars upper cs = pascalBody upper cs := by
  have hlast : cs.getLast? ≠ some '_' := fun hlast =>
    absurd (h '_' (List.mem_of_getLast? hlast)) (by decide)
  rw [pascalChars_eq_append, trailingUnderscore, if_neg hlast, List.append_nil]

theorem pascalChars_ne_nil {upper : Bool} {cs : List Char} (h : ∀ c ∈ cs, isWordChar c)
    (hne : cs ≠ []) : pascalChars upper cs ≠ [] := by
  fun_induction pascalChars upper cs with
  | case1 => exact absurd rfl hne
  | case2 c => simp [upperChar_of_wordChar (h c List.mem_cons_self)]
  | case3 => exact hne
  | case4 upper d rest ih =>
      exact ih (fun x hx => h x (List.mem_cons_of_mem _ hx)) (List.cons_ne_nil d rest)
  | case5 upper c d rest _ _ =>
      cases upper <;> simp [upperChar_of_wordChar (h c List.mem_cons_self)]

theorem Written.pascalCase {s : String} (h : Written isWordChar s) :
    Written isWordChar (pascalCase s) :=
  written_ofList (isWordChar_of_mem_pascalChars h.spelled)
    (pascalChars_ne_nil h.spelled h.toList_ne_nil)

/-! ### Upper case -/

theorem toList_uppercase {s : String} (h : Spelled isWordChar s) :
    (uppercase s).toList = s.toList.map Char.toUpper := by
  rw [uppercase, String.toList_ofList,
    List.flatMap_congr fun c hc => upperChar_of_wordChar (h c hc), List.map_eq_flatMap]

theorem Written.uppercase {s : String} (h : Written isWordChar s) :
    Written isShoutChar (uppercase s) := by
  rw [← String.ofList_toList (s := Text.uppercase s), toList_uppercase h.spelled]
  refine written_ofList (fun c hc => ?_) (fun hnil => h.toList_ne_nil (List.map_eq_nil_iff.mp hnil))
  obtain ⟨d, hd, rfl⟩ := List.mem_map.mp hc
  exact isShoutChar_toUpper (h.spelled d hd)

end CratePlan.Identifier
