import CratePlan.Proofs.SettledNames

/-! Raw model names of which sanitizing keeps nothing. A warning says that such a name cannot be used,
but what is asked there is whether anything is left of the raw name joined to the configured parts, and
the underscores that join them always are. So with a part configured the warning never comes, unless the
first part starts with a digit: then the joined name is refused for that. All these names share one stem. -/

namespace CratePlan

open Text Identifier

namespace Identifier

/-! ### Joined names -/

theorem toList_append_underscore (front back : String) :
    (front ++ "_" ++ back).toList = front.toList ++ '_' :: back.toList := by
  rw [String.toList_append, String.toList_append, List.append_assoc]
  rfl

/-- The underscore between two parts stays, and each part is sanitized as if it stood by itself. -/
theorem sanitizeChars_append_underscore (front back : String) :
    sanitizeChars (front ++ "_" ++ back).toList =
      sanitizeChars front.toList ++ '_' :: sanitizeChars back.toList := by
  have hkept : sanitizeChar '_' = some '_' := by decide
  rw [toList_append_underscore, sanitizeChars,
    replacePairChars_append_cons (by decide) (by decide), List.filterMap_append,
    List.filterMap_cons_some hkept]
  rfl

theorem toList_sanitize_append_underscore (front back : String) :
    (sanitize (front ++ "_" ++ back)).toList =
      sanitizeChars front.toList ++ '_' :: sanitizeChars back.toList := by
  have hdollar : front ++ "_" ++ back ≠ "$" := by
    intro heq
    have hmem : '_' ∈ (front ++ "_" ++ back).toList := by simp
    rw [heq] at hmem
    exact absurd hmem (by decide)
  rw [sanitize, if_neg hdollar, String.toList_ofList, sanitizeChars_append_underscore]

theorem sanitize_append_underscore_congr {front₁ front₂ back₁ back₂ : String}
    (hfront : sanitizeChars front₁.toList = sanitizeChars front₂.toList)
    (hback : sanitizeChars back₁.toList = sanitizeChars back₂.toList) :
    sanitize (front₁ ++ "_" ++ back₁) = sanitize (front₂ ++ "_" ++ back₂) := by
  rw [← String.toList_inj, toList_sanitize_append_underscore, toList_sanitize_append_underscore,
    hfront, hback]

theorem startsWithDigit_sanitize (s : String) :
    startsWithDigit (sanitize s) = (sanitizeChars s.toList).head?.any Char.isDigit := by
  rw [startsWithDigit, sanitize]
  split_ifs with hdollar
  · rw [hdollar]
    decide
  · rw [String.toList_ofList]

/-- Whether a joined name starts with a digit is decided by its first part, even where that keeps no
character: then the underscore comes first. -/
theorem startsWithDigit_sanitize_append (front back : String) :
    startsWithDigit (sanitize (front ++ "_" ++ back)) = startsWithDigit (sanitize front) := by
  rw [startsWithDigit_sanitize front, startsWithDigit, toList_sanitize_append_underscore]
  cases sanitizeChars front.toList with
  | nil => rfl
  | cons c rest => rfl

theorem sanitizeChars_eq_nil {raw : String} (h : sanitize raw = "") :
    sanitizeChars raw.toList = [] := by
  rw [sanitize] at h
  split_ifs at h
  · exact absurd h (by decide)
  · exact String.ofList_eq_empty_iff.mp h

end Identifier

/-- A warning that a name cannot be used for a model. -/
structure Diagnostic.RefusesModel (d : Diagnostic) : Prop where
  is_warning : d.severity = .warning
  says_so : "cannot be used as model name".toList <:+: d.message.toList

/-- What is said of a raw name that no name of a model can be made of. -/
def unusableText (raw : String) : String :=
  "'" ++ raw ++ "' cannot be used as model name. Renamed to model_empty"

/-- What is said of a name of a model that starts with a digit. -/
def numberedText (name : String) : String :=
  name ++ " (model name starts with number) cannot be used as model name. " ++
    ("Renamed to model_" ++ name)

theorem infix_append_left {piece : List Char} {front : String} (h : piece <:+: front.toList)
    (back : String) : piece <:+: (front ++ back).toList := by
  rw [String.toList_append]
  exact h.trans (List.prefix_append _ _).isInfix

theorem infix_append_right {piece : List Char} {back : String} (front : String)
    (h : piece <:+: back.toList) : piece <:+: (front ++ back).toList := by
  rw [String.toList_append]
  exact h.trans (List.suffix_append _ _).isInfix

theorem refusesModel_unusableText (raw : String) :
    (Diagnostic.warning namingPhase (unusableText raw)).RefusesModel :=
  ⟨rfl, infix_append_right ("'" ++ raw)
    ⟨"' ".toList, ". Renamed to model_empty".toList, by decide⟩⟩

theorem refusesModel_numberedText (name : String) :
    (Diagnostic.warning namingPhase (numberedText name)).RefusesModel :=
  have hsaid : "cannot be used as model name".toList <:+:
      " (model name starts with number) cannot be used as model name. ".toList :=
    ⟨" (model name starts with number) ".toList, ". ".toList, by decide⟩
  ⟨rfl, infix_append_left (infix_append_right name hsaid) ("Renamed to model_" ++ name)⟩

/-- The two texts speak of different names: one starts with a quote and the other with a digit. -/
theorem unusableText_ne_numberedText {name : String} (raw : String)
    (h : startsWithDigit name = true) : unusableText raw ≠ numberedText name := by
  have hname : name ≠ "" := by
    rintro rfl
    exact absurd h (by decide)
  have hquote : startsWithDigit (unusableText raw) = false := by
    rw [unusableText, startsWithDigit_append (by simp), startsWithDigit_append (by decide)]
    decide
  have hdigit : startsWithDigit (numberedText name) = true := by
    rw [numberedText, String.append_assoc, startsWithDigit_append hname, h]
  intro heq
  rw [heq, hdigit] at hquote
  cases hquote

namespace Naming

variable {naming : Naming}

/-- A part joins what is left of a raw name by an underscore, and the part in front decides how the
whole starts. -/
theorem exists_affixed_eq {raw : String} (hraw : sanitize raw = "")
    (h : ¬(naming.modelPrefix = "" ∧ naming.modelSuffix = "")) :
    ∃ front back, naming.affixed raw = front ++ "_" ++ back ∧
      startsWithDigit (sanitize front) = startsWithDigit (sanitize naming.modelPrefix) := by
  unfold affixed
  by_cases hfront : naming.modelPrefix = ""
  · have hback : naming.modelSuffix ≠ "" := fun hback => h ⟨hfront, hback⟩
    have hempty : sanitize "" = "" := by decide
    refine ⟨raw, naming.modelSuffix, ?_, ?_⟩
    · simp [hfront, hback]
    · rw [hfront, hraw, hempty]
  · by_cases hback : naming.modelSuffix = ""
    · exact ⟨naming.modelPrefix, raw, by simp [hfront, hback], rfl⟩
    · refine ⟨naming.modelPrefix ++ "_" ++ raw, naming.modelSuffix, by simp [hfront, hback], ?_⟩
      exact startsWithDigit_sanitize_append _ _

/-- Where nothing is kept of a raw name, the joined name is made up of the parts alone. -/
theorem sanitize_affixed_of_unusable {raw : String} (hraw : sanitize raw = "") :
    sanitize (naming.affixed raw) = sanitize (naming.affixed "") := by
  have hchars : sanitizeChars raw.toList = sanitizeChars "".toList := by
    rw [sanitizeChars_eq_nil hraw]
    rfl
  have hempty : sanitize raw = sanitize "" := by
    rw [hraw]
    decide
  unfold affixed
  split_ifs
  · exact hempty
  · exact sanitize_append_underscore_congr hchars rfl
  · exact sanitize_append_underscore_congr rfl hchars
  · refine sanitize_append_underscore_congr ?_ rfl
    rw [sanitizeChars_append_underscore, sanitizeChars_append_underscore, hchars]

theorem name_modelStem_of_unusable {raw : String} (hraw : sanitize raw = "") :
    (naming.modelStem raw).name = (naming.modelStem "").name := by
  rw [name_modelStem, name_modelStem, modelStart, modelStart, sanitize_affixed_of_unusable hraw]

variable (hnaming : naming.GoesByKeywords)

include hnaming

/-- What is noted on a raw name of which nothing is kept. Where the names of models have parts, the
joined name has an underscore, so that it is neither empty nor reserved. -/
theorem notes_modelStem_of_unusable {raw : String} (hraw : sanitize raw = "") :
    ((naming.modelPrefix = "" ∧ naming.modelSuffix = "") ∧
      (naming.modelStem raw).notes = [.warning namingPhase (unusableText raw)]) ∨
    (¬(naming.modelPrefix = "" ∧ naming.modelSuffix = "") ∧
      startsWithDigit (sanitize naming.modelPrefix) = true ∧
      ∃ name, startsWithDigit name = true ∧
        (naming.modelStem raw).notes = [.warning namingPhase (numberedText name)]) ∨
    (¬(naming.modelPrefix = "" ∧ naming.modelSuffix = "") ∧
      startsWithDigit (sanitize naming.modelPrefix) = false ∧
      (naming.modelStem raw).notes = []) := by
  by_cases hnone : naming.modelPrefix = "" ∧ naming.modelSuffix = ""
  · have hclean : sanitize (naming.affixed raw) = "" := by
      rw [affixed_of_no_affixes hnone.1 hnone.2, hraw]
    refine Or.inl ⟨hnone, modelStem_cases hnaming raw ?unnamed ?guarded
      (P := fun stem => stem.notes = [.warning namingPhase (unusableText raw)])⟩
    case unnamed => exact fun _ => rfl
    case guarded => exact fun hne => absurd hclean hne
  · obtain ⟨front, back, haffixed, hfront⟩ := exists_affixed_eq hraw hnone
    have hunderscore : '_' ∈ (sanitize (naming.affixed raw)).toList := by
      rw [haffixed, toList_sanitize_append_underscore]
      simp
    have hnamed : sanitize (naming.affixed raw) ≠ "" := by
      intro hempty
      rw [hempty] at hunderscore
      exact absurd hunderscore (by decide)
    have hreserved : naming.isReserved (sanitize (naming.affixed raw)) = false := by
      rw [isReserved_of_spelled hnaming (spelled_sanitize _), isKeyword_of_underscore hunderscore]
    have hstart : startsWithDigit (sanitize naming.modelPrefix) =
        startsWithDigit (sanitize (naming.affixed raw)) := by
      rw [haffixed, startsWithDigit_sanitize_append, hfront]
    rw [hstart]
    cases hdigit : startsWithDigit (sanitize (naming.affixed raw)) with
    | true =>
        refine Or.inr (Or.inl ⟨hnone, rfl, sanitize (naming.affixed raw), hdigit, ?_⟩)
        refine modelStem_cases hnaming raw (fun hempty => absurd hempty hnamed) ?_
          (P := fun stem => stem.notes =
            [.warning namingPhase (numberedText (sanitize (naming.affixed raw)))])
        intro _
        rw [naming.guardInTurn_of_digit _ _ hreserved hdigit]
        rfl
    | false =>
        refine Or.inr (Or.inr ⟨hnone, rfl, ?_⟩)
        refine modelStem_cases hnaming raw (fun hempty => absurd hempty hnamed) ?_
          (P := fun stem => stem.notes = [])
        intro _
        rw [naming.guardInTurn_of_no_reason _ _ (x := ⟨sanitize (naming.affixed raw), []⟩)
          hreserved hdigit]
        rfl

end Naming

/-- Let nothing be kept of the raw name of a model. Under any settings a warning says that a name cannot be
used exactly if no part is joined to the names of models or what is kept of the one in front starts with a
digit, and that it is the raw name which cannot be used is said in the first of these cases only. Nothing
else is ever noted, and the stem is the one that the parts make up without any raw name. -/
theorem unusable_model_is_refused_iff (settings : Settings) (raw : String)
    (hraw : sanitize raw = "") :
    let stem := settings.naming.modelStem raw
    ((∃ d ∈ stem.notes, d.RefusesModel) ↔
        (settings.modelPrefix = "" ∧ settings.modelSuffix = "") ∨
          startsWithDigit (sanitize settings.modelPrefix) = true) ∧
      (.warning namingPhase (unusableText raw) ∈ stem.notes ↔
        settings.modelPrefix = "" ∧ settings.modelSuffix = "") ∧
      (∀ d ∈ stem.notes, d.RefusesModel) ∧
      stem.name = (settings.naming.modelStem "").name := by
  intro stem
  have hname : stem.name = (settings.naming.modelStem "").name :=
    Naming.name_modelStem_of_unusable hraw
  rcases Naming.notes_modelStem_of_unusable (Naming.goesByKeywords_naming settings) hraw with
    ⟨hnone, hnotes⟩ | ⟨hparts, hdigit, name, hname_digit, hnotes⟩ | ⟨hparts, hno_digit, hnotes⟩
  · have hrefuses := refusesModel_unusableText raw
    rw [show stem.notes = _ from hnotes]
    exact ⟨iff_of_true ⟨_, List.mem_cons_self, hrefuses⟩ (Or.inl hnone),
      iff_of_true List.mem_cons_self hnone, List.forall_mem_singleton.mpr hrefuses, hname⟩
  · have hrefuses := refusesModel_numberedText name
    have hother : .warning namingPhase (unusableText raw) ∉
        [Diagnostic.warning namingPhase (numberedText name)] := fun hmem =>
      unusableText_ne_numberedText raw hname_digit
        (congrArg Diagnostic.message (List.mem_singleton.mp hmem))
    rw [show stem.notes = _ from hnotes]
    exact ⟨iff_of_true ⟨_, List.mem_cons_self, hrefuses⟩ (Or.inr hdigit),
      iff_of_false hother hparts, List.forall_mem_singleton.mpr hrefuses, hname⟩
  · have hsilent : ¬∃ d ∈ ([] : List Diagnostic), d.RefusesModel := by simp
    have hneither : ¬((settings.modelPrefix = "" ∧ settings.modelSuffix = "") ∨
        startsWithDigit (sanitize settings.modelPrefix) = true) :=
      not_or.mpr ⟨hparts, Bool.not_eq_true _ ▸ hno_digit⟩
    rw [show stem.notes = _ from hnotes]
    exact ⟨iff_of_false hsilent hneither, iff_of_false List.not_mem_nil hparts,
      List.forall_mem_nil _, hname⟩

/-- A part in front that starts with a digit: what is refused is the part with its underscore. -/
theorem unusable_model_is_refused_of_digit :
    let settings : Settings := { modelPrefix := "2" }
    sanitize "名" = "" ∧ startsWithDigit (sanitize settings.modelPrefix) = true ∧
      ∃ d ∈ (settings.naming.modelStem "名").notes, d.RefusesModel := by
  intro settings
  have hraw : sanitize "名" = "" := by decide
  have hdigit : startsWithDigit (sanitize settings.modelPrefix) = true := by decide
  exact ⟨hraw, hdigit, (unusable_model_is_refused_iff settings "名" hraw).1.mpr (Or.inr hdigit)⟩

/-- With a part in front, two models of which nothing is kept get one stem, and nothing is noted. -/
theorem unusable_models_go_unrefused :
    let naming := ({ modelPrefix := "api" } : Settings).naming
    sanitize "名" = "" ∧ naming.modelStem "名" = ⟨"api_", []⟩ ∧
      sanitize "前" = "" ∧ naming.modelStem "前" = ⟨"api_", []⟩ := by
  decide

end CratePlan
