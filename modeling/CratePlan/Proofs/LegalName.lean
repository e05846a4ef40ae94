import CratePlan.Naming.Variant
import CratePlan.Proofs.Keyword
import CratePlan.Proofs.OrderedMap
import CratePlan.Proofs.Spelling
import CratePlan.Settings.Reader

/-! Names that the compiler reads as plain identifiers. Fields, parameters, enums and their variants
come about in different ways: kept as they stand, lowered, raised, escaped or replaced by what the
settings prefer. All keywords have a small letter and none has an underscore, so a name in capitals
is safe, and so is one behind an underscore; the rules for settings take care of the rest. -/

namespace CratePlan

open Text Identifier

/-- A name that is a plain identifier: word characters, no digit at the start, and no keyword. -/
structure IsLegal (name : String) : Prop where
  written : Written isWordChar name
  no_digit : startsWithDigit name = false
  no_keyword : name ∉ keywords

namespace Identifier

theorem any_isLower_keyword : ∀ word ∈ keywords, word.toList.any Char.isLower := by
  decide

end Identifier

theorem Identifier.IsGuard.isLegal {name : String} (h : IsGuard name) : IsLegal name :=
  ⟨h.written, h.no_digit, notMem_keywords_of_not_isKeyword (isKeyword_of_underscore h.underscore)⟩

theorem isLegal_underscore_append {rest : String} (hrest : Spelled isWordChar rest) :
    IsLegal ("_" ++ rest) :=
  (IsGuard.append (by decide) hrest).isLegal

theorem isLegal_of_shout {name : String} (hname : Written isShoutChar name)
    (hdigit : startsWithDigit name = false) : IsLegal name := by
  refine ⟨hname.mono isWordChar_of_isShoutChar, hdigit, fun hmem => ?_⟩
  obtain ⟨c, hc, hlower⟩ := List.any_eq_true.mp (any_isLower_keyword name hmem)
  have hshout := hname.spelled c hc
  exact absurd hlower (of_wordChar (p := fun c => isShoutChar c → ¬c.isLower = true) (by decide)
    (isWordChar_of_isShoutChar c hshout) hshout)

theorem isLegal_of_looksConstant {name : String} (h : looksConstant name) : IsLegal name := by
  rw [looksConstant, Bool.and_eq_true, Bool.not_eq_true', List.isEmpty_eq_false_iff,
    List.all_eq_true] at h
  obtain ⟨hne, hall⟩ := h
  have hshout : Spelled isShoutChar name := by
    intro c hc
    have hchar : c.isUpper ∨ c = '_' := by simpa using hall c hc
    rcases hchar with hupper | rfl
    · simp [isShoutChar, hupper]
    · decide
  refine isLegal_of_shout ⟨hshout, fun hempty => hne (String.toList_inj.mpr hempty)⟩ ?_
  refine startsWithDigit_eq_false fun c hc => isDigit_of_starter ?_
  have hchar := hall c (List.mem_of_head? hc)
  rw [Bool.or_eq_true] at hchar ⊢
  exact hchar.imp_left fun hupper => isAlpha_iff.mpr (Or.inl hupper)

/-! ### What the rules for settings leave -/

namespace Settings

theorem written_of_identifierFault? {name : String} (h : identifierFault? name = none) :
    Written isWordChar name ∧ ∀ c ∈ name.toList.head?, c.isAlpha || c = '_' := by
  unfold identifierFault? at h
  split at h
  · cases h
  · next first rest hname =>
      split_ifs at h with hfirst hrest
      have hstart : (first.isAlpha || decide (first = '_')) = true := by
        simpa only [Bool.not_eq_true', Bool.not_eq_false] using hfirst
      refine ⟨⟨?_, ?_⟩, ?_⟩
      · intro c hc
        rw [hname, List.mem_cons] at hc
        rcases hc with rfl | hc
        · exact isWordChar_of_starter hstart
        · exact List.all_eq_true.mp hrest c hc
      · rintro rfl
        cases hname
      · rw [hname]
        rintro c hc
        cases hc
        exact hstart

theorem startsWithDigit_of_identifierFault? {name : String} (h : identifierFault? name = none) :
    startsWithDigit name = false :=
  startsWithDigit_eq_false fun c hc =>
    isDigit_of_starter ((written_of_identifierFault? h).2 c hc)

theorem isLegal_of_replacementError? {text word replacement : String}
    (h : replacementError? text word replacement = none) : IsLegal replacement := by
  unfold replacementError? at h
  split at h
  · cases h
  · next hfault =>
      split_ifs at h with hkeyword
      refine ⟨(written_of_identifierFault? hfault).1, startsWithDigit_of_identifierFault? hfault,
        fun hmem => hkeyword ?_⟩
      exact List.any_eq_true.mpr ⟨replacement, hmem, decide_eq_true rfl⟩

/-- What stands in settings that keep the rules: legal names for words, identifiers for symbols. -/
structure KeepsRules (settings : Settings) : Prop where
  replacements : ∀ entry ∈ settings.replacements.entries, IsLegal entry.2
  symbols : ∀ entry ∈ settings.symbols.entries, identifierFault? entry.2 = none

theorem entries_of_error? {settings : Settings} {text : String}
    (h : settings.error? text = none) :
    (∀ entry ∈ settings.replacements.entries, replacementError? text entry.1 entry.2 = none) ∧
      ∀ entry ∈ settings.symbols.entries, aliasError? text entry.1 entry.2 = none := by
  unfold error? at h
  split_ifs at h
  rwa [Option.orElse_eq_orElse, Option.orElse_eq_or, Option.or_eq_none_iff,
    List.findSome?_eq_none_iff, List.findSome?_eq_none_iff] at h

theorem error?_of_ofText {text : String} {settings : Settings} (h : ofText text = .ok settings) :
    settings.error? text = none := by
  unfold ofText at h
  split at h
  · cases h
  · split at h
    · cases h
    · next herror =>
        cases h
        exact herror

theorem keepsRules_of_ofText {text : String} {settings : Settings}
    (h : ofText text = .ok settings) : KeepsRules settings := by
  obtain ⟨hreplacements, hsymbols⟩ := entries_of_error? (error?_of_ofText h)
  refine ⟨fun entry hentry => isLegal_of_replacementError? (hreplacements entry hentry), ?_⟩
  intro entry hentry
  have halias := hsymbols entry hentry
  rwa [aliasError?, Option.map_eq_none_iff] at halias

end Settings

/-! ### Naming by the rules -/

namespace Naming

/-- Naming that goes by the keywords and by settings that keep the rules. -/
structure KeepsRules (naming : Naming) : Prop where
  words : naming.reserved.words = keywords.map lowercase
  replacements : ∀ entry ∈ naming.reserved.replacements.entries, IsLegal entry.2
  symbols : ∀ entry ∈ naming.symbols.entries, Settings.identifierFault? entry.2 = none

theorem keepsRules_naming {settings : Settings} (h : settings.KeepsRules) :
    settings.naming.KeepsRules := by
  have hdefault : ∀ entry ∈ defaultSymbols, Settings.identifierFault? entry.2 = none := by
    decide
  refine ⟨rfl, h.replacements, ?_⟩
  have hofList : ∀ entry ∈ (OrderedMap.ofList defaultSymbols).entries,
      Settings.identifierFault? entry.2 = none :=
    OrderedMap.forall_insertAll (P := fun name => Settings.identifierFault? name = none)
      (fun _ hentry => absurd hentry List.not_mem_nil) hdefault
  exact OrderedMap.forall_insertAll (P := fun name => Settings.identifierFault? name = none)
    hofList h.symbols

variable {naming : Naming} (hnaming : naming.KeepsRules)

include hnaming

theorem notMem_keywords_of_not_isReserved {name : String} (h : naming.isReserved name = false) :
    name ∉ keywords := by
  intro hmem
  rw [isReserved, ReservedTable.isReserved, hnaming.words, List.contains_eq_mem,
    decide_eq_false_iff_not] at h
  exact h (List.mem_map_of_mem hmem)

theorem escape_isLegal {name : String} (h : Spelled isWordChar name) :
    IsLegal (naming.escape name) := by
  unfold escape ReservedTable.escape
  split
  · next replacement hfind =>
      split_ifs
      · exact hnaming.replacements _ (OrderedMap.mem_of_find? hfind)
      · exact isLegal_underscore_append h
  · exact isLegal_underscore_append h

/-- Escaping leaves word characters that are no keyword, whether or not it was called for. -/
theorem escapeReserved_spec {name : String} (h : Written isWordChar name) :
    Written isWordChar (naming.escapeReserved name).name ∧
      (naming.escapeReserved name).name ∉ keywords := by
  unfold escapeReserved
  split_ifs with hreserved
  · have hescape := escape_isLegal hnaming h.spelled
    exact ⟨hescape.written, hescape.no_keyword⟩
  · exact ⟨h, notMem_keywords_of_not_isReserved hnaming (Bool.not_eq_true _ ▸ hreserved)⟩

theorem fieldName_isLegal (raw : String) : IsLegal (naming.fieldName raw).name := by
  have hclean := spelled_sanitize (replaceChar '-' "_" raw)
  rw [name_fieldName]
  split_ifs with hempty hconstant hdigit
  · exact IsGuard.isLegal (by decide)
  · exact isLegal_of_looksConstant hconstant
  all_goals
    obtain ⟨hname, hkeyword⟩ :=
      escapeReserved_spec hnaming ((Written.snakeCase ⟨hclean, hempty⟩).mono isWordChar_of_isStemChar)
  · exact (IsGuard.append (by decide) hname.spelled).isLegal
  · exact ⟨hname, Bool.not_eq_true _ ▸ hdigit, hkeyword⟩

/-! ### Enums and their variants -/

omit hnaming in
theorem mem_of_mem_dropOneLeading {c : Char} {cs : List Char} (h : c ∈ dropOneLeading cs) :
    c ∈ cs := by
  cases cs with
  | nil => cases h
  | cons d rest =>
      rw [dropOneLeading] at h
      split_ifs at h
      · exact List.mem_cons_of_mem d h
      · exact h

omit hnaming in
theorem spelled_dropOuterUnderscores {p : Char → Bool} {s : String} (h : Spelled p s) :
    Spelled p (dropOuterUnderscores s) := by
  refine spelled_ofList fun c hc => h c ?_
  exact mem_of_mem_dropOneLeading (List.mem_reverse.mp
    (mem_of_mem_dropOneLeading (List.mem_reverse.mp hc)))

omit hnaming in
theorem spelled_shouted (value : String) : Spelled isWordChar (shouted value) :=
  spelled_dropOuterUnderscores (spelled_sanitize _)

omit hnaming in
theorem isLegal_uppercase {name : String} (h : Settings.identifierFault? name = none) :
    IsLegal (uppercase name) := by
  obtain ⟨hname, hhead⟩ := Settings.written_of_identifierFault? h
  refine isLegal_of_shout hname.uppercase (startsWithDigit_eq_false fun c hc => ?_)
  rw [toList_uppercase hname.spelled, List.head?_map, Option.mem_def,
    Option.map_eq_some_iff] at hc
  obtain ⟨first, hfirst, rfl⟩ := hc
  exact isDigit_toUpper_of_starter (hhead first hfirst)

theorem variantName_isLegal {datatype : String} (hdatatype : isNumeric datatype = false)
    (value : String) : IsLegal (naming.variantName value datatype).name := by
  have hempty : IsLegal "EMPTY" := isLegal_of_looksConstant (by decide)
  have hshouted := spelled_shouted value
  unfold variantName
  rw [hdatatype, if_neg Bool.false_ne_true]
  split_ifs with hvalue
  · exact hempty
  · split
    · next symbol hsymbol =>
        exact isLegal_uppercase (hnaming.symbols _ (OrderedMap.mem_of_find? hsymbol))
    · dsimp only
      split_ifs with hname hescape
      · exact hempty
      · exact escape_isLegal hnaming hshouted
      · rw [Bool.not_eq_true, Bool.or_eq_false_iff] at hescape
        exact ⟨⟨hshouted, hname⟩, hescape.2,
          notMem_keywords_of_not_isReserved hnaming hescape.1⟩

/-- The stem of a model in Pascal case and back in snake case, in capitals. -/
def shoutedModel (naming : Naming) (property : String) : String :=
  uppercase (snakeCase (naming.modelName property).name)

omit hnaming in
theorem shoutedModel_written (naming : Naming) (property : String) :
    Written isShoutChar (naming.shoutedModel property) :=
  ((naming.modelName_written property).snakeCase.mono isWordChar_of_isStemChar).uppercase

omit hnaming in
/-- There are no brackets to drop, so all that can be changed is a digit at the start. -/
theorem name_enumName (naming : Naming) (property : String) :
    (naming.enumName property).name =
      if startsWithDigit (naming.shoutedModel property) then "_" ++ naming.shoutedModel property
      else naming.shoutedModel property := by
  have hbracket : '[' ∉ (naming.shoutedModel property).toList :=
    fun hc => absurd ((naming.shoutedModel_written property).spelled '[' hc) (by decide)
  have hsame : replacePair '[' ']' "" (naming.shoutedModel property) =
      naming.shoutedModel property := by
    rw [replacePair, replacePairChars_of_notMem hbracket, String.ofList_toList]
  rw [enumName, Named.map]
  dsimp only
  rw [← shoutedModel, hsame]

omit hnaming in
theorem enumName_isLegal (naming : Naming) (property : String) :
    IsLegal (naming.enumName property).name := by
  have hname := naming.shoutedModel_written property
  rw [name_enumName]
  split_ifs with hdigit
  · exact isLegal_underscore_append (hname.mono isWordChar_of_isShoutChar).spelled
  · exact isLegal_of_shout hname (Bool.not_eq_true _ ▸ hdigit)

end Naming

end CratePlan
