import CratePlan.Proofs.NotedRenames

/-! Names that naming keeps. A conversion keeps a name if it gives the name itself and notes nothing on
it: those are the free stems for models and methods, and for fields also the names written like a
constant. Whatever a conversion gives is of that kind, so naming a name once more changes nothing. Two
settings stand against that in general: parts that every model name is joined to are joined to it again,
and a replacement for a reserved word is given as the user wrote it. -/

namespace CratePlan

open Text Identifier

namespace Naming

/-- A conversion keeps a name: it gives the name itself and notes nothing. -/
structure Keeps (convert : String → Named) (name : String) : Prop where
  name_eq : (convert name).name = name
  silent : (convert name).notes = []

/-- What a conversion gives for a raw name, it keeps. -/
def Settles (convert : String → Named) : Prop :=
  ∀ raw, Keeps convert (convert raw).name

/-- A conversion that reports its change keeps what is plain already, if it has nothing to note. -/
theorem keeps_of_reportsChange {convert : String → Named} {name : String}
    (h : (convert name).ReportsChange name) (hsilent : (convert name).notes = []) :
    Keeps convert name :=
  ⟨h.silent_iff.mp hsilent, hsilent⟩

variable {naming : Naming}

theorem IsFree.sanitize_eq {name : String} (h : naming.IsFree isStemChar name) :
    sanitize name = name :=
  sanitize_of_spelled (h.written.spelled.mono isWordChar_of_isStemChar)

theorem IsFree.snakeCase_sanitize {name : String} (h : naming.IsFree isStemChar name) :
    Identifier.snakeCase (sanitize name) = name := by
  rw [h.sanitize_eq, snakeCase_of_stem h.written.spelled]

variable (hnaming : naming.GoesByKeywords)

include hnaming

/-! ### Methods and models -/

theorem keeps_methodName_iff {name : String} :
    Keeps naming.methodName name ↔ naming.IsFree isStemChar name := by
  constructor
  · intro hkeeps
    rw [← hkeeps.name_eq]
    exact methodName_isFree hnaming name
  · intro hfree
    have hsilent : (naming.methodName name).notes = [] := by
      rw [notes_methodName_eq_nil_iff, hfree.sanitize_eq]
      exact ⟨hfree.written.ne_empty, hfree.not_reserved, hfree.no_digit⟩
    have hreports := naming.methodName_reportsChange name
    rw [hfree.snakeCase_sanitize] at hreports
    exact keeps_of_reportsChange hreports hsilent

theorem methodName_settles : Settles naming.methodName :=
  fun raw => (keeps_methodName_iff hnaming).mpr (methodName_isFree hnaming raw)

section

variable (hfront : naming.modelPrefix = "") (hback : naming.modelSuffix = "")

include hfront hback

omit hnaming in
theorem affixed_of_no_affixes (raw : String) : naming.affixed raw = raw := by
  rw [affixed, hfront, hback, if_pos rfl, if_pos rfl]

theorem keeps_modelStem_iff {name : String} :
    Keeps naming.modelStem name ↔ naming.IsFree isStemChar name := by
  constructor
  · intro hkeeps
    rw [← hkeeps.name_eq]
    exact modelStem_isFree hnaming name
  · intro hfree
    have hsilent : (naming.modelStem name).notes = [] := by
      rw [notes_modelStem_eq_nil_iff, affixed_of_no_affixes hfront hback, hfree.sanitize_eq]
      exact ⟨hfree.written.ne_empty, hfree.not_reserved, hfree.no_digit⟩
    have hreports := modelStem_reportsChange hnaming name
    rw [affixed_of_no_affixes hfront hback, hfree.snakeCase_sanitize] at hreports
    exact keeps_of_reportsChange hreports hsilent

theorem modelStem_settles : Settles naming.modelStem :=
  fun raw => (keeps_modelStem_iff hnaming hfront hback).mpr (modelStem_isFree hnaming raw)

end

/-! ### Fields -/

theorem keeps_fieldName_of_looksConstant {name : String} (h : looksConstant name = true) :
    Keeps naming.fieldName name := by
  have hclean : sanitize name = name :=
    sanitize_of_spelled (isLegal_of_looksConstant h).written.spelled
  have hname : (naming.fieldName name).name = name := by
    rw [fieldName_of_looksConstant (by rwa [sanitize_replaceChar_dash, hclean]),
      sanitize_replaceChar_dash, hclean]
  refine ⟨hname, (fieldName_reportsChange hnaming name).silent_iff.mpr ?_⟩
  rw [hname, hclean, plainField_of_looksConstant h]

/-- A free stem is kept: it is not reserved and has no digit at its start, so nothing calls for a
change, and it is written the same as a constant and in snake case. -/
theorem keeps_fieldName_of_isFree {name : String} (h : naming.IsFree isStemChar name) :
    Keeps naming.fieldName name := by
  cases hconstant : looksConstant name with
  | true => exact keeps_fieldName_of_looksConstant hnaming hconstant
  | false =>
      have hname : (naming.fieldName name).name = name := by
        rw [name_fieldName, sanitize_replaceChar_dash, h.sanitize_eq, if_neg h.written.ne_empty,
          hconstant, if_neg Bool.false_ne_true, snakeCase_of_stem h.written.spelled,
          name_escapeReserved, h.not_reserved, if_neg Bool.false_ne_true, h.no_digit,
          if_neg Bool.false_ne_true]
      refine ⟨hname, (fieldName_reportsChange hnaming name).silent_iff.mpr ?_⟩
      rw [hname, h.sanitize_eq, plainField_of_not_looksConstant h.written.ne_empty hconstant,
        snakeCase_of_stem h.written.spelled]

theorem keeps_fieldName_of_isGuard {name : String} (h : IsGuard name)
    (hname : Spelled isStemChar name) : Keeps naming.fieldName name :=
  keeps_fieldName_of_isFree hnaming
    ((isFree_of_isGuard hnaming h).respelled ⟨hname, h.written.ne_empty⟩)

theorem keeps_fieldName_append {front name : String} (hfront : IsGuard front)
    (hstem : Spelled isStemChar front) (hname : Spelled isStemChar name) :
    Keeps naming.fieldName (front ++ name) :=
  keeps_fieldName_of_isGuard hnaming (hfront.append (hname.mono isWordChar_of_isStemChar))
    (hstem.append hname)

section

variable
  (hreplacements : ∀ entry ∈ naming.reserved.replacements.entries, Keeps naming.fieldName entry.2)

include hreplacements

/-- What a reserved word is escaped to is kept, if the replacements are. -/
theorem keeps_escape {name : String} (h : Spelled isStemChar name) :
    Keeps naming.fieldName (naming.escape name) := by
  have hbehind : Keeps naming.fieldName ("_" ++ name) :=
    keeps_fieldName_append hnaming (by decide) (by decide) h
  unfold escape ReservedTable.escape
  split
  · next replacement hfind =>
      split_ifs
      · exact hreplacements _ (OrderedMap.mem_of_find? hfind)
      · exact hbehind
  · exact hbehind

theorem fieldName_settles : Settles naming.fieldName := by
  intro raw
  refine fieldName_cases hnaming raw ?unnamed ?constant ?escaped ?numbered ?plain
    (P := fun x => Keeps naming.fieldName x.name)
  case unnamed =>
    intro _
    show Keeps naming.fieldName "var_empty"
    exact keeps_fieldName_of_isGuard hnaming (by decide) (by decide)
  case constant => exact keeps_fieldName_of_looksConstant hnaming
  case escaped =>
    exact fun name hname _ _ => keeps_escape hnaming hreplacements hname.spelled
  case numbered =>
    exact fun name hname _ =>
      keeps_fieldName_append hnaming (by decide) (by decide) hname.spelled
  case plain => exact fun name hfree _ => keeps_fieldName_of_isFree hnaming hfree

end

end Naming

/-- Under settings without parts for model names and without replacements, the name of a field, the
stem of a model's file and the name of a method are names that their conversion keeps, whatever the raw
name is: made a second time they are the same, and nothing is noted. -/
theorem names_settle (settings : Settings) (hfront : settings.modelPrefix = "")
    (hback : settings.modelSuffix = "") (hreplacements : settings.replacements = {}) :
    let naming := settings.naming
    Naming.Settles naming.fieldName ∧ Naming.Settles naming.modelStem ∧
      Naming.Settles naming.methodName := by
  intro naming
  have hnaming := Naming.goesByKeywords_naming settings
  have hnone : naming.reserved.replacements.entries = [] :=
    congrArg OrderedMap.entries hreplacements
  refine ⟨Naming.fieldName_settles hnaming ?_, Naming.modelStem_settles hnaming hfront hback,
    Naming.methodName_settles hnaming⟩
  rw [hnone]
  exact fun _ hentry => absurd hentry List.not_mem_nil

/-- A keyword, a name that starts with a digit and a keyword in another case, under settings that name
a symbol. -/
theorem names_settle_of_renamed :
    let settings : Settings := { symbols := ⟨[("~~", "Wave")]⟩ }
    let naming := settings.naming
    settings.modelPrefix = "" ∧ settings.modelSuffix = "" ∧ settings.replacements = {} ∧
      (naming.fieldName "type").name = "_type" ∧ Naming.Keeps naming.fieldName "_type" ∧
      (naming.modelStem "200Response").name = "model_200_response" ∧
      Naming.Keeps naming.modelStem "model_200_response" ∧
      (naming.methodName "Return").name = "call_return" ∧
      Naming.Keeps naming.methodName "call_return" := by
  intro settings naming
  obtain ⟨hfield, hmodel, hmethod⟩ := names_settle settings rfl rfl rfl
  have htype : (naming.fieldName "type").name = "_type" := by decide +kernel
  have hresponse : (naming.modelStem "200Response").name = "model_200_response" := by
    decide +kernel
  have hreturn : (naming.methodName "Return").name = "call_return" := by decide +kernel
  exact ⟨rfl, rfl, rfl, htype, htype ▸ hfield "type", hresponse, hresponse ▸ hmodel "200Response",
    hreturn, hreturn ▸ hmethod "Return"⟩

end CratePlan
