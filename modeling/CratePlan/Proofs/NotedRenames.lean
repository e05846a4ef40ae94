import CratePlan.Proofs.FreeName

/-! Renames and the notes on them. A field, the stem of a model's file and a method have a plain name:
the raw one sanitized and put in snake case. Naming gives this one without a word, or it gives another
one and notes so, once: after the first change that it makes there is no reason left for a second. -/

namespace CratePlan

open Text Identifier

/-- A name reports its change from the plain one: nothing is noted exactly if it is the plain one, and
where something is noted that is one diagnostic and the name is another. -/
structure Named.ReportsChange (x : Named) (plain : String) : Prop where
  silent_iff : x.notes = [] ↔ x.name = plain
  once : x.notes ≠ [] → x.notes.length = 1 ∧ x.name ≠ plain

namespace Named

theorem reportsChange_of_silent (plain : String) : ReportsChange ⟨plain, []⟩ plain :=
  ⟨iff_of_true rfl rfl, fun hne => absurd rfl hne⟩

theorem reportsChange_of_noted {x : Named} {plain : String} (hnotes : x.notes.length = 1)
    (hname : x.name ≠ plain) : x.ReportsChange plain :=
  ⟨iff_of_false (List.ne_nil_of_length_eq_add_one hnotes) hname, fun _ => ⟨hnotes, hname⟩⟩

namespace ReportsChange

variable {x : Named} {plain : String}

theorem eq_plain (h : x.ReportsChange plain) (hname : x.name = plain) : x = ⟨plain, []⟩ := by
  rw [← hname, ← h.silent_iff.mpr hname]

theorem length_notes (h : x.ReportsChange plain) (hname : x.name ≠ plain) : x.notes.length = 1 :=
  (h.once (h.silent_iff.not.mpr hname)).1

end ReportsChange

end Named

namespace Naming

variable (naming : Naming)

/-! ### Guards -/

variable (reservedText digitText : String → String)

theorem guardInTurn_of_no_reason {front : String} {x : Named}
    (hreserved : naming.isReserved x.name = false) (hdigit : startsWithDigit x.name = false) :
    naming.guardInTurn front reservedText digitText x = x := by
  simp only [guardInTurn, Named.andThen, hreserved, hdigit, Bool.false_eq_true, if_false,
    List.append_nil]

theorem guardInTurn_of_digit {front name : String} (hreserved : naming.isReserved name = false)
    (hdigit : startsWithDigit name = true) :
    naming.guardInTurn front reservedText digitText ⟨name, []⟩ =
      .warned (front ++ name) (digitText name) := by
  simp [guardInTurn, Named.andThen, Named.warned, hreserved, hdigit]

/-- A name goes through two guards in one of three ways: it gets the first one, which leaves no reason
for the second, it gets the second one alone, or it gets none. -/
theorem guardInTurn_cases {P : Named → Prop} {front name : String} (hfront : IsGuard front)
    (reserved : naming.isReserved name = true → P (.warned (front ++ name) (reservedText name)))
    (digit : startsWithDigit name = true → P (.warned (front ++ name) (digitText name)))
    (free : P ⟨name, []⟩) :
    P (naming.guardInTurn front reservedText digitText ⟨name, []⟩) := by
  have hguarded : startsWithDigit (front ++ name) = false := by
    rw [startsWithDigit_append hfront.written.ne_empty, hfront.no_digit]
  cases hreserved : naming.isReserved name with
  | true => simpa [guardInTurn, Named.andThen, Named.warned, hreserved, hguarded] using reserved hreserved
  | false =>
      cases hdigit : startsWithDigit name with
      | true =>
          rw [naming.guardInTurn_of_digit _ _ hreserved hdigit]
          exact digit hdigit
      | false =>
          rw [naming.guardInTurn_of_no_reason _ _ (x := ⟨name, []⟩) hreserved hdigit]
          exact free

/-- A sanitized name that is guarded and then put in snake case reports its change from its snake case. -/
theorem guardInTurn_reportsChange (stem : String) {name : String} (hstem : Spelled isStemChar stem)
    (hguard : IsGuard (stem ++ "_")) (hname : Spelled isWordChar name) :
    ((naming.guardInTurn (stem ++ "_") reservedText digitText ⟨name, []⟩).map
      snakeCase).ReportsChange (snakeCase name) := by
  have hchanged : snakeCase (stem ++ "_" ++ name) ≠ snakeCase name := by
    rw [snakeCase_append hstem hname]
    exact String.append_eq_right_iff.not.mpr hguard.written.ne_empty
  refine naming.guardInTurn_cases reservedText digitText hguard ?reserved ?digit ?free
    (P := fun x => (x.map snakeCase).ReportsChange (snakeCase name))
  case reserved => exact fun _ => Named.reportsChange_of_noted rfl hchanged
  case digit => exact fun _ => Named.reportsChange_of_noted rfl hchanged
  case free => exact Named.reportsChange_of_silent _

/-! ### Models, methods and fields -/

/-- A raw name between two parts, joined to them by underscores; an empty part is left out. -/
def joined (front raw back : String) : String :=
  (if front = "" then "" else front ++ "_") ++ raw ++ (if back = "" then "" else "_" ++ back)

theorem affixed_eq_joined (raw : String) :
    naming.affixed raw = joined naming.modelPrefix raw naming.modelSuffix := by
  unfold affixed joined
  split_ifs <;> simp only [String.empty_append, String.append_empty, String.append_assoc]

variable {naming} (hnaming : naming.GoesByKeywords)

include hnaming

/-- The stem of a model comes about in one of two ways: for want of a name, or from the sanitized one by
a guard. The name for want of another one is free, so no guard follows the note on it. -/
theorem modelStem_cases {P : Named → Prop} (raw : String)
    (unnamed : sanitize (naming.affixed raw) = "" →
      P ((Named.warned "model_empty"
        s!"'{raw}' cannot be used as model name. Renamed to model_empty").map snakeCase))
    (guarded : sanitize (naming.affixed raw) ≠ "" →
      P ((naming.guardInTurn "model_"
        (fun name => name ++ " (reserved word) cannot be used as model name. Renamed to model_" ++ name)
        (fun name => name ++ " (model name starts with number) cannot be used as model name. " ++
          ("Renamed to model_" ++ name)) ⟨sanitize (naming.affixed raw), []⟩).map snakeCase)) :
    P (naming.modelStem raw) := by
  rw [modelStem_eq]
  split_ifs with hempty
  · have hfree : naming.IsFree isWordChar "model_empty" := isFree_of_isGuard hnaming (by decide)
    rw [naming.guardInTurn_of_no_reason _ _ (x := .warned "model_empty" _)
      hfree.not_reserved hfree.no_digit]
    exact unnamed hempty
  · exact guarded hempty

theorem modelStem_reportsChange (raw : String) :
    (naming.modelStem raw).ReportsChange (snakeCase (sanitize (naming.affixed raw))) := by
  refine modelStem_cases hnaming raw ?unnamed ?guarded
    (P := fun x => x.ReportsChange (snakeCase (sanitize (naming.affixed raw))))
  case unnamed =>
    intro hempty
    rw [hempty]
    exact Named.reportsChange_of_noted rfl (show snakeCase "model_empty" ≠ snakeCase "" by decide)
  case guarded =>
    exact fun _ =>
      naming.guardInTurn_reportsChange _ _ "model" (by decide) (by decide) (spelled_sanitize _)

omit hnaming in
theorem methodName_reportsChange (raw : String) :
    (naming.methodName raw).ReportsChange (snakeCase (sanitize raw)) := by
  rw [methodName_eq]
  split_ifs with hempty
  · rw [hempty]
    exact Named.reportsChange_of_noted rfl (show "call_empty" ≠ snakeCase "" by decide)
  · exact naming.guardInTurn_reportsChange _ _ "call" (by decide) (by decide) (spelled_sanitize raw)

/-- A sanitized field name as it is written where nothing keeps it from that: one of capitals and
underscores only as it stands, and any other one in snake case. -/
def plainField (clean : String) : String :=
  if Spelled (fun c => c.isUpper || c = '_') clean then clean else snakeCase clean

omit hnaming in
theorem plainField_of_looksConstant {clean : String} (h : looksConstant clean = true) :
    plainField clean = clean := by
  rw [looksConstant, Bool.and_eq_true, List.all_eq_true] at h
  exact if_pos h.2

omit hnaming in
theorem plainField_of_not_looksConstant {clean : String} (hne : clean ≠ "")
    (h : looksConstant clean = false) : plainField clean = snakeCase clean := by
  refine if_neg fun hspelled => Bool.false_ne_true (h.symm.trans ?_)
  rw [looksConstant, Bool.and_eq_true, Bool.not_eq_true', List.isEmpty_eq_false_iff, List.all_eq_true]
  exact ⟨String.toList_eq_nil_iff.not.mpr hne, hspelled⟩

/-- A field comes by its name in one of five ways: for want of any other name, as a constant, by being
escaped, by a guard before a digit, or as it is. No name is both escaped and guarded, since what stands
in for a reserved word starts with no digit. -/
theorem fieldName_cases {P : Named → Prop} (raw : String)
    (unnamed : sanitize raw = "" →
      P (.warned "var_empty" s!"'{raw}' has no identifier characters. Renamed to var_empty"))
    (constant : looksConstant (sanitize raw) = true → P ⟨sanitize raw, []⟩)
    (escaped : ∀ name, Written isStemChar name → plainField (sanitize raw) = name →
      naming.isReserved name = true →
        P (.remarked (naming.escape name) s!"{name} (reserved word) escaped to {naming.escape name}"))
    (numbered : ∀ name, Written isStemChar name → plainField (sanitize raw) = name →
      P (.remarked ("var_" ++ name) s!"{name} (starts with number) renamed to var_{name}"))
    (plain : ∀ name, naming.IsFree isStemChar name → plainField (sanitize raw) = name →
      P ⟨name, []⟩) :
    P (naming.fieldName raw) := by
  unfold fieldName
  rw [sanitize_replaceChar_dash]
  dsimp only
  split_ifs with hempty hconstant
  · exact unnamed hempty
  · exact constant hconstant
  · have hsnake : Written isStemChar (snakeCase (sanitize raw)) :=
      Written.snakeCase ⟨spelled_sanitize raw, hempty⟩
    have hplain : plainField (sanitize raw) = snakeCase (sanitize raw) :=
      plainField_of_not_looksConstant hempty (Bool.not_eq_true _ ▸ hconstant)
    generalize snakeCase (sanitize raw) = name at hsnake hplain
    cases hreserved : naming.isReserved name with
    | true =>
        have hspelled := hsnake.spelled.mono isWordChar_of_isStemChar
        have hdigit := (ReservedTable.isUsable_iff.mp (isUsable_escape hnaming hspelled)).2.2
        simpa [escapeReserved, Named.andThen, Named.remarked, hreserved, hdigit] using
          escaped name hsnake hplain hreserved
    | false =>
        cases hdigit : startsWithDigit name with
        | true =>
            simpa [escapeReserved, Named.andThen, Named.remarked, hreserved, hdigit] using
              numbered name hsnake hplain
        | false =>
            simpa [escapeReserved, Named.andThen, hreserved, hdigit] using
              plain name ⟨hsnake, hdigit, hreserved⟩ hplain

theorem fieldName_reportsChange (raw : String) :
    (naming.fieldName raw).ReportsChange (plainField (sanitize raw)) := by
  refine fieldName_cases hnaming raw ?unnamed ?constant ?escaped ?numbered ?plain
    (P := fun x => x.ReportsChange (plainField (sanitize raw)))
  case unnamed =>
    intro hempty
    rw [hempty]
    exact Named.reportsChange_of_noted rfl (show "var_empty" ≠ plainField "" by decide)
  case constant =>
    intro hconstant
    rw [plainField_of_looksConstant hconstant]
    exact Named.reportsChange_of_silent _
  case escaped =>
    intro name hname hplain hreserved
    have hspelled := hname.spelled.mono isWordChar_of_isStemChar
    have hfree := (ReservedTable.isUsable_iff.mp (isUsable_escape hnaming hspelled)).2.1
    have hchanged : naming.escape name ≠ name := by
      intro heq
      rw [heq] at hfree
      exact Bool.false_ne_true (hfree.symm.trans hreserved)
    rw [hplain]
    exact Named.reportsChange_of_noted rfl hchanged
  case numbered =>
    intro name _ hplain
    rw [hplain]
    exact Named.reportsChange_of_noted rfl (String.append_eq_right_iff.not.mpr (by decide))
  case plain =>
    intro name _ hplain
    rw [hplain]
    exact Named.reportsChange_of_silent name

end Naming

/-- Under any settings and for any raw name, the name of a field, the stem of a model's file and the
name of a method each report their change: nothing is noted exactly if the name is the plain one, and
otherwise there is one diagnostic and the name is another than the plain one. The plain stem of a model
has the configured parts before and behind the raw name. -/
theorem renames_are_reported_once (settings : Settings) (raw : String) :
    let naming := settings.naming
    (naming.fieldName raw).ReportsChange (Naming.plainField (sanitize raw)) ∧
      (naming.modelStem raw).ReportsChange
        (snakeCase (sanitize (Naming.joined settings.modelPrefix raw settings.modelSuffix))) ∧
      (naming.methodName raw).ReportsChange (snakeCase (sanitize raw)) := by
  intro naming
  have hnaming := Naming.goesByKeywords_naming settings
  have hstem := Naming.modelStem_reportsChange hnaming raw
  rw [Naming.affixed_eq_joined] at hstem
  exact ⟨Naming.fieldName_reportsChange hnaming raw, hstem, Naming.methodName_reportsChange raw⟩

/-- A constant and a model between two parts go by their plain names in silence. What is reserved,
starts with a digit or keeps no character goes by another name, as a field, a model and a method alike,
and is noted once. -/
theorem renames_are_reported_once_of_parts :
    let parts := ({ modelPrefix := "api", modelSuffix := "dto" } : Settings).naming
    let naming := ({} : Settings).naming
    let raws := ["return", "200", "!"]
    parts.fieldName "ID-KEY" = ⟨"ID_KEY", []⟩ ∧
      parts.modelStem "PetStore" = ⟨"api_pet_store_dto", []⟩ ∧
      raws.map (fun raw => (naming.fieldName raw).name) = ["_return", "var_200", "var_empty"] ∧
      raws.map (fun raw => (naming.modelStem raw).name) =
        ["model_return", "model_200", "model_empty"] ∧
      raws.map (fun raw => (naming.methodName raw).name) =
        ["call_return", "call_200", "call_empty"] ∧
      ∀ raw ∈ raws, (naming.fieldName raw).notes.length = 1 ∧
        (naming.modelStem raw).notes.length = 1 ∧ (naming.methodName raw).notes.length = 1 := by
  intro parts naming raws
  have hparts := renames_are_reported_once { modelPrefix := "api", modelSuffix := "dto" }
  have hkey : (parts.fieldName "ID-KEY").name = "ID_KEY" := by decide
  have hstore : (parts.modelStem "PetStore").name = "api_pet_store_dto" := by decide
  have hchanged : ∀ raw ∈ raws, (naming.fieldName raw).name ≠ Naming.plainField (sanitize raw) ∧
      (naming.modelStem raw).name ≠ snakeCase (sanitize (Naming.joined "" raw "")) ∧
      (naming.methodName raw).name ≠ snakeCase (sanitize raw) := by
    decide
  refine ⟨(hparts "ID-KEY").1.eq_plain hkey, (hparts "PetStore").2.1.eq_plain hstore, by decide,
    by decide, by decide, fun raw hraw => ?_⟩
  obtain ⟨hfield, hstem, hmethod⟩ := renames_are_reported_once {} raw
  obtain ⟨hfieldName, hstemName, hmethodName⟩ := hchanged raw hraw
  exact ⟨hfield.length_notes hfieldName, hstem.length_notes hstemName,
    hmethod.length_notes hmethodName⟩

end CratePlan
