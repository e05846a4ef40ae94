import CratePlan.Proofs.FieldClashes
import CratePlan.Proofs.TypeName
import CratePlan.Proofs.VariantClashes

/-! Enums of one model that have one name. Planning warns of a second property for a field, but the name
of an enum is made for each property alone, from a stem that is put in Pascal case and back in snake case.
On the way the underscores of the stem are dropped and set anew, so stems that differ in no more than
underscores may lead to one enum; and fields in capitals, which differ from those in small letters, have
the same stem. -/

namespace CratePlan

open Text Identifier

namespace Identifier

/-! ### Pascal case read back in snake case -/

theorem startsWithTwoSmall_concat_underscore (cs : List Char) :
    startsWithTwoSmall (cs ++ ['_']) = startsWithTwoSmall cs := by
  have hunderscore : '_'.isLower = false := by decide
  rcases cs with _ | ⟨c, _ | ⟨d, rest⟩⟩
  · rfl
  · simp [startsWithTwoSmall, hunderscore]
  · rfl

/-- An underscore at the end has no part in where words start. -/
theorem snakePass_concat_underscore (before : Option Char) (cs : List Char) :
    snakePass before (cs ++ ['_']) = snakePass before cs ++ ['_'] := by
  induction cs generalizing before with
  | nil =>
      rw [List.nil_append, snakePass_cons_of_isSnake isSnake_underscore]
      rfl
  | cons c rest ih =>
      rw [List.cons_append, snakePass, snakePass, startsWord, startsWord,
        startsWithTwoSmall_concat_underscore, ih (some c), List.append_assoc, List.append_assoc,
        List.append_assoc]

theorem getLast?_snakePass_ne {before : Option Char} {cs : List Char} (h : ∀ c ∈ cs, c.isAlphanum) :
    (snakePass before cs).getLast? ≠ some '_' := by
  induction cs generalizing before with
  | nil => simp [snakePass]
  | cons c rest ih =>
      rw [List.forall_mem_cons] at h
      rw [snakePass, snakeChar_of_wordChar (isWordChar_of_isAlphanum c h.1), List.getLast?_append,
        List.getLast?_concat]
      intro hlast
      rcases Option.or_eq_some_iff.mp hlast with hrest | ⟨_, hc⟩
      · exact ih h.2 hrest
      · exact toLower_ne_underscore h.1 (Option.some.inj hc)

/-- Pascal case drops the underscores of a stem and raises some letters, which is all. -/
theorem map_toLower_pascalBody {upper : Bool} {cs : List Char} (h : ∀ c ∈ cs, isStemChar c) :
    (pascalBody upper cs).map Char.toLower = cs.filter (· ≠ '_') := by
  induction cs generalizing upper with
  | nil => rfl
  | cons c rest ih =>
      rw [List.forall_mem_cons] at h
      have hword : isWordChar c := isWordChar_of_isStemChar c h.1
      have hlower : c.toLower = c :=
        of_wordChar (p := fun c => isStemChar c → c.toLower = c) (by decide) hword h.1
      rw [pascalBody]
      split_ifs with hunderscore hupper
      · rw [ih h.2, List.filter_cons_of_neg (by simpa using hunderscore)]
      · rw [upperChar_of_wordChar hword, List.map_append, ih h.2, List.map_singleton,
          toLower_toUpper h.1, List.filter_cons_of_pos (by simpa using hunderscore)]
        rfl
      · rw [List.map_append, ih h.2, List.map_singleton, hlower,
          List.filter_cons_of_pos (by simpa using hunderscore)]
        rfl

/-- Two stems read alike in Pascal case: they have the same letters and digits, their words start at the
same places there, and an underscore ends both or neither. -/
structure ReadAlike (s t : String) : Prop where
  letters : s.toList.filter (· ≠ '_') = t.toList.filter (· ≠ '_')
  words : wordMarks none (pascalBody true s.toList) = wordMarks none (pascalBody true t.toList)
  ending : s.toList.getLast? = some '_' ↔ t.toList.getLast? = some '_'

theorem toList_snakeCase_pascalCase {s : String} (h : Spelled isStemChar s) :
    (snakeCase (pascalCase s)).toList =
      snakePass none (pascalBody true s.toList) ++ trailingUnderscore s.toList := by
  have hword := h.mono isWordChar_of_isStemChar
  have hpascal : Spelled isWordChar (pascalCase s) := spelled_ofList (isWordChar_of_mem_pascalChars hword)
  rw [toList_snakeCase hpascal, pascalCase, String.toList_ofList, pascalChars_eq_append,
    trailingUnderscore]
  split_ifs
  · exact snakePass_concat_underscore none _
  · rw [List.append_nil, List.append_nil]

theorem append_trailingUnderscore_inj {cs ds xs ys : List Char} (hcs : cs.getLast? ≠ some '_')
    (hds : ds.getLast? ≠ some '_') :
    cs ++ trailingUnderscore xs = ds ++ trailingUnderscore ys ↔
      cs = ds ∧ (xs.getLast? = some '_' ↔ ys.getLast? = some '_') := by
  unfold trailingUnderscore
  split_ifs with hx hy hy
  · simp [hx, hy]
  · refine iff_of_false (fun h => hds ?_) fun h => hy (h.2.mp hx)
    rw [List.append_nil] at h
    rw [← h, List.getLast?_concat]
  · refine iff_of_false (fun h => hcs ?_) fun h => hx (h.2.mpr hy)
    rw [List.append_nil] at h
    rw [h, List.getLast?_concat]
  · simp [hx, hy]

/-- Pascal case and snake case after it forget where the underscores of a stem were, unless words start
there. -/
theorem snakeCase_pascalCase_eq_iff {s t : String} (hs : Spelled isStemChar s)
    (ht : Spelled isStemChar t) : snakeCase (pascalCase s) = snakeCase (pascalCase t) ↔ ReadAlike s t := by
  have halnum {u : String} (hu : Spelled isStemChar u) : ∀ c ∈ pascalBody true u.toList, c.isAlphanum :=
    isAlphanum_of_mem_pascalBody (hu.mono isWordChar_of_isStemChar)
  rw [← String.toList_inj, toList_snakeCase_pascalCase hs, toList_snakeCase_pascalCase ht,
    append_trailingUnderscore_inj (getLast?_snakePass_ne (halnum hs)) (getLast?_snakePass_ne (halnum ht)),
    snakePass_eq_iff (halnum hs) (halnum ht), map_toLower_pascalBody hs, map_toLower_pascalBody ht]
  exact ⟨fun ⟨⟨hletters, hwords⟩, hending⟩ => ⟨hletters, hwords, hending⟩,
    fun h => ⟨⟨h.letters, h.words⟩, h.ending⟩⟩

/-- Snake case of Pascal case starts with an underscore only where there is nothing else. -/
theorem snakeCase_pascalCase_of_head {s : String} (h : Written isStemChar s)
    (hhead : (snakeCase (pascalCase s)).toList.head? = some '_') : snakeCase (pascalCase s) = "_" := by
  have hword := h.mono isWordChar_of_isStemChar
  have hpascal : Spelled isWordChar (pascalCase s) := hword.pascalCase.spelled
  rw [toList_snakeCase hpascal, pascalCase, String.toList_ofList] at hhead
  rw [← String.toList_inj, toList_snakeCase hpascal, pascalCase, String.toList_ofList]
  rcases pascalChars_cases hword.spelled h.toList_ne_nil with
    ⟨_, hchars⟩ | ⟨c, rest, hcore, hmem, hchars⟩
  · rw [hchars]
    decide
  · have hstem : isStemChar c := h.spelled c (hmem c List.mem_cons_self)
    have hunderscore : c ≠ '_' := by
      have hfront := List.head?_dropWhile_not (· = '_') s.toList
      simpa [hcore] using hfront
    have hupper : isWordChar c.toUpper := isWordChar_of_isShoutChar _
      (isShoutChar_toUpper (isWordChar_of_isStemChar c hstem))
    rw [hchars, snakePass, startsWord, snakeChar_of_wordChar hupper, toLower_toUpper hstem] at hhead
    simp [hunderscore] at hhead

theorem head?_uppercase_eq_underscore_iff {s : String} (h : Spelled isWordChar s) :
    (uppercase s).toList.head? = some '_' ↔ s.toList.head? = some '_' := by
  rw [toList_uppercase h, List.head?_map]
  cases hs : s.toList with
  | nil => simp
  | cons c rest =>
      have hc : c.toUpper = '_' ↔ c = '_' :=
        of_wordChar (p := fun c => c.toUpper = '_' ↔ c = '_') (by decide)
          (h c (by rw [hs]; exact List.mem_cons_self))
      simp [hc]

end Identifier

namespace Naming

variable (naming : Naming)

/-! ### Names of enums -/

theorem shoutedModel_eq_iff (a b : String) :
    naming.shoutedModel a = naming.shoutedModel b ↔
      ReadAlike (naming.modelStem a).name (naming.modelStem b).name := by
  have hstem (raw : String) := (naming.modelStem_written raw).spelled
  have hsnake (raw : String) := spelled_snakeCase (naming.modelName_written raw).spelled
  rw [shoutedModel, shoutedModel, uppercase_inj (hsnake a) (hsnake b), modelName, modelName,
    Named.name_map, Named.name_map, snakeCase_pascalCase_eq_iff (hstem a) (hstem b)]

/-- An underscore in front of the capitals of a model gives those of no other model, so that it may be put
before a digit. -/
theorem underscore_shoutedModel_ne (a b : String) :
    "_" ++ naming.shoutedModel a ≠ naming.shoutedModel b := by
  intro heq
  have hname : naming.shoutedModel b = "_" := by
    have hsnake := spelled_snakeCase (naming.modelName_written b).spelled
    have hhead : (naming.shoutedModel b).toList.head? = some '_' := by
      rw [← heq, String.toList_append]
      rfl
    rw [shoutedModel, head?_uppercase_eq_underscore_iff (hsnake.mono isWordChar_of_isStemChar),
      modelName, Named.name_map] at hhead
    rw [shoutedModel, modelName, Named.name_map,
      snakeCase_pascalCase_of_head (naming.modelStem_written b) hhead]
    decide
  rw [hname, ← String.toList_inj, String.toList_append] at heq
  have hnil : (naming.shoutedModel a).toList = [] := (List.cons.inj heq).2
  exact (naming.shoutedModel_written a).toList_ne_nil hnil

theorem name_enumName_eq_iff (a b : String) :
    (naming.enumName a).name = (naming.enumName b).name ↔
      ReadAlike (naming.modelStem a).name (naming.modelStem b).name := by
  rw [← naming.shoutedModel_eq_iff, name_enumName, name_enumName]
  split_ifs with ha hb hb
  · exact String.append_right_inj "_"
  · refine iff_of_false (naming.underscore_shoutedModel_ne a b) fun h => hb ?_
    rw [← h]
    exact ha
  · refine iff_of_false (naming.underscore_shoutedModel_ne b a).symm fun h => ha ?_
    rw [h]
    exact hb
  · exact Iff.rfl

/-! ### Models that nothing is warned of -/

omit naming in
theorem hasWarning_placed_iff (raised : Raised) : HasWarning raised.placed ↔ HasWarning raised.notes :=
  hasWarning_map_iff (f := fun d => { d with location := some raised.place }) fun _ => rfl

/-- A property that nothing is to be warned of by itself: it keeps a character of its name, and if it is
restricted, its enum is plain. -/
structure IsPlainProperty (property : Property) : Prop where
  field_named : sanitize property.name ≠ ""
  enum_plain : property.isEnum = true → naming.IsPlainEnum property

theorem not_hasWarning_planField_iff_isPlainProperty (property : Property) :
    ¬HasWarning (naming.planField property).notes ↔ naming.IsPlainProperty property := by
  cases henum : property.isEnum with
  | true =>
      rw [naming.not_hasWarning_planField_iff henum]
      exact ⟨fun h => ⟨h.field_named, fun _ => h⟩, fun h => h.enum_plain henum⟩
  | false =>
      rw [notes_planField, propertyNotes, enumNotes, henum, if_neg Bool.false_ne_true,
        List.append_nil, hasWarning_append_iff, hasWarning_fieldName_iff, sanitize_replaceChar_dash,
        or_iff_left (not_hasWarning_unmappedNotes property.schema)]
      exact ⟨fun h => ⟨h, fun htrue => absurd (henum.symm.trans htrue) Bool.false_ne_true⟩,
        fun h => h.field_named⟩

/-- A model that nothing is to be warned of: its name goes through as it is, each property is plain, and
no two have one field. -/
structure IsPlainModel (model : Model) : Prop where
  name_free : naming.IsFree isWordChar (sanitize (naming.affixed model.name))
  properties_plain : ∀ property ∈ model.properties, naming.IsPlainProperty property
  fields_differ : (model.properties.map fun property => (naming.fieldName property.name).name).Nodup

theorem hasWarning_clashNotes_iff (earlier : List Property) (property : Property) :
    HasWarning (naming.clashNotes earlier property) ↔
      naming.firstWithField? earlier property ≠ none := by
  rw [clashNotes, firstWithField?]
  split
  · next first hfirst =>
      rw [hfirst]
      exact iff_of_true (hasWarning_warning _ _) (Option.some_ne_none first)
  · next hnone =>
      rw [hnone]
      exact iff_of_false not_hasWarning_nil fun h => h rfl

/-- The steps of a model warn of what they would warn of alone, and of shared fields. -/
theorem forall_not_hasWarning_iff (model : String) (earlier properties : List Property) :
    (∀ raised ∈ naming.propertySteps model earlier properties, ¬HasWarning raised.placed) ↔
      (∀ property ∈ properties, naming.IsPlainProperty property) ∧
        ∀ raised ∈ naming.propertySteps model earlier properties, clashes raised.placed = [] := by
  induction properties generalizing earlier with
  | nil => simp [propertySteps]
  | cons property rest ih =>
      rw [propertySteps, List.forall_mem_cons, List.forall_mem_cons, List.forall_mem_cons, ih,
        naming.clashes_propertyStep, Option.toList_eq_nil_iff, Option.map_eq_none_iff,
        hasWarning_placed_iff, hasWarning_append_iff, not_or, ← notes_planField,
        not_hasWarning_planField_iff_isPlainProperty, hasWarning_clashNotes_iff, Ne, not_not]
      tauto

theorem not_isWarned_planModel_iff (layout : Output.Layout) (model : Model) :
    ¬(naming.planModel layout model).IsWarned ↔ naming.IsPlainModel model := by
  have hseen : naming.Takes [] [] := fun _ => rfl
  have hfields : ¬naming.WarnsOfFields model ↔
      ∀ raised ∈ naming.propertySteps model.name [] model.properties, ¬HasWarning raised.placed := by
    have hsteps : (∀ notes ∈ (naming.planFields model.name [] model.properties).map Noted.notes,
        ¬HasWarning notes) ↔ ∀ noted ∈ naming.planFields model.name [] model.properties,
          ¬HasWarning noted.notes := List.forall_mem_map
    rw [naming.map_notes_planFields hseen, List.forall_mem_map] at hsteps
    change ¬(∃ noted ∈ _, HasWarning (Noted.notes noted)) ↔ _
    rw [hsteps]
    simp only [not_exists, not_and]
  rw [isWarned_planModel_iff, not_or, not_not, hfields, forall_not_hasWarning_iff,
    forall_clashes_eq_nil_iff]
  constructor
  · rintro ⟨hname, hplain, hdiffer, _⟩
    exact ⟨hname, hplain, hdiffer⟩
  · intro h
    exact ⟨h.name_free, h.properties_plain, h.fields_differ, fun _ _ => rfl⟩

/-- The fields of a plain model tell its properties apart. -/
theorem IsPlainModel.varName_eq_iff {naming : Naming} {model : Model} (h : naming.IsPlainModel model)
    {p q : Property} (hp : p ∈ model.properties) (hq : q ∈ model.properties) :
    (naming.planField p).value.varName = (naming.planField q).value.varName ↔ p = q :=
  ⟨fun heq => List.inj_on_of_nodup_map h.fields_differ hp hq heq, fun heq => heq ▸ rfl⟩

theorem IsPlainModel.modelStem_eq {naming : Naming} {model : Model} (h : naming.IsPlainModel model)
    {property : Property} (hproperty : property ∈ model.properties) (henum : property.isEnum = true) :
    (naming.modelStem property.name).name = snakeCase (sanitize (naming.affixed property.name)) :=
  naming.modelStem_of_isFree ((h.properties_plain property hproperty).enum_plain henum).enum_free

end Naming

/-- Two restricted properties of a model have enums of one name exactly if the stems of these read alike in
Pascal case. The model goes without a warning exactly if its name and the names of its enums go through as
they are, each of its properties keeps a character, each of its literals gives a name, and no two of its
properties have one field. So two properties with different fields have enums of one name, and nothing warns
of it, exactly if they are different properties of such a model and read alike. -/
theorem enums_meet_silently_iff (naming : Naming) (layout : Output.Layout) {model : Model}
    {p q : Property} (hp : p ∈ model.properties) (hq : q ∈ model.properties)
    (hpEnum : p.isEnum = true) (hqEnum : q.isEnum = true) :
    let plan := naming.planModel layout model
    let fieldOf (property : Property) := (naming.planField property).value
    let enumOf (property : Property) := (fieldOf property).enumPlan.map EnumPlan.name
    let stemOf (property : Property) := snakeCase (sanitize (naming.affixed property.name))
    fieldOf p ∈ plan.fields ∧ fieldOf q ∈ plan.fields ∧
      enumOf p = some (naming.enumName p.name).name ∧
      (enumOf p = enumOf q ↔
        ReadAlike (naming.modelStem p.name).name (naming.modelStem q.name).name) ∧
      (¬plan.IsWarned ↔ naming.IsPlainModel model) ∧
      ((fieldOf p).varName ≠ (fieldOf q).varName ∧ enumOf p = enumOf q ∧ ¬plan.IsWarned ↔
        naming.IsPlainModel model ∧ p ≠ q ∧ ReadAlike (stemOf p) (stemOf q)) := by
  intro plan fieldOf enumOf stemOf
  have hfield {property : Property} (h : property ∈ model.properties) : fieldOf property ∈ plan.fields := by
    rw [show plan = naming.planModel layout model from rfl, naming.fields_planModel]
    exact List.mem_map_of_mem h
  have henum {property : Property} (h : property.isEnum = true) :
      enumOf property = some (naming.enumName property.name).name := by
    simp only [enumOf, fieldOf, naming.enumPlan_planField h, Option.map_some, Naming.planEnum]
  have hmeet : enumOf p = enumOf q ↔
      ReadAlike (naming.modelStem p.name).name (naming.modelStem q.name).name := by
    rw [henum hpEnum, henum hqEnum, Option.some_inj, naming.name_enumName_eq_iff]
  have hquiet : ¬plan.IsWarned ↔ naming.IsPlainModel model :=
    naming.not_isWarned_planModel_iff layout model
  refine ⟨hfield hp, hfield hq, henum hpEnum, hmeet, hquiet, ?_⟩
  rw [hquiet, hmeet, ← and_assoc, and_comm]
  refine and_congr_right fun hplain => ?_
  rw [hplain.modelStem_eq hp hpEnum, hplain.modelStem_eq hq hqEnum, Ne, hplain.varName_eq_iff hp hq]

/-- The properties `status_1` and `status1` of a model are told apart by their fields, but not by their
enums: the underscore before a digit goes lost in Pascal case. -/
theorem enums_meet_silently_of_status :
    let naming := ({} : Settings).naming
    let status (name : String) : Property :=
      { name, schema := .primitive "string", isEnum := true, enumValues := ["on", "off"] }
    let lamp : Model := { name := "Lamp", properties := [status "status_1", status "status1"] }
    (∀ p ∈ lamp.properties, p.isEnum = true) ∧ naming.IsPlainModel lamp ∧
      ReadAlike "status_1" "status1" := by
  intro naming status lamp
  obtain ⟨_, _, _, _, _, hsilent⟩ := enums_meet_silently_iff naming ⟨"out"⟩
    (show status "status_1" ∈ lamp.properties by decide)
    (show status "status1" ∈ lamp.properties by decide) rfl rfl
  have hquiet : (naming.planModel ⟨"out"⟩ lamp).diagnostics = [] := by decide +kernel
  obtain ⟨hplain, _, halike⟩ := hsilent.mp ⟨by decide +kernel, by decide +kernel, fun ⟨d, hd, _⟩ => by
    rw [hquiet] at hd
    exact absurd hd List.not_mem_nil⟩
  have hfirst : snakeCase (sanitize (naming.affixed "status_1")) = "status_1" := by decide +kernel
  have hsecond : snakeCase (sanitize (naming.affixed "status1")) = "status1" := by decide +kernel
  rw [← hfirst, ← hsecond]
  exact ⟨by decide, hplain, halike⟩

/-- The properties `ID` and `id` have fields of their own, but one enum `ID` between them, and nothing is
noted on the model. -/
theorem enums_meet_silently_of_id :
    let property (name : String) : Property :=
      { name, schema := .primitive "string", isEnum := true, enumValues := ["a"] }
    let model : Model := { name := "Pet", properties := [property "ID", property "id"] }
    let plan := ({} : Settings).naming.planModel ⟨"out"⟩ model
    plan.fields.map FieldPlan.varName = ["ID", "id"] ∧
      plan.fields.map (fun field => field.enumPlan.map EnumPlan.name) = [some "ID", some "ID"] ∧
      plan.diagnostics = [] := by
  decide +kernel

end CratePlan
