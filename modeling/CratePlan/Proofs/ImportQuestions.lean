import CratePlan.Proofs.ImportedModels

/-! Two ways to ask whether a type has to be imported. One looks at the text of the whole type, the
other at that of its innermost type, which is what an import names. No text of a container is among
those that are at hand but `Vec<u8>`, which a list of the unmapped tag `u8` happens to be spelled like.
So the first way asks for every other container to be imported, and the two disagree wherever what the
container holds is at hand. -/

namespace CratePlan

open Identifier

namespace RustType

/-! ### Basic types -/

/-- A basic type is at hand if its tag has a type, but for that of any value, or if it stands for itself
and is spelled like a text that is at hand. -/
def IsBasicAtHand (tag : String) : Prop :=
  (isKnownTag tag = true ∧ tag ≠ "object") ∨ tag ∈ atHand

theorem type_atHand_iff : ∀ entry ∈ basicTypes.entries,
    (entry.2 ∈ atHand ↔ entry.1 ≠ "object") := by
  decide

theorem tag_notMem_atHand : ∀ entry ∈ basicTypes.entries, entry.1 ∉ atHand := by
  decide

theorem type_ne_byte : ∀ entry ∈ basicTypes.entries, entry.2 ≠ "u8" := by
  decide

theorem ofTag_eq_or (tag : String) :
    (isKnownTag tag = true ∧ (tag, ofTag tag) ∈ basicTypes.entries) ∨
      (isKnownTag tag = false ∧ ofTag tag = tag) := by
  rw [isKnownTag, OrderedMap.contains, ofTag]
  cases hfind : basicTypes.find? tag with
  | some type => exact Or.inl ⟨rfl, OrderedMap.mem_of_find? hfind⟩
  | none => exact Or.inr ⟨rfl, rfl⟩

theorem ofTag_mem_atHand_iff {tag : String} : ofTag tag ∈ atHand ↔ IsBasicAtHand tag := by
  rw [IsBasicAtHand]
  rcases ofTag_eq_or tag with ⟨hknown, hentry⟩ | ⟨hunknown, hself⟩
  · have htype : ofTag tag ∈ atHand ↔ tag ≠ "object" := type_atHand_iff _ hentry
    have htag : tag ∉ atHand := tag_notMem_atHand _ hentry
    simp [hknown, htype, htag]
  · simp [hunknown, hself]

/-- No tag has the type of a byte; only the tag that is spelled like it stands for it. -/
theorem ofTag_eq_byte_iff {tag : String} : ofTag tag = "u8" ↔ tag = "u8" := by
  constructor
  · intro heq
    rcases ofTag_eq_or tag with ⟨_, hentry⟩ | ⟨_, hself⟩
    · exact absurd heq (type_ne_byte _ hentry)
    · rw [← hself, heq]
  · rintro rfl
    decide

/-! ### Containers -/

theorem eq_bytes_of_mem_atHand :
    ∀ text ∈ atHand, text.toList.head? = some 'V' → text = "Vec<u8>" := by
  decide

theorem head?_ne_of_mem_atHand : ∀ text ∈ atHand, text.toList.head? ≠ some ':' := by
  decide

theorem head?_toList_append {front : String} {c : Char} (h : front.toList.head? = some c)
    (rest : String) : (front ++ rest).toList.head? = some c := by
  rw [String.toList_append, List.head?_append, h, Option.some_or]

theorem head?_listOf (items : String) : (listOf items).toList.head? = some 'V' :=
  head?_toList_append (head?_toList_append (by decide) items) ">"

theorem head?_mapOf (values : String) : (mapOf values).toList.head? = some ':' :=
  head?_toList_append (head?_toList_append (by decide) values) ">"

/-- A list is spelled like a text that is at hand only if it is spelled like one of bytes. -/
theorem listOf_mem_atHand_iff {items : String} : listOf items ∈ atHand ↔ items = "u8" := by
  have hbytes : listOf "u8" = "Vec<u8>" := by decide
  constructor
  · intro hmem
    have heq := eq_bytes_of_mem_atHand _ hmem (head?_listOf items)
    rw [← hbytes, listOf, listOf, String.append_left_inj] at heq
    exact (String.append_right_inj _).mp heq
  · rintro rfl
    rw [hbytes]
    decide

theorem mapOf_notMem_atHand (values : String) : mapOf values ∉ atHand :=
  fun hmem => head?_ne_of_mem_atHand _ hmem (head?_mapOf values)

end RustType

namespace Naming

open RustType

/-- The innermost type is at hand: a basic type of which that holds, or a model whose type is taken for
one that is in scope. -/
def IsAtHand (naming : Naming) : Schema → Prop
  | .primitive tag => IsBasicAtHand tag
  | .model name => naming.IsShadowed name
  | .array items => naming.IsAtHand items
  | .map values => naming.IsAtHand values

variable (naming : Naming)

theorem needsImport_planResult (schema : Schema) :
    (naming.planResult schema).needsImport = needsImport (render naming schema.base) :=
  rfl

theorem needsImportAsWhole_of_base {schema : Schema} (h : schema.base = schema) :
    needsImportAsWhole naming schema = (naming.planResult schema).needsImport := by
  rw [needsImportAsWhole, needsImport_planResult, h]

/-- What decides on the innermost type is whether that is at hand. -/
theorem needsImport_planResult_iff (schema : Schema) :
    (naming.planResult schema).needsImport = true ↔ ¬naming.IsAtHand schema := by
  rw [needsImport_planResult]
  induction schema with
  | primitive tag => exact needsImport_iff_notMem.trans ofTag_mem_atHand_iff.not
  | model name =>
      rw [naming.render_base_of_model rfl, naming.needsImport_modelName_iff]
      exact Iff.rfl
  | array items ih => exact ih
  | map values ih => exact ih

theorem head?_modelName_ne {c : Char} (hc : c.isLower = true) (model : String) :
    (naming.modelName model).name.toList.head? ≠ some c := by
  have hhead := naming.head_modelName_not_isLower model
  intro heq
  rw [heq, Option.any_some, hc] at hhead
  cases hhead

/-- A type is spelled like that of a byte only if it is the basic type of that tag: the texts of
containers start with a capital or a colon, and those of models with no small letter. -/
theorem render_eq_byte_iff {schema : Schema} :
    render naming schema = "u8" ↔ schema = .primitive "u8" := by
  have hother {text : String} (h : text.toList.head? ≠ some 'u') : text ≠ "u8" := by
    rintro rfl
    exact h (by decide)
  cases schema with
  | primitive tag =>
      rw [Schema.primitive.injEq]
      exact ofTag_eq_byte_iff
  | array items =>
      refine iff_of_false (hother ?_) Schema.noConfusion
      exact (head?_listOf (render naming items)).symm ▸ by decide
  | map values =>
      refine iff_of_false (hother ?_) Schema.noConfusion
      exact (head?_mapOf (render naming values)).symm ▸ by decide
  | model name =>
      exact iff_of_false (hother (naming.head?_modelName_ne (by decide) name)) Schema.noConfusion

/-- What decides on the whole text is whether the type is a container, for every container but a list
of bytes. -/
theorem needsImportAsWhole_iff (schema : Schema) :
    needsImportAsWhole naming schema = true ↔
      (naming.planResult schema).needsImport = true ∨
        (schema.isContainer = true ∧ schema ≠ .array (.primitive "u8")) := by
  cases schema with
  | primitive tag =>
      rw [naming.needsImportAsWhole_of_base rfl]
      exact (or_iff_left fun h => Bool.noConfusion h.1).symm
  | model name =>
      rw [naming.needsImportAsWhole_of_base rfl]
      exact (or_iff_left fun h => Bool.noConfusion h.1).symm
  | map values =>
      refine iff_of_true ?_ (Or.inr ⟨rfl, Schema.noConfusion⟩)
      exact needsImport_iff_notMem.mpr (mapOf_notMem_atHand _)
  | array items =>
      have hwhole : needsImportAsWhole naming (.array items) = true ↔ items ≠ .primitive "u8" :=
        needsImport_iff_notMem.trans (listOf_mem_atHand_iff.trans naming.render_eq_byte_iff).not
      rw [hwhole, ne_eq (Schema.array items), Schema.array.injEq]
      refine ⟨fun hne => Or.inr ⟨rfl, hne⟩, ?_⟩
      rintro (hneeds | ⟨_, hne⟩)
      · -- the type of a byte is at hand, so nothing asks for an import
        rintro rfl
        exact (naming.needsImport_planResult_iff _).mp hneeds (Or.inr (by decide))
      · exact hne

end Naming

/-- Under any settings the two ways to ask whether a type has to be imported disagree on the containers
of what is at hand, a list of bytes apart, and on no other type. There the innermost type need not be
imported, and the text of the whole type is taken for one that has to be; so the question about the whole
text never misses an import. -/
theorem import_questions_agree_iff (planner : Planner) (schema : Schema) :
    let naming := planner.naming
    let whole := RustType.needsImportAsWhole naming schema
    let innermost := (naming.planResult schema).needsImport
    (whole = innermost ↔
        ¬(schema.isContainer = true ∧ schema ≠ .array (.primitive "u8") ∧ naming.IsAtHand schema)) ∧
      (whole = true ↔ innermost = true ∨
        (schema.isContainer = true ∧ schema ≠ .array (.primitive "u8"))) ∧
      (innermost = true ↔ ¬naming.IsAtHand schema) := by
  intro naming whole innermost
  have hwhole := naming.needsImportAsWhole_iff schema
  have hinnermost := naming.needsImport_planResult_iff schema
  refine ⟨?_, hwhole, hinnermost⟩
  rw [Bool.eq_iff_iff, hwhole, hinnermost]
  tauto

/-- A list of integers is made up of what is at hand, and its whole text is not. -/
theorem list_of_integers_is_imported_as_whole :
    let naming := (Planner.ofSettings {}).naming
    let schema : Schema := .array (.primitive "integer")
    RustType.needsImportAsWhole naming schema = true ∧
      naming.planResult schema =
        { dataType := "Vec<i32>", baseType := "i32", needsImport := false,
          inMethod := ⟨"Vec<i32>", some .list⟩ } := by
  decide

end CratePlan
