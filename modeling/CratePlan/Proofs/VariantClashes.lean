import CratePlan.Proofs.MethodClashes
import CratePlan.Proofs.ModelFiles
import CratePlan.Proofs.NumberNames

/-! Literals of an enum that become one variant. Planning a property warns of a property that keeps no
character of its name, of an enum whose name has to be changed, and of a literal that no name can be made
of; it looks at one literal after the other and never at two. So two literals become one variant without a
warning wherever nothing else is to be warned of. Whether they do is told by snake case for literals of
letters, digits and separators; the names of numbers can be read back, so that numbers do not meet. -/

namespace CratePlan

open Text Identifier

namespace Naming

variable (naming : Naming)

/-! ### What is warned of -/

/-- No name can be made of a literal: it is neither empty, a number nor a symbol, and leaves no
character. -/
structure IsNameless (literal datatype : String) : Prop where
  ne_empty : literal ≠ ""
  no_number : isNumeric datatype = false
  no_symbol : naming.symbolName? literal = none
  no_character : shouted literal = ""

theorem hasWarning_variantName_iff (literal datatype : String) :
    HasWarning (naming.variantName literal datatype).notes ↔
      naming.IsNameless literal datatype := by
  unfold variantName
  split_ifs with hempty hnumeric
  · exact iff_of_false not_hasWarning_nil fun h => h.ne_empty hempty
  · exact iff_of_false not_hasWarning_nil fun h => by simp [h.no_number] at hnumeric
  · cases hsymbol : naming.symbolName? literal with
    | some symbol =>
        refine iff_of_false not_hasWarning_nil fun h => ?_
        rw [h.no_symbol] at hsymbol
        cases hsymbol
    | none =>
        dsimp only
        split_ifs with hname hescape
        · exact iff_of_true (hasWarning_warning _ _)
            ⟨hempty, Bool.not_eq_true _ ▸ hnumeric, hsymbol, hname⟩
        · exact iff_of_false (not_hasWarning_info _ _) fun h => hname h.no_character
        · exact iff_of_false not_hasWarning_nil fun h => hname h.no_character

theorem hasWarning_enumName_iff (property : String) :
    HasWarning (naming.enumName property).notes ↔
      ¬naming.IsFree isWordChar (sanitize (naming.affixed property)) := by
  rw [enumName, Named.notes_map, hasWarning_modelName_iff]

/-- A restricted property that nothing is to be warned of: it keeps a character of its name, the name of
its enum goes through as it is, and each of its literals gives a name. -/
structure IsPlainEnum (property : Property) : Prop where
  field_named : sanitize property.name ≠ ""
  enum_free : naming.IsFree isWordChar (sanitize (naming.affixed property.name))
  literals_named : ∀ literal ∈ property.enumValues,
    ¬naming.IsNameless literal (RustType.render naming property.schema.base)

theorem not_hasWarning_planField_iff {property : Property} (henum : property.isEnum = true) :
    ¬HasWarning (naming.planField property).notes ↔ naming.IsPlainEnum property := by
  rw [notes_planField, propertyNotes, enumNotes, if_pos henum, hasWarning_append_iff,
    hasWarning_append_iff, hasWarning_append_iff, hasWarning_fieldName_iff, hasWarning_enumName_iff,
    hasWarning_flatMap_iff, sanitize_replaceChar_dash,
    or_iff_left (not_hasWarning_unmappedNotes property.schema)]
  simp only [hasWarning_variantName_iff]
  constructor
  · intro h
    simp only [not_or, not_not, not_exists, not_and] at h
    exact ⟨h.1, h.2.1, h.2.2⟩
  · rintro ⟨hfield, henum, hliterals⟩
    simp only [not_or, not_not, not_exists, not_and]
    exact ⟨hfield, henum, hliterals⟩

end Naming

/-! ### Separators in snake case -/

namespace Identifier

/-- A word character, a dash or a space. -/
def isLiteralChar (c : Char) : Bool :=
  isWordChar c || c = '-' || c = ' '

/-- A dash or a space as the underscore that it leaves in an identifier. -/
def underscored (c : Char) : Char :=
  if c = '-' ∨ c = ' ' then '_' else c

/-- What cannot tell a dash or a space from an underscore cannot tell them in any text. -/
theorem apply_underscored {α : Type} {f : Char → α} (hdash : f '-' = f '_') (hspace : f ' ' = f '_')
    (c : Char) : f (underscored c) = f c := by
  unfold underscored
  split_ifs with hc
  · rcases hc with rfl | rfl
    · exact hdash.symm
    · exact hspace.symm
  · rfl

theorem startsWithTwoSmall_map_underscored (cs : List Char) :
    startsWithTwoSmall (cs.map underscored) = startsWithTwoSmall cs := by
  rcases cs with _ | ⟨c, _ | ⟨d, rest⟩⟩
  · rfl
  · rfl
  · simp only [List.map_cons, startsWithTwoSmall,
      apply_underscored (f := Char.isLower) (by decide) (by decide)]

theorem startsWord_map_underscored (before : Option Char) (c : Char) (rest : List Char) :
    startsWord (before.map underscored) (underscored c) (rest.map underscored) =
      startsWord before c rest := by
  have hupper := apply_underscored (f := Char.isUpper) (by decide) (by decide)
  have hinner := apply_underscored (f := fun b => b.isLower || b.isDigit) (by decide) (by decide)
  rw [startsWord, startsWithTwoSmall_map_underscored, hupper, Option.any_map, Option.any_map,
    startsWord]
  simp only [hupper, hinner]

theorem snakePass_map_underscored (before : Option Char) (cs : List Char) :
    snakePass (before.map underscored) (cs.map underscored) = snakePass before cs := by
  induction cs generalizing before with
  | nil => rfl
  | cons c rest ih =>
      rw [List.map_cons, snakePass, startsWord_map_underscored,
        apply_underscored (f := snakeChar) (by decide) (by decide), snakePass, ← ih (some c)]
      rfl

theorem sanitizeChar_of_literalChar {c : Char} (h : isLiteralChar c) :
    sanitizeChar c = some (underscored c) := by
  by_cases hsep : c = '-' ∨ c = ' '
  · rcases hsep with rfl | rfl <;> decide
  · have hword : isWordChar c := by
      rw [not_or] at hsep
      simpa only [isLiteralChar, hsep.1, hsep.2, decide_false, Bool.or_false] using h
    rw [sanitizeChar_of_wordChar hword, underscored, if_neg hsep]

/-- Snake case takes a dash or a space for an underscore anyway. -/
theorem snakeCase_sanitize_of_literal {s : String} (h : Spelled isLiteralChar s) :
    snakeCase (sanitize s) = snakeCase s := by
  have hbracket : '[' ∉ s.toList := fun hc => absurd (h '[' hc) (by decide)
  have hdot : '.' ∉ s.toList := fun hc => absurd (h '.' hc) (by decide)
  have hdollar : '$' ∉ s.toList := fun hc => absurd (h '$' hc) (by decide)
  rw [← String.toList_inj, toList_snakeCase (spelled_sanitize s),
    toList_sanitize hbracket fun c hc => sanitizeChar_of_literalChar (h c hc), snakeCase,
    String.toList_ofList, snakeChars_eq_snakePass, snakeSource_of_notMem hdot hdollar]
  exact snakePass_map_underscored none s.toList

theorem uppercase_inj {s t : String} (hs : Spelled isStemChar s) (ht : Spelled isStemChar t) :
    uppercase s = uppercase t ↔ s = t := by
  refine ⟨fun h => ?_, congrArg uppercase⟩
  have hlower {u : String} (hu : Spelled isStemChar u) :
      (uppercase u).toList.map Char.toLower = u.toList := by
    rw [toList_uppercase (hu.mono isWordChar_of_isStemChar), List.map_map]
    exact (List.map_congr_left fun c hc => toLower_toUpper (hu c hc)).trans (List.map_id _)
  rw [← String.toList_inj, ← hlower hs, ← hlower ht, h]

end Identifier

namespace Naming

/-! ### Capitals without outer underscores -/

theorem dropOneLeading_map_toUpper {cs : List Char} (h : ∀ c ∈ cs, isWordChar c) :
    dropOneLeading (cs.map Char.toUpper) = (dropOneLeading cs).map Char.toUpper := by
  cases cs with
  | nil => rfl
  | cons c rest =>
      have hc : c.toUpper = '_' ↔ c = '_' :=
        of_wordChar (p := fun c => c.toUpper = '_' ↔ c = '_') (by decide) (h c List.mem_cons_self)
      simp only [List.map_cons, dropOneLeading, hc]
      split_ifs <;> rfl

theorem dropOuterUnderscores_uppercase {s : String} (h : Spelled isStemChar s) :
    dropOuterUnderscores (uppercase s) = uppercase (dropOuterUnderscores s) := by
  have hword : ∀ c ∈ s.toList, isWordChar c := h.mono isWordChar_of_isStemChar
  have hinner : ∀ c ∈ (dropOneLeading s.toList).reverse, isWordChar c := fun c hc =>
    hword c (mem_of_mem_dropOneLeading (List.mem_reverse.mp hc))
  have houter := (spelled_dropOuterUnderscores h).mono isWordChar_of_isStemChar
  rw [← String.toList_inj, toList_uppercase houter, dropOuterUnderscores, dropOuterUnderscores,
    String.toList_ofList, String.toList_ofList, toList_uppercase hword,
    dropOneLeading_map_toUpper hword, ← List.map_reverse, dropOneLeading_map_toUpper hinner,
    List.map_reverse]

/-- The text that the variant of a literal is told by: snake case but for an underscore at either
end. -/
def trimmedSnake (literal : String) : String :=
  dropOuterUnderscores (snakeCase (sanitize literal))

theorem spelled_trimmedSnake (literal : String) : Spelled isStemChar (trimmedSnake literal) :=
  spelled_dropOuterUnderscores (spelled_snakeCase (spelled_sanitize literal))

/-- Of letters, digits and separators the capitals are those of snake case. -/
theorem shouted_of_literal {literal : String} (h : Spelled isLiteralChar literal) :
    shouted literal = uppercase (trimmedSnake literal) := by
  have hsnake := spelled_snakeCase (spelled_sanitize literal)
  have hupper : Spelled isWordChar (uppercase (snakeCase (sanitize literal))) := by
    intro c hc
    rw [toList_uppercase (hsnake.mono isWordChar_of_isStemChar)] at hc
    obtain ⟨d, hd, rfl⟩ := List.mem_map.mp hc
    exact isWordChar_of_isShoutChar _ (isShoutChar_toUpper (isWordChar_of_isStemChar d (hsnake d hd)))
  rw [shouted, ← snakeCase_sanitize_of_literal h, sanitize_of_spelled hupper,
    dropOuterUnderscores_uppercase hsnake, trimmedSnake]

/-! ### Words -/

variable (naming : Naming)

/-- A literal of letters, digits and separators that is called by its capitals: it is no number and no
symbol, and its capitals are free. -/
structure IsWord (literal datatype : String) : Prop where
  spelled : Spelled isLiteralChar literal
  no_number : isNumeric datatype = false
  no_symbol : naming.symbolName? literal = none
  free : naming.IsFree isWordChar (shouted literal)

variable {naming} in
theorem IsWord.name_variantName {literal datatype : String} (h : naming.IsWord literal datatype) :
    (naming.variantName literal datatype).name = shouted literal := by
  have hempty : literal ≠ "" := by
    rintro rfl
    exact h.free.written.ne_empty (by decide)
  rw [variantName, if_neg hempty, h.no_number, if_neg Bool.false_ne_true, h.no_symbol]
  dsimp only
  rw [if_neg h.free.written.ne_empty, h.free.not_reserved, h.free.no_digit]
  rfl

variable {naming} in
theorem IsWord.name_eq_iff {a b datatype : String} (ha : naming.IsWord a datatype)
    (hb : naming.IsWord b datatype) :
    (naming.variantName a datatype).name = (naming.variantName b datatype).name ↔
      trimmedSnake a = trimmedSnake b := by
  rw [ha.name_variantName, hb.name_variantName, shouted_of_literal ha.spelled,
    shouted_of_literal hb.spelled, uppercase_inj (spelled_trimmedSnake a) (spelled_trimmedSnake b)]

end Naming

/-- The variants of a restricted property are called after its literals, one each, and nothing warns of
two that meet: on the property nothing is warned of exactly if its field keeps a character, the name of
its enum goes through as it is, and each literal gives a name. Words meet if they have one snake case but
for an underscore at either end; different numbers never meet. -/
theorem variants_meet_silently_iff (naming : Naming) {property : Property}
    (henum : property.isEnum = true) :
    let planned := naming.planField property
    let datatype := planned.value.baseType
    let nameOf (literal : String) := (naming.variantName literal datatype).name
    planned.value.enumPlan.map (fun e => e.variants.map VariantPlan.name) =
        some (property.enumValues.map nameOf) ∧
      (¬HasWarning planned.notes ↔ naming.IsPlainEnum property) ∧
      (∀ a b, naming.IsWord a datatype → naming.IsWord b datatype →
        (nameOf a = nameOf b ↔ Naming.trimmedSnake a = Naming.trimmedSnake b)) ∧
      (Naming.isNumeric datatype = true → ∀ a b, Written Naming.isNumberChar a →
        Written Naming.isNumberChar b → nameOf a = nameOf b → a = b) := by
  intro planned datatype nameOf
  refine ⟨?names, naming.not_hasWarning_planField_iff henum, fun a b ha hb => ha.name_eq_iff hb,
    fun hnumeric a b ha hb h => ?numbers⟩
  case names =>
    have hvariants : ∀ e ∈ planned.value.enumPlan,
        e.variants.map VariantPlan.name = property.enumValues.map nameOf := by
      intro e he
      rw [naming.variants_of_mem_enumPlan he, List.map_map]
      rfl
    have hplan : planned.value.enumPlan.isSome := by
      rw [show planned = naming.planField property from rfl, Naming.planField, henum]
      rfl
    obtain ⟨e, he⟩ := Option.isSome_iff_exists.mp hplan
    rw [he, Option.map_some, hvariants e he]
  case numbers =>
    have hname {literal : String} (hliteral : literal ≠ "") :=
      naming.name_variantName_of_number hliteral hnumeric
    refine (Naming.numberName_inj ha.spelled hb.spelled).mp ?_
    rw [← hname ha.ne_empty, ← hname hb.ne_empty]
    exact h

/-- The literals `inStock` and `in stock` meet without a warning, and the numbers `-1` and `+1` do not
meet. -/
theorem variants_meet_silently_of_stock :
    let naming := ({} : Settings).naming
    let stock : Property :=
      { name := "stock", schema := .primitive "string", isEnum := true
        enumValues := ["inStock", "in stock"] }
    let level : Property :=
      { name := "level", schema := .primitive "integer", isEnum := true, enumValues := ["-1", "+1"] }
    let nameOf (property : Property) (literal : String) :=
      (naming.variantName literal (naming.planField property).value.baseType).name
    stock.isEnum = true ∧ level.isEnum = true ∧
      nameOf stock "inStock" = nameOf stock "in stock" ∧
      ¬HasWarning (naming.planField stock).notes ∧
      nameOf level "-1" ≠ nameOf level "+1" := by
  intro naming stock level nameOf
  obtain ⟨_, hsilent, hwords, _⟩ :=
    variants_meet_silently_iff naming (show stock.isEnum = true from rfl)
  obtain ⟨_, _, _, hnumbers⟩ :=
    variants_meet_silently_iff naming (show level.isEnum = true from rfl)
  have hword : ∀ literal ∈ stock.enumValues,
      naming.IsWord literal (naming.planField stock).value.baseType := by
    simp only [stock, List.forall_mem_cons]
    refine ⟨⟨by decide, by decide +kernel, by decide +kernel, ?_⟩,
      ⟨by decide, by decide +kernel, by decide +kernel, ?_⟩, List.forall_mem_nil _⟩
    all_goals exact ⟨by decide +kernel, by decide +kernel, by decide +kernel⟩
  have hplain : naming.IsPlainEnum stock :=
    ⟨by decide +kernel, ⟨by decide +kernel, by decide +kernel, by decide +kernel⟩,
      fun literal hliteral h => (hword literal hliteral).free.written.ne_empty h.no_character⟩
  refine ⟨rfl, rfl, ?_, hsilent.mpr hplain, fun hmeet => ?_⟩
  · exact (hwords _ _ (hword _ (by decide)) (hword _ (by decide))).mpr (by decide +kernel)
  · exact absurd (hnumbers (by decide +kernel) _ _ (by decide) (by decide) hmeet) (by decide)

/-- The literals `sold out` and `sold-out` become one variant, and nothing is noted on it. -/
theorem literals_meet_silently :
    let status : Property :=
      { name := "status", schema := .primitive "string", isEnum := true
        enumValues := ["sold out", "sold-out"] }
    let planned := ({} : Settings).naming.planField status
    planned.value.enumPlan.map (fun e => e.variants.map VariantPlan.name) =
        some ["SOLD_OUT", "SOLD_OUT"] ∧
      planned.notes = [] := by
  decide +kernel

end CratePlan
