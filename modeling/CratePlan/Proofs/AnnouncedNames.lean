import CratePlan.Proofs.NotedRenames

/-! What the notes on a name tell. A note that reports a rename ends with a name, and for fields and
methods that is the name which was given. The notes on a model are written before its stem is put in
snake case: they end with what snake case was then applied to, so that they tell the stem exactly where
there was no capital left to lower. -/

namespace CratePlan

open Text Identifier

/-- The message of a diagnostic ends with a name. -/
def Diagnostic.EndsWith (d : Diagnostic) (name : String) : Prop :=
  name.toList <:+ d.message.toList

instance (d : Diagnostic) (name : String) : Decidable (d.EndsWith name) :=
  inferInstanceAs (Decidable (name.toList <:+ d.message.toList))

/-- A name is announced: every note on it ends with it. -/
def Named.IsAnnounced (x : Named) : Prop :=
  ∀ d ∈ x.notes, d.EndsWith x.name

namespace Named

theorem isAnnounced_of_silent {x : Named} (h : x.notes = []) : x.IsAnnounced := by
  intro d hd
  rw [h] at hd
  cases hd

theorem isAnnounced_warned {name message : String} (h : name.toList <:+ message.toList) :
    (warned name message).IsAnnounced :=
  List.forall_mem_singleton.mpr h

theorem isAnnounced_remarked {name message : String} (h : name.toList <:+ message.toList) :
    (remarked name message).IsAnnounced :=
  List.forall_mem_singleton.mpr h

end Named

/-! ### Ends of messages -/

theorem suffix_toList_append {name last : String} (start : String)
    (h : name.toList <:+ last.toList) : name.toList <:+ (start ++ last).toList := by
  rw [String.toList_append]
  exact h.trans (List.suffix_append _ _)

theorem append_suffix_toList_append {front opening : String} (rest : String)
    (h : front.toList <:+ opening.toList) : (front ++ rest).toList <:+ (opening ++ rest).toList := by
  obtain ⟨start, hstart⟩ := h
  rw [String.toList_append, String.toList_append, ← hstart, List.append_assoc]
  exact List.suffix_append _ _

namespace Identifier

theorem length_le_length_snakePass {before : Option Char} {cs : List Char}
    (h : ∀ c ∈ cs, isWordChar c) : cs.length ≤ (snakePass before cs).length := by
  induction cs generalizing before with
  | nil => exact Nat.zero_le _
  | cons c rest ih =>
      rw [List.forall_mem_cons] at h
      have hrest : rest.length ≤ (snakePass (some c) rest).length := ih h.2
      rw [snakePass, snakeChar_of_wordChar h.1]
      simp only [List.length_append, List.length_cons, List.length_nil]
      omega

/-- One message can end both with a name and with its snake case only if these are the same: snake case
makes no name shorter, so the name itself would end what holds no capital. -/
theorem spelled_of_suffix_of_suffix {name : String} {cs : List Char} (h : Spelled isWordChar name)
    (hname : name.toList <:+ cs) (hsnake : (snakeCase name).toList <:+ cs) :
    Spelled isStemChar name := by
  have hlength : name.toList.length ≤ (snakeCase name).toList.length := by
    rw [toList_snakeCase h]
    exact length_le_length_snakePass h
  have hsuffix : name.toList <:+ (snakeCase name).toList :=
    List.suffix_of_suffix_length_le hname hsnake hlength
  exact fun c hc => spelled_snakeCase h c (hsuffix.subset hc)

end Identifier

namespace Named

/-- An announced name that is put in snake case afterwards is announced exactly if nothing was noted or
it had no capital. -/
theorem isAnnounced_map_snakeCase_iff {x : Named} (h : x.IsAnnounced)
    (hname : Spelled isWordChar x.name) :
    (x.map snakeCase).IsAnnounced ↔ x.notes = [] ∨ Spelled isStemChar x.name := by
  constructor
  · intro hannounced
    by_cases hnone : x.notes = []
    · exact Or.inl hnone
    · obtain ⟨d, hd⟩ := List.exists_mem_of_ne_nil _ hnone
      exact Or.inr (spelled_of_suffix_of_suffix hname (h d hd) (hannounced d hd))
  · rintro (hnone | hstem)
    · exact isAnnounced_of_silent hnone
    · intro d hd
      show d.EndsWith (snakeCase x.name)
      rw [snakeCase_of_stem hstem]
      exact h d hd

end Named

namespace Naming

variable (naming : Naming)

/-! ### Fields and methods -/

theorem methodName_isAnnounced (raw : String) : (naming.methodName raw).IsAnnounced := by
  rw [methodName_eq]
  split_ifs with hempty
  · exact Named.isAnnounced_warned (suffix_toList_append _ (by decide))
  · have hend (start name : String) : (snakeCase ("call_" ++ name)).toList <:+
        (start ++ ("Renamed to " ++ snakeCase ("call_" ++ name))).toList :=
      suffix_toList_append start (suffix_toList_append _ (List.suffix_refl _))
    refine naming.guardInTurn_cases _ _ (by decide) ?reserved ?digit ?free
      (P := fun x => (x.map snakeCase).IsAnnounced)
    case reserved => exact fun _ => Named.isAnnounced_warned (hend _ _)
    case digit => exact fun _ => Named.isAnnounced_warned (hend _ _)
    case free => exact Named.isAnnounced_of_silent rfl

theorem fieldName_isAnnounced (hnaming : naming.GoesByKeywords) (raw : String) :
    (naming.fieldName raw).IsAnnounced := by
  refine fieldName_cases hnaming raw ?unnamed ?constant ?escaped ?numbered ?plain
    (P := Named.IsAnnounced)
  case unnamed =>
    exact fun _ => Named.isAnnounced_warned (suffix_toList_append _ (by decide))
  case constant => exact fun _ => Named.isAnnounced_of_silent rfl
  case escaped =>
    exact fun name _ _ _ =>
      Named.isAnnounced_remarked (suffix_toList_append _ (List.suffix_refl _))
  case numbered =>
    intro name _ _
    exact Named.isAnnounced_remarked
      (append_suffix_toList_append name (suffix_toList_append _ (by decide)))
  case plain => exact fun name _ _ => Named.isAnnounced_of_silent rfl

/-! ### Models -/

variable {naming} in
/-- The stem of a model is the snake case of a name that is announced, and that has a capital exactly if
the raw name, joined to its parts and sanitized, has one. -/
theorem exists_modelStem_eq_map (hnaming : naming.GoesByKeywords) (raw : String) :
    ∃ x : Named, naming.modelStem raw = x.map snakeCase ∧ x.IsAnnounced ∧
      Spelled isWordChar x.name ∧
      (Spelled isStemChar x.name ↔ Spelled isStemChar (sanitize (naming.affixed raw))) := by
  refine modelStem_cases hnaming raw ?unnamed ?guarded
    (P := fun stem => ∃ x : Named, stem = x.map snakeCase ∧ x.IsAnnounced ∧
      Spelled isWordChar x.name ∧
      (Spelled isStemChar x.name ↔ Spelled isStemChar (sanitize (naming.affixed raw))))
  case unnamed =>
    intro hempty
    rw [hempty]
    exact ⟨_, rfl, Named.isAnnounced_warned (suffix_toList_append _ (by decide)),
      show Spelled isWordChar "model_empty" by decide,
      iff_of_true (show Spelled isStemChar "model_empty" by decide) (by decide)⟩
  case guarded =>
    intro _
    refine ⟨_, rfl, ?_⟩
    have hclean := spelled_sanitize (naming.affixed raw)
    generalize sanitize (naming.affixed raw) = clean at hclean
    have hfront : Spelled isStemChar ("model_" ++ clean) ↔ Spelled isStemChar clean :=
      spelled_append_iff.trans (and_iff_right (by decide))
    have hspelled : Spelled isWordChar ("model_" ++ clean) := .append (by decide) hclean
    refine naming.guardInTurn_cases _ _ (by decide) ?reserved ?digit ?free
      (P := fun x => x.IsAnnounced ∧ Spelled isWordChar x.name ∧
        (Spelled isStemChar x.name ↔ Spelled isStemChar clean))
    case reserved =>
      intro _
      refine ⟨Named.isAnnounced_warned ?_, hspelled, hfront⟩
      exact append_suffix_toList_append clean (suffix_toList_append _ (by decide))
    case digit =>
      intro _
      refine ⟨Named.isAnnounced_warned (suffix_toList_append _ ?_), hspelled, hfront⟩
      exact append_suffix_toList_append clean (by decide)
    case free => exact ⟨Named.isAnnounced_of_silent rfl, hclean, Iff.rfl⟩

end Naming

/-- Under any settings and for any raw name, every note on the name of a field or of a method ends with
that name. The notes on the stem of a model's file all end with one name, of which the stem is the snake
case; they end with the stem itself exactly if there are none, or the raw name, joined to its parts and
sanitized, has no capital. -/
theorem notes_announce_names_iff (settings : Settings) (raw : String) :
    let naming := settings.naming
    (naming.fieldName raw).IsAnnounced ∧ (naming.methodName raw).IsAnnounced ∧
      (∃ name, (naming.modelStem raw).name = snakeCase name ∧
        ∀ d ∈ (naming.modelStem raw).notes, d.EndsWith name) ∧
      ((naming.modelStem raw).IsAnnounced ↔ (naming.modelStem raw).notes = [] ∨
        Spelled isStemChar (sanitize (naming.affixed raw))) := by
  intro naming
  have hnaming := Naming.goesByKeywords_naming settings
  obtain ⟨x, hstem, hannounced, hspelled, hcapital⟩ := Naming.exists_modelStem_eq_map hnaming raw
  refine ⟨naming.fieldName_isAnnounced hnaming raw, naming.methodName_isAnnounced raw, ?_, ?_⟩
  · rw [hstem]
    exact ⟨x.name, rfl, hannounced⟩
  · rw [hstem, Named.isAnnounced_map_snakeCase_iff hannounced hspelled, hcapital, Named.notes_map]

/-- The note on a model `Return` speaks of `model_Return`, and its file is called `model_return`. -/
theorem note_on_model_keeps_capital :
    let stem := ({} : Settings).naming.modelStem "Return"
    stem.name = "model_return" ∧
      stem.notes.map Diagnostic.message =
        ["Return (reserved word) cannot be used as model name. Renamed to model_Return"] ∧
      ∃ d ∈ stem.notes, ¬d.EndsWith stem.name := by
  decide +kernel

end CratePlan
