import CratePlan.Proofs.Keyword
import CratePlan.Proofs.RaisedNotes

/-! How naming changes a name that cannot stay. A model or a method whose name is reserved or starts
with a digit gets a guard put before it, once, and a warning is noted; on a model that needed no guard
nothing is. A field is escaped instead, and guarded only where it still starts with a digit. -/

namespace CratePlan

open Text Identifier

/-! ### Renaming under a condition -/

namespace Named

section

variable {p : Prop} [Decidable p] {renamed message name : String}

theorem name_ite :
    (if p then warned renamed message else ⟨name, []⟩).name = if p then renamed else name :=
  apply_ite Named.name _ _ _

theorem notes_ite_eq_nil_iff :
    (if p then warned renamed message else ⟨name, []⟩).notes = [] ↔ ¬p := by
  split_ifs with h <;> simp [h]

end

/-- Everything that was noted is a warning. -/
def OnlyWarns (x : Named) : Prop :=
  ∀ d ∈ x.notes, d.severity = .warning

theorem OnlyWarns.hasWarning_iff {x : Named} (h : x.OnlyWarns) :
    HasWarning x.notes ↔ x.notes ≠ [] := by
  constructor
  · rintro ⟨d, hd, _⟩
    exact List.ne_nil_of_mem hd
  · intro hne
    obtain ⟨d, hd⟩ := List.exists_mem_of_ne_nil _ hne
    exact ⟨d, hd, h d hd⟩

theorem onlyWarns_warned (name message : String) : (warned name message).OnlyWarns := by
  intro d hd
  rw [notes_warned, List.mem_singleton] at hd
  rw [hd]
  rfl

theorem onlyWarns_nil (name : String) : OnlyWarns ⟨name, []⟩ :=
  fun _ hd => absurd hd List.not_mem_nil

theorem onlyWarns_ite {p : Prop} [Decidable p] (renamed message name : String) :
    (if p then warned renamed message else ⟨name, []⟩).OnlyWarns := by
  split_ifs
  · exact onlyWarns_warned _ _
  · exact onlyWarns_nil _

theorem OnlyWarns.andThen {x : Named} {next : String → Named} (hx : x.OnlyWarns)
    (hnext : ∀ name, (next name).OnlyWarns) : (x.andThen next).OnlyWarns := by
  intro d hd
  rw [notes_andThen, List.mem_append] at hd
  rcases hd with hd | hd
  · exact hx d hd
  · exact hnext x.name d hd

theorem OnlyWarns.map {x : Named} (h : x.OnlyWarns) {respell : String → String} :
    (x.map respell).OnlyWarns :=
  h

end Named

namespace Naming

variable (naming : Naming)

/-! ### One guard -/

/-- A name behind a front if it is reserved or starts with a digit. -/
def guarded (front name : String) : String :=
  if naming.isReserved name || startsWithDigit name then front ++ name else name

theorem guarded_written {front name : String} (hfront : Written isWordChar front)
    (hname : Written isWordChar name) : Written isWordChar (naming.guarded front name) := by
  unfold guarded
  split_ifs
  · exact hfront.append hname.spelled
  · exact hname

/-- A guard is never put before a name twice: the first one leaves no digit at the start. -/
theorem guard_once {front : String} (hfront : IsGuard front) (name : String) :
    (if startsWithDigit (if naming.isReserved name then front ++ name else name) then
        front ++ (if naming.isReserved name then front ++ name else name)
      else if naming.isReserved name then front ++ name else name) = naming.guarded front name := by
  have hdigit : startsWithDigit (front ++ name) = false := by
    rw [startsWithDigit_append hfront.written.ne_empty, hfront.no_digit]
  rw [guarded]
  by_cases hreserved : naming.isReserved name = true
  · simp [hreserved, hdigit]
  · simp [hreserved]

/-- A name behind a front if it is reserved, and behind the front again if it then starts with a digit;
each change is noted with a warning. -/
def guardInTurn (front : String) (reservedText digitText : String → String) (x : Named) : Named :=
  (x.andThen fun name =>
    if naming.isReserved name then .warned (front ++ name) (reservedText name) else ⟨name, []⟩).andThen
      fun name => if startsWithDigit name then .warned (front ++ name) (digitText name) else ⟨name, []⟩

section

variable {front : String} (reservedText digitText : String → String) (x : Named)

theorem name_guardInTurn (hfront : IsGuard front) :
    (naming.guardInTurn front reservedText digitText x).name = naming.guarded front x.name := by
  rw [guardInTurn, Named.name_andThen, Named.name_andThen, Named.name_ite, Named.name_ite,
    naming.guard_once hfront]

/-- Nothing is noted exactly if the name can stay as it is, and nothing was noted on it before. -/
theorem notes_guardInTurn_eq_nil_iff :
    (naming.guardInTurn front reservedText digitText x).notes = [] ↔
      x.notes = [] ∧ naming.isReserved x.name = false ∧ startsWithDigit x.name = false := by
  rw [guardInTurn, Named.notes_andThen, Named.notes_andThen, Named.name_andThen, Named.name_ite,
    List.append_eq_nil_iff, List.append_eq_nil_iff, Named.notes_ite_eq_nil_iff,
    Named.notes_ite_eq_nil_iff, and_assoc, Bool.not_eq_true, Bool.not_eq_true]
  refine and_congr_right fun _ => and_congr_right fun hreserved => ?_
  rw [hreserved, if_neg Bool.false_ne_true]

variable {x} in
theorem guardInTurn_onlyWarns (hx : x.OnlyWarns) :
    (naming.guardInTurn front reservedText digitText x).OnlyWarns :=
  (hx.andThen fun _ => Named.onlyWarns_ite _ _ _).andThen fun _ => Named.onlyWarns_ite _ _ _

end

/-! ### Models and methods -/

/-- The stem of a model is guarded in turn, and then put in snake case. -/
theorem modelStem_eq (raw : String) :
    naming.modelStem raw =
      (naming.guardInTurn "model_"
        (fun name => name ++ " (reserved word) cannot be used as model name. Renamed to model_" ++ name)
        (fun name => name ++ " (model name starts with number) cannot be used as model name. " ++
          ("Renamed to model_" ++ name))
        (if sanitize (naming.affixed raw) = "" then
          .warned "model_empty" s!"'{raw}' cannot be used as model name. Renamed to model_empty"
          else ⟨sanitize (naming.affixed raw), []⟩)).map snakeCase :=
  rfl

/-- The name of a method that keeps a character is guarded in turn, and then put in snake case. -/
theorem methodName_eq (raw : String) :
    naming.methodName raw =
      if sanitize raw = "" then
        .warned "call_empty" s!"'{raw}' cannot be used as method name. Renamed to call_empty"
      else
        (naming.guardInTurn "call_"
          (fun name => raw ++ " (reserved word) cannot be used as method name. " ++
            ("Renamed to " ++ snakeCase ("call_" ++ name)))
          (fun name => raw ++ " (method name starts with number) cannot be used as method name. " ++
            ("Renamed to " ++ snakeCase ("call_" ++ name))) ⟨sanitize raw, []⟩).map snakeCase :=
  rfl

/-- The name that the file of a model goes by before it is guarded and put in snake case. -/
def modelStart (raw : String) : String :=
  if sanitize (naming.affixed raw) = "" then "model_empty" else sanitize (naming.affixed raw)

theorem modelStart_written (raw : String) : Written isWordChar (naming.modelStart raw) := by
  unfold modelStart
  split_ifs with hempty
  · decide
  · exact ⟨spelled_sanitize _, hempty⟩

theorem name_modelStem (raw : String) :
    (naming.modelStem raw).name = snakeCase (naming.guarded "model_" (naming.modelStart raw)) := by
  rw [modelStem_eq, Named.name_map, naming.name_guardInTurn _ _ _ (by decide), Named.name_ite, modelStart]

theorem name_methodName (raw : String) :
    (naming.methodName raw).name =
      if sanitize raw = "" then "call_empty"
      else snakeCase (naming.guarded "call_" (sanitize raw)) := by
  rw [methodName_eq, apply_ite Named.name, Named.name_warned, Named.name_map,
    naming.name_guardInTurn _ _ _ (by decide)]

theorem modelStem_onlyWarns (raw : String) : (naming.modelStem raw).OnlyWarns := by
  rw [modelStem_eq]
  exact (naming.guardInTurn_onlyWarns _ _ (Named.onlyWarns_ite _ _ _)).map

theorem modelName_onlyWarns (raw : String) : (naming.modelName raw).OnlyWarns := by
  unfold modelName
  exact (naming.modelStem_onlyWarns raw).map

theorem methodName_onlyWarns (raw : String) : (naming.methodName raw).OnlyWarns := by
  rw [methodName_eq]
  split_ifs
  · exact Named.onlyWarns_warned _ _
  · exact (naming.guardInTurn_onlyWarns _ _ (Named.onlyWarns_nil _)).map

/-- Nothing is noted on the name of a model exactly if the sanitized name can stay as it is. -/
theorem notes_modelStem_eq_nil_iff (raw : String) :
    (naming.modelStem raw).notes = [] ↔
      sanitize (naming.affixed raw) ≠ "" ∧
        naming.isReserved (sanitize (naming.affixed raw)) = false ∧
        startsWithDigit (sanitize (naming.affixed raw)) = false := by
  rw [modelStem_eq, Named.notes_map, notes_guardInTurn_eq_nil_iff, Named.notes_ite_eq_nil_iff,
    Named.name_ite]
  exact and_congr_right fun hne => by rw [if_neg hne]

/-- Nothing is noted on the name of a method exactly if the sanitized name can stay as it is. -/
theorem notes_methodName_eq_nil_iff (raw : String) :
    (naming.methodName raw).notes = [] ↔
      sanitize raw ≠ "" ∧ naming.isReserved (sanitize raw) = false ∧
        startsWithDigit (sanitize raw) = false := by
  rw [methodName_eq]
  split_ifs with hempty
  · simp [hempty]
  · rw [Named.notes_map, notes_guardInTurn_eq_nil_iff, eq_self, true_and, Ne, eq_false hempty,
      not_false_eq_true, true_and]

/-! ### Escaped fields -/

theorem name_escapeReserved (name : String) :
    (naming.escapeReserved name).name =
      if naming.isReserved name then naming.escape name else name := by
  rw [escapeReserved, apply_ite Named.name, Named.name_remarked]

theorem name_fieldName (raw : String) :
    let clean := sanitize (replaceChar '-' "_" raw)
    let escaped := (naming.escapeReserved (snakeCase clean)).name
    (naming.fieldName raw).name =
      if clean = "" then "var_empty"
      else if looksConstant clean then clean
      else if startsWithDigit escaped then "var_" ++ escaped else escaped := by
  intro clean escaped
  rw [fieldName, apply_ite Named.name, apply_ite Named.name, Named.name_warned, Named.name_andThen,
    apply_ite Named.name, Named.name_remarked]

end Naming

end CratePlan
