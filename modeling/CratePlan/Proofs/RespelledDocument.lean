import CratePlan.Proofs.DocumentFormat
import CratePlan.Proofs.Respelling
import CratePlan.Proofs.SchemaReading

/-! A document is read alike from all its respellings. Each reader finds in a respelling what it found
before, within every limit of depth that the respelling keeps to; a record and a type do so as soon as
their fields do. -/

namespace CratePlan

open Json

/-! ### Fields -/

variable {α σ : Type}

/-- Whether a reader finds the same in a value and in its respelling, within every limit of depth that
the respelling keeps to. -/
structure Lenient (shape : Shape) (read : Nat → Json → Reading α) : Prop where
  read_respelled : ∀ {value value' : Json} {room room' : Nat} {x : α},
    Relation.ReflGen (Respelling shape) value value' → read room value = .ok x →
      value'.depth ≤ room' → read room' value' = .ok x

theorem respelling_leaf {value value' : Json} (h : Relation.ReflGen (Respelling .leaf) value value') :
    value' = value := by
  cases h with
  | refl => rfl
  | single h => cases h

theorem lenient_leaf {read : Json → Reading α} : Lenient .leaf fun _ => read where
  read_respelled h hread _ := by rwa [respelling_leaf h]

theorem lenient_place : Lenient .leaf Place.read where
  read_respelled {value value' room room' x} h hread hdepth := by
    rw [respelling_leaf h] at hdepth ⊢
    cases value with
    | object members =>
        obtain ⟨_, rfl, hmembers⟩ := opening_eq_ok_iff.mp hread
        rw [depth] at hdepth
        exact opening_eq_ok_iff.mpr ⟨room' - 1, by omega, hmembers⟩
    | string _ => exact hread
    | _ => cases hread

theorem Lenient.option {shape : Shape} {read : Nat → Json → Reading α} (h : Lenient shape read) :
    Lenient (.optional shape) fun room => readOption (read room) where
  read_respelled {value value' room room' found} hrespell hread hdepth := by
    by_cases hnull : value = .null
    · subst hnull
      cases hrespell with
      | refl => exact hread
      | single hpresent => exact absurd rfl hpresent.ne_null.1
    · have hinner : Relation.ReflGen (Respelling shape) value value' ∧ value' ≠ .null := by
        cases hrespell with
        | refl => exact ⟨.refl, hnull⟩
        | single hpresent =>
            have hnull' := hpresent.ne_null.2
            cases hpresent with
            | present hpresent => exact ⟨.single hpresent, hnull'⟩
      rw [readOption_of_ne_null hnull, Reading.map_eq_ok] at hread
      obtain ⟨x, hx, rfl⟩ := hread
      rw [readOption_of_ne_null hinner.2, h.read_respelled hinner.1 hx hdepth]
      rfl

theorem forall₂_of_respelling_listOf {shape : Shape} {items : List Json} {value' : Json}
    (h : Relation.ReflGen (Respelling (.listOf shape)) (.list items) value') :
    ∃ items', value' = .list items' ∧
      List.Forall₂ (Relation.ReflGen (Respelling shape)) items items' := by
  cases h with
  | refl => exact ⟨items, rfl, List.forall₂_refl _⟩
  | single h =>
      cases h with
      | item hitem =>
          exact ⟨_, rfl, List.rel_append (List.forall₂_refl _)
            (.cons (.single hitem) (List.forall₂_refl _))⟩

theorem readItems_respelled {shape : Shape} {read : Nat → Json → Reading α} (h : Lenient shape read)
    {room room' : Nat} {items items' : List Json} {xs : List α}
    (hrespell : List.Forall₂ (Relation.ReflGen (Respelling shape)) items items')
    (hread : readItems (read room) items = .ok xs) (hdepth : ∀ item' ∈ items', item'.depth ≤ room') :
    readItems (read room') items' = .ok xs := by
  rw [readItems_eq_ok_iff] at hread ⊢
  induction hrespell generalizing xs with
  | nil =>
      cases hread
      exact .nil
  | cons hitem _ ih =>
      obtain ⟨hfirst, hrest⟩ := List.forall_mem_cons.mp hdepth
      cases hread with
      | cons hx hxs => exact .cons (h.read_respelled hitem hx hfirst) (ih hxs hrest)

theorem Lenient.list {shape : Shape} {read : Nat → Json → Reading α} (h : Lenient shape read) :
    Lenient (.listOf shape) (readList read) where
  read_respelled {value value' room room' xs} hrespell hread hdepth := by
    cases value with
    | list items =>
        obtain ⟨room, rfl, hitems⟩ := opening_eq_ok_iff.mp hread
        obtain ⟨items', rfl, hrespelled⟩ := forall₂_of_respelling_listOf hrespell
        rw [depth] at hdepth
        obtain ⟨room', rfl⟩ := Nat.exists_eq_add_of_le' (Nat.le_of_add_left_le hdepth)
        rw [Nat.add_le_add_iff_right, itemsDepth_le_iff] at hdepth
        exact readItems_respelled h hrespelled hitems hdepth
    | _ => simp [readList, misfit_ne_ok] at hread

/-- What a field is read as does not depend on how what is given for it is spelled. -/
theorem Json.SlotReads.respelled {shape : Shape} {default : Option α} {read read' : Json → Reading α}
    {values values' : List Json} {room : Nat} {x : α} (hreads : SlotReads default read values x)
    (hvalues : values.length ≤ 1 → List.Forall₂ (Relation.ReflGen (Respelling shape)) values values')
    (hdepth : ∀ value' ∈ values', value'.depth ≤ room)
    (h : ∀ {value value'}, Relation.ReflGen (Respelling shape) value value' → read value = .ok x →
      value'.depth ≤ room → read' value' = .ok x) :
    SlotReads default read' values' x := by
  rcases hreads with ⟨rfl, hdefault⟩ | ⟨value, rfl, hread⟩
  · obtain rfl := List.forall₂_nil_left_iff.mp (hvalues (Nat.zero_le 1))
    exact Or.inl ⟨rfl, hdefault⟩
  · obtain ⟨value', _, hvalue, hnil, rfl⟩ := List.forall₂_cons_left_iff.mp (hvalues (Nat.le_refl 1))
    obtain rfl := List.forall₂_nil_left_iff.mp hnil
    exact slotReads_singleton_iff.mpr (h hvalue hread (hdepth value' List.mem_cons_self))

theorem given_of_reflGen {r : Record} {value value' : Json}
    (h : Relation.ReflGen (Respelling (.record r)) value value') {field : Field}
    (hfield : field ∈ r.fields) (honce : (value.given r.names field.name).length ≤ 1) :
    List.Forall₂ (Relation.ReflGen (Respelling field.shape)) (value.given r.names field.name)
      (value'.given r.names field.name) := by
  cases h with
  | refl => exact List.forall₂_refl _
  | single h => exact h.forall₂_given hfield honce

theorem fits_of_reflGen {r : Record} {value value' : Json}
    (h : Relation.ReflGen (Respelling (.record r)) value value') {passable : Json → Bool}
    (hadmits : ∀ found, r.admits found = true → passable found = true)
    (hfits : value.Fits r.names passable) : value'.Fits r.names passable := by
  cases h with
  | refl => exact hfits
  | single h => exact h.fits hadmits hfits

theorem Record.isWhole_of_admits {r : Record} {value : Json} (h : r.admits value = true) :
    value.isWhole = true := by
  cases r with
  | variant kind => exact isWhole_of_isProper h
  | _ => exact h

/-- A record is read from its respelling if its fields are. -/
theorem RecordFormat.lenient (format : RecordFormat σ α)
    (h : ∀ slot ∈ format.slots, Lenient slot.field.shape slot.read) :
    Lenient (.record format.record) format.read where
  read_respelled {value value' room room' x} hrespell hread hdepth := by
    obtain ⟨room, rfl⟩ := exists_room_of_read hread
    obtain ⟨hfits, hslots⟩ := read_succ_eq_ok_iff.mp hread
    have hfits' := fits_of_reflGen hrespell (fun _ => Record.isWhole_of_admits) hfits
    obtain ⟨room', rfl⟩ := hfits'.exists_room hdepth
    refine read_succ_eq_ok_iff.mpr ⟨hfits', fun slot hslot => ?_⟩
    exact (hslots slot hslot).respelled (given_of_reflGen hrespell (field_mem hslot))
      (depth_given_le hdepth _ _) (h slot hslot).read_respelled

/-! ### Types -/

namespace Schema

theorem Kind.read_true_of_read {inner : Bool} {value : Json} {kind : Kind}
    (h : Kind.read inner value = .ok kind) : Kind.read true value = .ok kind := by
  cases inner with
  | true => exact h
  | false =>
      cases value with
      | number n => cases hn : n.number? <;> simp [Kind.read, hn, misfit] at h
      | _ => exact h

theorem kind_eq_of_namesKind {value : Json} {kind : Kind} (h : value.NamesKind kind) {inner : Bool}
    {room : Nat} {schema : Schema} (hread : Schema.read room inner value = .ok schema) :
    schema.kind = kind := by
  obtain ⟨room, rfl⟩ := exists_room_of_read hread
  obtain ⟨_, hkind, _⟩ := read_succ_eq_ok_iff.mp hread
  obtain ⟨found, hfound, hfoundKind⟩ := slotReads_none_iff.mp hkind
  have hnamed : Kind.read true found = .ok kind := by
    cases value with
    | object members =>
        obtain ⟨named, hmem, hnamed⟩ := h
        rw [given] at hfound
        have hin := mem_valuesOf.mpr hmem
        rw [hfound, List.mem_singleton] at hin
        rwa [← hin]
    | list items =>
        cases items with
        | nil => cases h
        | cons first rest =>
            have hindex : (Record.variant schema.kind).names.idxOf "kind" = 0 := by
              cases schema.kind <;> decide
            rw [given, hindex] at hfound
            cases hfound
            exact h
    | _ => cases h
  have hboth := (Kind.read_true_of_read hfoundKind).symm.trans hnamed
  exact Except.ok.inj hboth

/-- A type is read from its respelling if its field is. -/
theorem read_respelled_of_field {schema : Schema}
    (hstep : ∀ {room room' : Nat} {values values' : List Json},
      schema.FieldReads (Schema.read room true) values →
      (values.length ≤ 1 → List.Forall₂ (Relation.ReflGen (Respelling schema.kind.field.shape))
        values values') →
      (∀ value' ∈ values', value'.depth ≤ room') →
        schema.FieldReads (Schema.read room' true) values')
    {inner : Bool} {value value' : Json} {room room' : Nat}
    (hrespell : Relation.ReflGen (Respelling .schema) value value')
    (hread : Schema.read room inner value = .ok schema) (hdepth : value'.depth ≤ room') :
    Schema.read room' inner value' = .ok schema := by
  have hrecord : Relation.ReflGen (Respelling (.record (.variant schema.kind))) value value' := by
    cases hrespell with
    | refl => exact .refl
    | single hrespell =>
        cases hrespell with
        | schema hkind hrespell =>
            rw [kind_eq_of_namesKind hkind hread]
            exact .single hrespell
  have hkindMem : ⟨"kind", .leaf⟩ ∈ (Record.variant schema.kind).fields := List.mem_cons_self
  have hfieldMem : schema.kind.field ∈ (Record.variant schema.kind).fields :=
    List.mem_cons_of_mem _ List.mem_cons_self
  obtain ⟨room, rfl⟩ := exists_room_of_read hread
  obtain ⟨hfits, hkind, hfield⟩ := read_succ_eq_ok_iff.mp hread
  have hproper : value'.Fits (Record.variant schema.kind).names isProper :=
    fits_of_reflGen hrecord (fun _ => id)
      (hfits.imp (Nat.le_succ _) fun found _ hfound => ((isReadable_iff room found).mp hfound).1)
  obtain ⟨room', rfl⟩ := hproper.exists_room hdepth
  refine read_succ_eq_ok_iff.mpr ⟨?_, ?_, ?_⟩
  · exact hproper.imp hdepth fun found hfound hpass => (isReadable_iff room' found).mpr ⟨hpass, hfound⟩
  · exact hkind.respelled (given_of_reflGen hrecord hkindMem) (depth_given_le hdepth _ _)
      fun hleaf hread _ => by rwa [respelling_leaf hleaf]
  · exact hstep hfield (given_of_reflGen hrecord hfieldMem) (depth_given_le hdepth _ _)

theorem lenient (inner : Bool) : Lenient .schema fun room => Schema.read room inner where
  read_respelled {value value' room room' schema} hrespell hread hdepth := by
    -- the types inside a type are read as inner ones, so the induction is for both ways of reading
    induction schema generalizing inner value value' room room' with
    | primitive _ | model _ =>
        refine read_respelled_of_field ?_ hrespell hread hdepth
        intro _ _ values values' hreads hvalues hdepth
        exact Json.SlotReads.respelled hreads hvalues hdepth
          fun hleaf hread _ => by rwa [respelling_leaf hleaf]
    | array _ ih | map _ ih =>
        refine read_respelled_of_field ?_ hrespell hread hdepth
        intro _ _ values values' hreads hvalues hdepth
        exact Json.SlotReads.respelled hreads hvalues hdepth (ih true)

end Schema

/-! ### Documents -/

theorem Property.lenient : Lenient (.record .property) Property.read := by
  apply format.lenient
  simp only [format, slots, List.forall_mem_cons]
  exact ⟨lenient_leaf, Schema.lenient false, lenient_leaf, lenient_leaf, lenient_leaf.list,
    lenient_leaf.option, lenient_leaf.option, List.forall_mem_nil _⟩

theorem Model.lenient : Lenient (.record .model) Model.read := by
  apply format.lenient
  simp only [format, slots, List.forall_mem_cons]
  exact ⟨lenient_leaf, lenient_leaf.option, Property.lenient.list, List.forall_mem_nil _⟩

theorem Parameter.lenient : Lenient (.record .parameter) Parameter.read := by
  apply format.lenient
  simp only [format, slots, List.forall_mem_cons]
  exact ⟨lenient_leaf, Schema.lenient false, lenient_place, lenient_leaf, List.forall_mem_nil _⟩

theorem Operation.lenient : Lenient (.record .operation) Operation.read := by
  apply format.lenient
  simp only [format, slots, List.forall_mem_cons]
  exact ⟨lenient_leaf, lenient_leaf, lenient_leaf, lenient_leaf.option, Parameter.lenient.list,
    (Schema.lenient false).option, List.forall_mem_nil _⟩

theorem Document.lenient : Lenient (.record .document) Document.read := by
  apply format.lenient
  simp only [format, slots, List.forall_mem_cons]
  exact ⟨Model.lenient.list, Operation.lenient.list, List.forall_mem_nil _⟩

theorem Lenient.read_of_reflTransGen {shape : Shape} {read : Nat → Json → Reading α}
    (h : Lenient shape read) {value value' : Json} {room room' : Nat} {x : α}
    (hrespell : Relation.ReflTransGen (Respelling shape) value value')
    (hread : read room value = .ok x) (hdepth : value'.depth ≤ room') : read room' value' = .ok x := by
  induction hrespell generalizing room' with
  | refl => exact h.read_respelled .refl hread hdepth
  | tail _ hstep ih => exact h.read_respelled (.single hstep) (ih (Nat.le_refl _)) hdepth

theorem Document.ofText_of_scan {text : String} {value : Json} {document : Document}
    (hscan : scan text = (value, true)) (hread : Document.read depthLimit value = .ok document) :
    Document.ofText text = .ok document := by
  rw [ofText, readFromText, hscan]
  simp only [hread, if_true]
  rfl

/-- However often its records are respelled, a document stays the same, as long as the outcome keeps to
the limit of depth. Every text that holds the outcome gives that document. -/
theorem Document.read_of_respelled {value value' : Json} {document : Document}
    (h : Document.read depthLimit value = .ok document)
    (hrespell : Relation.ReflTransGen (Respelling (.record .document)) value value')
    (hdepth : value'.depth ≤ depthLimit) :
    Document.read depthLimit value' = .ok document ∧
      ∀ text, scan text = (value', true) → Document.ofText text = .ok document := by
  have hread := Document.lenient.read_of_reflTransGen hrespell h hdepth
  exact ⟨hread, fun text hscan => ofText_of_scan hscan hread⟩

/-- A type whose kind comes last, with a list inside it and a member that it does not know. -/
theorem Document.read_of_respelled_type :
    let withType (type : Json) : Json :=
      .ofFields [("models", .list [.ofFields [("name", .string "Pet"),
        ("properties", .list [.ofFields [("name", .string "tags"), ("type", type)]])]])]
    let written : Json := .ofFields [("kind", .string "array"),
      ("items", .ofFields [("kind", .string "primitive"), ("name", .string "string")])]
    let respelled : Json := .ofFields [("items", .list [.string "primitive", .string "string"]),
      ("x-note", .list [.null, .ofNat 7]), ("kind", .string "array")]
    let document : Document :=
      { models := [
          { name := "Pet",
            properties := [{ name := "tags", schema := .array (.primitive "string") }] }] }
    Document.read depthLimit (withType written) = .ok document ∧
      Relation.ReflTransGen (Respelling (.record .document)) (withType written)
        (withType respelled) ∧
      (withType respelled).depth ≤ depthLimit ∧
      Document.read depthLimit (withType respelled) = .ok document := by
  intro withType written respelled document
  have hlift : ∀ {inner inner' : Json}, Respelling .schema inner inner' →
      Respelling (.record .document) (withType inner) (withType inner') := by
    intro inner inner' h
    have hproperty : Respelling (.record .property)
        (.ofFields [("name", .string "tags"), ("type", inner)])
        (.ofFields [("name", .string "tags"), ("type", inner')]) :=
      @Respelling.member .property ⟨"type", .schema⟩ [(.text "name", .string "tags")] [] inner inner'
        (by decide) h
    have hmodel := @Respelling.member .model ⟨"properties", .listOf (.record .property)⟩
      [(.text "name", .string "Pet")] [] _ _ (by decide)
      (@Respelling.item (.record .property) [] [] _ _ hproperty)
    exact @Respelling.member .document ⟨"models", .listOf (.record .model)⟩ [] [] _ _ (by decide)
      (@Respelling.item (.record .model) [] [] _ _ hmodel)
  have hitems : Respelling .schema written (.ofFields [("kind", .string "array"),
      ("items", .list [.string "primitive", .string "string"])]) := by
    refine @Respelling.schema .array _ _ ⟨.string "array", List.mem_cons_self, rfl⟩ ?_
    refine @Respelling.member _ ⟨"items", .schema⟩ [(.text "kind", .string "array")] [] _ _
      (by decide) ?_
    refine @Respelling.schema .primitive _ _ ⟨.string "primitive", List.mem_cons_self, rfl⟩ ?_
    exact .enlist (.cons List.mem_cons_self (.cons (List.mem_cons_of_mem _ List.mem_cons_self) .nil))
  have hnote : Respelling .schema
      (.ofFields [("kind", .string "array"), ("items", .list [.string "primitive", .string "string"])])
      (.ofFields [("kind", .string "array"), ("items", .list [.string "primitive", .string "string"]),
        ("x-note", .list [.null, .ofNat 7])]) := by
    refine @Respelling.schema .array _ _ ⟨.string "array", List.mem_cons_self, rfl⟩ ?_
    exact @Respelling.extend _
      [(.text "kind", .string "array"), (.text "items", .list [.string "primitive", .string "string"])]
      [] "x-note" _ (by decide) (by decide)
  have hlast : Respelling .schema
      (.ofFields [("kind", .string "array"), ("items", .list [.string "primitive", .string "string"]),
        ("x-note", .list [.null, .ofNat 7])]) respelled := by
    refine @Respelling.schema .array _ _ ⟨.string "array", List.mem_cons_self, rfl⟩ ?_
    exact .permute (List.perm_append_singleton _ _).symm
  have hsteps : Relation.ReflTransGen (Respelling (.record .document)) (withType written)
      (withType respelled) :=
    .tail (.tail (.single (hlift hitems)) (hlift hnote)) (hlift hlast)
  have hread : Document.read depthLimit (withType written) = .ok document := by rfl
  have hdepth : (withType respelled).depth ≤ depthLimit := by decide
  exact ⟨hread, hsteps, hdepth, (Document.read_of_respelled hread hsteps hdepth).1⟩

end CratePlan
