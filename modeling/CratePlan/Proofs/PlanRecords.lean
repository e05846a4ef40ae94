import CratePlan.Proofs.Grouping

/-! The records of a plan, and the records of the document that they stand for: fields for
properties, variants for literals, parameters for parameters, each in order and each planned as if
it stood alone. -/

namespace CratePlan.Naming

variable (naming : Naming)

theorem value_planVariants (datatype : String) (literals : List String) :
    (naming.planVariants datatype literals).value =
      literals.map fun literal =>
        ⟨(naming.variantName literal datatype).name, literalText literal datatype⟩ := by
  induction literals with
  | nil => rfl
  | cons literal rest ih =>
      simp only [planVariants, List.map_cons]
      rw [ih]

theorem eq_planEnum_of_mem_enumPlan {property : Property} {e : EnumPlan}
    (he : e ∈ (naming.planField property).value.enumPlan) :
    e = (naming.planEnum property (naming.planField property).value.baseType).value := by
  simp only [planField] at he ⊢
  split_ifs at he
  · rw [Option.map_some, Option.mem_some_iff] at he
    exact he.symm
  · rw [Option.map_none] at he
    cases he

theorem enumPlan_planField {property : Property} (h : property.isEnum = true) :
    (naming.planField property).value.enumPlan =
      some (naming.planEnum property (naming.planField property).value.baseType).value := by
  simp only [planField, h, if_true, Option.map_some]

theorem name_of_mem_enumPlan {property : Property} {e : EnumPlan}
    (he : e ∈ (naming.planField property).value.enumPlan) :
    e.name = (naming.enumName property.name).name := by
  rw [naming.eq_planEnum_of_mem_enumPlan he, planEnum]

theorem variants_of_mem_enumPlan {property : Property} {e : EnumPlan}
    (he : e ∈ (naming.planField property).value.enumPlan) :
    e.variants = property.enumValues.map fun literal =>
      ⟨(naming.variantName literal (naming.planField property).value.baseType).name,
        literalText literal (naming.planField property).value.baseType⟩ := by
  rw [naming.eq_planEnum_of_mem_enumPlan he, planEnum, ← value_planVariants]

theorem map_value_planFields (model : String) (seen : List (String × String))
    (properties : List Property) :
    (naming.planFields model seen properties).map Noted.value =
      properties.map fun property => (naming.planField property).value := by
  induction properties generalizing seen with
  | nil => rfl
  | cons property rest ih =>
      simp only [planFields, List.map_cons]
      split
      · rw [List.map_cons, ih]
      · rw [List.map_cons, ih]

theorem fields_planModel (layout : Output.Layout) (model : Model) :
    (naming.planModel layout model).fields =
      model.properties.map fun property => (naming.planField property).value :=
  naming.map_value_planFields model.name [] model.properties

theorem parameters_planOperation (operation : Operation) :
    (naming.planOperation operation).parameters =
      operation.parameters.map fun parameter => (naming.planParameter parameter).value := by
  simp only [planOperation, planParameters]
  rw [List.map_map, Function.comp_def]

variable {layout : Output.Layout} {operations : List Operation} {api : ApiPlan}

/-- An operation of a group is the one at its position in the document, planned by itself. -/
theorem exists_at_position (hapi : api ∈ naming.planApis layout operations) {p : Positioned}
    (hp : p ∈ api.operations) :
    ∃ o, operations[p.position]? = some o ∧ p.operation = naming.planOperation o := by
  rw [(naming.isGrouping_planApis operations layout).members api hapi] at hp
  obtain ⟨⟨o, position⟩, hsource, rfl⟩ := List.mem_map.mp hp
  exact ⟨o, List.mk_mem_zipIdx_iff_getElem?.mp (List.mem_filter.mp hsource).1, rfl⟩

theorem exists_of_mem_operations (hapi : api ∈ naming.planApis layout operations) {p : Positioned}
    (hp : p ∈ api.operations) : ∃ o ∈ operations, p.operation = naming.planOperation o := by
  obtain ⟨o, hposition, ho⟩ := naming.exists_at_position hapi hp
  exact ⟨o, List.mem_of_getElem? hposition, ho⟩

/-- The methods of an interface are the operations with its tag, in their order, each planned by
itself. -/
theorem map_operation_of_mem_planApis (hapi : api ∈ naming.planApis layout operations) :
    api.operations.map Positioned.operation =
      (operations.filter fun o => tagKey o.tag = api.tag).map naming.planOperation := by
  rw [(naming.isGrouping_planApis operations layout).members api hapi, membersOf, List.map_map]
  conv_rhs => rw [← List.zipIdx_map_fst 0 operations, List.filter_map, List.map_map]
  simp only [Function.comp_def]

end CratePlan.Naming
