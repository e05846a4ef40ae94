import CratePlan.Plan.Client
import CratePlan.Proofs.OrderedMap
import Mathlib.Data.List.Nodup

/-! Operations and the interfaces they are grouped into. Grouping rearranges the operations of a
document by the keys of their tags and does nothing else to them: sorting the groups by position
gives back the operations in document order, each planned as if it stood alone. -/

namespace CratePlan

namespace Naming

variable (naming : Naming) (operations : List Operation)

/-- The operations of a document, each planned by itself, with their positions. -/
def planInOrder : List Positioned :=
  operations.zipIdx.map fun p => ⟨p.2, naming.planOperation p.1⟩

/-- The planned operations whose tags have a key, in document order. -/
def membersOf (key : String) : List Positioned :=
  (operations.zipIdx.filter fun p => tagKey p.1.tag = key).map
    fun p => ⟨p.2, naming.planOperation p.1⟩

/-- What a list of interfaces has to be to group the operations of a document: the groups together
are the operations, each once and planned by itself, and every group holds those with its key in
document order; the keys differ, and they are the keys of the tags in order of first occurrence. -/
structure IsGrouping (apis : List ApiPlan) : Prop where
  perm : (apis.flatMap ApiPlan.operations).Perm (naming.planInOrder operations)
  members : ∀ api ∈ apis, api.operations = naming.membersOf operations api.tag
  keys_nodup : (apis.map ApiPlan.tag).Nodup
  keys_complete : ∀ key, key ∈ apis.map ApiPlan.tag ↔ ∃ o ∈ operations, tagKey o.tag = key
  keys_order : (apis.map ApiPlan.tag).Pairwise fun a b =>
    (operations.map fun o => tagKey o.tag).idxOf a < (operations.map fun o => tagKey o.tag).idxOf b

theorem map_tagKey_zipIdx :
    operations.zipIdx.map (fun p => tagKey p.1.tag) = operations.map fun o => tagKey o.tag := by
  conv_rhs => rw [← List.zipIdx_map_fst 0 operations, List.map_map, Function.comp_def]

theorem entries_groupOperations :
    (naming.groupOperations operations).entries =
      (firstOccurrences (operations.map fun o => tagKey o.tag)).map
        fun key => (key, naming.membersOf operations key) := by
  have hcollect := OrderedMap.entries_collect (fun p : Operation × Nat => tagKey p.1.tag)
    (fun p => (⟨p.2, naming.planOperation p.1⟩ : Positioned)) operations.zipIdx
  rw [map_tagKey_zipIdx] at hcollect
  exact hcollect

variable (layout : Output.Layout)

theorem planApis_eq :
    naming.planApis layout operations =
      (firstOccurrences (operations.map fun o => tagKey o.tag)).map
        fun key => planApi layout key (naming.membersOf operations key) := by
  rw [planApis, entries_groupOperations, List.map_map]
  rfl

theorem exists_of_mem_planApis {api : ApiPlan} (h : api ∈ naming.planApis layout operations) :
    ∃ o ∈ operations, api =
      planApi layout (tagKey o.tag) (naming.membersOf operations (tagKey o.tag)) := by
  rw [planApis_eq] at h
  obtain ⟨key, hkey, rfl⟩ := List.mem_map.mp h
  obtain ⟨o, ho, rfl⟩ := List.mem_map.mp (mem_firstOccurrences.mp hkey)
  exact ⟨o, ho, rfl⟩

theorem tags_planApis :
    (naming.planApis layout operations).map ApiPlan.tag =
      firstOccurrences (operations.map fun o => tagKey o.tag) := by
  rw [planApis_eq, List.map_map]
  exact List.map_id _

theorem flatMap_operations_planApis :
    ((naming.planApis layout operations).flatMap ApiPlan.operations).Perm
      (naming.planInOrder operations) := by
  have hparted : (naming.planApis layout operations).flatMap ApiPlan.operations =
      ((firstOccurrences (operations.map fun o => tagKey o.tag)).flatMap fun key =>
        operations.zipIdx.filter fun p => tagKey p.1.tag = key).map
          fun p => ⟨p.2, naming.planOperation p.1⟩ := by
    rw [planApis_eq, List.flatMap_map, List.map_flatMap]
    rfl
  rw [hparted]
  refine List.Perm.map _ (flatMap_filter_perm (nodup_firstOccurrences _) fun p hp => ?_)
  rw [mem_firstOccurrences, ← map_tagKey_zipIdx]
  exact List.mem_map_of_mem hp

theorem isGrouping_planApis :
    naming.IsGrouping operations (naming.planApis layout operations) where
  perm := naming.flatMap_operations_planApis operations layout
  members := by
    intro api hapi
    obtain ⟨o, _, rfl⟩ := naming.exists_of_mem_planApis operations layout hapi
    simp only [planApi]
  keys_nodup := by
    rw [tags_planApis]
    exact nodup_firstOccurrences _
  keys_complete := by
    intro key
    rw [tags_planApis, mem_firstOccurrences, List.mem_map]
  keys_order := by
    rw [tags_planApis]
    exact pairwise_firstOccurrences _

/-! ### Back to document order -/

theorem positions_planInOrder :
    (naming.planInOrder operations).map Positioned.position =
      List.range' 0 operations.length := by
  rw [planInOrder, List.map_map, ← List.zipIdx_map_snd 0 operations]
  rfl

theorem pairwise_planInOrder :
    (naming.planInOrder operations).Pairwise fun a b => a.position < b.position := by
  rw [← List.pairwise_map (f := Positioned.position) (R := (· < ·)), positions_planInOrder]
  exact List.pairwise_lt_range' 1

theorem map_operation_planInOrder :
    (naming.planInOrder operations).map Positioned.operation =
      operations.map naming.planOperation := by
  conv_rhs => rw [← List.zipIdx_map_fst 0 operations, List.map_map]
  rw [planInOrder, List.map_map]
  rfl

/-- Sorting any rearrangement of the planned operations by position restores document order. -/
theorem mergeSort_eq_planInOrder {grouped : List Positioned}
    (h : grouped.Perm (naming.planInOrder operations)) :
    (grouped.mergeSort fun a b => a.position ≤ b.position) = naming.planInOrder operations := by
  have hsorted : (grouped.mergeSort fun a b => a.position ≤ b.position).Pairwise
      fun a b => a.position ≤ b.position := by
    have htrans : ∀ a b c : Positioned, decide (a.position ≤ b.position) = true →
        decide (b.position ≤ c.position) = true → decide (a.position ≤ c.position) = true := by
      intro a b c hab hbc
      simp only [decide_eq_true_eq] at hab hbc ⊢
      exact Nat.le_trans hab hbc
    have htotal : ∀ a b : Positioned,
        (decide (a.position ≤ b.position) || decide (b.position ≤ a.position)) = true := by
      intro a b
      simpa using Nat.le_total a.position b.position
    exact (List.pairwise_mergeSort htrans htotal grouped).imp of_decide_eq_true
  have hperm := (List.mergeSort_perm grouped fun a b => a.position ≤ b.position).trans h
  refine List.Perm.eq_of_pairwise (fun a b ha hb hab hba => ?_) hsorted
    ((naming.pairwise_planInOrder operations).imp Nat.le_of_lt) hperm
  -- two operations at one position are one entry of the document
  have hnodup : ((naming.planInOrder operations).map Positioned.position).Nodup := by
    rw [positions_planInOrder]
    exact List.nodup_range'
  exact List.inj_on_of_nodup_map hnodup (hperm.mem_iff.mp ha) hb (Nat.le_antisymm hab hba)

end Naming

variable (planner : Planner) (document : Document)

theorem operations_plan :
    (planner.plan document).operations =
      document.operations.map planner.naming.planOperation := by
  rw [ClientPlan.operations]
  simp only [Planner.plan]
  rw [planner.naming.mergeSort_eq_planInOrder document.operations
    (planner.naming.flatMap_operations_planApis document.operations planner.layout),
    Naming.map_operation_planInOrder]

/-- A planner of any settings neither loses nor doubles an operation nor plans it differently in its
group, and the diagnostics of a plan read as if nothing had been grouped: those of the models, then
those of the operations, each in document order. -/
theorem plan_keeps_operations :
    planner.naming.IsGrouping document.operations (planner.plan document).apis ∧
      (planner.plan document).diagnostics =
        (document.models.flatMap fun model =>
          (planner.naming.planModel planner.layout model).diagnostics) ++
        document.operations.flatMap fun operation =>
          (planner.naming.planOperation operation).diagnostics := by
  refine ⟨planner.naming.isGrouping_planApis document.operations planner.layout, ?_⟩
  rw [ClientPlan.diagnostics, operations_plan, List.flatMap_map]
  congr 1
  rw [Planner.plan, Naming.planModels, List.flatMap_map]

end CratePlan
