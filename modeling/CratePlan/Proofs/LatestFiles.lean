import CratePlan.Output.Skeleton
import CratePlan.Proofs.OrderedMap

/-! What a skeleton is left with after any number of registrations. Two registrations are for one
place if their paths have the same components, however many slashes and dots they are written with.
Each place keeps the registration that was made last for it, where the first one for it stood; so
registering anew what was kept leaves it as it is. -/

namespace CratePlan.Output

theorem samePlace_iff {a b : String} : samePlace a b = true ↔ components a = components b :=
  decide_eq_true_iff

theorem samePlace_eq_false_iff {a b : String} :
    samePlace a b = false ↔ components a ≠ components b :=
  decide_eq_false_iff_not

namespace Skeleton

/-- The skeleton after registrations that are made one after the other. -/
def registerAll (skeleton : Skeleton) (files : List SupportingFile) : Skeleton :=
  files.foldl register skeleton

theorem files_registerAll (skeleton : Skeleton) (files : List SupportingFile) :
    (skeleton.registerAll files).files = skeleton.files ++ files := by
  induction files generalizing skeleton with
  | nil => exact (List.append_nil _).symm
  | cons file rest ih => exact (ih (skeleton.register file)).trans (List.append_assoc ..)

/-- What a list has to be to keep the registration made last for each place: no two of its entries
are for one place, every registration has an entry for its place, each entry is the last registration
for its place, and the entries stand in the order of the first registrations for theirs. -/
structure KeepsLatest (registered kept : List SupportingFile) : Prop where
  apart : kept.Pairwise fun a b => samePlace a.path b.path = false
  complete : ∀ file ∈ registered, ∃ entry ∈ kept, samePlace entry.path file.path = true
  latest : ∀ entry ∈ kept,
    (registered.filter fun file => samePlace file.path entry.path).getLast? = some entry
  order : kept.Pairwise fun a b =>
    (registered.findIdx fun file => samePlace file.path a.path) <
      registered.findIdx fun file => samePlace file.path b.path

/-- The table of the registrations by their places, in which a later one replaces an earlier one. -/
def byPlace (files : List SupportingFile) : OrderedMap Components SupportingFile :=
  OrderedMap.takeIn (fun file => components file.path) (fun file _ => file) files

theorem distinct_eq (skeleton : Skeleton) :
    skeleton.distinct = (byPlace skeleton.files).values := by
  rw [distinct, OrderedMap.ofList, OrderedMap.insertAll, List.foldl_map]
  rfl

theorem find?_byPlace (files : List SupportingFile) (place : Components) :
    (byPlace files).find? place =
      (files.filter fun file => components file.path = place).getLast? :=
  OrderedMap.find?_takeIn_last _ files place

variable {files : List SupportingFile} {entry : Components × SupportingFile}

theorem getLast?_of_mem_byPlace (h : entry ∈ (byPlace files).entries) :
    (files.filter fun file => components file.path = entry.1).getLast? = some entry.2 := by
  rw [← find?_byPlace]
  exact OrderedMap.find?_of_mem (OrderedMap.nodup_keys_takeIn ..) h

/-- Every entry stands under its own place. -/
theorem place_of_mem_byPlace (h : entry ∈ (byPlace files).entries) :
    components entry.2.path = entry.1 := by
  have hmem := List.mem_of_getLast? (getLast?_of_mem_byPlace h)
  exact of_decide_eq_true (List.mem_filter.mp hmem).2

theorem map_place_distinct (skeleton : Skeleton) :
    (skeleton.distinct.map fun file => components file.path) =
      firstOccurrences (skeleton.files.map fun file => components file.path) := by
  have hplaces : (skeleton.distinct.map fun file => components file.path) =
      (byPlace skeleton.files).keys := by
    rw [distinct_eq, OrderedMap.values, List.map_map, OrderedMap.keys]
    refine List.map_congr_left fun entry hentry => ?_
    rw [Function.comp_apply]
    exact place_of_mem_byPlace hentry
  rw [hplaces, byPlace, OrderedMap.keys_takeIn]

theorem nodup_place_distinct (skeleton : Skeleton) :
    (skeleton.distinct.map fun file => components file.path).Nodup := by
  rw [map_place_distinct]
  exact nodup_firstOccurrences _

theorem idxOf_place (files : List SupportingFile) (path : String) :
    (files.map fun file => components file.path).idxOf (components path) =
      files.findIdx fun file => samePlace file.path path := by
  have hplace : ((· == components path) ∘ fun file : SupportingFile => components file.path) =
      fun file => samePlace file.path path :=
    funext fun file => beq_eq_decide (components file.path) (components path)
  rw [List.idxOf, List.findIdx_map, hplace]

theorem keepsLatest_distinct (skeleton : Skeleton) :
    KeepsLatest skeleton.files skeleton.distinct where
  apart := by
    simp only [samePlace_eq_false_iff]
    exact List.pairwise_map.mp (nodup_place_distinct skeleton)
  complete := by
    intro file hfile
    have hplace : components file.path ∈
        skeleton.distinct.map fun entry => components entry.path := by
      rw [map_place_distinct, mem_firstOccurrences]
      exact List.mem_map_of_mem hfile
    obtain ⟨entry, hentry, heq⟩ := List.mem_map.mp hplace
    exact ⟨entry, hentry, samePlace_iff.mpr heq⟩
  latest := by
    intro entry hentry
    rw [distinct_eq] at hentry
    obtain ⟨held, hheld, rfl⟩ := List.mem_map.mp hentry
    have hlast := getLast?_of_mem_byPlace hheld
    rw [← place_of_mem_byPlace hheld] at hlast
    exact hlast
  order := by
    have hplaces := pairwise_firstOccurrences (skeleton.files.map fun file => components file.path)
    rw [← map_place_distinct, List.pairwise_map] at hplaces
    simpa only [idxOf_place] using hplaces

/-- Registrations for different places are all kept, in their order. -/
theorem distinct_of_nodup {skeleton : Skeleton}
    (h : (skeleton.files.map fun file => components file.path).Nodup) :
    skeleton.distinct = skeleton.files := by
  rw [distinct_eq, byPlace, OrderedMap.values, OrderedMap.entries_takeIn_of_nodup h, List.map_map]
  exact List.map_id _

/-- Whatever a skeleton starts with and however many files are registered, it keeps the registration
made last for each place, in the order in which the places came up; and what it keeps, registered one
after the other with an empty skeleton, is kept as it is. -/
theorem latest_registrations_are_kept (skeleton : Skeleton) (files : List SupportingFile) :
    let kept := (skeleton.registerAll files).distinct
    KeepsLatest (skeleton.files ++ files) kept ∧ (registerAll {} kept).distinct = kept := by
  intro kept
  constructor
  · rw [← files_registerAll]
    exact keepsLatest_distinct _
  · have hfiles : (registerAll {} kept).files = kept := files_registerAll {} kept
    rw [distinct_of_nodup, hfiles]
    rw [hfiles]
    exact nodup_place_distinct _

/-- A folder is split at its slashes, however many there are, an absolute destination stands for
itself and an empty one for the folder. Of the two registrations for `src/apis/mod.rs`, and of the two
for `src/lib.rs`, one of them by way of a dot, the later is kept in the place of the earlier. -/
theorem latest_registrations_are_kept_of_slashes :
    let files : List SupportingFile :=
      [⟨"old_mod", "src/apis", "mod.rs"⟩, ⟨"hosts", "src", "/etc/hosts"⟩,
        ⟨"readme", "", "README.md"⟩, ⟨"old_lib", "src", "./lib.rs"⟩, ⟨"folder", "src", ""⟩,
        ⟨"new_mod", "//src//apis/", "mod.rs"⟩, ⟨"new_lib", "src", "lib.rs"⟩]
    let kept : List SupportingFile :=
      [⟨"new_mod", "//src//apis/", "mod.rs"⟩, ⟨"hosts", "src", "/etc/hosts"⟩,
        ⟨"readme", "", "README.md"⟩, ⟨"new_lib", "src", "lib.rs"⟩, ⟨"folder", "src", ""⟩]
    files.map SupportingFile.path = ["src/apis/mod.rs", "/etc/hosts", "README.md", "src/./lib.rs",
        "src/", "src/apis/mod.rs", "src/lib.rs"] ∧
      KeepsLatest files kept ∧ (registerAll {} files).distinct = kept ∧
      (registerAll {} kept).distinct = kept := by
  intro files kept
  have hkept : (registerAll {} files).distinct = kept := by decide
  obtain ⟨hlatest, hagain⟩ := latest_registrations_are_kept {} files
  rw [hkept] at hlatest hagain
  exact ⟨by decide, hlatest, hkept, hagain⟩

end Skeleton

end CratePlan.Output
