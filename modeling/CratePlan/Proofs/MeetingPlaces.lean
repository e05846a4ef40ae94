import CratePlan.Proofs.Components
import CratePlan.Proofs.LatestFiles

/-! Which files of a skeleton meet below a root. Registrations are told apart by their own paths, but
the files are named by these paths joined to the root. Joining takes no notice of a dot in front of a
path, and an absolute path takes the place of the root; so registrations that are kept apart can name
one file, and there is no third way. -/

namespace CratePlan.Output

/-! ### Paths that meet -/

/-- Two relative paths of which one is the other with a dot in front. They are different places of their
own and lead to one place from every folder. -/
structure DifferInDot (a b : String) : Prop where
  left_relative : (components a).absolute = false
  right_relative : (components b).absolute = false
  steps : (components a).steps = "." :: (components b).steps ∨
    (components b).steps = "." :: (components a).steps

/-- An absolute path that leads to where a relative one leads from the root. -/
structure LeadsInto (root path inner : String) : Prop where
  absolute : (components path).absolute = true
  relative : (components inner).absolute = false
  place_eq : components path =
    ⟨(components root).absolute, (components root).steps ++ stepsBelow inner⟩

/-- The ways in which two paths meet that are joined to a root. -/
inductive MeetBelow (root a b : String) : Prop
  | dot (h : DifferInDot a b)
  | left (h : LeadsInto root a b)
  | right (h : LeadsInto root b a)

theorem head?_ne_of_relative {path : String} (h : (components path).absolute = false) :
    path.toList.head? ≠ some '/' := by
  rw [components_eq] at h
  exact of_decide_eq_false h

theorem join_of_absolute {path : String} (h : (components path).absolute = true) (root : String) :
    join root path = path := by
  rw [components_eq] at h
  rw [join_eq, if_pos (of_decide_eq_true h)]

theorem join_empty (path : String) : join "" path = path := by
  rw [join_eq, if_pos (rfl : "" = ""), ite_self]

/-- The steps of a path below a folder are its components, or these without a dot in front. -/
theorem steps_eq_or (path : String) :
    (components path).steps = stepsBelow path ∨ (components path).steps = "." :: stepsBelow path := by
  obtain ⟨first, rest, hpieces⟩ := List.exists_cons_of_ne_nil (pieces_ne_nil path)
  rw [stepsBelow_eq, components_eq, hpieces, stepsOf]
  by_cases hempty : first = ""
  · left
    rw [if_pos hempty, List.filter_cons_of_neg (by simp [counts, hempty])]
    rfl
  · by_cases hdot : first = "."
    · right
      rw [if_neg hempty, List.filter_cons_of_neg (by simp [counts, hdot]), hdot]
      rfl
    · left
      rw [if_neg hempty, List.filter_cons_of_pos (by simp [counts, hempty, hdot])]
      rfl

theorem stepsBelow_of_dot {a b : String} (h : (components a).steps = "." :: (components b).steps) :
    stepsBelow a = stepsBelow b := by
  rw [stepsBelow, h, List.filter_cons_of_neg (by decide)]
  rfl

theorem DifferInDot.stepsBelow_eq {a b : String} (h : DifferInDot a b) :
    stepsBelow a = stepsBelow b := by
  rcases h.steps with hleft | hright
  · exact stepsBelow_of_dot hleft
  · exact (stepsBelow_of_dot hright).symm

theorem differInDot_of_stepsBelow_eq {a b : String} (ha : (components a).absolute = false)
    (hb : (components b).absolute = false) (h : components a ≠ components b)
    (hsteps : stepsBelow a = stepsBelow b) : DifferInDot a b := by
  have hne : (components a).steps ≠ (components b).steps := fun heq =>
    h (by rw [Components.mk.injEq]; exact ⟨ha.trans hb.symm, heq⟩)
  refine ⟨ha, hb, ?_⟩
  rcases steps_eq_or a with hplain | hdot <;> rcases steps_eq_or b with hplain' | hdot'
  · exact absurd (by rw [hplain, hplain', hsteps]) hne
  · exact .inr (by rw [hdot', hplain, hsteps])
  · exact .inl (by rw [hdot, hplain', hsteps])
  · exact absurd (by rw [hdot, hdot', hsteps]) hne

section

variable {root a b : String} (hroot : root ≠ "")

include hroot

theorem DifferInDot.components_join_eq (h : DifferInDot a b) :
    components (join root a) = components (join root b) := by
  rw [components_join_of_relative hroot (head?_ne_of_relative h.left_relative),
    components_join_of_relative hroot (head?_ne_of_relative h.right_relative), h.stepsBelow_eq]

theorem LeadsInto.components_join_eq (h : LeadsInto root a b) :
    components (join root a) = components (join root b) := by
  rw [join_of_absolute h.absolute,
    components_join_of_relative hroot (head?_ne_of_relative h.relative), h.place_eq]

/-- Two different places lead to one below a root exactly if their paths meet there. -/
theorem samePlace_join_iff_meetBelow (h : components a ≠ components b) :
    samePlace (join root a) (join root b) = true ↔ MeetBelow root a b := by
  rw [samePlace_iff]
  constructor
  · intro hplace
    cases ha : (components a).absolute <;> cases hb : (components b).absolute
    case false.false =>
      rw [components_join_of_relative hroot (head?_ne_of_relative ha),
        components_join_of_relative hroot (head?_ne_of_relative hb)] at hplace
      have hsteps := List.append_cancel_left (congrArg Components.steps hplace)
      exact .dot (differInDot_of_stepsBelow_eq ha hb h hsteps)
    case false.true =>
      rw [components_join_of_relative hroot (head?_ne_of_relative ha), join_of_absolute hb] at hplace
      exact .right ⟨hb, ha, hplace.symm⟩
    case true.false =>
      rw [join_of_absolute ha, components_join_of_relative hroot (head?_ne_of_relative hb)] at hplace
      exact .left ⟨ha, hb, hplace⟩
    case true.true =>
      rw [join_of_absolute ha, join_of_absolute hb] at hplace
      exact absurd hplace h
  · rintro (hdot | hleft | hright)
    · exact hdot.components_join_eq hroot
    · exact hleft.components_join_eq hroot
    · exact (hright.components_join_eq hroot).symm

end

/-! ### Files that meet -/

namespace Skeleton

/-- The files of a skeleton lie in different places below a root if and only if the root is empty or
no two of the registrations kept have paths that meet below it: relative ones that differ in nothing
but a dot in front, or an absolute one that leads to where a relative one leads from the root. -/
theorem files_lie_apart_iff (skeleton : Skeleton) (root : String) :
    (skeleton.placeUnder root).Pairwise (fun a b => samePlace a.path b.path = false) ↔
      root = "" ∨ skeleton.distinct.Pairwise fun a b => ¬MeetBelow root a.path b.path := by
  have hapart := (keepsLatest_distinct skeleton).apart
  rw [placeUnder, List.pairwise_map]
  by_cases hroot : root = ""
  · subst hroot
    simpa only [join_empty, true_or, iff_true] using hapart
  · have hmeet : skeleton.distinct.Pairwise fun a b =>
        (samePlace (join root a.path) (join root b.path) = false ↔
          ¬MeetBelow root a.path b.path) := by
      refine hapart.imp fun hplaces => ?_
      rw [← Bool.not_eq_true,
        samePlace_join_iff_meetBelow hroot (samePlace_eq_false_iff.mp hplaces)]
    rw [or_iff_right hroot]
    exact ⟨fun h => (h.and hmeet).imp fun hpair => hpair.2.mp hpair.1,
      fun h => (h.and hmeet).imp fun hpair => hpair.2.mpr hpair.1⟩

/-- A folder that is written with a dot in front is kept apart from the same folder without it, and
both registrations name one file. -/
theorem files_meet_of_dot :
    let skeleton := registerAll {}
      [⟨"lib.rs", "src", "lib.rs"⟩, ⟨"custom_lib.mustache", "./src", "lib.rs"⟩]
    (skeleton.placeUnder "out").map PlacedFile.path = ["out/src/lib.rs", "out/./src/lib.rs"] ∧
      ¬(skeleton.placeUnder "out").Pairwise fun a b => samePlace a.path b.path = false := by
  decide +kernel

end Skeleton

end CratePlan.Output
