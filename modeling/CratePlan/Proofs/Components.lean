import CratePlan.Proofs.OutputTree

/-! The components of joined paths. A relative path that is joined to a folder adds its steps to the
components of the folder; a dot in front of it is no step. Whatever the root is, a plain path adds all
its pieces, so two plain paths below one root lead to the same place exactly if they have the same
pieces. -/

namespace CratePlan.Output

open Identifier

/-- Whether a piece behind the first one is a component. -/
def counts (piece : String) : Bool :=
  piece != "" && piece != "."

/-- A relative path of which every piece is a component. -/
def IsPlain (path : String) : Prop :=
  ∀ piece ∈ pieces path, counts piece

instance (path : String) : Decidable (IsPlain path) :=
  inferInstanceAs (Decidable (∀ piece ∈ pieces path, counts piece))

/-- The components among the pieces of a path. -/
def stepsOf : List String → List String
  | [] => []
  | first :: rest => (if first = "" then [] else [first]) ++ rest.filter counts

theorem components_eq (path : String) :
    components path = ⟨path.toList.head? = some '/', stepsOf (pieces path)⟩ := by
  unfold components
  cases hpieces : pieces path with
  | nil => rfl
  | cons first rest =>
      simp only [stepsOf]
      split_ifs <;> rfl

theorem stepsOf_append {front : List String} (h : front ≠ []) (rest : List String) :
    stepsOf (front ++ rest) = stepsOf front ++ rest.filter counts := by
  cases front with
  | nil => exact absurd rfl h
  | cons first more =>
      rw [List.cons_append, stepsOf, stepsOf, List.filter_append, List.append_assoc]

/-! ### Pieces -/

theorem piecesFrom_append_slash (piece front rest : List Char) :
    piecesFrom piece (front ++ '/' :: rest) = piecesFrom piece front ++ piecesFrom [] rest := by
  induction front generalizing piece with
  | nil => rfl
  | cons c front ih =>
      rw [List.cons_append, piecesFrom, piecesFrom]
      split_ifs
      · rw [ih, List.cons_append]
      · exact ih _

theorem piecesFrom_of_notMem {piece cs : List Char} (h : '/' ∉ cs) :
    piecesFrom piece cs = [piece.reverse ++ cs] := by
  induction cs generalizing piece with
  | nil => rw [piecesFrom, List.append_nil]
  | cons c rest ih =>
      rw [List.mem_cons, not_or] at h
      rw [piecesFrom, if_neg (Ne.symm h.1), ih h.2, List.reverse_cons, List.append_assoc]
      rfl

theorem piecesFrom_ne_nil (piece cs : List Char) : piecesFrom piece cs ≠ [] := by
  induction cs generalizing piece with
  | nil => exact List.cons_ne_nil _ _
  | cons c rest ih =>
      rw [piecesFrom]
      split_ifs
      · exact List.cons_ne_nil _ _
      · exact ih _

theorem pieces_ne_nil (path : String) : pieces path ≠ [] := fun h =>
  piecesFrom_ne_nil _ _ (List.map_eq_nil_iff.mp h)

theorem pieces_append_slash (front rest : String) :
    pieces (front ++ "/" ++ rest) = pieces front ++ pieces rest := by
  have hchars : (front ++ "/" ++ rest).toList = front.toList ++ '/' :: rest.toList := by
    rw [String.toList_append, String.toList_append, List.append_assoc]
    rfl
  rw [pieces, hchars, piecesFrom_append_slash, List.map_append]
  rfl

theorem pieces_of_notMem {path : String} (h : '/' ∉ path.toList) : pieces path = [path] := by
  rw [pieces, piecesFrom_of_notMem h, List.map_singleton, List.reverse_nil, List.nil_append,
    String.ofList_toList]

/-- The pieces of a file in a folder are those of the folder and the name of the file. -/
theorem pieces_file (folder : String) {stem extension : String} (h : Written isWordChar stem)
    (hextension : '/' ∉ extension.toList) :
    pieces (folder ++ "/" ++ (stem ++ extension)) = pieces folder ++ [stem ++ extension] := by
  have hname : '/' ∉ (stem ++ extension).toList := by
    rw [String.toList_append, List.mem_append, not_or]
    exact ⟨fun hmem => absurd (h.spelled '/' hmem) (by decide), hextension⟩
  rw [pieces_append_slash, pieces_of_notMem hname]

theorem counts_file {stem : String} (h : Written isWordChar stem) (extension : String) :
    counts (stem ++ extension) = true := by
  obtain ⟨c, rest, hcs⟩ := List.exists_cons_of_ne_nil h.toList_ne_nil
  have hdot : c ≠ '.' := by
    rintro rfl
    exact absurd (h.spelled '.' (hcs ▸ List.mem_cons_self)) (by decide)
  rw [counts, Bool.and_eq_true, bne_iff_ne, bne_iff_ne]
  constructor
  · intro heq
    have hnil := congrArg String.toList heq
    rw [String.toList_append, hcs] at hnil
    cases hnil
  · intro heq
    have hcons := congrArg String.toList heq
    rw [String.toList_append, hcs] at hcons
    exact hdot (List.cons.inj hcons).1

theorem isPlain_file {folder : String} (hfolder : IsPlain folder) {stem extension : String}
    (h : Written isWordChar stem) (hextension : '/' ∉ extension.toList) :
    IsPlain (folder ++ "/" ++ (stem ++ extension)) := by
  intro piece hpiece
  rw [pieces_file folder h hextension, List.mem_append, List.mem_singleton] at hpiece
  rcases hpiece with hpiece | rfl
  · exact hfolder piece hpiece
  · exact counts_file h extension

/-! ### Joined paths -/

theorem IsPlain.ne_empty {path : String} (h : IsPlain path) : path ≠ "" := by
  rintro rfl
  exact absurd (h "" (by decide)) (by decide)

theorem IsPlain.head?_ne {path : String} (h : IsPlain path) : path.toList.head? ≠ some '/' := by
  intro hhead
  obtain ⟨rest, hcs⟩ := List.head?_eq_some_iff.mp hhead
  have hempty : "" ∈ pieces path := by
    rw [pieces, hcs, piecesFrom, if_pos rfl]
    exact List.mem_cons_self
  exact absurd (h "" hempty) (by decide)

theorem IsPlain.filter_pieces {path : String} (h : IsPlain path) :
    (pieces path).filter counts = pieces path :=
  List.filter_eq_self.mpr h

/-- All pieces of a plain path count, the first one as well. -/
theorem IsPlain.stepsOf_pieces {path : String} (h : IsPlain path) :
    stepsOf (pieces path) = pieces path := by
  obtain ⟨first, rest, hpieces⟩ := List.exists_cons_of_ne_nil (pieces_ne_nil path)
  have hfirst : first ≠ "" := by
    rintro rfl
    exact absurd (h "" (hpieces ▸ List.mem_cons_self)) (by decide)
  have hrest : rest.filter counts = rest :=
    List.filter_eq_self.mpr fun piece hpiece => h piece (hpieces ▸ List.mem_cons_of_mem _ hpiece)
  rw [hpieces, stepsOf, if_neg hfirst, hrest]
  rfl

/-- The steps that a path takes from the folder it is joined to: its components, a dot in front
apart. -/
def stepsBelow (path : String) : List String :=
  (components path).steps.filter counts

theorem stepsBelow_eq (path : String) : stepsBelow path = (pieces path).filter counts := by
  obtain ⟨first, rest, hpieces⟩ := List.exists_cons_of_ne_nil (pieces_ne_nil path)
  rw [stepsBelow, components_eq, hpieces, stepsOf]
  split_ifs with hfirst
  · subst hfirst
    rw [List.nil_append, List.filter_filter]
    simp only [Bool.and_self]
    exact (List.filter_cons_of_neg (by decide)).symm
  · rw [List.singleton_append, List.filter_cons, List.filter_cons, List.filter_filter]
    simp only [Bool.and_self]

/-- A relative path that is joined to a folder adds its steps to the components of the folder. -/
theorem components_join_of_relative {root path : String} (hroot : root ≠ "")
    (hpath : path.toList.head? ≠ some '/') :
    components (join root path) =
      ⟨(components root).absolute, (components root).steps ++ stepsBelow path⟩ := by
  have hsteps (front : String) :
      stepsOf (pieces (front ++ "/" ++ path)) = stepsOf (pieces front) ++ stepsBelow path := by
    rw [pieces_append_slash, stepsOf_append (pieces_ne_nil front), stepsBelow_eq]
  have hhead (more : String) : (root ++ more).toList.head? = root.toList.head? := by
    rw [String.toList_append]
    exact List.head?_append_of_ne_nil _ fun hnil => hroot (String.toList_inj.mp hnil)
  rw [join_eq, if_neg hpath, if_neg hroot, components_eq root]
  split_ifs with hslash
  · -- the slash at the end of the root leaves an empty piece, which does not count
    obtain ⟨front, hfront⟩ := List.getLast?_eq_some_iff.mp hslash
    have hsplit : root = String.ofList front ++ "/" := by
      rw [← String.toList_inj, hfront, String.toList_append, String.toList_ofList]
      rfl
    have hrootSteps : stepsOf (pieces root) = stepsOf (pieces (String.ofList front)) := by
      have hpieces : pieces root = pieces (String.ofList front) ++ [""] := by
        rw [hsplit, ← String.append_empty (s := String.ofList front ++ "/"), pieces_append_slash]
        rfl
      rw [hpieces, stepsOf_append (pieces_ne_nil _)]
      exact List.append_nil _
    rw [components_eq, hhead, hrootSteps, ← hsteps, ← hsplit]
  · rw [components_eq, String.append_assoc, hhead, ← String.append_assoc, hsteps]

/-- A plain path that is joined to a root adds its pieces to the components of the root. -/
theorem components_join {root path : String} (h : IsPlain path) :
    components (join root path) =
      ⟨(components root).absolute, (components root).steps ++ pieces path⟩ := by
  by_cases hroot : root = ""
  · subst hroot
    rw [join_eq, if_neg h.head?_ne, if_pos rfl, components_eq, decide_eq_false h.head?_ne,
      h.stepsOf_pieces]
    rfl
  · rw [components_join_of_relative hroot h.head?_ne, stepsBelow_eq, h.filter_pieces]

/-- Plain paths below one root lead to the same place exactly if they have the same pieces. -/
theorem samePlace_join_iff {root a b : String} (ha : IsPlain a) (hb : IsPlain b) :
    samePlace (join root a) (join root b) = true ↔ pieces a = pieces b := by
  rw [samePlace, decide_eq_true_eq, components_join ha, components_join hb, Components.mk.injEq,
    List.append_right_inj, and_iff_right rfl]

/-- Files of one plain folder and with one extension are told apart by their stems, as places too. -/
theorem samePlace_stem_iff {root folder front extension a b : String} (hfolder : IsPlain folder)
    (hfront : folder ++ "/" = front) (hextension : '/' ∉ extension.toList)
    (ha : Written isWordChar a) (hb : Written isWordChar b) :
    samePlace (join root (front ++ a ++ extension)) (join root (front ++ b ++ extension)) = true ↔
      a = b := by
  subst hfront
  have hfile (stem : String) :
      folder ++ "/" ++ stem ++ extension = folder ++ "/" ++ (stem ++ extension) :=
    String.append_assoc
  rw [hfile, hfile, samePlace_join_iff (isPlain_file hfolder ha hextension)
    (isPlain_file hfolder hb hextension), pieces_file folder ha hextension,
    pieces_file folder hb hextension, List.append_right_inj, List.singleton_inj,
    String.append_left_inj]

end CratePlan.Output
