import CratePlan.Toml.Scan
import Mathlib.Data.List.TakeDrop
import Mathlib.Tactic.SplitIfs

/-! What scanning leaves of a text. Whatever is read from the start of a text, what is left of it is its end:
nothing is put in front of that, and nothing in it is changed. So a place in a text is told by what is left
there. -/

namespace CratePlan.Toml

variable {cs rest : List Char}

/-! ### Gaps and line ends -/

theorem skipSpace_suffix (cs : List Char) : skipSpace cs <:+ cs :=
  List.dropWhile_suffix _

theorem suffix_of_lineEnd? (h : lineEnd? cs = some rest) : rest <:+ cs := by
  unfold lineEnd? at h
  split at h
  · cases h
    exact List.suffix_cons _ _
  · cases h
    exact (List.suffix_cons _ _).trans (List.suffix_cons _ _)
  · cases h

theorem skipComment_suffix (cs : List Char) : skipComment cs <:+ cs := by
  unfold skipComment
  split
  · exact (List.dropWhile_suffix _).trans (List.suffix_cons _ _)
  · exact List.suffix_refl _

theorem suffix_of_finishLine (h : finishLine cs = some rest) : rest <:+ cs := by
  have hline : skipComment (skipSpace cs) <:+ cs :=
    (skipComment_suffix _).trans (skipSpace_suffix cs)
  unfold finishLine at h
  split at h
  · cases h
    exact List.nil_suffix
  · exact (suffix_of_lineEnd? h).trans hline

theorem skipGap_suffix (inComment : Bool) (cs : List Char) : skipGap inComment cs <:+ cs := by
  fun_induction skipGap inComment cs with
  | case1 => exact List.suffix_refl _
  | case2 _ _ ih => exact ih.trans ((List.suffix_cons _ _).trans (List.suffix_cons _ _))
  | case4 | case8 => exact List.suffix_refl _
  | case3 _ _ _ ih => exact ih.trans (List.suffix_cons _ _)
  | case5 _ _ _ _ _ ih => exact ih.trans (List.suffix_cons _ _)
  | case6 _ _ _ _ _ ih => exact ih.trans (List.suffix_cons _ _)
  | case7 _ _ _ _ _ _ _ _ ih => exact ih.trans (List.suffix_cons _ _)

/-! ### Texts and keys -/

/-- What is made of the part that was scanned changes nothing in what is left. -/
theorem exists_of_scanned {α β : Type} {scanned : Option (α × List Char)} {make : α → β} {made : β}
    (h : (scanned.bind fun (part, rest) => some (make part, rest)) = some (made, rest)) :
    ∃ part, scanned = some (part, rest) := by
  obtain ⟨⟨part, left⟩, hscanned, h⟩ := Option.bind_eq_some_iff.mp h
  cases h
  exact ⟨part, hscanned⟩

theorem suffix_of_scanQuoted {mark : Char} {multiline folding : Bool} {skip : Nat} {front : List Char}
    (h : scanQuoted mark multiline skip folding cs = some (front, rest)) : rest <:+ cs := by
  fun_induction scanQuoted mark multiline skip folding cs generalizing front rest
  case case1 | case10 | case11 => cases h
  case case2 ih => exact (ih h).trans (List.suffix_cons _ _)
  case case4 =>
    cases h
    exact List.suffix_cons _ _
  case case5 =>
    cases h
    exact (List.drop_suffix _ _).trans (List.suffix_cons _ _)
  case case3 ih | case7 ih => exact (ih h).trans (List.suffix_cons _ _)
  case case8 ih =>
    obtain ⟨⟨c, count⟩, _, h⟩ := Option.bind_eq_some_iff.mp h
    obtain ⟨front, hscanned⟩ := exists_of_scanned h
    exact (ih _ hscanned).trans (List.suffix_cons _ _)
  case case6 ih | case9 ih | case12 ih =>
    obtain ⟨front, hscanned⟩ := exists_of_scanned h
    exact (ih _ hscanned).trans (List.suffix_cons _ _)

theorem suffix_of_scanText {mark : Char} {multiline : Bool} {s : String}
    (h : scanText mark multiline cs = some (s, rest)) : rest <:+ cs := by
  obtain ⟨front, hscanned⟩ := exists_of_scanned h
  refine (suffix_of_scanQuoted hscanned).trans ?_
  split
  · cases hline : lineEnd? cs with
    | none => exact List.suffix_refl _
    | some after => exact suffix_of_lineEnd? hline
  · exact List.suffix_refl _

theorem suffix_of_scanKey {key : String} (h : scanKey cs = some (key, rest)) : rest <:+ cs := by
  unfold scanKey at h
  split at h
  · exact (suffix_of_scanText h).trans (List.suffix_cons _ _)
  · exact (suffix_of_scanText h).trans (List.suffix_cons _ _)
  · rw [List.span_eq_takeWhile_dropWhile] at h
    dsimp only at h
    split_ifs at h
    cases h
    exact List.dropWhile_suffix _

theorem suffix_of_scanKeyPath {room : Nat} {path : List String} {key : String}
    (h : scanKeyPath room cs = some (path, key, rest)) : rest <:+ cs := by
  induction room generalizing cs path key rest with
  | zero => cases h
  | succ room ih =>
      rw [scanKeyPath] at h
      obtain ⟨⟨first, left⟩, hfirst, h⟩ := Option.bind_eq_some_iff.mp h
      have hleft : skipSpace left <:+ cs := (skipSpace_suffix left).trans (suffix_of_scanKey hfirst)
      dsimp only at h
      split at h
      · next after hafter =>
          obtain ⟨⟨others, last, end'⟩, hothers, h⟩ := Option.bind_eq_some_iff.mp h
          cases h
          rw [hafter] at hleft
          exact (ih hothers).trans
            ((skipSpace_suffix _).trans ((List.suffix_cons _ _).trans hleft))
      · cases h
        exact hleft

/-! ### Values -/

theorem suffix_of_scanScalar {value : Value} (h : scanScalar cs = some (value, rest)) : rest <:+ cs := by
  have hrest : cs.dropWhile isTokenChar <:+ cs := List.dropWhile_suffix _
  unfold scanScalar at h
  simp only [List.span_eq_takeWhile_dropWhile] at h
  generalize cs.dropWhile isTokenChar = left at *
  split at h
  · cases h
    exact (List.dropWhile_suffix _).trans ((List.drop_suffix _ _).trans hrest)
  · cases h
    exact hrest
  · split_ifs at h
    cases h
    exact hrest

/-- What is left after a value, a list or an inline table that is read in so many steps is the end of the
text. -/
structure LeavesEnd (fuel : Nat) : Prop where
  value : ∀ {room cs value rest}, scanValue fuel room cs = some (value, rest) → rest <:+ cs
  items : ∀ {room cs items rest}, scanItems fuel room cs = some (items, rest) → rest <:+ cs
  entries : ∀ {room entries cs result rest},
    scanEntries fuel room entries cs = some (result, rest) → rest <:+ cs

theorem LeavesEnd.value_succ {fuel room : Nat} (ih : LeavesEnd fuel) {value : Value}
    (h : scanValue (fuel + 1) room cs = some (value, rest)) : rest <:+ cs := by
  unfold scanValue at h
  split at h
  · obtain ⟨s, hs⟩ := exists_of_scanned h
    exact (suffix_of_scanText hs).trans (List.suffix_append ['"', '"', '"'] _)
  · obtain ⟨s, hs⟩ := exists_of_scanned h
    exact (suffix_of_scanText hs).trans (List.suffix_cons _ _)
  · obtain ⟨s, hs⟩ := exists_of_scanned h
    exact (suffix_of_scanText hs).trans (List.suffix_append ['\'', '\'', '\''] _)
  · obtain ⟨s, hs⟩ := exists_of_scanned h
    exact (suffix_of_scanText hs).trans (List.suffix_cons _ _)
  · obtain ⟨items, hitems⟩ := exists_of_scanned h
    exact (ih.items hitems).trans (List.suffix_cons _ _)
  · obtain ⟨entries, hentries⟩ := exists_of_scanned h
    exact (ih.entries hentries).trans (List.suffix_cons _ _)
  · exact suffix_of_scanScalar h

theorem LeavesEnd.items_succ {fuel room : Nat} (ih : LeavesEnd fuel) {items : List Value}
    (h : scanItems (fuel + 1) room cs = some (items, rest)) : rest <:+ cs := by
  have hgap := skipGap_suffix false cs
  unfold scanItems at h
  split at h
  · next heq =>
      cases h
      exact (List.suffix_cons _ _).trans (heq ▸ hgap)
  · obtain ⟨⟨item, left⟩, hitem, h⟩ := Option.bind_eq_some_iff.mp h
    have hleft : skipGap false left <:+ cs :=
      (skipGap_suffix false left).trans ((ih.value hitem).trans hgap)
    dsimp only at h
    split at h
    · next heq =>
        obtain ⟨others, hothers⟩ := exists_of_scanned h
        exact (ih.items hothers).trans ((List.suffix_cons _ _).trans (heq ▸ hleft))
    · next heq =>
        cases h
        exact (List.suffix_cons _ _).trans (heq ▸ hleft)
    · cases h

theorem LeavesEnd.entries_succ {fuel room : Nat} (ih : LeavesEnd fuel) {entries result : Entries}
    (h : scanEntries (fuel + 1) room entries cs = some (result, rest)) : rest <:+ cs := by
  have hgap := skipGap_suffix false cs
  unfold scanEntries at h
  split at h
  · next heq =>
      cases h
      exact (List.suffix_cons _ _).trans (heq ▸ hgap)
  · obtain ⟨⟨path, key, named⟩, hkey, h⟩ := Option.bind_eq_some_iff.mp h
    have hnamed : skipGap false named <:+ cs :=
      (skipGap_suffix false named).trans ((suffix_of_scanKeyPath hkey).trans hgap)
    dsimp only at h
    split at h
    · next heq =>
        obtain ⟨⟨value, left⟩, hvalue, h⟩ := Option.bind_eq_some_iff.mp h
        obtain ⟨grown, _, h⟩ := Option.bind_eq_some_iff.mp h
        have hleft : skipGap false left <:+ cs :=
          (skipGap_suffix false left).trans ((ih.value hvalue).trans
            ((skipGap_suffix false _).trans ((List.suffix_cons _ _).trans (heq ▸ hnamed))))
        split at h
        · next heq => exact (ih.entries h).trans ((List.suffix_cons _ _).trans (heq ▸ hleft))
        · next heq =>
            cases h
            exact (List.suffix_cons _ _).trans (heq ▸ hleft)
        · cases h
    · cases h

theorem leavesEnd (fuel : Nat) : LeavesEnd fuel := by
  induction fuel with
  | zero => exact { value := nofun, items := nofun, entries := nofun }
  | succ fuel ih =>
      exact { value := ih.value_succ, items := ih.items_succ, entries := ih.entries_succ }

theorem suffix_of_scanValue {fuel room : Nat} {value : Value}
    (h : scanValue fuel room cs = some (value, rest)) : rest <:+ cs :=
  (leavesEnd fuel).value h

end CratePlan.Toml
