import CratePlan.Proofs.CaseConversion
import Mathlib.Data.List.Flatten
import Mathlib.Data.List.Perm.Basic

/-! Snake case by positions. Whether a word starts at a position is told by the character there, the one
before it and the two after it; the second pass sees underscores of the first one, but none that changes
the answer. So snake case lowers one character after the other and puts one underscore where a word
starts: it keeps all characters in their order, and has nothing left to do on what it gave. -/

namespace CratePlan.Identifier

open Text

/-- The character at a position, if there is one, belongs to a class. -/
def hasAt (w : List Char) (i : Nat) (p : Char → Bool) : Bool :=
  w[i]?.any p

/-- Whether a word starts at a position: a capital stands there, and before it a small letter or a digit,
or else a capital, if two small letters follow. The first position starts no word. -/
def startsWordAt (w : List Char) : Nat → Bool
  | 0 => false
  | i + 1 =>
    hasAt w (i + 1) Char.isUpper &&
      (hasAt w i (fun c => c.isLower || c.isDigit) ||
        hasAt w i Char.isUpper && hasAt w (i + 2) Char.isLower && hasAt w (i + 3) Char.isLower)

/-- The number of positions at which words start. -/
def wordStarts (w : List Char) : Nat :=
  (List.range w.length).countP (startsWordAt w)

/-- The underscore before a position at which a word starts. -/
def markAt (w : List Char) (i : Nat) : List Char :=
  if startsWordAt w i then ['_'] else []

theorem hasAt_zero (c : Char) (rest : List Char) (p : Char → Bool) :
    hasAt (c :: rest) 0 p = p c :=
  rfl

theorem hasAt_succ (c : Char) (rest : List Char) (i : Nat) (p : Char → Bool) :
    hasAt (c :: rest) (i + 1) p = hasAt rest i p :=
  rfl

theorem hasAt_append (front cs : List Char) (i : Nat) (p : Char → Bool) :
    hasAt (front ++ cs) (front.length + i) p = hasAt cs i p := by
  rw [hasAt, List.getElem?_append_right (Nat.le_add_right _ _), Nat.add_sub_cancel_left, hasAt]

theorem startsWithTwoSmall_eq (rest : List Char) :
    startsWithTwoSmall rest = (hasAt rest 0 Char.isLower && hasAt rest 1 Char.isLower) := by
  rcases rest with _ | ⟨c, _ | ⟨d, rest⟩⟩
  · rfl
  · exact (Bool.and_false _).symm
  · rfl

/-- Where a word starts can be told from what stands around it. -/
theorem startsWord_eq_startsWordAt (front : List Char) (c : Char) (rest : List Char) :
    startsWord front.getLast? c rest = startsWordAt (front ++ c :: rest) front.length := by
  rcases List.eq_nil_or_concat front with rfl | ⟨init, b, hfront⟩
  · exact Bool.and_false _
  · obtain rfl : front = init ++ [b] := hfront.trans List.concat_eq_append
    have hfirst (p : Char → Bool) : hasAt (init ++ b :: c :: rest) init.length p = p b :=
      hasAt_append init (b :: c :: rest) 0 p
    rw [List.getLast?_concat, List.length_append, List.length_singleton, List.append_assoc,
      List.singleton_append, startsWord, startsWithTwoSmall_eq, startsWordAt, hfirst, hfirst,
      hasAt_append, hasAt_append, hasAt_append]
    simp only [hasAt_succ, hasAt_zero, Option.any_some, Bool.and_assoc]

/-- Snake case of a text goes through its positions one after the other. -/
theorem snakePass_eq_flatMap (front cs : List Char) :
    snakePass front.getLast? cs =
      (cs.zipIdx front.length).flatMap fun (c, i) => markAt (front ++ cs) i ++ snakeChar c := by
  induction cs generalizing front with
  | nil => rfl
  | cons c rest ih =>
      have hrest := ih (front ++ [c])
      rw [List.getLast?_concat, List.length_append, List.length_singleton, List.append_assoc,
        List.singleton_append] at hrest
      rw [snakePass, hrest, List.zipIdx_cons, List.flatMap_cons, startsWord_eq_startsWordAt]
      rfl

/-! ### What is kept -/

theorem flatMap_zipIdx_snakeChar (w : List Char) :
    (w.zipIdx.flatMap fun (c, _) => snakeChar c) = w.flatMap snakeChar := by
  calc (w.zipIdx.flatMap fun (c, _) => snakeChar c)
      = (w.zipIdx.map Prod.fst).flatMap snakeChar := by rw [List.flatMap_map]
    _ = w.flatMap snakeChar := by rw [List.zipIdx_map_fst]

theorem flatMap_zipIdx_markAt (w : List Char) :
    (w.zipIdx.flatMap fun (_, i) => markAt w i) = List.replicate (wordStarts w) '_' := by
  have hmarks (positions : List Nat) : positions.flatMap (markAt w) =
      List.replicate (positions.countP (startsWordAt w)) '_' := by
    induction positions with
    | nil => rfl
    | cons i rest ih =>
        rw [List.flatMap_cons, ih, markAt, List.countP_cons]
        split_ifs <;> rfl
  calc (w.zipIdx.flatMap fun (_, i) => markAt w i)
      = (w.zipIdx.map Prod.snd).flatMap (markAt w) := by rw [List.flatMap_map]
    _ = (List.range w.length).flatMap (markAt w) := by
      rw [List.zipIdx_map_snd, List.range_eq_range']
    _ = List.replicate (wordStarts w) '_' := hmarks _

/-! ### The text that is read -/

theorem toList_replaceChar_dot (s : String) :
    (replaceChar '.' "/" s).toList = s.toList.map fun c => if c = '.' then '/' else c := by
  rw [replaceChar, String.toList_ofList, List.map_eq_flatMap]
  refine List.flatMap_congr fun c _ => ?_
  split_ifs <;> rfl

theorem toList_replaceChar_snakeSource (s : String) :
    (replaceChar '$' "__" (replaceChar '.' "/" s)).toList = snakeSource s.toList := by
  rw [replaceChar, String.toList_ofList, toList_replaceChar_dot]
  rfl

/-- A character that snake case leaves alone, be it in the text that is given or in the one that is
read. -/
structure IsSettled (c : Char) : Prop extends IsSnake c where
  ne_dot : c ≠ '.'
  ne_dollar : c ≠ '$'

theorem snakeCase_of_settled {s : String} (h : ∀ c ∈ s.toList, IsSettled c) : snakeCase s = s := by
  have hsource : snakeSource s.toList = s.toList :=
    snakeSource_of_notMem (fun hdot => (h '.' hdot).ne_dot rfl)
      fun hdollar => (h '$' hdollar).ne_dollar rfl
  rw [← String.toList_inj, snakeCase, String.toList_ofList, snakeChars_eq_snakePass, hsource,
    snakePass_of_isSnake fun c hc => (h c hc).toIsSnake]

/-- No dot and no dollar sign is left to be read. -/
theorem forall_mem_snakeSource {cs : List Char} (h : ∀ c ∈ cs, c.toNat < 128) :
    ∀ d ∈ snakeSource cs, d.toNat < 128 ∧ d ≠ '.' ∧ d ≠ '$' := by
  intro d hd
  obtain ⟨b, hb, hd⟩ := List.mem_flatMap.mp hd
  obtain ⟨c, hc, rfl⟩ := List.mem_map.mp hb
  by_cases hdot : c = '.'
  · obtain rfl : d = '/' := by simpa [hdot] using hd
    decide
  · by_cases hdollar : c = '$'
    · obtain rfl : d = '_' := by simpa [hdollar] using hd
      decide
    · obtain rfl : d = c := by simpa [hdot, hdollar] using hd
      exact ⟨h d hc, hdot, hdollar⟩

theorem snakeChar_of_ascii {c : Char} (h : c.toNat < 128) :
    snakeChar c = [if c = '-' ∨ c = ' ' then '_' else c.toLower] := by
  rw [snakeChar, lowerChar, if_pos h]
  split_ifs <;> rfl

/-- Lowering an ASCII character settles it. -/
theorem isSettled_of_mem_snakeChar {c d : Char} (hascii : c.toNat < 128) (hdot : c ≠ '.')
    (hdollar : c ≠ '$') (hd : d ∈ snakeChar c) : IsSettled d := by
  rw [snakeChar_of_ascii hascii, List.mem_singleton] at hd
  split_ifs at hd with hseparator
  · exact hd ▸ ⟨isSnake_underscore, by decide, by decide⟩
  · obtain ⟨hitself, hcapital, hdotted, hsigned⟩ := of_ascii (p := fun c =>
      (c = '-' ∨ c = ' ' ∨ snakeChar c.toLower = [c.toLower]) ∧ c.toLower.isUpper = false ∧
        (c.toLower = '.' → c = '.') ∧ (c.toLower = '$' → c = '$')) (by decide) hascii
    rw [← or_assoc, or_iff_right hseparator] at hitself
    rw [hd]
    exact ⟨⟨hcapital, hitself⟩, fun h => hdot (hdotted h), fun h => hdollar (hsigned h)⟩

/-- On ASCII texts snake case has nothing left to do after it was taken once. -/
theorem snakeCase_snakeCase {s : String} (h : ∀ c ∈ s.toList, c.toNat < 128) :
    snakeCase (snakeCase s) = snakeCase s := by
  refine snakeCase_of_settled ?_
  rw [snakeCase, String.toList_ofList, snakeChars_eq_snakePass]
  refine forall_mem_snakePass ⟨isSnake_underscore, by decide, by decide⟩ fun c hc d hd => ?_
  obtain ⟨hascii, hdot, hdollar⟩ := forall_mem_snakeSource h c hc
  exact isSettled_of_mem_snakeChar hascii hdot hdollar hd

/-- On ASCII texts, taking snake case again changes nothing. Any text it reads once, after dots became
slashes and dollar signs two underscores: wherever a word starts it writes one underscore, and then the
character that stands there, lowered. So all characters stay, in their order, and what is added is one
underscore for each start of a word. -/
theorem snakeCase_is_one_pass (s : String) :
    ((∀ c ∈ s.toList, c.toNat < 128) → snakeCase (snakeCase s) = snakeCase s) ∧
    let w := (replaceChar '$' "__" (replaceChar '.' "/" s)).toList
    ((snakeCase s).toList = w.zipIdx.flatMap fun (c, i) =>
      (if startsWordAt w i then ['_'] else []) ++
        if c = '-' ∨ c = ' ' then ['_'] else lowerChar c) ∧
    (w.flatMap snakeChar).Sublist (snakeCase s).toList ∧
    (snakeCase s).toList.Perm (List.replicate (wordStarts w) '_' ++ w.flatMap snakeChar) := by
  refine ⟨snakeCase_snakeCase, ?_⟩
  intro w
  have hw : snakeSource s.toList = w := (toList_replaceChar_snakeSource s).symm
  clear_value w
  have hpass : (snakeCase s).toList = w.zipIdx.flatMap fun (c, i) => markAt w i ++ snakeChar c := by
    rw [snakeCase, String.toList_ofList, snakeChars_eq_snakePass, hw]
    exact snakePass_eq_flatMap [] w
  have hkept : (w.flatMap snakeChar).Sublist (snakeCase s).toList := by
    rw [hpass, ← flatMap_zipIdx_snakeChar]
    exact List.Sublist.flatMap_right _ fun _ _ => List.sublist_append_right _ _
  have hrest : (snakeCase s).toList.Perm
      (List.replicate (wordStarts w) '_' ++ w.flatMap snakeChar) := by
    rw [hpass, ← flatMap_zipIdx_markAt, ← flatMap_zipIdx_snakeChar]
    exact (List.flatMap_append_perm _ _ _).symm
  exact ⟨hpass, hkept, hrest⟩

/-- An acronym that runs into a word, a version number and both characters that are replaced. -/
theorem snakeCase_is_one_pass_of_acronym :
    (∀ c ∈ "HTTPServer.v2Api$id".toList, c.toNat < 128) ∧
      snakeCase "HTTPServer.v2Api$id" = "http_server/v2_api__id" ∧
      snakeCase (snakeCase "HTTPServer.v2Api$id") = snakeCase "HTTPServer.v2Api$id" :=
  have hascii : ∀ c ∈ "HTTPServer.v2Api$id".toList, c.toNat < 128 := by simp
  ⟨hascii, by decide, (snakeCase_is_one_pass "HTTPServer.v2Api$id").1 hascii⟩

end CratePlan.Identifier
