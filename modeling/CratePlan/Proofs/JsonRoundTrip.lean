import CratePlan.Proofs.JsonText

/-! The text of a proper value is scanned as that value. The scanner takes three steps for each character
of its text and a few more. That is enough, since it takes no more than three between two characters: to
the next item or member of a container, into it, and on to its value. -/

namespace CratePlan.Json

theorem skipGap_cons {c : Char} (h : isGap c = false) (cs : List Char) :
    skipGap (c :: cs) = c :: cs := by
  rw [skipGap, List.dropWhile_cons_of_neg (by rw [h]; exact Bool.false_ne_true)]

/-- What a numeral starts with: a digit or a minus sign. -/
def StartsNumeral (c : Char) : Prop :=
  c.isDigit = true ∨ c = '-'

theorem StartsNumeral.ne {c d : Char} (h : StartsNumeral c) (hdigit : d.isDigit = false)
    (hminus : d ≠ '-') : c ≠ d := by
  rintro rfl
  rcases h with h | h
  · rw [hdigit] at h
    cases h
  · exact hminus h

theorem StartsNumeral.isGap {c : Char} (h : StartsNumeral c) : isGap c = false := by
  have hspace := h.ne (d := ' ') (by decide) (by decide)
  have hline := h.ne (d := '\n') (by decide) (by decide)
  have htab := h.ne (d := '\t') (by decide) (by decide)
  have hreturn := h.ne (d := '\r') (by decide) (by decide)
  simp [Json.isGap, hspace, hline, htab, hreturn]

theorem exists_numeralChars_eq_cons (n : Numeral) :
    ∃ c cs, numeralChars n = c :: cs ∧ StartsNumeral c := by
  rw [numeralChars_eq]
  cases n.negative with
  | true => exact ⟨'-', _, rfl, Or.inr rfl⟩
  | false =>
      obtain ⟨c, cs, hcs, hdigit⟩ := exists_natChars_eq_cons n.whole
      rw [hcs]
      exact ⟨c, _, rfl, Or.inl hdigit⟩

theorem scanScalar_numeralChars (n : Numeral) {rest : List Char} (hrest : EndsNumeral rest) :
    scanScalar (numeralChars n ++ rest) = (.number n, rest) := by
  obtain ⟨c, cs, hcs, hc⟩ := exists_numeralChars_eq_cons n
  have hscan := scanNumeral_numeralChars n hrest
  rw [hcs, List.cons_append] at hscan ⊢
  unfold scanScalar
  split
  · next heq => exact absurd (List.cons.inj heq).1 (hc.ne (by decide) (by decide))
  · next heq => exact absurd (List.cons.inj heq).1 (hc.ne (by decide) (by decide))
  · next heq => exact absurd (List.cons.inj heq).1 (hc.ne (by decide) (by decide))
  · rw [hscan]

theorem scanValue_numeralChars (n : Numeral) {rest : List Char} (hrest : EndsNumeral rest)
    (fuel : Nat) : scanValue (fuel + 1) (numeralChars n ++ rest) = (.number n, rest) := by
  obtain ⟨c, cs, hcs, hc⟩ := exists_numeralChars_eq_cons n
  have hscan := scanScalar_numeralChars n hrest
  rw [hcs, List.cons_append] at hscan ⊢
  rw [scanValue, skipGap_cons hc.isGap]
  split
  · next heq => exact absurd (List.cons.inj heq).1 (hc.ne (by decide) (by decide))
  · next heq => exact absurd (List.cons.inj heq).1 (hc.ne (by decide) (by decide))
  · next heq => exact absurd (List.cons.inj heq).1 (hc.ne (by decide) (by decide))
  · exact hscan

theorem quoteChars_append (s : String) (rest : List Char) :
    quoteChars s ++ rest = '"' :: (s.toList.flatMap escapeChar ++ '"' :: rest) := by
  rw [quoteChars, List.cons_append, List.append_assoc]
  rfl

theorem scanValue_quoteChars (s : String) (rest : List Char) (fuel : Nat) :
    scanValue (fuel + 1) (quoteChars s ++ rest) = (.string s, rest) := by
  have hgap : isGap '"' = false := by decide
  rw [quoteChars_append, scanValue, skipGap_cons hgap]
  simp only [scanText, scanString_escaped]

/-- A written value starts with a character that neither is a gap nor ends a list. -/
theorem exists_compactChars_eq_cons : ∀ {value : Json}, value.isProper = true →
    ∃ c cs, compactChars value = c :: cs ∧ isGap c = false ∧ c ≠ ']'
  | .null, _ => ⟨'n', _, rfl, by decide⟩
  | .bool true, _ => ⟨'t', _, rfl, by decide⟩
  | .bool false, _ => ⟨'f', _, rfl, by decide⟩
  | .number n, _ => by
      obtain ⟨c, cs, hcs, hc⟩ := exists_numeralChars_eq_cons n
      exact ⟨c, cs, hcs, hc.isGap, hc.ne (by decide) (by decide)⟩
  | .string _, _ => ⟨'"', _, rfl, by decide⟩
  | .list _, _ => ⟨'[', _, by rw [compactChars], by decide⟩
  | .object _, _ => ⟨'\x7b', _, by rw [compactChars], by decide⟩

theorem endsNumeral_cons {c : Char} (h : c.isDigit = false ∧ c ≠ '.' ∧ c ≠ 'e' ∧ c ≠ 'E')
    (cs : List Char) : EndsNumeral (c :: cs) := by
  rintro d hd
  cases hd
  exact h

theorem scanItems_end (fuel : Nat) (first : Bool) (rest : List Char) :
    scanItems (fuel + 1) first (']' :: rest) = ([], rest) := by
  have hgap : isGap ']' = false := by decide
  unfold scanItems
  simp only [skipGap_cons hgap]

theorem scanItems_comma (fuel : Nat) (rest : List Char) :
    scanItems (fuel + 1) false (',' :: rest) = scanItem fuel rest := by
  have hgap : isGap ',' = false := by decide
  unfold scanItems
  simp only [skipGap_cons hgap]

theorem scanItems_first {c : Char} (hgap : isGap c = false) (hend : c ≠ ']') (fuel : Nat)
    (cs : List Char) : scanItems (fuel + 1) true (c :: cs) = scanItem fuel (c :: cs) := by
  unfold scanItems
  simp only [skipGap_cons hgap]
  split
  · next heq => exact absurd (List.cons.inj heq).1 hend
  · next hfirst => cases hfirst
  · rfl
  · next hfirst _ _ => cases hfirst

theorem scanMembers_end (fuel : Nat) (first : Bool) (rest : List Char) :
    scanMembers (fuel + 1) first ('\x7d' :: rest) = ([], rest) := by
  have hgap : isGap '\x7d' = false := by decide
  unfold scanMembers
  simp only [skipGap_cons hgap]

theorem scanMembers_comma (fuel : Nat) (s : String) (rest : List Char) :
    scanMembers (fuel + 1) false (',' :: (quoteChars s ++ rest)) =
      scanMember fuel (quoteChars s ++ rest) := by
  have hgap : isGap ',' = false := by decide
  have hquote : isGap '"' = false := by decide
  unfold scanMembers
  simp only [skipGap_cons hgap, quoteChars_append, skipGap_cons hquote]

theorem scanMembers_first (fuel : Nat) (s : String) (rest : List Char) :
    scanMembers (fuel + 1) true (quoteChars s ++ rest) = scanMember fuel (quoteChars s ++ rest) := by
  have hquote : isGap '"' = false := by decide
  unfold scanMembers
  rw [quoteChars_append, skipGap_cons hquote]
  rfl

theorem scanValue_list (fuel : Nat) (cs : List Char) :
    scanValue (fuel + 1) ('[' :: cs) =
      (.list (scanItems fuel true cs).1, (scanItems fuel true cs).2) := by
  have hgap : isGap '[' = false := by decide
  rw [scanValue, skipGap_cons hgap]
  rfl

theorem scanValue_object (fuel : Nat) (cs : List Char) :
    scanValue (fuel + 1) ('\x7b' :: cs) =
      (.object (scanMembers fuel true cs).1, (scanMembers fuel true cs).2) := by
  have hgap : isGap '\x7b' = false := by decide
  rw [scanValue, skipGap_cons hgap]
  rfl

theorem scanItem_eq {fuel : Nat} {cs afterItem rest : List Char} {item : Json} {items : List Json}
    (hitem : scanValue fuel cs = (item, afterItem))
    (hitems : scanItems fuel false afterItem = (items, rest)) :
    scanItem (fuel + 1) cs = (item :: items, rest) := by
  rw [scanItem, hitem]
  simp only [hitems]

theorem scanMember_eq {fuel : Nat} {name : String} {cs afterValue rest : List Char} {value : Json}
    {members : List (Key × Json)} (hvalue : scanValue fuel cs = (value, afterValue))
    (hmembers : scanMembers fuel false afterValue = (members, rest)) :
    scanMember (fuel + 1) (quoteChars name ++ ':' :: cs) =
      ((.text name, value) :: members, rest) := by
  have hgap : isGap ':' = false := by decide
  rw [quoteChars_append, scanMember, scanString_escaped]
  simp only [skipGap_cons hgap, Option.elim_some, hvalue, hmembers]

theorem exists_compactItems_eq_cons {item : Json} (h : item.isProper = true) (items : List Json) :
    ∃ c cs, compactItems (item :: items) = c :: cs ∧ isGap c = false ∧ c ≠ ']' := by
  obtain ⟨c, cs, hcs, hc⟩ := exists_compactChars_eq_cons h
  cases items with
  | nil => exact ⟨c, cs, by rw [compactItems, hcs], hc⟩
  | cons next items => exact ⟨c, _, by rw [compactItems, hcs, List.cons_append], hc⟩

theorem exists_compactMembers_eq_append (name : String) (value : Json)
    (members : List (Key × Json)) :
    ∃ cs, compactMembers ((.text name, value) :: members) = quoteChars name ++ ':' :: cs := by
  cases members with
  | nil => exact ⟨_, by rw [compactMembers, keyChars]⟩
  | cons next members => exact ⟨_, by rw [compactMembers, keyChars]⟩

theorem endsNumeral_comma (cs : List Char) : EndsNumeral (',' :: cs) :=
  endsNumeral_cons (by decide) cs

theorem endsNumeral_bracket (cs : List Char) : EndsNumeral (']' :: cs) :=
  endsNumeral_cons (by decide) cs

theorem endsNumeral_brace (cs : List Char) : EndsNumeral ('\x7d' :: cs) :=
  endsNumeral_cons (by decide) cs

mutual

theorem scanValue_compactChars : ∀ (fuel : Nat) {value : Json} {rest : List Char},
    value.isProper = true → EndsNumeral rest → 3 * (compactChars value ++ rest).length + 3 ≤ fuel →
      scanValue fuel (compactChars value ++ rest) = (value, rest)
  | 0, _, _, _, _, hfuel => absurd hfuel (by omega)
  | _ + 1, .null, _, _, _, _ => rfl
  | _ + 1, .bool true, _, _, _, _ => rfl
  | _ + 1, .bool false, _, _, _, _ => rfl
  | fuel + 1, .number n, _, _, hrest, _ => scanValue_numeralChars n hrest fuel
  | fuel + 1, .string s, rest, _, _, _ => scanValue_quoteChars s rest fuel
  | fuel + 1, .list items, rest, h, _, hfuel => by
      rw [compactChars, List.cons_append, List.append_assoc, List.singleton_append] at hfuel ⊢
      rw [List.length_cons] at hfuel
      rw [scanValue_list, scanItems_compactItems fuel h (by omega)]
  | fuel + 1, .object members, rest, h, _, hfuel => by
      rw [compactChars, List.cons_append, List.append_assoc, List.singleton_append] at hfuel ⊢
      rw [List.length_cons] at hfuel
      rw [scanValue_object, scanMembers_compactMembers fuel h (by omega)]

theorem scanItems_compactItems : ∀ (fuel : Nat) {items : List Json} {rest : List Char},
    allProper items = true → 3 * (compactItems items ++ ']' :: rest).length + 5 ≤ fuel →
      scanItems fuel true (compactItems items ++ ']' :: rest) = (items, rest)
  | 0, _, _, _, hfuel => absurd hfuel (by omega)
  | fuel + 1, [], rest, _, _ => by
      rw [compactItems]
      exact scanItems_end fuel true rest
  | fuel + 1, item :: items, rest, h, hfuel => by
      have hscan := scanItem_compactItems fuel rest h (by omega)
      rw [allProper, Bool.and_eq_true] at h
      obtain ⟨c, cs, hcs, hgap, hend⟩ := exists_compactItems_eq_cons h.1 items
      rw [hcs, List.cons_append] at hscan ⊢
      rw [scanItems_first hgap hend, hscan]

theorem scanItem_compactItems : ∀ (fuel : Nat) {item : Json} {items : List Json} (rest : List Char),
    allProper (item :: items) = true →
      3 * (compactItems (item :: items) ++ ']' :: rest).length + 4 ≤ fuel →
        scanItem fuel (compactItems (item :: items) ++ ']' :: rest) = (item :: items, rest)
  | 0, _, _, _, _, hfuel | 1, _, _, _, _, hfuel => absurd hfuel (by omega)
  | fuel + 2, item, [], rest, h, hfuel => by
      rw [allProper, Bool.and_eq_true] at h
      rw [compactItems] at hfuel ⊢
      exact scanItem_eq (scanValue_compactChars (fuel + 1) h.1 (endsNumeral_bracket rest) (by omega))
        (scanItems_end fuel false rest)
  | fuel + 2, item, next :: items, rest, h, hfuel => by
      rw [allProper, Bool.and_eq_true] at h
      rw [compactItems, List.append_assoc, List.cons_append] at hfuel ⊢
      refine scanItem_eq
        (scanValue_compactChars (fuel + 1) h.1 (endsNumeral_comma _) (by omega)) ?_
      rw [List.length_append, List.length_cons] at hfuel
      rw [scanItems_comma, scanItem_compactItems fuel rest h.2 (by omega)]

theorem scanMembers_compactMembers : ∀ (fuel : Nat) {members : List (Key × Json)} {rest : List Char},
    allMembersProper members = true →
      3 * (compactMembers members ++ '\x7d' :: rest).length + 5 ≤ fuel →
        scanMembers fuel true (compactMembers members ++ '\x7d' :: rest) = (members, rest)
  | 0, _, _, _, hfuel => absurd hfuel (by omega)
  | fuel + 1, [], rest, _, _ => by
      rw [compactMembers]
      exact scanMembers_end fuel true rest
  | fuel + 1, (.text name, value) :: members, rest, h, hfuel => by
      have hscan := scanMember_compactMembers fuel rest h (by omega)
      obtain ⟨cs, hcs⟩ := exists_compactMembers_eq_append name value members
      rw [hcs, List.append_assoc] at hscan ⊢
      rw [scanMembers_first, hscan]

theorem scanMember_compactMembers : ∀ (fuel : Nat) {name : String} {value : Json}
    {members : List (Key × Json)} (rest : List Char),
    allMembersProper ((.text name, value) :: members) = true →
      3 * (compactMembers ((.text name, value) :: members) ++ '\x7d' :: rest).length + 4 ≤ fuel →
        scanMember fuel (compactMembers ((.text name, value) :: members) ++ '\x7d' :: rest) =
          ((.text name, value) :: members, rest)
  | 0, _, _, _, _, _, hfuel | 1, _, _, _, _, _, hfuel => absurd hfuel (by omega)
  | fuel + 2, name, value, [], rest, h, hfuel => by
      rw [allMembersProper, Bool.and_eq_true] at h
      rw [compactMembers, keyChars, List.append_assoc, List.cons_append] at hfuel ⊢
      rw [List.length_append, List.length_cons] at hfuel
      exact scanMember_eq (scanValue_compactChars (fuel + 1) h.1 (endsNumeral_brace rest) (by omega))
        (scanMembers_end fuel false rest)
  | fuel + 2, name, value, (.text nextName, nextValue) :: members, rest, h, hfuel => by
      rw [allMembersProper, Bool.and_eq_true] at h
      rw [compactMembers, keyChars, List.append_assoc, List.cons_append, List.append_assoc,
        List.cons_append] at hfuel ⊢
      rw [List.length_append, List.length_cons] at hfuel
      refine scanMember_eq
        (scanValue_compactChars (fuel + 1) h.1 (endsNumeral_comma _) (by omega)) ?_
      rw [List.length_append, List.length_cons] at hfuel
      have hscan := scanMember_compactMembers fuel rest h.2 (by omega)
      obtain ⟨cs, hcs⟩ := exists_compactMembers_eq_append nextName nextValue members
      rw [hcs, List.append_assoc] at hscan ⊢
      rw [scanMembers_comma, hscan]
  | _ + 2, _, _, (.unpaired, _) :: _, _, h, _ => by simp [allMembersProper] at h
  | _ + 2, _, _, (.stray, _) :: _, _, h, _ => by simp [allMembersProper] at h

end

theorem endsNumeral_nil : EndsNumeral [] :=
  fun _ hc => nomatch hc

/-- The text of a proper value holds that value and nothing else. -/
theorem scan_compact {value : Json} (h : value.isProper = true) :
    scan value.compact = (value, true) := by
  have hscan := scanValue_compactChars (3 * (compactChars value).length + 3) h endsNumeral_nil
    (Nat.le_of_eq (by rw [List.append_nil]))
  rw [List.append_nil] at hscan
  rw [scan, compact, String.toList_ofList]
  simp only [hscan]
  rfl

end CratePlan.Json
