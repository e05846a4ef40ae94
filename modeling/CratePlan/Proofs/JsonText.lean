import CratePlan.Json.Render
import CratePlan.Json.Scan
import CratePlan.Proofs.JsonValue
import Mathlib.Data.List.TakeDrop

/-! Scanning undoes writing. Every part of a written value is scanned back from a text that it starts,
whatever comes after it; only a numeral has to be followed by something that cannot go on with it. -/

namespace CratePlan.Json

/-! ### Strings -/

/-- The piece that an escaped character is scanned as: a code unit if it is a control character
without an escape of its own. -/
def pieceOf (c : Char) : Piece :=
  if c.toNat < 0x20 ∧ c ∉ ['\n', '\r', '\t', '\x08', '\x0c'] then .unit c.toNat else .char c

theorem scanPieces_control {n : Nat} (h : n < 0x20) (cs : List Char) :
    scanPieces ('\\' :: 'u' :: '0' :: '0' :: hexDigit (n / 16) :: hexDigit (n % 16) :: cs) =
      (scanPieces cs).map fun found => (.unit n :: found.1, found.2) := by
  have hunit : ∀ n < 0x20, unitOf '0' '0' (hexDigit (n / 16)) (hexDigit (n % 16)) = some n := by
    decide
  rw [scanPieces, hunit n h]
  cases scanPieces cs <;> rfl

theorem scanPieces_plain {c : Char} (hquote : c ≠ '"') (hslash : c ≠ '\\') (hcontrol : ¬c.toNat < 0x20)
    (cs : List Char) :
    scanPieces (c :: cs) = (scanPieces cs).map fun found => (.char c :: found.1, found.2) := by
  have hgo : ¬(c.toNat < 0x20 ∨ c = '\\') := not_or.mpr ⟨hcontrol, hslash⟩
  rw [scanPieces.eq_def]
  split
  case h_5 heq =>
      cases heq
      rw [if_neg hgo]
      cases scanPieces cs <;> rfl
  all_goals simp_all

theorem scanPieces_escapeChar (c : Char) (cs : List Char) :
    scanPieces (escapeChar c ++ cs) =
      (scanPieces cs).map fun found => (pieceOf c :: found.1, found.2) := by
  unfold escapeChar
  split_ifs with hquote hslash hn hr ht hb hf hcontrol
  iterate 7
    subst_vars
    cases hcs : scanPieces cs <;> simp [scanPieces, shortEscape, pieceOf, hcs]
  · have hpiece : pieceOf c = .unit c.toNat := by
      rw [pieceOf, if_pos]
      simp [*]
    rw [hpiece]
    exact scanPieces_control hcontrol cs
  · have hpiece : pieceOf c = .char c := by
      rw [pieceOf, if_neg]
      simp [hcontrol]
    rw [hpiece, List.singleton_append, scanPieces_plain hquote hslash hcontrol]

theorem scanPieces_escaped (cs rest : List Char) :
    scanPieces (cs.flatMap escapeChar ++ '"' :: rest) = some (cs.map pieceOf, rest) := by
  induction cs with
  | nil => rfl
  | cons c cs ih =>
      rw [List.flatMap_cons, List.append_assoc, scanPieces_escapeChar, ih]
      rfl

theorem joinPieces_unit_cons {n : Nat} (h : n < 0x20) (pieces : List Piece) :
    joinPieces (.unit n :: pieces) = (joinPieces pieces).map (Char.ofNat n :: ·) := by
  have hhigh : isHighHalf n = false := by
    rw [isHighHalf, Bool.and_eq_false_iff, decide_eq_false_iff_not]
    omega
  have hlow : isLowHalf n = false := by
    rw [isLowHalf, Bool.and_eq_false_iff, decide_eq_false_iff_not]
    omega
  cases pieces with
  | nil => simp [joinPieces, hhigh, hlow]
  | cons piece pieces => cases piece <;> simp [joinPieces, hhigh, hlow]

theorem joinPieces_map_pieceOf (cs : List Char) : joinPieces (cs.map pieceOf) = some cs := by
  induction cs with
  | nil => rfl
  | cons c cs ih =>
      rw [List.map_cons, pieceOf]
      split_ifs with hcontrol
      · rw [joinPieces_unit_cons hcontrol.1, ih, Char.ofNat_toNat]
        rfl
      · rw [joinPieces, ih]
        rfl

theorem scanString_escaped (s : String) (rest : List Char) :
    scanString (s.toList.flatMap escapeChar ++ '"' :: rest) = some (some s, rest) := by
  rw [scanString, scanPieces_escaped]
  simp only [Option.bind_eq_bind, Option.bind_some, joinPieces_map_pieceOf, Option.map_some,
    String.ofList_toList]
  rfl

/-! ### Numerals -/

/-- What comes after a numeral and cannot be read as a part of it. -/
def EndsNumeral (rest : List Char) : Prop :=
  ∀ c ∈ rest.head?, c.isDigit = false ∧ c ≠ '.' ∧ c ≠ 'e' ∧ c ≠ 'E'

theorem scanDigits_append {digits rest : List Char} (hdigits : ∀ c ∈ digits, c.isDigit = true)
    (hrest : ∀ c ∈ rest.head?, c.isDigit = false) :
    scanDigits (digits ++ rest) =
      (digits.map fun c => Fin.ofNat 10 (c.toNat - '0'.toNat), rest) := by
  have hspan : (digits ++ rest).span Char.isDigit = (digits, rest) := by
    have hnone : rest.takeWhile Char.isDigit = [] ∧ rest.dropWhile Char.isDigit = rest := by
      cases rest with
      | nil => exact ⟨rfl, rfl⟩
      | cons c rest => simp [hrest c rfl]
    rw [List.span_eq_takeWhile_dropWhile, List.takeWhile_append_of_pos hdigits,
      List.dropWhile_append_of_pos hdigits, hnone.1, hnone.2, List.append_nil]
  rw [scanDigits, hspan]

theorem val_ofNat_digit {c : Char} (h : c.isDigit = true) :
    (Fin.ofNat 10 (c.toNat - '0'.toNat)).val = c.toNat - '0'.toNat := by
  have hhigh := (Char.isDigit_iff_toNat.mp h).2
  have hnine : '9'.toNat = '0'.toNat + 9 := rfl
  rw [Fin.val_ofNat, Nat.mod_eq_of_lt (by omega)]

theorem isDigit_of_mem_natChars (n : Nat) : ∀ c ∈ natChars n, c.isDigit = true :=
  fun _ hc => Nat.isDigit_of_mem_toDigits (by decide) (by decide) hc

theorem natChars_ne_nil (n : Nat) : natChars n ≠ [] :=
  Nat.toDigits_ne_nil

theorem exists_natChars_eq_cons (n : Nat) : ∃ c cs, natChars n = c :: cs ∧ c.isDigit = true := by
  obtain ⟨c, cs, hcs⟩ := List.exists_cons_of_ne_nil (natChars_ne_nil n)
  exact ⟨c, cs, hcs, isDigit_of_mem_natChars n c (hcs ▸ List.mem_cons_self)⟩

theorem digitsValue_natChars (n : Nat) :
    digitsValue ((natChars n).map fun c => Fin.ofNat 10 (c.toNat - '0'.toNat)) = n := by
  have hdigit : ∀ value : Nat, ∀ c ∈ natChars n,
      10 * value + (Fin.ofNat 10 (c.toNat - '0'.toNat)).val = 10 * value + (c.toNat - '0'.toNat) :=
    fun value c hc => by rw [val_ofNat_digit (isDigit_of_mem_natChars n c hc)]
  rw [digitsValue, List.foldl_map, List.foldl_ext _ _ _ hdigit, ← Nat.ofDigitChars_eq_foldl]
  exact Nat.ofDigitChars_ten_toDigits

/-- Only zero is written with a zero in front. -/
theorem natChars_head_ne (n : Nat) (h : n ≠ 0) : ∀ c ∈ (natChars n).head?, c ≠ '0' := by
  induction n using Nat.strongRecOn with
  | ind n ih =>
      rw [natChars, Nat.toDigits_eq_if (by decide)]
      split_ifs with hsmall
      · have hall : ∀ n < 10, n ≠ 0 → n.digitChar ≠ '0' := by decide
        intro c hc
        cases hc
        exact hall n hsmall h
      · rw [List.head?_append_of_ne_nil _ Nat.toDigits_ne_nil]
        exact ih (n / 10) (by omega) (by omega)

theorem scanWhole_natChars (n : Nat) {rest : List Char}
    (hrest : ∀ c ∈ rest.head?, c.isDigit = false) :
    scanWhole (natChars n ++ rest) = some (n, rest) := by
  have hvalue := digitsValue_natChars n
  rw [scanWhole, scanDigits_append (isDigit_of_mem_natChars n) hrest]
  cases hcs : natChars n with
  | nil => exact absurd hcs (natChars_ne_nil n)
  | cons c cs =>
      rw [hcs] at hvalue
      have hzero : ¬(Fin.ofNat 10 (c.toNat - '0'.toNat) = 0 ∧
          (cs.map fun c => Fin.ofNat 10 (c.toNat - '0'.toNat)) ≠ []) := by
        rintro ⟨hc, hmore⟩
        by_cases hn : n = 0
        · subst hn
          have hsingle : natChars 0 = ['0'] := Nat.toDigits_zero 10
          rw [hsingle] at hcs
          cases hcs
          exact hmore rfl
        · have hne := natChars_head_ne n hn c (by rw [hcs]; rfl)
          have hdigit := isDigit_of_mem_natChars n c (hcs ▸ List.mem_cons_self)
          have hval := val_ofNat_digit hdigit
          rw [hc] at hval
          have hlow := (Char.isDigit_iff_toNat.mp hdigit).1
          exact hne (Char.toNat_inj.mp (Nat.le_antisymm (Nat.sub_eq_zero_iff_le.mp hval.symm) hlow))
      simp only [List.map_cons] at hvalue ⊢
      rw [if_neg hzero, hvalue]

theorem scanFraction_digits {digits : List (Fin 10)} (h : digits ≠ []) {rest : List Char}
    (hrest : ∀ c ∈ rest.head?, c.isDigit = false) :
    scanFraction ('.' :: (digits.map digitChar ++ rest)) = some (digits, rest) := by
  have hdigits : ∀ c ∈ digits.map digitChar, c.isDigit = true := by
    intro c hc
    obtain ⟨d, _, rfl⟩ := List.mem_map.mp hc
    have hall : ∀ d : Fin 10, (digitChar d).isDigit = true := by decide
    exact hall d
  have hback : (digits.map digitChar).map (fun c => Fin.ofNat 10 (c.toNat - '0'.toNat)) = digits := by
    have hall : ∀ d : Fin 10, Fin.ofNat 10 ((digitChar d).toNat - '0'.toNat) = d := by decide
    rw [List.map_map]
    exact List.map_id'' hall digits
  rw [scanFraction, scanDigits_append hdigits hrest, hback]
  cases digits with
  | nil => exact absurd rfl h
  | cons d digits => rfl

theorem scanFraction_none {rest : List Char} (h : '.' ∉ rest.head?) :
    scanFraction rest = some ([], rest) := by
  unfold scanFraction
  split
  · exact absurd rfl h
  · rfl

theorem scanExponent_none {rest : List Char} (h : EndsNumeral rest) :
    scanExponent rest = some (none, rest) := by
  cases rest with
  | nil => rfl
  | cons c rest =>
      obtain ⟨_, _, hsmall, hcapital⟩ := h c rfl
      rw [scanExponent, if_neg (not_or.mpr ⟨hsmall, hcapital⟩)]

theorem scanSign_natChars (n : Nat) (rest : List Char) :
    scanSign (natChars n ++ rest) = (false, natChars n ++ rest) := by
  obtain ⟨c, cs, hcs, hdigit⟩ := exists_natChars_eq_cons n
  rw [hcs, List.cons_append]
  unfold scanSign
  split
  · next heq =>
      cases heq
      cases hdigit
  · next heq =>
      cases heq
      cases hdigit
  · rfl

theorem scanExponent_some (e : Int) {rest : List Char}
    (hrest : ∀ c ∈ rest.head?, c.isDigit = false) :
    scanExponent ('e' :: ((if e < 0 then ['-'] else []) ++ natChars e.natAbs) ++ rest) =
      some (some e, rest) := by
  have hdigits := scanDigits_append (isDigit_of_mem_natChars e.natAbs) hrest
  have hvalue := digitsValue_natChars e.natAbs
  have hsign : scanSign ((if e < 0 then ['-'] else []) ++ natChars e.natAbs ++ rest) =
      (decide (e < 0), natChars e.natAbs ++ rest) := by
    split_ifs with hnegative
    · rw [decide_eq_true hnegative]
      rfl
    · rw [decide_eq_false hnegative, List.nil_append, scanSign_natChars]
  cases hcs : (natChars e.natAbs).map fun c => Fin.ofNat 10 (c.toNat - '0'.toNat) with
  | nil => exact absurd (List.map_eq_nil_iff.mp hcs) (natChars_ne_nil _)
  | cons d digits =>
      rw [hcs] at hdigits hvalue
      rw [List.cons_append, scanExponent, if_pos (Or.inl rfl), hsign]
      have hsigned : (if decide (e < 0) = true then -(e.natAbs : Int) else e.natAbs) = e := by
        simp only [decide_eq_true_eq]
        split_ifs <;> omega
      simp only [hdigits, hvalue, hsigned]

/-- The part of a numeral from its point on. -/
def fractionChars (digits : List (Fin 10)) : List Char :=
  if digits.isEmpty then [] else '.' :: digits.map digitChar

/-- The part of a numeral from its exponent on. -/
def exponentChars : Option Int → List Char
  | none => []
  | some e => 'e' :: ((if e < 0 then ['-'] else []) ++ natChars e.natAbs)

theorem numeralChars_eq (n : Numeral) :
    numeralChars n = (if n.negative then ['-'] else []) ++
      (natChars n.whole ++ (fractionChars n.fraction ++ exponentChars n.exponent)) := by
  rw [numeralChars, List.append_assoc, List.append_assoc]
  cases n.exponent <;> rfl

theorem scanExponent_exponentChars (exponent : Option Int) {rest : List Char}
    (hrest : EndsNumeral rest) :
    scanExponent (exponentChars exponent ++ rest) = some (exponent, rest) := by
  cases exponent with
  | none => exact scanExponent_none hrest
  | some e => exact scanExponent_some e fun c hc => (hrest c hc).1

theorem scanFraction_fractionChars (digits : List (Fin 10)) {rest : List Char}
    (hrest : ∀ c ∈ rest.head?, c.isDigit = false ∧ c ≠ '.') :
    scanFraction (fractionChars digits ++ rest) = some (digits, rest) := by
  unfold fractionChars
  split_ifs with hempty
  · rw [List.isEmpty_iff.mp hempty]
    exact scanFraction_none fun hpoint => (hrest '.' hpoint).2 rfl
  · exact scanFraction_digits (fun hnil => hempty (List.isEmpty_iff.mpr hnil))
      fun c hc => (hrest c hc).1

/-- The minus sign of a numeral, and the text after it. -/
def scanMinus (cs : List Char) : Bool × List Char :=
  match cs with
  | '-' :: rest => (true, rest)
  | _ => (false, cs)

theorem scanMinus_natChars (negative : Bool) (n : Nat) (rest : List Char) :
    scanMinus ((if negative then ['-'] else []) ++ (natChars n ++ rest)) =
      (negative, natChars n ++ rest) := by
  cases negative with
  | true => rfl
  | false =>
      obtain ⟨c, cs, hcs, hdigit⟩ := exists_natChars_eq_cons n
      rw [hcs]
      unfold scanMinus
      split
      · next heq =>
          cases heq
          cases hdigit
      · rfl

theorem scanNumeral_of_parts {cs afterSign afterWhole afterFraction rest : List Char} {n : Numeral}
    (hsign : scanMinus cs = (n.negative, afterSign))
    (hwhole : scanWhole afterSign = some (n.whole, afterWhole))
    (hfraction : scanFraction afterWhole = some (n.fraction, afterFraction))
    (hexponent : scanExponent afterFraction = some (n.exponent, rest)) :
    scanNumeral cs = some (n, rest) := by
  unfold scanNumeral
  split
  next negative unsigned heq =>
    change scanMinus cs = (negative, unsigned) at heq
    rw [hsign] at heq
    cases heq
    simp only [Option.bind_eq_bind, hwhole, hfraction, hexponent, Option.bind_some]
    rfl

/-- A numeral is scanned in full where it ends. -/
theorem scanNumeral_numeralChars (n : Numeral) {rest : List Char} (hrest : EndsNumeral rest) :
    scanNumeral (numeralChars n ++ rest) = some (n, rest) := by
  have hexponentHead : ∀ c ∈ (exponentChars n.exponent ++ rest).head?,
      c.isDigit = false ∧ c ≠ '.' := by
    intro c hc
    cases hexponent : n.exponent with
    | none =>
        rw [hexponent] at hc
        exact ⟨(hrest c hc).1, (hrest c hc).2.1⟩
    | some e =>
        rw [hexponent] at hc
        cases hc
        decide
  have hfractionHead : ∀ c ∈ (fractionChars n.fraction ++ (exponentChars n.exponent ++ rest)).head?,
      c.isDigit = false := by
    intro c hc
    unfold fractionChars at hc
    split_ifs at hc
    · exact (hexponentHead c hc).1
    · cases hc
      decide
  rw [numeralChars_eq, List.append_assoc, List.append_assoc, List.append_assoc]
  exact scanNumeral_of_parts (scanMinus_natChars _ _ _) (scanWhole_natChars n.whole hfractionHead)
    (scanFraction_fractionChars n.fraction hexponentHead)
    (scanExponent_exponentChars n.exponent hrest)

end CratePlan.Json
