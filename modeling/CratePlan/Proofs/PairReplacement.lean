import CratePlan.Text.Blank
import Mathlib.Data.List.Chain

/-! Texts in which each occurrence of two characters in a row is replaced. Where the first of them does
not occur, nothing changes; a respelling of all other characters can be done before as well as after;
and what is put between the two parts them for good. -/

namespace CratePlan

namespace Text

variable {a b : Char} {replacement : List Char}

theorem replacePairChars_cons {c : Char} {cs : List Char} (h : ¬(c = a ∧ cs.head? = some b)) :
    replacePairChars a b replacement (c :: cs) = c :: replacePairChars a b replacement cs := by
  cases cs with
  | nil => rfl
  | cons d rest =>
      rw [replacePairChars, if_neg]
      simpa using h

/-- What parts a pair leaves its second character to be looked at again. -/
theorem replacePairChars_pair {m : Char} (hab : a ≠ b) (rest : List Char) :
    replacePairChars a b [a, m, b] (a :: b :: rest) =
      a :: m :: replacePairChars a b [a, m, b] (b :: rest) := by
  rw [replacePairChars, if_pos ⟨rfl, rfl⟩, replacePairChars_cons fun h => hab h.1.symm]
  rfl

theorem replacePairChars_append {front : List Char} (h : a ∉ front) (cs : List Char) :
    replacePairChars a b replacement (front ++ cs) =
      front ++ replacePairChars a b replacement cs := by
  induction front with
  | nil => rfl
  | cons c rest ih =>
      rw [List.mem_cons, not_or] at h
      rw [List.cons_append, replacePairChars_cons fun hc => h.1 hc.1.symm, ih h.2]
      rfl

/-- A character that belongs to no pair parts a text into two that are gone through on their own. -/
theorem replacePairChars_append_cons {m : Char} (hma : m ≠ a) (hmb : m ≠ b) (front cs : List Char) :
    replacePairChars a b replacement (front ++ m :: cs) =
      replacePairChars a b replacement front ++ m :: replacePairChars a b replacement cs := by
  have hback : replacePairChars a b replacement (m :: cs) =
      m :: replacePairChars a b replacement cs :=
    replacePairChars_cons fun h => hma h.1
  fun_induction replacePairChars a b replacement front with
  | case1 => exact hback
  | case2 c =>
      have hpair : ¬(c = a ∧ (m :: cs).head? = some b) := fun h => hmb (Option.some.inj h.2)
      rw [List.singleton_append, replacePairChars_cons hpair, hback]
      rfl
  | case3 c d rest hpair ih =>
      rw [List.append_assoc, ← ih]
      simp [replacePairChars, hpair]
  | case4 c d rest hpair ih =>
      have hnot : ¬(c = a ∧ (d :: rest ++ m :: cs).head? = some b) := fun h =>
        hpair ⟨h.1, Option.some.inj h.2⟩
      rw [List.cons_append, replacePairChars_cons hnot, ih]
      rfl

theorem replacePairChars_of_notMem {cs : List Char} (h : a ∉ cs) :
    replacePairChars a b replacement cs = cs := by
  rw [← List.append_nil cs, replacePairChars_append h]
  rfl

theorem replacePairChars_of_not_infix {cs : List Char} (h : ¬[a, b] <:+: cs) :
    replacePairChars a b replacement cs = cs := by
  induction cs with
  | nil => rfl
  | cons c rest ih =>
      have hpair : ¬(c = a ∧ rest.head? = some b) := by
        rintro ⟨rfl, hhead⟩
        obtain ⟨after, rfl⟩ := List.head?_eq_some_iff.mp hhead
        exact h ⟨[], after, rfl⟩
      have hrest : ¬[a, b] <:+: rest := fun hinfix => h (List.infix_cons hinfix)
      rw [replacePairChars_cons hpair, ih hrest]

/-- A respelling of characters that leaves one of them alone, and writes it for no other. -/
structure Spares (respell : Char → List Char) (c : Char) : Prop where
  self : respell c = [c]
  others : ∀ d, d ≠ c → c ∉ respell d

/-- Replacing a pair commutes with a respelling that spares both of its characters. -/
theorem replacePairChars_flatMap {respell : Char → List Char} (ha : Spares respell a)
    (hb : Spares respell b) (hne : ∀ c, respell c ≠ [])
    (hreplacement : replacement.flatMap respell = replacement) (cs : List Char) :
    replacePairChars a b replacement (cs.flatMap respell) =
      (replacePairChars a b replacement cs).flatMap respell := by
  fun_induction replacePairChars a b replacement cs with
  | case1 => rfl
  | case2 c =>
      by_cases hc : c = a
      · simp [hc, ha.self, replacePairChars]
      · rw [List.flatMap_singleton, replacePairChars_of_notMem (ha.others c hc)]
  | case3 c d rest hpair ih =>
      obtain ⟨rfl, rfl⟩ := hpair
      rw [List.flatMap_append, hreplacement, ← ih]
      simp [ha.self, hb.self, replacePairChars]
  | case4 c d rest hpair ih =>
      have hrest : (c :: replacePairChars a b replacement (d :: rest)).flatMap respell =
          respell c ++ replacePairChars a b replacement ((d :: rest).flatMap respell) := by
        rw [List.flatMap_cons, ih]
      rw [hrest, List.flatMap_cons]
      by_cases hc : c = a
      · -- what follows is respelled to something that does not start with `b` either
        have hhead : ((d :: rest).flatMap respell).head? ≠ some b := by
          obtain ⟨x, xs, hx⟩ := List.exists_cons_of_ne_nil (hne d)
          rw [List.flatMap_cons, hx, List.cons_append, List.head?_cons]
          rintro ⟨⟩
          refine hpair ⟨hc, by_contra fun hd => hb.others d hd ?_⟩
          rw [hx]
          exact List.mem_cons_self
        rw [hc, ha.self, List.singleton_append, replacePairChars_cons fun h => hhead h.2]
        rfl
      · exact replacePairChars_append (ha.others c hc) _

/-- Replacing a pair commutes with a map that takes nothing else to its characters. -/
theorem replacePairChars_map {f : Char → Char} (ha : ∀ c, f c = a ↔ c = a)
    (hb : ∀ c, f c = b ↔ c = b) (hreplacement : replacement.map f = replacement) (cs : List Char) :
    replacePairChars a b replacement (cs.map f) = (replacePairChars a b replacement cs).map f := by
  have hspares : ∀ x, (∀ c, f c = x ↔ c = x) → Spares (fun c => [f c]) x := by
    refine fun x hx => ⟨by rw [(hx x).mpr rfl], fun c hc hmem => hc ?_⟩
    exact (hx c).mp (List.mem_singleton.mp hmem).symm
  rw [List.map_eq_flatMap] at hreplacement
  rw [List.map_eq_flatMap, List.map_eq_flatMap]
  exact replacePairChars_flatMap (hspares a ha) (hspares b hb) (fun c => List.cons_ne_nil _ _)
    hreplacement cs

theorem head?_replacePairChars {m : Char} (cs : List Char) :
    (replacePairChars a b (a :: m :: replacement) cs).head? = cs.head? := by
  fun_cases replacePairChars a b (a :: m :: replacement) cs with
  | case1 => rfl
  | case2 => rfl
  | case3 c d rest hpair => rw [hpair.1]; rfl
  | case4 => rfl

/-- Neighbours that fit together, but for a pair, all fit once the pair has been parted. -/
theorem isChain_replacePairChars {fits : Char → Char → Prop} {m : Char} (hab : a ≠ b)
    (ham : fits a m) (hmb : fits m b) {cs : List Char}
    (h : cs.IsChain fun c d => fits c d ∨ (c = a ∧ d = b)) :
    (replacePairChars a b [a, m, b] cs).IsChain fits := by
  fun_induction replacePairChars a b [a, m, b] cs with
  | case1 => exact .nil
  | case2 => exact .singleton _
  | case3 c d rest hpair ih =>
      obtain ⟨rfl, rfl⟩ := hpair
      rw [List.isChain_cons_cons, List.isChain_cons] at h
      have hfollows : ∀ x ∈ rest.head?, fits d x := fun x hx =>
        (h.2.1 x hx).resolve_right fun heq => hab heq.1.symm
      refine .cons_cons ham (.cons_cons hmb (List.isChain_cons.mpr ⟨?_, ih h.2.2⟩))
      exact (head?_replacePairChars rest).symm ▸ hfollows
  | case4 c d rest hpair ih =>
      rw [List.isChain_cons_cons] at h
      refine List.isChain_cons.mpr ⟨?_, ih h.2⟩
      rw [head?_replacePairChars]
      rintro x ⟨⟩
      exact h.1.resolve_right hpair

end Text

end CratePlan
