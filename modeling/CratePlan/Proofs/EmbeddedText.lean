import CratePlan.Naming.Literal
import CratePlan.Proofs.PairReplacement

/-! Text that is safe to embed in generated code. Four passes make it so: line ends are flattened,
backslashes and double quotes are escaped, and both comment delimiters are broken up. The last two
passes work on what the others wrote, but neither meets a star or a slash there that was not in the
text, so they could as well have come first: between the quotes of a literal stands the text itself,
flattened and without delimiters. -/

namespace CratePlan

namespace Literal

open Text

/-! ### What stands between the quotes of a literal -/

/-- What the text between the quotes of a string literal stands for, where the only escapes are those
of a backslash and of a double quote. Nothing is read where a double quote stands without a backslash,
which would end the literal, nor where a backslash stands before anything else or at the end. -/
def unescapeChars : List Char → Option (List Char)
  | [] => some []
  | '\\' :: '\\' :: rest => (unescapeChars rest).map ('\\' :: ·)
  | '\\' :: '"' :: rest => (unescapeChars rest).map ('"' :: ·)
  | c :: rest => if c = '\\' ∨ c = '"' then none else (unescapeChars rest).map (c :: ·)

/-- The number of backslashes that end a text. -/
def backslashesAtEnd (cs : List Char) : Nat :=
  (cs.reverse.takeWhile (· = '\\')).length

theorem backslashesAtEnd_append_cons {c : Char} (h : c ≠ '\\') (front cs : List Char) :
    backslashesAtEnd (front ++ c :: cs) = backslashesAtEnd cs := by
  rw [backslashesAtEnd, backslashesAtEnd, List.reverse_append, List.reverse_cons, List.append_assoc,
    List.takeWhile_append]
  split_ifs with hall
  · rw [List.singleton_append, List.takeWhile_cons_of_neg (by simpa using h), List.append_nil, hall]
  · rfl

theorem backslashesAtEnd_pair (cs : List Char) :
    backslashesAtEnd ('\\' :: '\\' :: cs) % 2 = backslashesAtEnd cs % 2 := by
  rw [backslashesAtEnd, backslashesAtEnd, List.reverse_cons, List.reverse_cons, List.append_assoc,
    List.takeWhile_append]
  split_ifs with hall
  · simp [hall]
  · rfl

/-- What can be read does not end in a backslash that escapes nothing. -/
theorem backslashesAtEnd_of_unescapeChars {body text : List Char}
    (h : unescapeChars body = some text) : backslashesAtEnd body % 2 = 0 := by
  fun_induction unescapeChars body generalizing text with
  | case1 => rfl
  | case2 rest ih =>
      obtain ⟨tail, htail, _⟩ := Option.map_eq_some_iff.mp h
      rw [backslashesAtEnd_pair, ih htail]
  | case3 rest ih =>
      obtain ⟨tail, htail, _⟩ := Option.map_eq_some_iff.mp h
      rw [← ih htail]
      exact congrArg (· % 2) (backslashesAtEnd_append_cons (c := '"') (by decide) ['\\'] rest)
  | case4 => cases h
  | case5 c rest _ _ hc ih =>
      obtain ⟨tail, htail, _⟩ := Option.map_eq_some_iff.mp h
      rw [← ih htail]
      exact congrArg (· % 2) (backslashesAtEnd_append_cons (fun heq => hc (Or.inl heq)) [] rest)

/-- In what can be read, a double quote stands behind an odd number of backslashes, so that one of
them is left to escape it. -/
theorem backslashesAtEnd_of_quote {body text front rest : List Char}
    (h : unescapeChars body = some text) (hquote : body = front ++ '"' :: rest) :
    backslashesAtEnd front % 2 = 1 := by
  fun_induction unescapeChars body generalizing text front with
  | case1 => cases front <;> cases hquote
  | case2 tail ih =>
      obtain ⟨_, htail, _⟩ := Option.map_eq_some_iff.mp h
      rcases front with _ | ⟨x, _ | ⟨y, front⟩⟩
      · cases hquote
      · cases hquote
      · obtain ⟨rfl, rfl, hsplit⟩ : '\\' = x ∧ '\\' = y ∧ tail = front ++ '"' :: rest := by
          simpa using hquote
        rw [backslashesAtEnd_pair, ih htail hsplit]
  | case3 tail ih =>
      obtain ⟨_, htail, _⟩ := Option.map_eq_some_iff.mp h
      rcases front with _ | ⟨x, _ | ⟨y, front⟩⟩
      · cases hquote
      · obtain ⟨rfl, _⟩ : '\\' = x ∧ tail = rest := by simpa using hquote
        rfl
      · obtain ⟨rfl, rfl, hsplit⟩ : '\\' = x ∧ '"' = y ∧ tail = front ++ '"' :: rest := by
          simpa using hquote
        rw [← ih htail hsplit]
        exact congrArg (· % 2) (backslashesAtEnd_append_cons (c := '"') (by decide) ['\\'] front)
  | case4 => cases h
  | case5 c tail _ _ hc ih =>
      obtain ⟨_, htail, _⟩ := Option.map_eq_some_iff.mp h
      rcases front with _ | ⟨x, front⟩
      · obtain ⟨rfl, _⟩ : c = '"' ∧ tail = rest := by simpa using hquote
        exact absurd (Or.inr rfl) hc
      · obtain ⟨rfl, hsplit⟩ : c = x ∧ tail = front ++ '"' :: rest := by simpa using hquote
        rw [← ih htail hsplit]
        exact congrArg (· % 2) (backslashesAtEnd_append_cons (fun heq => hc (Or.inl heq)) [] front)

/-! ### The passes -/

/-- A character as it stands between the quotes of a literal. -/
def escapeChar (c : Char) : List Char :=
  if c = '\\' then ['\\', '\\'] else if c = '"' then ['\\', '"'] else [c]

/-- A tab or a line end as a space. -/
def flattenChar (c : Char) : Char :=
  if c = '\t' ∨ c = '\n' ∨ c = '\r' then ' ' else c

/-- A text with both comment delimiters broken up. -/
def breakChars (cs : List Char) : List Char :=
  replacePairChars '/' '*' ['/', '_', '*'] (replacePairChars '*' '/' ['*', '_', '/'] cs)

/-- A text with an underscore between any star and slash that stand next to each other, in either
order. -/
def parted : List Char → List Char
  | c :: d :: rest =>
    if c = '*' ∧ d = '/' ∨ c = '/' ∧ d = '*' then c :: '_' :: parted (d :: rest)
    else c :: parted (d :: rest)
  | cs => cs

/-- What the first pass writes starts as the text does, so the second one parts the same slashes from
stars behind them. -/
theorem breakChars_eq_parted (cs : List Char) : breakChars cs = parted cs := by
  fun_induction parted cs with
  | case1 c d rest hpair ih =>
      rw [← ih, breakChars, breakChars]
      obtain ⟨rfl, rfl⟩ | ⟨rfl, rfl⟩ := hpair
      · rw [replacePairChars_pair (by decide), replacePairChars_cons fun h => absurd h.1 (by decide),
          replacePairChars_cons fun h => absurd h.1 (by decide)]
      · have hhead : (replacePairChars '*' '/' ['*', '_', '/'] ('*' :: rest)).head? = some '*' :=
          head?_replacePairChars _
        obtain ⟨more, hmore⟩ := List.head?_eq_some_iff.mp hhead
        rw [replacePairChars_cons fun h => absurd h.1 (by decide), hmore,
          replacePairChars_pair (by decide)]
  | case2 c d rest hpair ih =>
      rw [not_or] at hpair
      have hclose : ¬(c = '*' ∧ (d :: rest).head? = some '/') := fun h =>
        hpair.1 ⟨h.1, Option.some.inj h.2⟩
      have hopen : ¬(c = '/' ∧
          (replacePairChars '*' '/' ['*', '_', '/'] (d :: rest)).head? = some '*') := by
        rw [head?_replacePairChars]
        exact fun h => hpair.2 ⟨h.1, Option.some.inj h.2⟩
      rw [← ih, breakChars, breakChars, replacePairChars_cons hclose, replacePairChars_cons hopen]
  | case3 cs hshort =>
      rcases cs with _ | ⟨c, _ | ⟨d, rest⟩⟩
      · rfl
      · rfl
      · exact absurd rfl (hshort c d rest)

theorem toList_flatten (text : String) : (flatten text).toList = text.toList.map flattenChar := by
  rw [flatten, String.toList_ofList]
  rfl

theorem toList_breakComments (text : String) :
    (breakComments text).toList = breakChars text.toList := by
  simp only [breakComments, replacePair, String.toList_ofList]
  rfl

/-- Backslashes and double quotes are escaped one after the other, but a double quote comes with a
backslash of its own that is not escaped again. -/
theorem toList_escape (text : String) :
    (escape text).toList = breakChars ((flatten text).toList.flatMap escapeChar) := by
  rw [escape, toList_breakComments]
  simp only [replaceChar, String.toList_ofList, List.flatMap_assoc]
  congr 1
  refine List.flatMap_congr fun c _ => ?_
  rw [escapeChar]
  split_ifs with hbackslash hquote
  · rfl
  · rw [List.flatMap_singleton, if_pos hquote]
    rfl
  · rw [List.flatMap_singleton, if_neg hquote]

theorem unescapeChars_flatMap (cs : List Char) :
    unescapeChars (cs.flatMap escapeChar) = some cs := by
  induction cs with
  | nil => rfl
  | cons c rest ih =>
      rw [List.flatMap_cons, escapeChar]
      split_ifs with hbackslash hquote
      · simp [unescapeChars, ih, hbackslash]
      · simp [unescapeChars, ih, hquote]
      · simp [unescapeChars, ih, hbackslash, hquote]

/-- No escape holds a star or a slash, so delimiters are broken up in the same places before and
after. -/
theorem breakChars_flatMap_escapeChar (cs : List Char) :
    breakChars (cs.flatMap escapeChar) = (breakChars cs).flatMap escapeChar := by
  have hspares : ∀ c, c ≠ '\\' → c ≠ '"' → Spares escapeChar c := by
    refine fun c hbackslash hquote => ⟨by simp [escapeChar, hbackslash, hquote], fun d hd hmem => ?_⟩
    rw [escapeChar] at hmem
    split_ifs at hmem <;> simp_all
  have hstar : Spares escapeChar '*' := hspares '*' (by decide) (by decide)
  have hslash : Spares escapeChar '/' := hspares '/' (by decide) (by decide)
  have hne : ∀ c, escapeChar c ≠ [] := by
    intro c
    rw [escapeChar]
    split_ifs <;> exact List.cons_ne_nil _ _
  rw [breakChars, breakChars, replacePairChars_flatMap hstar hslash hne rfl,
    replacePairChars_flatMap hslash hstar hne rfl]

/-- Escaping is the last step as well as one in between. -/
theorem toList_escape_eq_flatMap (text : String) :
    (escape text).toList = (breakComments (flatten text)).toList.flatMap escapeChar := by
  rw [toList_escape, toList_breakComments, breakChars_flatMap_escapeChar]

theorem breakChars_map_flattenChar (cs : List Char) :
    breakChars (cs.map flattenChar) = (breakChars cs).map flattenChar := by
  have hkeeps : ∀ c, c ≠ ' ' → flattenChar c = c → ∀ d, flattenChar d = c ↔ d = c := by
    refine fun c hspace hself d => ⟨fun h => ?_, fun h => h ▸ hself⟩
    rw [flattenChar] at h
    split_ifs at h
    · exact absurd h.symm hspace
    · exact h
  have hstar : ∀ c, flattenChar c = '*' ↔ c = '*' := hkeeps '*' (by decide) rfl
  have hslash : ∀ c, flattenChar c = '/' ↔ c = '/' := hkeeps '/' (by decide) rfl
  rw [breakChars, breakChars, replacePairChars_map hstar hslash rfl,
    replacePairChars_map hslash hstar rfl]

/-- The first pass parts every star from a slash behind it, and the second one every slash from a star
behind it; what stands between them then fits on both sides. -/
theorem isChain_breakChars (cs : List Char) :
    (breakChars cs).IsChain fun c d => ¬(c = '*' ∧ d = '/') ∧ ¬(c = '/' ∧ d = '*') := by
  have hclose : (replacePairChars '*' '/' ['*', '_', '/'] cs).IsChain
      fun c d => ¬(c = '*' ∧ d = '/') := by
    refine isChain_replacePairChars (by decide) (by decide) (by decide) ?_
    exact (List.pairwise_of_forall fun c d => (em (c = '*' ∧ d = '/')).symm).isChain
  refine isChain_replacePairChars (by decide) (by decide) (by decide) (hclose.imp fun c d h => ?_)
  exact (em (c = '/' ∧ d = '*')).symm.imp_left fun hopen => ⟨h, hopen⟩

theorem mem_escapeChar {c d : Char} (h : c ∈ escapeChar d) : c = '\\' ∨ c = d := by
  rw [escapeChar] at h
  split_ifs at h <;> simp_all

theorem flattenChar_ne (c : Char) :
    flattenChar c ≠ '\t' ∧ flattenChar c ≠ '\r' ∧ flattenChar c ≠ '\n' := by
  rw [flattenChar]
  split_ifs with h
  · decide
  · simp only [not_or] at h
    exact ⟨h.1, h.2.2, h.2.1⟩

/-- What stands between the quotes of a string literal for a text, and harms nothing around it: it is
on one line, it neither closes nor opens a comment, a backslash is left to escape each of its double
quotes and none is left at its end, and what it is read as is the text. -/
structure IsSafeFor (body text : String) : Prop where
  one_line : ∀ c ∈ body.toList, c ≠ '\t' ∧ c ≠ '\r' ∧ c ≠ '\n'
  closes_no_comment : ¬['*', '/'] <:+: body.toList
  opens_no_comment : ¬['/', '*'] <:+: body.toList
  quotes_escaped : ∀ front rest, body.toList = front ++ '"' :: rest →
    backslashesAtEnd front % 2 = 1
  none_dangling : backslashesAtEnd body.toList % 2 = 0
  unescaped : unescapeChars body.toList = some text.toList

/-- An escaped text is safe between the quotes of a literal, and stands for the text with its tabs and
line ends as spaces and its comment delimiters broken up, whichever of the two is done first. Comment
delimiters are broken up by an underscore between any star and slash that stand next to each other. -/
theorem escape_isSafeFor (text : String) :
    IsSafeFor (escape text) (breakComments (String.ofList (text.toList.map flattenChar))) ∧
      (∀ s : String, (breakComments s).toList = parted s.toList) ∧
      (breakComments text).toList.map flattenChar = parted (text.toList.map flattenChar) := by
  have hbody := toList_escape_eq_flatMap text
  have hread : unescapeChars (escape text).toList = some (breakComments (flatten text)).toList := by
    rw [hbody, unescapeChars_flatMap]
  have hchain := isChain_breakChars ((flatten text).toList.flatMap escapeChar)
  rw [← toList_escape] at hchain
  have hparted (s : String) : (breakComments s).toList = parted s.toList := by
    rw [toList_breakComments, breakChars_eq_parted]
  refine ⟨⟨?line, ?closes, ?opens, fun front rest => backslashesAtEnd_of_quote hread,
    backslashesAtEnd_of_unescapeChars hread, hread⟩, hparted, ?commute⟩
  case line =>
    intro c hc
    rw [hbody] at hc
    obtain ⟨d, hd, hc⟩ := List.mem_flatMap.mp hc
    rw [toList_breakComments, toList_flatten, breakChars_map_flattenChar] at hd
    obtain ⟨source, _, rfl⟩ := List.mem_map.mp hd
    rcases mem_escapeChar hc with rfl | rfl
    · decide
    · exact flattenChar_ne source
  case closes =>
    intro hclose
    have hpair := List.IsChain.infix hchain hclose
    exact (List.isChain_pair.mp hpair).1 ⟨rfl, rfl⟩
  case opens =>
    intro hopen
    have hpair := List.IsChain.infix hchain hopen
    exact (List.isChain_pair.mp hpair).2 ⟨rfl, rfl⟩
  case commute =>
    rw [toList_breakComments, ← breakChars_map_flattenChar, breakChars_eq_parted]

/-- A comment that is opened and closed by one star, a tab, a double quote and a backslash. -/
theorem escape_isSafeFor_of_delimiters :
    escape "/*/\t\"\\" = "/_*_/ \\\"\\\\" ∧
      IsSafeFor "/_*_/ \\\"\\\\" "/_*_/ \"\\" := by
  have hbody : escape "/*/\t\"\\" = "/_*_/ \\\"\\\\" := by decide
  have htext : breakComments (String.ofList ("/*/\t\"\\".toList.map flattenChar)) =
      "/_*_/ \"\\" := by
    decide
  have hsafe := (escape_isSafeFor "/*/\t\"\\").1
  rw [hbody, htext] at hsafe
  exact ⟨hbody, hsafe⟩

end Literal

end CratePlan
