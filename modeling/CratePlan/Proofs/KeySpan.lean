import CratePlan.Settings.Span
import Mathlib.Data.List.Basic
import Mathlib.Data.List.TakeWhile
import Mathlib.Tactic.SplitIfs

/-! Where a key is shown in the text of a settings file. The text is gone through line by line, with the
bytes of the lines before added up. A line is looked at without its line end, and what is shown of it has
no blanks around it; since line ends are blank, the line feed and a carriage return before it change
neither which line is shown nor what of it. -/

namespace CratePlan

open Text

/-! ### Bytes and blanks -/

namespace Text

theorem byteLength_append (cs ds : List Char) :
    byteLength (cs ++ ds) = byteLength cs + byteLength ds := by
  induction cs with
  | nil => simp [byteLength]
  | cons c rest ih => rw [List.cons_append, byteLength, byteLength, ih, Nat.add_assoc]

/-- The beginnings of a text are told apart by their lengths in bytes. -/
theorem eq_of_prefix_of_byteLength_eq {cs ds text : List Char} (hcs : cs <+: text)
    (hds : ds <+: text) (h : byteLength cs = byteLength ds) : cs = ds := by
  have hlonger {short : List Char} {long : List Char} (hshort : short <+: long)
      (hlength : byteLength short = byteLength long) : short = long := by
    obtain ⟨more, rfl⟩ := hshort
    cases more with
    | nil => rw [List.append_nil]
    | cons c rest =>
        have hpositive := c.utf8Size_pos
        rw [byteLength_append, byteLength] at hlength
        omega
  rcases List.prefix_or_prefix_of_prefix hcs hds with hshort | hshort
  · exact hlonger hshort h
  · exact (hlonger hshort h.symm).symm

/-- Blanks at the end of a text change nothing at its start, unless it holds nothing else. -/
theorem trimStart_append {cs tail : List Char} (hcs : trimStart cs ≠ []) :
    trimStart (cs ++ tail) = trimStart cs ++ tail := by
  rw [trimStart, List.dropWhile_append, if_neg (by simpa [trimStart] using hcs), trimStart]

theorem takeWhile_isBlank_append {cs tail : List Char} (hcs : trimStart cs ≠ []) :
    (cs ++ tail).takeWhile isBlank = cs.takeWhile isBlank := by
  have hsplit := congrArg List.length (List.takeWhile_append_dropWhile (p := isBlank) (l := cs))
  have hlength : (trimStart cs).length ≠ 0 := fun h => hcs (List.length_eq_zero_iff.mp h)
  rw [List.length_append] at hsplit
  rw [List.takeWhile_append, if_neg]
  rw [trimStart] at hlength
  omega

theorem dropTrailing_append {p : Char → Bool} {tail : List Char} (htail : ∀ c ∈ tail, p c)
    (cs : List Char) : dropTrailing p (cs ++ tail) = dropTrailing p cs := by
  rw [dropTrailing, List.reverse_append,
    List.dropWhile_append_of_pos fun c hc => htail c (List.mem_reverse.mp hc), dropTrailing]

theorem dropTrailing_append_cons {p : Char → Bool} {c : Char} (hc : p c = false) (cs ds : List Char) :
    dropTrailing p (cs ++ c :: ds) = cs ++ c :: dropTrailing p ds := by
  have hkept : (c :: cs.reverse).dropWhile p = c :: cs.reverse :=
    List.dropWhile_cons_of_neg (by rw [hc]; exact Bool.false_ne_true)
  have hdrop : (ds.reverse ++ c :: cs.reverse).dropWhile p =
      ds.reverse.dropWhile p ++ c :: cs.reverse := by
    rw [List.dropWhile_append]
    split_ifs with hnone
    · rw [List.isEmpty_iff.mp hnone, hkept, List.nil_append]
    · rfl
  rw [dropTrailing, List.reverse_append, List.reverse_cons, List.append_assoc, List.singleton_append,
    hdrop, List.reverse_append, List.reverse_cons, List.reverse_reverse, List.append_assoc,
    List.singleton_append, dropTrailing]

theorem isPrefix_dropTrailing (p : Char → Bool) (cs : List Char) : dropTrailing p cs <+: cs := by
  have hsuffix := List.reverse_prefix.mpr (List.dropWhile_suffix p (l := cs.reverse))
  rwa [List.reverse_reverse] at hsuffix

/-- A text is what dropping leaves of it, and then characters of the class that was dropped. -/
theorem exists_eq_dropTrailing_append (p : Char → Bool) (cs : List Char) :
    ∃ tail, cs = dropTrailing p cs ++ tail ∧ ∀ c ∈ tail, p c := by
  refine ⟨(cs.reverse.takeWhile p).reverse, ?_, fun c hc => ?_⟩
  · rw [dropTrailing, ← List.reverse_append, List.takeWhile_append_dropWhile, List.reverse_reverse]
  · exact List.mem_takeWhile_imp (List.mem_reverse.mp hc)

/-- Blanks at the end of a text do not matter where it is trimmed. -/
theorem trim_append {cs tail : List Char} (htail : ∀ c ∈ tail, isBlank c) :
    trim (cs ++ tail) = trim cs := by
  by_cases hcs : trimStart cs = []
  · have hall : ∀ c ∈ cs, isBlank c := List.dropWhile_eq_nil_iff.mp hcs
    have hnone : trimStart (cs ++ tail) = [] :=
      List.dropWhile_eq_nil_iff.mpr (List.forall_mem_append.mpr ⟨hall, htail⟩)
    rw [trim, trim, hnone, hcs]
  · rw [trim, trimStart_append hcs, dropTrailing_append htail, trim]

theorem isPrefix_indent_append_trim (cs : List Char) : cs.takeWhile isBlank ++ trim cs <+: cs := by
  obtain ⟨tail, htail⟩ := isPrefix_dropTrailing isBlank (trimStart cs)
  refine ⟨tail, ?_⟩
  rw [List.append_assoc, trim, htail, trimStart, List.takeWhile_append_dropWhile]

/-- What is left of a text without the blanks at its start is so many bytes shorter. -/
theorem byteLength_sub_trimStart (cs : List Char) :
    byteLength cs - byteLength (trimStart cs) = byteLength (cs.takeWhile isBlank) := by
  have hsplit := congrArg byteLength (List.takeWhile_append_dropWhile (p := isBlank) (l := cs))
  rw [byteLength_append] at hsplit
  rw [trimStart]
  omega

end Text

namespace Settings

/-! ### Assignments -/

/-- A line is an assignment to a key: rid of the blanks at its start, it is the key, blanks, and an
equals sign with whatever follows. -/
def IsAssignment (key line : List Char) : Prop :=
  ∃ gap rest, trimStart line = key ++ (gap ++ '=' :: rest) ∧ ∀ c ∈ gap, isBlank c

theorem assigns_iff {key line : List Char} : assigns key line = true ↔ IsAssignment key line := by
  have hequals : isBlank '=' = false := by decide
  rw [assigns, Bool.and_eq_true, List.isPrefixOf_iff_prefix, decide_eq_true_eq]
  constructor
  · rintro ⟨⟨after, hbody⟩, hhead⟩
    rw [← hbody, List.drop_left] at hhead
    obtain ⟨rest, hrest⟩ := List.head?_eq_some_iff.mp hhead
    refine ⟨after.takeWhile isBlank, rest, ?_, fun c hc => List.mem_takeWhile_imp hc⟩
    rw [← hrest, ← hbody, trimStart, List.takeWhile_append_dropWhile]
  · rintro ⟨gap, rest, hbody, hgap⟩
    refine ⟨⟨_, hbody.symm⟩, ?_⟩
    rw [hbody, List.drop_left, trimStart, List.dropWhile_append_of_pos hgap,
      List.dropWhile_cons_of_neg (by rw [hequals]; exact Bool.false_ne_true), List.head?_cons]

theorem IsAssignment.trimStart_ne_nil {key line : List Char} (h : IsAssignment key line) :
    trimStart line ≠ [] := by
  obtain ⟨gap, rest, hbody, _⟩ := h
  rw [hbody]
  simp

/-- What is shown of an assignment starts as the assignment does. -/
theorem IsAssignment.exists_trim_eq {key line : List Char} (h : IsAssignment key line) :
    ∃ gap rest, trim line = key ++ (gap ++ '=' :: rest) ∧ ∀ c ∈ gap, isBlank c := by
  obtain ⟨gap, rest, hbody, hgap⟩ := h
  refine ⟨gap, dropTrailing isBlank rest, ?_, hgap⟩
  rw [trim, hbody, ← List.append_assoc, dropTrailing_append_cons (by decide), List.append_assoc]

/-- Blanks at the end of a line do not matter: an equals sign is none. -/
theorem isAssignment_append_iff {key line tail : List Char} (htail : ∀ c ∈ tail, isBlank c) :
    IsAssignment key (line ++ tail) ↔ IsAssignment key line := by
  have hequals : '=' ∉ tail := fun hmem => absurd (htail '=' hmem) (by decide)
  constructor
  · intro h
    have hne : trimStart line ≠ [] := by
      intro hnil
      have hall := List.dropWhile_eq_nil_iff.mp hnil
      exact h.trimStart_ne_nil
        (List.dropWhile_eq_nil_iff.mpr (List.forall_mem_append.mpr ⟨hall, htail⟩))
    obtain ⟨gap, rest, hbody, hgap⟩ := h
    rw [trimStart_append hne, ← List.append_assoc] at hbody
    rcases List.append_eq_append_iff.mp hbody with ⟨more, _, hmore⟩ | ⟨more, hline, hmore⟩
    · exact absurd (hmore ▸ List.mem_append_right more List.mem_cons_self) hequals
    · cases more with
      | nil =>
          rw [List.nil_append] at hmore
          exact absurd (hmore ▸ List.mem_cons_self) hequals
      | cons c rest =>
          obtain ⟨rfl, _⟩ := List.cons.inj hmore
          exact ⟨gap, rest, by rw [hline, List.append_assoc], hgap⟩
  · intro h
    have hne := h.trimStart_ne_nil
    obtain ⟨gap, rest, hbody, hgap⟩ := h
    refine ⟨gap, rest ++ tail, ?_, hgap⟩
    rw [trimStart_append hne, hbody]
    simp only [List.append_assoc, List.cons_append]

/-! ### Lines -/

/-- Lines put one after another, each with a line feed at its end. -/
def unlines (lines : List (List Char)) : List Char :=
  lines.flatMap (· ++ ['\n'])

theorem unlines_cons (line : List Char) (rest : List (List Char)) :
    unlines (line :: rest) = (line ++ ['\n']) ++ unlines rest :=
  List.flatMap_cons

/-- Lines as they are gone through, each with its line feed; the last has none, and is left out if there
is nothing in it. -/
def terminated : List (List Char) → List (List Char)
  | [] => []
  | [last] => if last.isEmpty then [] else [last]
  | line :: next :: rest => (line ++ ['\n']) :: terminated (next :: rest)

theorem linesFrom_eq (line cs : List Char) :
    linesFrom line cs = terminated ((cs.splitOn '\n').modifyHead (line.reverse ++ ·)) := by
  induction cs generalizing line with
  | nil => simp [linesFrom, terminated]
  | cons c rest ih =>
      rw [linesFrom, List.splitOn_cons_eq_if_modifyHead, ih, ih]
      obtain ⟨next, others, hsplit⟩ := List.exists_cons_of_ne_nil (List.splitOn_ne_nil '\n' rest)
      rw [hsplit]
      split_ifs <;> simp_all [terminated]

theorem notMem_of_mem_splitOn {cs line : List Char} (h : line ∈ cs.splitOn '\n') : '\n' ∉ line := by
  induction cs generalizing line with
  | nil =>
      rw [List.splitOn_nil, List.mem_singleton] at h
      rw [h]
      exact List.not_mem_nil
  | cons c rest ih =>
      obtain ⟨next, others, hsplit⟩ := List.exists_cons_of_ne_nil (List.splitOn_ne_nil '\n' rest)
      rw [List.splitOn_cons_eq_if_modifyHead, hsplit] at h
      rw [hsplit] at ih
      split_ifs at h with hc
      · rcases List.mem_cons.mp h with rfl | h
        · exact List.not_mem_nil
        · exact ih h
      · rw [List.modifyHead_cons, List.mem_cons] at h
        rcases h with rfl | h
        · rw [List.mem_cons, not_or]
          exact ⟨fun heq => hc (by rw [← heq]; rfl), ih List.mem_cons_self⟩
        · exact ih (List.mem_cons_of_mem _ h)

/-- The lines up to a certain one stand at the beginning of their text. -/
theorem isPrefix_unlines_append {text line : List Char} {before after : List (List Char)}
    (h : text.splitOn '\n' = before ++ line :: after) : unlines before ++ line <+: text := by
  have hjoined : ['\n'].intercalate (before ++ line :: after) = text := by
    rw [← h, List.intercalate_splitOn]
  rw [← hjoined]
  clear h hjoined
  induction before with
  | nil =>
      cases after with
      | nil => rw [List.nil_append, List.intercalate_singleton]; exact List.prefix_refl _
      | cons next rest =>
          rw [List.nil_append, List.intercalate_cons_cons, List.append_assoc]
          exact List.prefix_append _ _
  | cons first rest ih =>
      rw [List.cons_append, List.intercalate_cons_of_ne_nil (by simp), unlines_cons,
        List.append_assoc]
      exact (List.prefix_append_right_inj _).mpr ih

/-! ### The span of a key -/

theorem exists_eq_dropLineEnd_append (raw : List Char) :
    ∃ tail, raw = dropLineEnd raw ++ tail ∧ ∀ c ∈ tail, isBlank c := by
  obtain ⟨tail, hraw, htail⟩ := exists_eq_dropTrailing_append (fun c => c = '\r' || c = '\n') raw
  refine ⟨tail, hraw, fun c hc => ?_⟩
  have hend := htail c hc
  rw [Bool.or_eq_true, decide_eq_true_eq, decide_eq_true_eq] at hend
  rcases hend with rfl | rfl <;> decide

/-- A line is looked at without its line end, but the whole of it tells the same. -/
theorem keySpanFrom_cons {key raw : List Char} (start : Nat) (rest : List (List Char)) :
    keySpanFrom key start (raw :: rest) =
      if assigns key raw then
        some ⟨start + byteLength (raw.takeWhile isBlank), byteLength (trim raw)⟩
      else keySpanFrom key (start + byteLength raw) rest := by
  obtain ⟨tail, hraw, htail⟩ := exists_eq_dropLineEnd_append raw
  rw [keySpanFrom, byteLength_sub_trimStart]
  generalize dropLineEnd raw = body at hraw ⊢
  subst hraw
  have hassigns : assigns key (body ++ tail) = assigns key body := by
    rw [Bool.eq_iff_iff, assigns_iff, assigns_iff, isAssignment_append_iff htail]
  rw [hassigns, trim_append htail]
  split_ifs with h
  · rw [takeWhile_isBlank_append (assigns_iff.mp h).trimStart_ne_nil]
  · rfl

/-- The line feeds at the ends of lines count as bytes, and that is all that they do. -/
theorem keySpanFrom_terminated_cons {key line : List Char} (start : Nat)
    (rest : List (List Char)) :
    keySpanFrom key start (terminated (line :: rest)) =
      if assigns key line then
        some ⟨start + byteLength (line.takeWhile isBlank), byteLength (trim line)⟩
      else keySpanFrom key (start + byteLength (line ++ ['\n'])) (terminated rest) := by
  have hfeed : ∀ c ∈ ['\n'], isBlank c := List.forall_mem_singleton.mpr (by decide)
  cases rest with
  | nil =>
      have hlast : terminated [line] = if line.isEmpty then [] else [line] := rfl
      by_cases hempty : line.isEmpty = true
      · have hnone : assigns key line = false := by
          rw [List.isEmpty_iff.mp hempty, Bool.eq_false_iff, Ne, assigns_iff]
          exact fun h => h.trimStart_ne_nil rfl
        rw [hlast, if_pos hempty, hnone]
        rfl
      · rw [hlast, if_neg hempty, keySpanFrom_cons]
        rfl
  | cons next rest =>
      have hassigns : assigns key (line ++ ['\n']) = assigns key line := by
        rw [Bool.eq_iff_iff, assigns_iff, assigns_iff, isAssignment_append_iff hfeed]
      rw [terminated, keySpanFrom_cons, hassigns, trim_append hfeed]
      split_ifs with h
      · rw [takeWhile_isBlank_append (assigns_iff.mp h).trimStart_ne_nil]
      · rfl

theorem keySpanFrom_terminated_eq_none {key : List Char} {lines : List (List Char)}
    (h : ∀ line ∈ lines, ¬IsAssignment key line) (start : Nat) :
    keySpanFrom key start (terminated lines) = none := by
  induction lines generalizing start with
  | nil => rfl
  | cons line rest ih =>
      rw [List.forall_mem_cons, ← assigns_iff] at h
      rw [keySpanFrom_terminated_cons, if_neg h.1, ih h.2]

theorem keySpanFrom_terminated_append {key line : List Char} {before after : List (List Char)}
    (hbefore : ∀ line ∈ before, ¬IsAssignment key line) (hline : IsAssignment key line)
    (start : Nat) :
    keySpanFrom key start (terminated (before ++ line :: after)) =
      some ⟨start + byteLength (unlines before ++ line.takeWhile isBlank), byteLength (trim line)⟩ := by
  induction before generalizing start with
  | nil => rw [List.nil_append, keySpanFrom_terminated_cons, if_pos (assigns_iff.mpr hline)]; rfl
  | cons first rest ih =>
      rw [List.forall_mem_cons, ← assigns_iff] at hbefore
      rw [List.cons_append, keySpanFrom_terminated_cons, if_neg hbefore.1, ih hbefore.2,
        unlines_cons, List.append_assoc, byteLength_append (first ++ ['\n']), Nat.add_assoc]

/-- A span shows a piece of a text that stands behind a front: it starts where the front ends, on
character boundaries, and lies inside the text. -/
structure Span.Shows (span : Span) (text front piece : List Char) : Prop where
  within : front ++ piece <+: text
  offset : span.offset = byteLength front
  length : span.length = byteLength piece

/-- A span shows one piece, and in one place. -/
theorem Span.Shows.unique {span : Span} {text front piece front' piece' : List Char}
    (h : span.Shows text front piece) (h' : span.Shows text front' piece') :
    front = front' ∧ piece = piece' := by
  have hfront : front = front' :=
    eq_of_prefix_of_byteLength_eq ((List.prefix_append _ _).trans h.within)
      ((List.prefix_append _ _).trans h'.within) (h.offset.symm.trans h'.offset)
  subst hfront
  have hwhole : front ++ piece = front ++ piece' :=
    eq_of_prefix_of_byteLength_eq h.within h'.within (by
      rw [byteLength_append, byteLength_append, ← h.length, ← h'.length])
  exact ⟨rfl, List.append_cancel_left hwhole⟩

/-- A line is the first assignment to a key among lines, which it parts in those before and those after
it. -/
structure IsFirstAssignment (key line : List Char) (before after lines : List (List Char)) :
    Prop where
  lines_eq : lines = before ++ line :: after
  none_before : ∀ l ∈ before, ¬IsAssignment key l
  assigns : IsAssignment key line

theorem exists_isFirstAssignment_or (key : List Char) (lines : List (List Char)) :
    (∃ before line after, IsFirstAssignment key line before after lines) ∨
      ∀ line ∈ lines, ¬IsAssignment key line := by
  cases hfind : lines.find? (assigns key) with
  | none =>
      refine Or.inr fun line hline hassigns => ?_
      exact List.find?_eq_none.mp hfind line hline (assigns_iff.mpr hassigns)
  | some line =>
      obtain ⟨hassigns, before, after, hlines, hbefore⟩ := List.find?_eq_some_iff_append.mp hfind
      refine Or.inl ⟨before, line, after, hlines, fun l hl h => ?_, assigns_iff.mp hassigns⟩
      have hnot := hbefore l hl
      rw [assigns_iff.mpr h] at hnot
      exact absurd hnot (by decide)

section

variable {text key : String}

theorem keySpan?_eq_terminated :
    keySpan? text key = keySpanFrom key.toList 0 (terminated (text.toList.splitOn '\n')) := by
  rw [keySpan?, linesFrom_eq]
  congr 2
  exact congrFun List.modifyHead_id _

theorem keySpan?_of_isFirstAssignment {line : List Char} {before after : List (List Char)}
    (h : IsFirstAssignment key.toList line before after (text.toList.splitOn '\n')) :
    keySpan? text key =
      some ⟨byteLength (unlines before ++ line.takeWhile isBlank), byteLength (trim line)⟩ := by
  rw [keySpan?_eq_terminated, h.lines_eq, keySpanFrom_terminated_append h.none_before h.assigns,
    Nat.zero_add]

theorem keySpan?_eq_none_iff :
    keySpan? text key = none ↔
      ∀ line ∈ text.toList.splitOn '\n', ¬IsAssignment key.toList line := by
  constructor
  · intro hnone
    rcases exists_isFirstAssignment_or key.toList (text.toList.splitOn '\n') with
      ⟨before, line, after, hfirst⟩ | hall
    · rw [keySpan?_of_isFirstAssignment hfirst] at hnone
      cases hnone
    · exact hall
  · intro hall
    rw [keySpan?_eq_terminated, keySpanFrom_terminated_eq_none hall]

theorem shows_of_isFirstAssignment {key line text : List Char} {before after : List (List Char)}
    (h : IsFirstAssignment key line before after (text.splitOn '\n')) :
    Span.Shows ⟨byteLength (unlines before ++ line.takeWhile isBlank), byteLength (trim line)⟩ text
      (unlines before ++ line.takeWhile isBlank) (trim line) := by
  refine ⟨?_, rfl, rfl⟩
  rw [List.append_assoc]
  exact ((List.prefix_append_right_inj _).mpr (isPrefix_indent_append_trim line)).trans
    (isPrefix_unlines_append h.lines_eq)

/-- What is shown is the first assignment, without the blanks around it. -/
theorem keySpan?_eq_some_iff {span : Span} :
    keySpan? text key = some span ↔ ∃ before line after,
      IsFirstAssignment key.toList line before after (text.toList.splitOn '\n') ∧
        span.Shows text.toList (unlines before ++ line.takeWhile isBlank) (trim line) := by
  constructor
  · intro hspan
    rcases exists_isFirstAssignment_or key.toList (text.toList.splitOn '\n') with
      ⟨before, line, after, hfirst⟩ | hall
    · rw [keySpan?_of_isFirstAssignment hfirst] at hspan
      cases hspan
      exact ⟨before, line, after, hfirst, shows_of_isFirstAssignment hfirst⟩
    · rw [keySpan?_eq_none_iff.mpr hall] at hspan
      cases hspan
  · rintro ⟨before, line, after, hfirst, hshows⟩
    rw [keySpan?_of_isFirstAssignment hfirst, ← hshows.offset, ← hshows.length]

end

/-! ### Carriage returns -/

/-- A text with a carriage return before each line feed. -/
def withReturns (cs : List Char) : List Char :=
  cs.flatMap fun c => if c = '\n' then ['\r', '\n'] else [c]

/-- The lines of such a text: a carriage return ends each line but the last. -/
def returnLines : List (List Char) → List (List Char)
  | [] => []
  | [last] => [last]
  | line :: next :: rest => (line ++ ['\r']) :: returnLines (next :: rest)

theorem withReturns_append (cs ds : List Char) :
    withReturns (cs ++ ds) = withReturns cs ++ withReturns ds :=
  List.flatMap_append

theorem withReturns_of_notMem {cs : List Char} (h : '\n' ∉ cs) : withReturns cs = cs := by
  have hself : ∀ c ∈ cs, (if c = '\n' then ['\r', '\n'] else [c]) = [c] := fun c hc =>
    if_neg (ne_of_mem_of_not_mem hc h)
  rw [withReturns, List.flatMap_congr hself, List.flatMap_singleton']

theorem withReturns_unlines {lines : List (List Char)} (h : ∀ line ∈ lines, '\n' ∉ line) :
    withReturns (unlines lines) = unlines (lines.map (· ++ ['\r'])) := by
  induction lines with
  | nil => rfl
  | cons line rest ih =>
      rw [List.forall_mem_cons] at h
      have hfeed : withReturns ['\n'] = ['\r'] ++ ['\n'] := rfl
      rw [List.map_cons, unlines_cons, unlines_cons, withReturns_append, withReturns_append,
        withReturns_of_notMem h.1, ih h.2, hfeed, ← List.append_assoc line]

theorem byteLength_withReturns (cs : List Char) :
    byteLength (withReturns cs) = byteLength cs + cs.count '\n' := by
  induction cs with
  | nil => rfl
  | cons c rest ih =>
      rw [withReturns, List.flatMap_cons, byteLength_append, ← withReturns, ih, byteLength,
        List.count_cons]
      have hreturn : byteLength ['\r', '\n'] = '\n'.utf8Size + 1 := by decide
      split_ifs with hc <;> simp_all [byteLength] <;> omega

theorem splitOn_withReturns (cs : List Char) :
    (withReturns cs).splitOn '\n' = returnLines (cs.splitOn '\n') := by
  induction cs with
  | nil => rfl
  | cons c rest ih =>
      obtain ⟨next, others, hsplit⟩ := List.exists_cons_of_ne_nil (List.splitOn_ne_nil '\n' rest)
      rw [withReturns, List.flatMap_cons, ← withReturns]
      by_cases hc : c = '\n'
      · rw [if_pos hc, hc]
        simp only [List.cons_append, List.nil_append, List.splitOn_cons_eq_if_modifyHead, ih, hsplit]
        rfl
      · rw [if_neg hc, List.singleton_append]
        simp only [List.splitOn_cons_eq_if_modifyHead, ih, hsplit, beq_iff_eq, hc, if_false]
        cases others <;> rfl

theorem isBlank_of_mem_return : ∀ c ∈ ['\r'], isBlank c :=
  List.forall_mem_singleton.mpr (by decide)

/-- Each line keeps its place; at most a carriage return is added at its end. -/
theorem exists_returnLines_eq (before after : List (List Char)) (line : List Char) :
    ∃ tail rest, returnLines (before ++ line :: after) =
      before.map (· ++ ['\r']) ++ (line ++ tail) :: rest ∧ ∀ c ∈ tail, isBlank c := by
  induction before with
  | nil =>
      cases after with
      | nil => exact ⟨[], [], by rw [List.append_nil]; rfl, List.forall_mem_nil _⟩
      | cons next others => exact ⟨['\r'], returnLines (next :: others), rfl, isBlank_of_mem_return⟩
  | cons first others ih =>
      obtain ⟨tail, rest, hlines, htail⟩ := ih
      refine ⟨tail, rest, ?_, htail⟩
      rw [List.map_cons, List.cons_append, List.cons_append, ← hlines]
      cases others <;> rfl

/-- Carriage returns do not change which line is the first assignment. -/
theorem IsFirstAssignment.exists_withReturns {key line text : List Char} {before after : List (List Char)}
    (h : IsFirstAssignment key line before after (text.splitOn '\n')) :
    ∃ tail rest, IsFirstAssignment key (line ++ tail) (before.map (· ++ ['\r'])) rest
      ((withReturns text).splitOn '\n') ∧ ∀ c ∈ tail, isBlank c := by
  obtain ⟨tail, rest, hlines, htail⟩ := exists_returnLines_eq before after line
  refine ⟨tail, rest, ⟨?_, ?_, (isAssignment_append_iff htail).mpr h.assigns⟩, htail⟩
  · rw [splitOn_withReturns, h.lines_eq, hlines]
  · rw [List.forall_mem_map]
    intro l hl hassigns
    exact h.none_before l hl ((isAssignment_append_iff isBlank_of_mem_return).mp hassigns)

theorem not_isAssignment_of_mem_returnLines {key : List Char} {lines : List (List Char)}
    (h : ∀ line ∈ lines, ¬IsAssignment key line) :
    ∀ line ∈ returnLines lines, ¬IsAssignment key line := by
  induction lines with
  | nil => exact h
  | cons line rest ih =>
      rw [List.forall_mem_cons] at h
      cases rest with
      | nil => exact List.forall_mem_singleton.mpr h.1
      | cons next others =>
          rw [returnLines, List.forall_mem_cons, isAssignment_append_iff isBlank_of_mem_return]
          exact ⟨h.1, ih h.2⟩

/-- Carriage returns do not bring up an assignment, nor do they hide one. -/
theorem forall_not_isAssignment_withReturns_iff (key text : List Char) :
    (∀ line ∈ (withReturns text).splitOn '\n', ¬IsAssignment key line) ↔
      ∀ line ∈ text.splitOn '\n', ¬IsAssignment key line := by
  constructor
  · intro hnone
    rcases exists_isFirstAssignment_or key (text.splitOn '\n') with
      ⟨before, line, after, hfirst⟩ | hall
    · obtain ⟨tail, rest, hmoved, _⟩ := hfirst.exists_withReturns
      exact absurd hmoved.assigns (hnone _ (by rw [hmoved.lines_eq]; simp))
    · exact hall
  · rw [splitOn_withReturns]
    exact not_isAssignment_of_mem_returnLines

/-- With carriage returns the same piece is shown, behind a front that has them too. -/
theorem IsFirstAssignment.exists_shows_withReturns {key line text : List Char}
    {before after : List (List Char)}
    (h : IsFirstAssignment key line before after (text.splitOn '\n')) :
    ∃ before' line' after', IsFirstAssignment key line' before' after'
        ((withReturns text).splitOn '\n') ∧
      unlines before' ++ line'.takeWhile isBlank =
        withReturns (unlines before ++ line.takeWhile isBlank) ∧
      trim line' = trim line := by
  obtain ⟨tail, rest, hmoved, htail⟩ := h.exists_withReturns
  refine ⟨_, _, _, hmoved, ?_, trim_append htail⟩
  have hnofeed : ∀ l ∈ before ++ line :: after, '\n' ∉ l := fun l hl =>
    notMem_of_mem_splitOn (h.lines_eq ▸ hl)
  rw [List.forall_mem_append, List.forall_mem_cons] at hnofeed
  obtain ⟨hbefore, hline, _⟩ := hnofeed
  have hindent : '\n' ∉ line.takeWhile isBlank := fun hmem =>
    hline ((List.takeWhile_prefix isBlank).subset hmem)
  rw [withReturns_append, withReturns_unlines hbefore, withReturns_of_notMem hindent,
    takeWhile_isBlank_append h.assigns.trimStart_ne_nil]

end Settings

open Settings in
/-- The span of a key in a text, of which the lines are the pieces between line feeds. There is none
exactly if no line is an assignment to the key; otherwise it shows the first line that is one, without
the blanks around it, and what it shows holds no line feed. A carriage return before each line feed
changes nothing but the offset, which grows by the number of line feeds before it. -/
theorem keySpan_shows_first_assignment (text key : String) :
    let lines := text.toList.splitOn '\n'
    let returned := String.ofList (withReturns text.toList)
    (keySpan? text key = none ↔ ∀ line ∈ lines, ¬IsAssignment key.toList line) ∧
      (∀ span, keySpan? text key = some span ↔ ∃ before line after,
        IsFirstAssignment key.toList line before after lines ∧
          span.Shows text.toList (unlines before ++ line.takeWhile isBlank) (trim line)) ∧
      (keySpan? returned key = none ↔ keySpan? text key = none) ∧
      ∀ span front piece, keySpan? text key = some span → span.Shows text.toList front piece →
        '\n' ∉ piece ∧ ∃ moved, keySpan? returned key = some moved ∧
          moved.Shows returned.toList (withReturns front) piece ∧
          moved.offset = span.offset + front.count '\n' := by
  intro lines returned
  have hreturned : returned.toList = withReturns text.toList := String.toList_ofList
  refine ⟨keySpan?_eq_none_iff, fun span => keySpan?_eq_some_iff, ?none, ?moved⟩
  case none =>
    rw [keySpan?_eq_none_iff, keySpan?_eq_none_iff, hreturned]
    exact forall_not_isAssignment_withReturns_iff _ _
  case moved =>
    intro span front piece hspan hshows
    obtain ⟨before, line, after, hfirst, hshown⟩ := keySpan?_eq_some_iff.mp hspan
    obtain ⟨rfl, rfl⟩ := hshows.unique hshown
    have hline : '\n' ∉ line := notMem_of_mem_splitOn (by rw [hfirst.lines_eq]; simp)
    have hpiece : '\n' ∉ trim line := fun hmem =>
      hline ((List.dropWhile_sublist isBlank).subset ((isPrefix_dropTrailing isBlank _).subset hmem))
    obtain ⟨before', line', after', hmoved, hfront, htrim⟩ := hfirst.exists_shows_withReturns
    rw [← hreturned] at hmoved
    have hmovedShows := shows_of_isFirstAssignment hmoved
    rw [hfront, htrim] at hmovedShows
    have hmovedSpan := keySpan?_of_isFirstAssignment hmoved
    rw [hfront, htrim] at hmovedSpan
    refine ⟨hpiece, _, hmovedSpan, hmovedShows, ?_⟩
    rw [hmovedShows.offset, byteLength_withReturns, hshown.offset]

open Settings in
/-- An assignment between blanks is shown without them, and a carriage return before it moves it by
one. -/
theorem keySpan_shows_first_assignment_of_indented :
    let text := "[package]\n  name = \"\" \n"
    let returned := "[package]\r\n  name = \"\" \r\n"
    keySpan? text "name" = some ⟨12, 9⟩ ∧
      '\n' ∉ "name = \"\"".toList ∧ keySpan? returned "name" = some ⟨13, 9⟩ := by
  intro text returned
  have hspan : keySpan? text "name" = some ⟨12, 9⟩ := by decide +kernel
  obtain ⟨hpiece, moved, hmoved, hshows, hoffset⟩ :=
    (keySpan_shows_first_assignment text "name").2.2.2 ⟨12, 9⟩ "[package]\n  ".toList
      "name = \"\"".toList hspan ⟨by decide +kernel, by decide +kernel, by decide +kernel⟩
  refine ⟨hspan, hpiece, ?_⟩
  have hlength : moved.length = 9 := by rw [hshows.length]; decide +kernel
  have hmovedOffset : moved.offset = 13 := by rw [hoffset]; decide +kernel
  obtain ⟨offset, length⟩ := moved
  cases hlength
  cases hmovedOffset
  have hreturned : String.ofList (withReturns text.toList) = returned := by decide +kernel
  rw [hreturned] at hmoved
  exact hmoved

end CratePlan
