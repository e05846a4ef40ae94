import CratePlan.Proofs.DistinctKeys
import CratePlan.Proofs.ScannedRest

/-! The statements of a text, and what its tables keep of each. The text is taken apart into headers and
entries first, each with its place in the text, and then the statements make the tables one after another;
that comes to the same as making the tables on the way. A statement never takes back what an earlier one has
put into a table: a text stays the text that it is, and a list of tables stays one. -/

namespace CratePlan.Toml

/-! ### The statements of a text -/

/-- A statement: a header in double or in single brackets, or an entry under the header `here`. -/
inductive Statement where
  | element (path : List String) (key : String)
  | table (path : List String) (key : String)
  | entry (here path : List String) (key : String) (value : Value)
deriving Repr

/-- The tables after a statement. -/
def Statement.apply : Statement → Entries → Option Entries
  | .element path key, root => root.openElement path key
  | .table path key, root => root.openTable path key
  | .entry here path key value, root => root.assignAt here path key value

/-- A statement with its place, which is told by the text from there on. -/
structure Placed where
  left : List Char
  statement : Statement
deriving Repr

/-- The statements of a text, of which the first entries belong to the header `here`. -/
def statementsFrom : Nat → List String → List Char → Option (List Placed)
  | 0, _, _ => none
  | fuel + 1, here, cs =>
    match skipSpace cs with
    | [] => some []
    | '[' :: '[' :: rest => do
      let (path, key, rest) ← scanKeyPath sizeLimit (skipSpace rest)
      match rest with
      | ']' :: ']' :: rest => do
        let others ← statementsFrom fuel (path ++ [key]) (← finishLine rest)
        return ⟨skipSpace cs, .element path key⟩ :: others
      | _ => none
    | '[' :: rest => do
      let (path, key, rest) ← scanKeyPath sizeLimit (skipSpace rest)
      match rest with
      | ']' :: rest => do
        let others ← statementsFrom fuel (path ++ [key]) (← finishLine rest)
        return ⟨skipSpace cs, .table path key⟩ :: others
      | _ => none
    | cs =>
      match finishLine cs with
      | some rest => statementsFrom fuel here rest
      | none => do
        let (path, key, rest) ← scanKeyPath sizeLimit cs
        match rest with
        | '=' :: rest => do
          let (value, rest) ← scanValue fuel sizeLimit (skipSpace rest)
          let others ← statementsFrom fuel here (← finishLine rest)
          return ⟨cs, .entry here path key value⟩ :: others
        | _ => none

/-- The statements of a text, which may start with a byte order mark. -/
def statements? (text : String) : Option (List Placed) :=
  let cs := match text.toList with
    | '\uFEFF' :: rest => rest
    | cs => cs
  statementsFrom (2 * cs.length + 2) [] cs

/-- The tables that statements make of those there are, one after another. -/
def makeTables (statements : List Placed) (root : Entries) : Option Entries :=
  statements.foldlM (fun root placed => placed.statement.apply root) root

theorem makeTables_cons (placed : Placed) (rest : List Placed) (root : Entries) :
    makeTables (placed :: rest) root = (placed.statement.apply root).bind (makeTables rest) :=
  rfl

/-- A statement is carried out before the rest of its line is looked at; it might as well be the other way
round. -/
theorem apply_bind_line (placed : Placed) (root : Entries) (line : Option (List Char))
    (others : List Char → Option (List Placed)) :
    ((placed.statement.apply root).bind fun grown =>
        line.bind fun next => (others next).bind fun rest => makeTables rest grown) =
      (line.bind fun next => (others next).bind fun rest => some (placed :: rest)).bind fun statements =>
        makeTables statements root := by
  cases line with
  | none => cases placed.statement.apply root <;> rfl
  | some next =>
      simp only [Option.bind_some]
      cases others next with
      | none => cases placed.statement.apply root <;> rfl
      | some rest => rfl

theorem statementsFrom_of_plain {fuel : Nat} {here : List String} {cs : List Char}
    (hnil : skipSpace cs ≠ []) (hbracket : (skipSpace cs).head? ≠ some '[') :
    statementsFrom (fuel + 1) here cs =
      (match finishLine (skipSpace cs) with
      | some rest => statementsFrom fuel here rest
      | none => do
        let (path, key, rest) ← scanKeyPath sizeLimit (skipSpace cs)
        match rest with
        | '=' :: rest => do
          let (value, rest) ← scanValue fuel sizeLimit (skipSpace rest)
          let others ← statementsFrom fuel here (← finishLine rest)
          return ⟨skipSpace cs, .entry here path key value⟩ :: others
        | _ => none) := by
  rw [statementsFrom]
  generalize skipSpace cs = text at *
  split
  · exact absurd rfl hnil
  · exact absurd rfl hbracket
  · exact absurd rfl hbracket
  · rfl

theorem scanStatements_eq (fuel : Nat) (here : List String) (root : Entries) (cs : List Char) :
    scanStatements fuel here root cs =
      (statementsFrom fuel here cs).bind fun statements => makeTables statements root := by
  induction fuel generalizing here root cs with
  | zero => rfl
  | succ fuel ih =>
      rw [scanStatements]
      split
      · next heq => simp only [statementsFrom, heq]; rfl
      · next rest heq =>
          simp only [statementsFrom, heq, ih]
          cases scanKeyPath sizeLimit (skipSpace rest) with
          | none => rfl
          | some parts =>
              obtain ⟨path, key, after⟩ := parts
              simp only [Option.bind_eq_bind, Option.bind_some]
              split
              · exact apply_bind_line ⟨_, .element path key⟩ root _ _
              · simp
      · next rest helement heq =>
          simp only [statementsFrom, heq, ih]
          cases scanKeyPath sizeLimit (skipSpace rest) with
          | none => rfl
          | some parts =>
              obtain ⟨path, key, after⟩ := parts
              simp only [Option.bind_eq_bind, Option.bind_some]
              split
              · exact apply_bind_line ⟨_, .table path key⟩ root _ _
              · simp
      · next hnil _ hbracket =>
          have hhead : (skipSpace cs).head? ≠ some '[' := by
            rw [Ne, List.head?_eq_some_iff]
            rintro ⟨rest, hrest⟩
            exact hbracket rest hrest
          rw [statementsFrom_of_plain hnil hhead]
          simp only [ih]
          cases finishLine (skipSpace cs) with
          | some rest => rfl
          | none =>
              cases scanKeyPath sizeLimit (skipSpace cs) with
              | none => rfl
              | some parts =>
                  obtain ⟨path, key, after⟩ := parts
                  simp only [Option.bind_eq_bind, Option.bind_some]
                  split
                  · next after =>
                      change _ = ((scanValue fuel sizeLimit (skipSpace after)).bind _).bind _
                      cases scanValue fuel sizeLimit (skipSpace after) with
                      | none => rfl
                      | some scanned => exact apply_bind_line ⟨_, .entry here path key scanned.1⟩ root _ _
                  · simp

/-- The tables of a text are those that its statements make. -/
theorem scan_eq (text : String) :
    scan text = (statements? text).bind fun statements => makeTables statements [] :=
  scanStatements_eq _ [] [] _

/-- A statement stands in a text: it is at the end of it from its place on, and starts there with a bracket or
with the key of its entry. -/
structure Placed.StandsIn (placed : Placed) (cs : List Char) : Prop where
  within : placed.left <:+ cs
  starts : placed.left.head? = some '[' ∨
    ∃ here path key value rest, placed.statement = .entry here path key value ∧
      scanKeyPath sizeLimit placed.left = some (path, key, rest)

theorem Placed.StandsIn.of_suffix {placed : Placed} {cs next : List Char} (h : placed.StandsIn next)
    (hnext : next <:+ cs) : placed.StandsIn cs :=
  { h with within := h.within.trans hnext }

/-- One step of reading: a line gives one statement or none, and the others are read from what is left of
the text. -/
def ReadsOn (fuel : Nat) (cs : List Char) (statements : List Placed) : Prop :=
  ∃ first others here next, statements = first ++ others ∧ (∀ placed ∈ first, placed.StandsIn cs) ∧
    next <:+ cs ∧ statementsFrom fuel here next = some others

theorem readsOn_of_line {fuel : Nat} {here : List String} {cs : List Char} {line : Option (List Char)}
    {placed : Placed} {statements : List Placed}
    (h : (line.bind fun next => (statementsFrom fuel here next).bind fun others =>
      some (placed :: others)) = some statements)
    (hplaced : placed.StandsIn cs) (hline : ∀ next, line = some next → next <:+ cs) :
    ReadsOn fuel cs statements := by
  obtain ⟨next, hnext, h⟩ := Option.bind_eq_some_iff.mp h
  obtain ⟨others, hothers, h⟩ := Option.bind_eq_some_iff.mp h
  cases h
  exact ⟨[placed], others, here, next, rfl, List.forall_mem_singleton.mpr hplaced, hline next hnext,
    hothers⟩

theorem readsOn_of_statementsFrom {fuel : Nat} {here : List String} {cs : List Char}
    {statements : List Placed} (h : statementsFrom (fuel + 1) here cs = some statements) :
    statements = [] ∨ ReadsOn fuel cs statements := by
  have hleft := skipSpace_suffix cs
  unfold statementsFrom at h
  split at h
  · cases h
    exact Or.inl rfl
  · next bracketed heq =>
      obtain ⟨⟨path, key, after⟩, hkey, h⟩ := Option.bind_eq_some_iff.mp h
      have hafter : after <:+ skipSpace cs := by
        rw [heq]
        exact (suffix_of_scanKeyPath hkey).trans
          ((skipSpace_suffix _).trans (List.suffix_append ['[', '['] _))
      dsimp only at h
      split at h
      · refine Or.inr (readsOn_of_line h ⟨hleft, Or.inl (by rw [heq]; rfl)⟩ fun next hnext => ?_)
        exact (suffix_of_finishLine hnext).trans
          ((List.suffix_append [']', ']'] _).trans (hafter.trans hleft))
      · cases h
  · next bracketed _ heq =>
      obtain ⟨⟨path, key, after⟩, hkey, h⟩ := Option.bind_eq_some_iff.mp h
      have hafter : after <:+ skipSpace cs := by
        rw [heq]
        exact (suffix_of_scanKeyPath hkey).trans ((skipSpace_suffix _).trans (List.suffix_cons _ _))
      dsimp only at h
      split at h
      · refine Or.inr (readsOn_of_line h ⟨hleft, Or.inl (by rw [heq]; rfl)⟩ fun next hnext => ?_)
        exact (suffix_of_finishLine hnext).trans ((List.suffix_cons _ _).trans (hafter.trans hleft))
      · cases h
  · split at h
    · next rest hline =>
        exact Or.inr ⟨[], statements, here, rest, rfl, List.forall_mem_nil _,
          (suffix_of_finishLine hline).trans hleft, h⟩
    · obtain ⟨⟨path, key, after⟩, hkey, h⟩ := Option.bind_eq_some_iff.mp h
      have hafter : after <:+ cs := (suffix_of_scanKeyPath hkey).trans hleft
      dsimp only at h
      split at h
      · obtain ⟨⟨value, last⟩, hvalue, h⟩ := Option.bind_eq_some_iff.mp h
        have hlast : last <:+ cs := (suffix_of_scanValue hvalue).trans
          ((skipSpace_suffix _).trans ((List.suffix_cons _ _).trans hafter))
        exact Or.inr (readsOn_of_line h ⟨hleft, Or.inr ⟨here, path, key, value, _, rfl, hkey⟩⟩
          fun next hnext => (suffix_of_finishLine hnext).trans hlast)
      · cases h

theorem standsIn_of_mem_statementsFrom {fuel : Nat} {here : List String} {cs : List Char}
    {statements : List Placed} (h : statementsFrom fuel here cs = some statements) :
    ∀ placed ∈ statements, placed.StandsIn cs := by
  induction fuel generalizing here cs statements with
  | zero => cases h
  | succ fuel ih =>
      rcases readsOn_of_statementsFrom h with rfl | ⟨first, others, here, next, rfl, hfirst, hnext, hothers⟩
      · exact List.forall_mem_nil _
      · rw [List.forall_mem_append]
        exact ⟨hfirst, fun placed hplaced => (ih hothers placed hplaced).of_suffix hnext⟩

theorem standsIn_of_mem_statements? {text : String} {statements : List Placed}
    (h : statements? text = some statements) {placed : Placed} (hplaced : placed ∈ statements) :
    placed.StandsIn text.toList := by
  refine (standsIn_of_mem_statementsFrom h placed hplaced).of_suffix ?_
  split
  · next heq =>
      rw [heq]
      exact List.suffix_cons _ _
  · exact List.suffix_refl _

/-! ### What stands in tables -/

/-- What kind of value stands somewhere; of a text, which. -/
inductive Kind where
  | text (s : String)
  | plain
  | tables
  | table
deriving Repr, DecidableEq

def Value.kind : Value → Kind
  | .text s => .text s
  | .scalar => .plain
  | .moment _ => .plain
  | .list _ => .plain
  | .tables _ => .tables
  | .table _ _ => .table

namespace Entries

/-- The kind of the value that a path leads to through tables. -/
def kindAt : List String → Entries → Option Kind
  | [], _ => some .table
  | key :: path, entries =>
    match entries.lookup key with
    | some (.table _ inner) => kindAt path inner
    | some value => if path = [] then some value.kind else none
    | none => none

variable {key : String} {value : Value} {entries inner result : Entries}

theorem kindAt_singleton (h : entries.lookup key = some value) :
    kindAt [key] entries = some value.kind := by
  cases value <;> simp [kindAt, h, Value.kind]

theorem kindAt_cons_of_table {origin : Origin} {path : List String}
    (h : entries.lookup key = some (.table origin inner)) :
    kindAt (key :: path) entries = kindAt path inner := by
  simp only [kindAt, h]

theorem kindAt_cons_congr {other : Entries} (h : other.lookup key = entries.lookup key)
    (path : List String) : kindAt (key :: path) other = kindAt (key :: path) entries := by
  simp only [kindAt, h]

/-- A table has grown into another: whatever a path leads to there, it leads to a value of the same kind
here. -/
def Extends (entries result : Entries) : Prop :=
  ∀ path kind, kindAt path entries = some kind → kindAt path result = some kind

theorem Extends.refl (entries : Entries) : Extends entries entries :=
  fun _ _ h => h

theorem Extends.trans {middle : Entries} (h : Extends entries middle) (h' : Extends middle result) :
    Extends entries result :=
  fun path kind hkind => h' path kind (h path kind hkind)

theorem lookup_concat {other : String} (hne : other ≠ key) :
    (entries ++ [(key, value)]).lookup other = entries.lookup other := by
  have hother : [(key, value)].lookup other = none := by
    rw [List.lookup_cons, beq_eq_false_iff_ne.mpr hne, List.lookup_nil]
  rw [List.lookup_append, hother, Option.or_none]

theorem lookup_concat_self (hnew : entries.lookup key = none) :
    (entries ++ [(key, value)]).lookup key = some value := by
  rw [List.lookup_append, hnew, Option.none_or, List.lookup_cons_self]

theorem lookup_replace {other : String} (hne : other ≠ key) :
    (replace key value entries).lookup other = entries.lookup other := by
  induction entries with
  | nil => rfl
  | cons entry rest ih =>
      rw [replace, List.map_cons, ← replace]
      by_cases hentry : entry.1 = key
      · have hother : (other == entry.1) = false := beq_eq_false_iff_ne.mpr (hentry ▸ hne)
        rw [if_pos hentry, List.lookup_cons, List.lookup_cons, beq_eq_false_iff_ne.mpr hne, hother, ih]
      · rw [if_neg hentry, List.lookup_cons, List.lookup_cons, ih]

theorem lookup_replace_self {old : Value} (hold : entries.lookup key = some old) :
    (replace key value entries).lookup key = some value := by
  induction entries with
  | nil => cases hold
  | cons entry rest ih =>
      rw [replace, List.map_cons, ← replace]
      by_cases hentry : entry.1 = key
      · rw [if_pos hentry, List.lookup_cons_self]
      · have hkey : (key == entry.1) = false := beq_eq_false_iff_ne.mpr (Ne.symm hentry)
        rw [List.lookup_cons, hkey] at hold
        rw [if_neg hentry, List.lookup_cons, hkey]
        exact ih hold

/-- To compare two tables, it is enough to look at the one key that was written to. -/
theorem extends_of_lookup {entries result : Entries}
    (hothers : ∀ other, other ≠ key → result.lookup other = entries.lookup other)
    (hkey : ∀ path kind, kindAt (key :: path) entries = some kind →
      kindAt (key :: path) result = some kind) : Extends entries result := by
  rintro (_ | ⟨other, path⟩) kind hkind
  · exact hkind
  · by_cases hother : other = key
    · subst hother
      exact hkey path kind hkind
    · rw [kindAt_cons_congr (hothers other hother)]
      exact hkind

theorem Extends.concat (hnew : entries.lookup key = none) :
    Extends entries (entries ++ [(key, value)]) := by
  refine extends_of_lookup (fun other hother => lookup_concat hother) fun path kind hkind => ?_
  simp only [kindAt, hnew] at hkind
  cases hkind

theorem Extends.replace_table {origin origin' : Origin} {inner' : Entries}
    (hold : entries.lookup key = some (.table origin inner)) (h : Extends inner inner') :
    Extends entries (replace key (.table origin' inner') entries) := by
  refine extends_of_lookup (fun other hother => lookup_replace hother) fun path kind hkind => ?_
  rw [kindAt_cons_of_table hold] at hkind
  rw [kindAt_cons_of_table (lookup_replace_self hold)]
  exact h path kind hkind

theorem Extends.replace_tables {elements elements' : List Entries}
    (hold : entries.lookup key = some (.tables elements)) :
    Extends entries (replace key (.tables elements') entries) := by
  refine extends_of_lookup (fun other hother => lookup_replace hother) fun path kind hkind => ?_
  simp only [kindAt, hold] at hkind
  simp only [kindAt, lookup_replace_self hold]
  exact hkind

/-! ### What statements keep -/

/-- A change that lets tables grow. -/
def Grows (change : Origin → Entries → Option Entries) : Prop :=
  ∀ {origin : Origin} {entries result : Entries},
    change origin entries = some result → Extends entries result

theorem Grows.update {change : Origin → Entries → Option Entries} (hchange : Grows change)
    (dotted : Bool) (path : List String) :
    Grows fun origin entries => update dotted change origin path entries := by
  intro origin entries result hresult
  dsimp only at hresult
  induction path generalizing origin entries result with
  | nil => exact hchange hresult
  | cons key path ih =>
      rw [Entries.update] at hresult
      split at hresult
      · next hnew =>
          obtain ⟨inner, _, hresult⟩ := Option.bind_eq_some_iff.mp hresult
          cases hresult
          exact .concat hnew
      · next hold =>
          split_ifs at hresult
          obtain ⟨inner, hinner, hresult⟩ := Option.bind_eq_some_iff.mp hresult
          cases hresult
          exact .replace_table hold (ih hinner)
      · next elements hold =>
          split at hresult
          · cases hresult
          · split_ifs at hresult
            obtain ⟨inner, _, hresult⟩ := Option.bind_eq_some_iff.mp hresult
            cases hresult
            exact .replace_tables hold
      · cases hresult

theorem add_eq_some_iff :
    add key value entries = some result ↔
      entries.lookup key = none ∧ result = entries ++ [(key, value)] := by
  unfold add
  split
  · next hnew => simp [hnew, eq_comm]
  · next hold => simp [hold]

theorem extends_add (h : add key value entries = some result) : Extends entries result := by
  obtain ⟨hnew, rfl⟩ := add_eq_some_iff.mp h
  exact .concat hnew

theorem extends_assign {path : List String} (h : assign path key value entries = some result) :
    Extends entries result := by
  have hadd : Grows fun origin inner =>
      if origin = .dotted then Entries.add key value inner else none := by
    intro origin inner changed hchanged
    dsimp only at hchanged
    split_ifs at hchanged
    exact extends_add hchanged
  unfold assign at h
  split at h
  · exact extends_add h
  · exact hadd.update true _ h

theorem extends_assignAt {here path : List String}
    (h : assignAt here path key value entries = some result) : Extends entries result := by
  have hassign : Grows fun _ inner => assign path key value inner := fun h => extends_assign h
  exact hassign.update false here h

theorem extends_openTable {path : List String} (h : openTable path key entries = some result) :
    Extends entries result := by
  refine Grows.update ?_ false path h
  intro _ inner changed hchanged
  dsimp only at hchanged
  split at hchanged
  · next hnew =>
      cases hchanged
      exact .concat hnew
  · next implied hold =>
      cases hchanged
      exact .replace_table hold (.refl implied)
  · cases hchanged

theorem extends_openElement {path : List String} (h : openElement path key entries = some result) :
    Extends entries result := by
  refine Grows.update ?_ false path h
  intro _ inner changed hchanged
  dsimp only at hchanged
  split at hchanged
  · next hnew =>
      cases hchanged
      exact .concat hnew
  · next elements hold =>
      cases hchanged
      exact .replace_tables hold
  · cases hchanged

/-- An entry stands under its header, unless a list of tables is on the way there, whose last table it then
is in. -/
theorem kindAt_assignAt {here : List String} (h : assignAt here [] key value entries = some result) :
    kindAt (here ++ [key]) result = some value.kind ∨
      ∃ path, path <+: here ∧ kindAt path result = some .tables := by
  unfold assignAt at h
  generalize Origin.header = origin at h
  induction here generalizing origin entries result with
  | nil =>
      obtain ⟨hnew, rfl⟩ := add_eq_some_iff.mp h
      exact Or.inl (kindAt_singleton (lookup_concat_self hnew))
  | cons front here ih =>
      have hinside {origin : Origin} {inner result : Entries}
          (hlookup : result.lookup front = some (.table origin inner))
          (hinner : kindAt (here ++ [key]) inner = some value.kind ∨
            ∃ path, path <+: here ∧ kindAt path inner = some .tables) :
          kindAt (front :: here ++ [key]) result = some value.kind ∨
            ∃ path, path <+: front :: here ∧ kindAt path result = some .tables := by
        rcases hinner with hkind | ⟨path, hpath, hkind⟩
        · rw [List.cons_append, kindAt_cons_of_table hlookup]
          exact Or.inl hkind
        · refine Or.inr ⟨front :: path, List.cons_prefix_cons.mpr ⟨rfl, hpath⟩, ?_⟩
          rw [kindAt_cons_of_table hlookup]
          exact hkind
      rw [Entries.update] at h
      split at h
      · next hnew =>
          obtain ⟨inner, hinner, h⟩ := Option.bind_eq_some_iff.mp h
          cases h
          exact hinside (lookup_concat_self hnew) (ih _ hinner)
      · next hold =>
          split at h
          · cases h
          · obtain ⟨inner, hinner, h⟩ := Option.bind_eq_some_iff.mp h
            cases h
            exact hinside (lookup_replace_self hold) (ih _ hinner)
      · next elements hold =>
          split at h
          · cases h
          · rw [if_neg Bool.false_ne_true] at h
            obtain ⟨inner, _, h⟩ := Option.bind_eq_some_iff.mp h
            cases h
            refine Or.inr ⟨[front], ⟨here, rfl⟩, ?_⟩
            exact kindAt_singleton (lookup_replace_self hold)
      · cases h

end Entries

theorem Statement.extends_apply {statement : Statement} {root result : Entries}
    (h : statement.apply root = some result) : root.Extends result := by
  cases statement with
  | element path key => exact Entries.extends_openElement h
  | table path key => exact Entries.extends_openTable h
  | entry here path key value => exact Entries.extends_assignAt h

theorem extends_makeTables {statements : List Placed} {root result : Entries}
    (h : makeTables statements root = some result) : root.Extends result := by
  induction statements generalizing root with
  | nil =>
      cases h
      exact .refl _
  | cons placed rest ih =>
      rw [makeTables_cons] at h
      obtain ⟨grown, hgrown, h⟩ := Option.bind_eq_some_iff.mp h
      exact (Statement.extends_apply hgrown).trans (ih h)

/-- What an entry puts under its header stands there still when all statements are done. -/
theorem kindAt_of_mem {statements : List Placed} {root result : Entries}
    (h : makeTables statements root = some result) {placed : Placed} (hplaced : placed ∈ statements)
    {here : List String} {key : String} {value : Value}
    (hstatement : placed.statement = .entry here [] key value) :
    result.kindAt (here ++ [key]) = some value.kind ∨
      ∃ path, path <+: here ∧ result.kindAt path = some .tables := by
  induction statements generalizing root with
  | nil => exact absurd hplaced List.not_mem_nil
  | cons first rest ih =>
      rw [makeTables_cons] at h
      obtain ⟨grown, hgrown, hrest⟩ := Option.bind_eq_some_iff.mp h
      rcases List.mem_cons.mp hplaced with rfl | hplaced
      · rw [hstatement] at hgrown
        have hextends := extends_makeTables hrest
        rcases Entries.kindAt_assignAt hgrown with hkind | ⟨path, hpath, hkind⟩
        · exact Or.inl (hextends _ _ hkind)
        · exact Or.inr ⟨path, hpath, hextends _ _ hkind⟩
      · exact ih hrest hplaced

end CratePlan.Toml
