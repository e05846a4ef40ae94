import CratePlan.Proofs.GivenSettings
import CratePlan.Proofs.KeySpan
import CratePlan.Proofs.Statements
import Mathlib.Data.List.TakeDrop

/-! Where the text of a settings file is shown for a package that has no name or no version. What is refused
is the value that the tables of the text hold, but what is shown is the first line that assigns to a key of
that name. The line may stand under any header, so what it assigns need not be what is refused; under the
header of the package it is. -/

namespace CratePlan

open Text

namespace Toml

/-! ### Statements that start like an assignment -/

theorem isBareChar_lt {c : Char} (h : isBareChar c) : c.toNat < 128 := by
  rw [isBareChar, Bool.or_eq_true, decide_eq_true_eq] at h
  rcases h with hword | rfl
  · exact Identifier.isWordChar_lt hword
  · decide

theorem not_isBlank_of_isBareChar {c : Char} (h : isBareChar c) : ¬isBlank c :=
  Identifier.of_ascii (p := fun c => isBareChar c → ¬isBlank c) (by decide) (isBareChar_lt h) h

/-- A bare key is read as such, whatever blanks stand between it and the equals sign. -/
theorem scanKey_of_assignment {key gap more : List Char} (hkey : ∀ c ∈ key, isBareChar c)
    (hne : key ≠ []) (hgap : ∀ c ∈ gap, isBlank c) :
    scanKey (key ++ (gap ++ '=' :: more)) = some (String.ofList key, gap ++ '=' :: more) := by
  have hafter : ∀ c ∈ (gap ++ '=' :: more).head?, isBareChar c = false := by
    intro c hc
    cases gap with
    | nil =>
        cases hc
        decide
    | cons first rest =>
        cases hc
        exact Bool.eq_false_iff.mpr fun hbare => not_isBlank_of_isBareChar hbare (hgap c List.mem_cons_self)
  generalize gap ++ '=' :: more = after at *
  have htake : (key ++ after).takeWhile isBareChar = key := by
    rw [List.takeWhile_append_of_pos hkey]
    cases after with
    | nil => simp
    | cons c rest => simp [hafter c rfl]
  have hdrop : (key ++ after).dropWhile isBareChar = after := by
    rw [List.dropWhile_append_of_pos hkey]
    cases after with
    | nil => simp
    | cons c rest => simp [hafter c rfl]
  obtain ⟨c, rest, rfl⟩ := List.exists_cons_of_ne_nil hne
  have hc : isBareChar c := hkey c List.mem_cons_self
  unfold scanKey
  split
  · next heq =>
      cases heq
      exact absurd hc (by decide)
  · next heq =>
      cases heq
      exact absurd hc (by decide)
  · rw [List.span_eq_takeWhile_dropWhile, htake, hdrop]
    rfl

theorem head?_skipSpace {gap more : List Char} (hgap : ∀ c ∈ gap, isBlank c) :
    ∀ c ∈ (skipSpace (gap ++ '=' :: more)).head?, c = '=' ∨ isBlank c := by
  induction gap with
  | nil =>
      intro c hc
      cases hc
      exact Or.inl rfl
  | cons first rest ih =>
      rw [List.forall_mem_cons] at hgap
      rw [skipSpace, List.cons_append, List.dropWhile_cons, ← skipSpace]
      split_ifs
      · exact ih hgap.2
      · intro c hc
        cases hc
        exact Or.inr hgap.1

theorem scanKeyPath_of_assignment {room : Nat} {key gap more : List Char}
    (hkey : ∀ c ∈ key, isBareChar c) (hne : key ≠ []) (hgap : ∀ c ∈ gap, isBlank c)
    {path : List String} {last : String} {rest : List Char}
    (h : scanKeyPath room (key ++ (gap ++ '=' :: more)) = some (path, last, rest)) :
    path = [] ∧ last = String.ofList key := by
  cases room with
  | zero => cases h
  | succ room =>
      rw [scanKeyPath, scanKey_of_assignment hkey hne hgap] at h
      simp only [Option.bind_eq_bind, Option.bind_some] at h
      split at h
      · next after hafter =>
          have hhead : (skipSpace (gap ++ '=' :: more)).head? = some '.' := by rw [hafter]; rfl
          exact absurd (head?_skipSpace hgap '.' hhead) (by decide)
      · cases h
        exact ⟨rfl, rfl⟩

end Toml

namespace Settings

/-! ### The package in the tables of a text -/

/-- What a package must not leave blank. -/
inductive PackageKey where
  | name
  | version
deriving Repr, DecidableEq

namespace PackageKey

/-- The key in the table of the package. -/
def text : PackageKey → String
  | .name => "name"
  | .version => "version"

/-- What the settings have for the key. -/
def value (settings : Settings) : PackageKey → String
  | .name => settings.packageName
  | .version => settings.packageVersion

/-- The error of a blank value. -/
def blank (span : Option Span) : PackageKey → Error
  | .name => .blankPackageName span
  | .version => .blankPackageVersion span

end PackageKey

theorem eq_text_of_text? {value : Toml.Value} {s : String} (h : text? value = some s) :
    value = .text s := by
  unfold text? at h
  split at h <;> cases h
  rfl

theorem lookup_textEntries? {entries : Toml.Entries} {texts : List (String × String)}
    (h : textEntries? entries = some texts) {key : String} {value : Toml.Value}
    (hvalue : entries.lookup key = some value) :
    ∃ s, value = .text s ∧ texts.lookup key = some s := by
  induction entries generalizing texts with
  | nil => cases hvalue
  | cons entry rest ih =>
      rw [textEntries?, List.mapM_cons] at h
      obtain ⟨first, hfirst, h⟩ := Option.bind_eq_some_iff.mp h
      obtain ⟨others, hothers, h⟩ := Option.bind_eq_some_iff.mp h
      obtain ⟨s, hs, rfl⟩ := Option.map_eq_some_iff.mp hfirst
      cases h
      rw [List.lookup_cons] at hvalue ⊢
      cases hkey : key == entry.1 with
      | true =>
          rw [hkey] at hvalue
          exact ⟨s, Option.some.inj hvalue ▸ eq_text_of_text? hs, rfl⟩
      | false =>
          rw [hkey] at hvalue
          exact ih hothers hvalue

section

variable {root : Toml.Entries} {part : String} {names : List String} {values : List (Option String)}
  (h : sectionOf? root part names = some values)

include h

/-- A section is no list of tables. -/
theorem kindAt_ne_tables_of_sectionOf? : root.kindAt [part] ≠ some .tables := by
  intro hkind
  unfold sectionOf? at h
  split at h
  · next hnone => simp [Toml.Entries.kindAt, hnone] at hkind
  · next value hvalue =>
      rw [Toml.Entries.kindAt_singleton hvalue] at hkind
      cases value with
      | tables elements => cases h
      | _ => cases hkind

/-- What stands under a key of a section is text, and what the section sets. -/
theorem exists_text_of_sectionOf? {key : String} {kind : Toml.Kind}
    (hkind : root.kindAt [part, key] = some kind) :
    ∃ s texts, kind = .text s ∧ List.lookup key texts = some s ∧
      values = names.map fun name => texts.lookup name := by
  unfold sectionOf? at h
  split at h
  · next hnone => simp [Toml.Entries.kindAt, hnone] at hkind
  · next value hvalue =>
      unfold section? at h
      split at h
      · next origin entries =>
          obtain ⟨texts, htexts, h⟩ := Option.bind_eq_some_iff.mp h
          split_ifs at h
          cases h
          rw [Toml.Entries.kindAt_cons_of_table hvalue] at hkind
          cases hheld : entries.lookup key with
          | none => simp [Toml.Entries.kindAt, hheld] at hkind
          | some held =>
              rw [Toml.Entries.kindAt_singleton hheld] at hkind
              cases hkind
              obtain ⟨s, rfl, hlookup⟩ := lookup_textEntries? htexts hheld
              exact ⟨s, texts, rfl, hlookup, rfl⟩
      · simp [Toml.Entries.kindAt, hvalue] at hkind
      · cases h

end

theorem PackageKey.kind_eq_of_ofTables? (key : PackageKey) {root : Toml.Entries} {settings : Settings}
    (h : ofTables? root = some settings) :
    root.kindAt ["package"] ≠ some .tables ∧
      ∀ kind, root.kindAt ["package", key.text] = some kind → kind = .text (key.value settings) := by
  unfold ofTables? at h
  obtain ⟨package, hpackage, h⟩ := Option.bind_eq_some_iff.mp h
  obtain ⟨model, _, h⟩ := Option.bind_eq_some_iff.mp h
  obtain ⟨output, _, h⟩ := Option.bind_eq_some_iff.mp h
  obtain ⟨replacements, _, h⟩ := Option.bind_eq_some_iff.mp h
  obtain ⟨symbols, _, h⟩ := Option.bind_eq_some_iff.mp h
  split_ifs at h
  cases h
  refine ⟨kindAt_ne_tables_of_sectionOf? hpackage, fun kind hkind => ?_⟩
  obtain ⟨s, texts, rfl, hlookup, rfl⟩ := exists_text_of_sectionOf? hpackage hkind
  have hgiven (usual : String) : s = (texts.lookup key.text).getD usual := by
    rw [hlookup, Option.getD_some]
  cases key <;> exact congrArg Toml.Kind.text (hgiven _)

/-- Any entry for a key under the header of the package holds what the settings have for it. -/
theorem PackageKey.value_of_entry (key : PackageKey) {statements : List Toml.Placed}
    {root : Toml.Entries} {settings : Settings} (hroot : Toml.makeTables statements [] = some root)
    (hsettings : ofTables? root = some settings) {placed : Toml.Placed} (hplaced : placed ∈ statements)
    {value : Toml.Value} (hstatement : placed.statement = .entry ["package"] [] key.text value) :
    value = .text (key.value settings) := by
  obtain ⟨htable, htext⟩ := key.kind_eq_of_ofTables? hsettings
  rcases Toml.kindAt_of_mem hroot hplaced hstatement with hkind | ⟨path, hpath, hkind⟩
  · have hvalue := htext _ hkind
    cases value <;> cases hvalue
    rfl
  · rcases List.prefix_cons_iff.mp hpath with rfl | ⟨rest, rfl, hrest⟩
    · cases hkind
    · rw [List.prefix_nil.mp hrest] at hkind
      exact absurd hkind htable

/-! ### What is refused, and what is shown -/

theorem replacementError?_ne_blank (key : PackageKey) (text word replacement : String)
    (span : Option Span) : replacementError? text word replacement ≠ some (key.blank span) := by
  unfold replacementError?
  split
  · cases key <;> exact fun h => nomatch h
  · split_ifs <;> cases key <;> exact fun h => nomatch h

theorem aliasError?_ne_blank (key : PackageKey) (text symbol name : String) (span : Option Span) :
    aliasError? text symbol name ≠ some (key.blank span) := by
  intro h
  obtain ⟨fault, _, h⟩ := Option.map_eq_some_iff.mp h
  cases key <;> cases h

theorem of_error?_eq_blank {key : PackageKey} {settings : Settings} {text : String}
    {span : Option Span} (h : settings.error? text = some (key.blank span)) :
    isBlankText (key.value settings) = true ∧ span = keySpan? text key.text := by
  unfold error? at h
  split_ifs at h with hname hversion
  · cases key <;> cases h
    exact ⟨hname, rfl⟩
  · cases key <;> cases h
    exact ⟨hversion, rfl⟩
  · rw [Option.orElse_eq_orElse, Option.orElse_eq_or, Option.or_eq_some_iff] at h
    rcases h with h | ⟨_, h⟩
    · obtain ⟨entry, _, hentry⟩ := List.exists_of_findSome?_eq_some h
      exact absurd hentry (replacementError?_ne_blank key _ _ _ _)
    · obtain ⟨entry, _, hentry⟩ := List.exists_of_findSome?_eq_some h
      exact absurd hentry (aliasError?_ne_blank key _ _ _ _)

theorem of_ofText_eq_blank {key : PackageKey} {text : String} {span : Option Span}
    (h : ofText text = .error (key.blank span)) :
    ∃ root settings, Toml.scan text = some root ∧ ofTables? root = some settings ∧
      isBlankText (key.value settings) = true ∧ span = keySpan? text key.text := by
  unfold ofText at h
  split at h
  · cases key <;> cases h
  · next settings hfound =>
      obtain ⟨root, hroot, hsettings⟩ := Option.bind_eq_some_iff.mp hfound
      split at h
      · next error herror =>
          rw [Except.error.inj h] at herror
          obtain ⟨hblank, hspan⟩ := of_error?_eq_blank herror
          exact ⟨root, settings, hroot, hsettings, hblank, hspan⟩
      · cases h

theorem PackageKey.isBareChar_of_mem_text (key : PackageKey) :
    ∀ c ∈ key.text.toList, Toml.isBareChar c := by
  cases key <;> exact List.all_eq_true.mp (by decide)

/-- A statement that starts where the span of a key does is an entry for that key. -/
theorem PackageKey.exists_entry_of_shows (key : PackageKey) {text : String} {span : Span}
    (hspan : keySpan? text key.text = some span) {statements : List Toml.Placed}
    (hstatements : Toml.statements? text = some statements) {placed : Toml.Placed}
    (hplaced : placed ∈ statements) {front : List Char} (hfront : text.toList = front ++ placed.left)
    (hoffset : span.offset = byteLength front) :
    ∃ here value, placed.statement = .entry here [] key.text value := by
  obtain ⟨before, line, after, hfirst, hshows⟩ := keySpan?_eq_some_iff.mp hspan
  obtain ⟨gap, rest, htrim, hgap⟩ := hfirst.assigns.exists_trim_eq
  obtain ⟨more, hmore⟩ := hshows.within
  have hsame : front = unlines before ++ line.takeWhile isBlank :=
    eq_of_prefix_of_byteLength_eq ⟨_, hfront.symm⟩ ((List.prefix_append _ _).trans hshows.within)
      (hoffset.symm.trans hshows.offset)
  have hleft : placed.left = key.text.toList ++ (gap ++ '=' :: (rest ++ more)) := by
    rw [hfront, hsame, List.append_assoc, List.append_cancel_left_eq, htrim] at hmore
    rw [← hmore]
    simp only [List.append_assoc, List.cons_append]
  have hne : key.text.toList ≠ [] := by cases key <;> decide
  rcases (Toml.standsIn_of_mem_statements? hstatements hplaced).starts with
    hbracket | ⟨here, path, last, value, tail, hstatement, hread⟩
  · rw [hleft, List.head?_append_of_ne_nil _ hne] at hbracket
    exact absurd (key.isBareChar_of_mem_text _ (List.mem_of_head? hbracket)) (by decide)
  · rw [hleft] at hread
    obtain ⟨rfl, rfl⟩ :=
      Toml.scanKeyPath_of_assignment key.isBareChar_of_mem_text hne hgap hread
    rw [String.ofList_toList] at hstatement
    exact ⟨here, value, hstatement⟩

end Settings

open Settings in
/-- A text that is refused for a blank name or version of the package, and shown at a span. Its statements
make tables which hold a blank text as the value that is refused; every entry for the key under the header
of the package has that value. The span shows the first line that is an assignment to the key, whatever
table it stands in. Each statement has a place in the text, and one that starts where the span does is an
entry for the key under some header; only under that of the package is its value known to be the one
refused. -/
theorem blank_package_is_shown_at_first_assignment (key : PackageKey) {text : String} {span : Span}
    (h : Settings.ofText text = .error (key.blank (some span))) :
    ∃ statements root settings, Toml.statements? text = some statements ∧
      Toml.makeTables statements [] = some root ∧ ofTables? root = some settings ∧
      trim (key.value settings).toList = [] ∧
      (∀ placed ∈ statements, ∀ value,
        placed.statement = .entry ["package"] [] key.text value → value = .text (key.value settings)) ∧
      (∃ before line after,
        IsFirstAssignment key.text.toList line before after (text.toList.splitOn '\n') ∧
          span.Shows text.toList (unlines before ++ line.takeWhile isBlank) (trim line)) ∧
      ∀ placed ∈ statements, ∃ front, text.toList = front ++ placed.left ∧
        (span.offset = byteLength front →
          ∃ here value, placed.statement = .entry here [] key.text value) := by
  obtain ⟨root, settings, hroot, hsettings, hblank, hspan⟩ := of_ofText_eq_blank h
  rw [Toml.scan_eq] at hroot
  obtain ⟨statements, hstatements, htables⟩ := Option.bind_eq_some_iff.mp hroot
  refine ⟨statements, root, settings, hstatements, htables, hsettings, isBlankText_iff.mp hblank,
    fun placed hplaced value => key.value_of_entry htables hsettings hplaced,
    keySpan?_eq_some_iff.mp hspan.symm, fun placed hplaced => ?_⟩
  obtain ⟨front, hfront⟩ := (Toml.standsIn_of_mem_statements? hstatements hplaced).within
  exact ⟨front, hfront.symm,
    key.exists_entry_of_shows hspan.symm hstatements hplaced hfront.symm⟩

open Settings in
/-- A name of one blank is shown by its line, and nothing but the blank is assigned to the name of the
package. -/
theorem blank_package_is_shown_at_first_assignment_of_blank :
    let text := "[package]\nname = \" \"\n"
    let blank : Settings := { packageName := " " }
    Settings.ofText text = .error (PackageKey.name.blank (some ⟨10, 10⟩)) ∧
      trim blank.packageName.toList = [] ∧
      ∃ statements, Toml.statements? text = some statements ∧
        ∀ placed ∈ statements, ∀ value,
          placed.statement = .entry ["package"] [] "name" value → value = .text " " := by
  intro text blank
  have htext : Settings.ofText text = .error (PackageKey.name.blank (some ⟨10, 10⟩)) := by
    decide +kernel
  have hfound : (Toml.scan text).bind ofTables? = some blank := by decide +kernel
  obtain ⟨statements, root, settings, hstatements, htables, hsettings, hblank, hentries, _⟩ :=
    blank_package_is_shown_at_first_assignment .name htext
  rw [Toml.scan_eq, hstatements, Option.bind_some, htables, Option.bind_some, hsettings,
    Option.some.injEq] at hfound
  subst hfound
  exact ⟨htext, hblank, statements, hstatements, hentries⟩

open Settings in
/-- The package has no name, but what is shown is the name of an alias that is in order. -/
theorem blank_package_is_shown_at_alias :
    let text := "[symbol_aliases]\nname = \"x\"\n\n[package]\nname = \"\"\n"
    Settings.ofText text = .error (.blankPackageName (some ⟨17, 10⟩)) ∧
      Span.Shows ⟨17, 10⟩ text.toList "[symbol_aliases]\n".toList "name = \"x\"".toList := by
  exact ⟨by decide +kernel, ⟨by decide +kernel, by decide +kernel, by decide +kernel⟩⟩

end CratePlan
