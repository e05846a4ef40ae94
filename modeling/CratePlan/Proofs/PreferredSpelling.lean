import CratePlan.Proofs.DistinctKeys
import CratePlan.Proofs.FreeName

/-! Settings and naming agree on what may stand in for a word. The rules for settings ask for an
identifier that is no keyword, naming for a text that is not empty, not reserved and without a digit at
its start: what passes the former passes the latter. A file gives each word one replacement, so the one
that naming finds is the one that was checked. -/

namespace CratePlan

open Text Identifier

namespace Settings

/-! ### One replacement for each word -/

theorem keys_textEntries? {entries : Toml.Entries} {list : List (String × String)}
    (h : textEntries? entries = some list) : list.map Prod.fst = entries.map Prod.fst := by
  induction entries generalizing list with
  | nil =>
      cases h
      rfl
  | cons entry rest ih =>
      rw [textEntries?, List.mapM_cons] at h
      obtain ⟨first, hfirst, h⟩ := Option.bind_eq_some_iff.mp h
      obtain ⟨others, hothers, h⟩ := Option.bind_eq_some_iff.mp h
      obtain ⟨s, _, rfl⟩ := Option.map_eq_some_iff.mp hfirst
      cases h
      rw [List.map_cons, List.map_cons, ih hothers]

theorem nodup_keys_textTable? {value : Toml.Value} (hvalue : value.IsKeyed)
    {table : OrderedMap String String} (h : textTable? value = some table) : table.keys.Nodup := by
  unfold textTable? at h
  split at h
  · next origin entries =>
      obtain ⟨list, hlist, h⟩ := Option.bind_eq_some_iff.mp h
      cases h
      have hentries := Toml.Entries.isKeyed_table_iff.mp hvalue
      rw [OrderedMap.keys, ((List.mergeSort_perm list _).map Prod.fst).nodup_iff,
        keys_textEntries? hlist]
      exact hentries.keys
  · cases h
    exact List.nodup_singleton _
  · cases h

theorem nodup_keys_tableOf? {root : Toml.Entries} (hroot : root.IsKeyed) {key : String}
    {table : OrderedMap String String} (h : tableOf? root key = some table) :
    table.keys.Nodup := by
  unfold tableOf? at h
  split at h
  · cases h
    exact List.nodup_nil
  · next hvalue => exact nodup_keys_textTable? (hroot.of_lookup hvalue) h

theorem nodup_replacements_ofTables? {root : Toml.Entries} (hroot : root.IsKeyed)
    {settings : Settings} (h : ofTables? root = some settings) :
    settings.replacements.keys.Nodup := by
  unfold ofTables? at h
  obtain ⟨package, _, h⟩ := Option.bind_eq_some_iff.mp h
  obtain ⟨model, _, h⟩ := Option.bind_eq_some_iff.mp h
  obtain ⟨output, _, h⟩ := Option.bind_eq_some_iff.mp h
  obtain ⟨replacements, hreplacements, h⟩ := Option.bind_eq_some_iff.mp h
  obtain ⟨symbols, _, h⟩ := Option.bind_eq_some_iff.mp h
  split_ifs at h
  cases h
  exact nodup_keys_tableOf? hroot hreplacements

theorem nodup_replacements_ofText {text : String} {settings : Settings}
    (h : ofText text = .ok settings) : settings.replacements.keys.Nodup := by
  unfold ofText at h
  split at h
  · cases h
  · next found hfound =>
      obtain ⟨root, hroot, hsettings⟩ := Option.bind_eq_some_iff.mp hfound
      split at h
      · cases h
      · cases h
        exact nodup_replacements_ofTables? (Toml.isKeyed_scan hroot) hsettings

end Settings

/-! ### Accepted replacements -/

section

variable {text : String} {settings : Settings} (htext : Settings.ofText text = .ok settings)

include htext

/-- A replacement that a file may give needs no further change. -/
theorem isFree_of_mem_replacements {word replacement : String}
    (hentry : (word, replacement) ∈ settings.replacements.entries) :
    settings.naming.IsFree isWordChar replacement := by
  have herror := (Settings.entries_of_error? (Settings.error?_of_ofText htext)).1 _ hentry
  have hlegal := Settings.isLegal_of_replacementError? herror
  refine ⟨hlegal.written, hlegal.no_digit, ?_⟩
  rw [Naming.isReserved_of_spelled (Naming.goesByKeywords_naming settings) hlegal.written.spelled]
  unfold Settings.replacementError? at herror
  split at herror
  · cases herror
  · split_ifs at herror with hkeyword
    exact Bool.not_eq_true _ ▸ hkeyword

/-- A word that a file gives a replacement is escaped to that. -/
theorem escape_of_mem_replacements {word replacement : String}
    (hentry : (word, replacement) ∈ settings.replacements.entries) :
    settings.naming.escape word = replacement := by
  have hfind : settings.naming.reserved.replacements.find? word = some replacement :=
    OrderedMap.find?_of_mem (Settings.nodup_replacements_ofText htext) hentry
  rw [Naming.escape, ReservedTable.escape, hfind]
  exact if_pos (isFree_of_mem_replacements htext hentry).isUsable

end

/-- Nothing of a reserved word in small letters changes before naming looks whether it is reserved. -/
theorem clean_of_mem_words {word : String} (h : word ∈ ReservedTable.ofKeywords.words) :
    sanitize (replaceChar '-' "_" word) = word ∧ word ≠ "" ∧ looksConstant word = false ∧
      snakeCase word = word := by
  have hlower : ∀ word ∈ keywords, Written isStemChar (asciiLower word) ∧
      looksConstant (asciiLower word) = false := by
    decide
  have hword : word ∈ keywords.map asciiLower := map_lowercase_keywords ▸ h
  obtain ⟨keyword, hkeyword, rfl⟩ := List.mem_map.mp hword
  obtain ⟨hstem, hconstant⟩ := hlower keyword hkeyword
  refine ⟨?_, hstem.ne_empty, hconstant, snakeCase_of_stem hstem.spelled⟩
  rw [sanitize_replaceChar_dash,
    sanitize_of_spelled (hstem.spelled.mono isWordChar_of_isStemChar)]

theorem fieldName_of_mem_words {settings : Settings} {word : String}
    (h : word ∈ ReservedTable.ofKeywords.words) (hreserved : settings.naming.isReserved word = true)
    (hdigit : startsWithDigit (settings.naming.escape word) = false) :
    (settings.naming.fieldName word).name = settings.naming.escape word := by
  obtain ⟨hclean, hne, hconstant, hsnake⟩ := clean_of_mem_words h
  rw [Naming.name_fieldName, hclean, if_neg hne, hconstant, if_neg Bool.false_ne_true, hsnake,
    Naming.name_escapeReserved, if_pos hreserved, hdigit, if_neg Bool.false_ne_true]

/-- The rules for settings and naming agree. Among ASCII texts the reserved ones are the keywords in
any mix of case; and under settings from an accepted text every word that has a replacement is escaped
to exactly that, and a field that has such a word for its name, if it is a reserved one in small
letters, is named by the replacement. -/
theorem accepted_replacements_are_used :
    (∀ name : String, (∀ c ∈ name.toList, c.toNat < 128) →
      ReservedTable.ofKeywords.isReserved name = isKeyword name) ∧
    ∀ (text : String) (settings : Settings), Settings.ofText text = .ok settings →
      ∀ entry ∈ settings.replacements.entries,
        settings.naming.escape entry.1 = entry.2 ∧
        (settings.naming.isReserved entry.1 = true → lowercase entry.1 = entry.1 →
          (settings.naming.fieldName entry.1).name = entry.2) := by
  constructor
  · intro name hname
    have hnaming : Naming.GoesByKeywords { reserved := .ofKeywords } := rfl
    exact Naming.isReserved_of_ascii hnaming hname
  · rintro text settings htext ⟨word, replacement⟩ hentry
    have hescape := escape_of_mem_replacements htext hentry
    refine ⟨hescape, fun hreserved hlower => ?_⟩
    have hword : word ∈ ReservedTable.ofKeywords.words := by
      rw [Naming.isReserved, ReservedTable.isReserved, hlower] at hreserved
      exact List.contains_iff_mem.mp hreserved
    have hdigit : startsWithDigit (settings.naming.escape word) = false := by
      rw [hescape]
      exact (isFree_of_mem_replacements htext hentry).no_digit
    rw [fieldName_of_mem_words hword hreserved hdigit, hescape]

/-- The keyword `self` is found in a mix of case, and a field `type` is named by its replacement. -/
theorem accepted_replacements_are_used_of_type :
    let text := "[reserved_words_mappings]\ntype = \"kind\"\n"
    let settings : Settings := { replacements := ⟨[("type", "kind")]⟩ }
    ReservedTable.ofKeywords.isReserved "sElF" = isKeyword "sElF" ∧ isKeyword "sElF" = true ∧
      Settings.ofText text = .ok settings ∧
      settings.naming.escape "type" = "kind" ∧ (settings.naming.fieldName "type").name = "kind" := by
  intro text settings
  have htext : Settings.ofText text = .ok settings := by decide +kernel
  obtain ⟨hescape, hfield⟩ :=
    accepted_replacements_are_used.2 text settings htext ("type", "kind") List.mem_cons_self
  have hreserved : settings.naming.isReserved "type" = true := by decide +kernel
  have hlower : lowercase "type" = "type" := by decide +kernel
  have hascii : ∀ c ∈ "sElF".toList, c.toNat < 128 := by
    have hall : "sElF".toList.all (fun c => c.toNat < 128) = true := by decide
    simpa only [List.all_eq_true, decide_eq_true_eq] using hall
  exact ⟨accepted_replacements_are_used.1 "sElF" hascii, by decide +kernel, htext, hescape,
    hfield hreserved hlower⟩

end CratePlan
