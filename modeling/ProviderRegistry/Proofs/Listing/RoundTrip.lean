import Mathlib.Data.List.DropRight
import Mathlib.Data.List.Infix
import Mathlib.Data.String.Basic
import ProviderRegistry.Entry
import ProviderRegistry.Proofs.Registry.View

/-!
# Listings are read back as they were written

A provider is **clean** when a line can hold it as it is: it has no line break, no hash sign, and
no blank at its ends (`Listing.Clean`). Everything that is read from a text is clean
(`clean_of_mem_parse`), and a listing of clean providers under the comment of a tool is read back
as the same providers in ascending order (`parse_header_append_render`), provided that the name of
the tool has no line break. So an entry of clean providers is what is stored once it was written
(`stored_header_append_render`). No other providers survive: a set is read back as it was written
just when its members are clean and none is empty (`parse_written_iff`).
-/

namespace ProviderRegistry

/-! ### Trimming -/

namespace Text

private theorem dropWhile_eq_self_of_prefix {p : Char → Bool} {cs ds : List Char} (h : cs <+: ds)
    (hds : ds.dropWhile p = ds) : cs.dropWhile p = cs := by
  cases cs with
  | nil => rfl
  | cons c cs =>
    obtain ⟨rest, rfl⟩ := h
    rw [List.dropWhile_eq_self_iff] at hds ⊢
    exact fun _ => hds (Nat.succ_pos _)

/-- **Trimming** leaves nothing to trim. -/
@[simp]
theorem trim_trim (cs : List Char) : trim (trim cs) = trim cs := by
  have hfront : (trim cs).dropWhile isBlank = trim cs :=
    dropWhile_eq_self_of_prefix (List.rdropWhile_prefix isBlank _)
      (List.dropWhile_idempotent isBlank cs)
  have hback : (trim cs).rdropWhile isBlank = trim cs := List.rdropWhile_idempotent isBlank _
  rw [trim, hfront]
  exact hback

theorem trim_subset (cs : List Char) : trim cs ⊆ cs :=
  fun _ hc => (List.dropWhile_suffix isBlank).subset ((List.rdropWhile_prefix isBlank _).subset hc)

end Text

namespace Listing

/-! ### Clean providers -/

/-- A provider is **clean** when a line of a listing holds it as it is. -/
structure Clean (provider : String) : Prop where
  noBreak : '\n' ∉ provider.toList
  noHash : '#' ∉ provider.toList
  noBlankEnd : Text.trimmed provider = provider

instance (provider : String) : Decidable (Clean provider) :=
  decidable_of_iff
    ('\n' ∉ provider.toList ∧ '#' ∉ provider.toList ∧ Text.trimmed provider = provider)
    ⟨fun h => ⟨h.1, h.2.1, h.2.2⟩, fun h => ⟨h.noBreak, h.noHash, h.noBlankEnd⟩⟩

theorem notMem_beforeFirst (c : Char) (cs : List Char) : c ∉ Text.beforeFirst c cs := fun h => by
  simpa using List.mem_takeWhile_imp h

theorem provider?_eq_some_iff {line : List Char} {provider : String} :
    provider? line = some provider ↔
      provider ≠ "" ∧ Text.trim (Text.beforeFirst '#' line) = provider.toList := by
  rw [provider?]
  split
  · rename_i htrim
    rw [htrim]
    constructor
    · exact fun h => absurd h (Option.some_ne_none provider).symm
    · rintro ⟨hne, hempty⟩
      exact absurd (String.toList_inj.mp hempty.symm) hne
  · rename_i htrim
    rw [Option.some_inj]
    constructor
    · rintro rfl
      refine ⟨fun hempty => htrim ?_, by rw [String.toList_ofList]⟩
      simpa using congrArg String.toList hempty
    · rintro ⟨-, htoken⟩
      rw [htoken, String.ofList_toList]

/-- **Whatever is read** is clean. -/
theorem clean_of_mem_parse {text provider : String} (h : provider ∈ parse text) :
    Clean provider := by
  obtain ⟨line, hline, hprovider⟩ := List.mem_filterMap.mp h
  obtain ⟨-, htoken⟩ := provider?_eq_some_iff.mp hprovider
  have hsubset : provider.toList ⊆ Text.beforeFirst '#' line := htoken ▸ Text.trim_subset _
  refine ⟨fun hbreak => ?_, fun hhash => notMem_beforeFirst _ _ (hsubset hhash), ?_⟩
  · exact Text.notMem_of_mem_split hline ((List.takeWhile_prefix _).subset (hsubset hbreak))
  · rw [Text.trimmed, ← htoken, Text.trim_trim, htoken, String.ofList_toList]

/-- A line that holds a clean provider names it. -/
theorem provider?_toList {provider : String} (h : Clean provider) (hne : provider ≠ "") :
    provider? provider.toList = some provider := by
  refine provider?_eq_some_iff.mpr ⟨hne, ?_⟩
  rw [Text.beforeFirst_of_notMem h.noHash, ← String.toList_ofList (l := Text.trim _)]
  exact congrArg String.toList h.noBlankEnd

/-! ### Reading what was written -/

theorem mem_ascending {providers : List String} {provider : String} :
    provider ∈ ascending providers ↔ provider ∈ providers :=
  (List.mergeSort_perm providers _).mem_iff

theorem toList_header (tool : String) :
    (header tool).toList = '#' :: (" Generated by ".toList ++ tool.toList) ++ ['\n'] := by
  change ("# Generated by " ++ tool ++ "\n").toList = _
  rw [String.toList_append, String.toList_append]
  rfl

theorem toList_join (providers : List String) :
    (String.join (providers.map (· ++ "\n"))).toList =
      providers.flatMap fun provider => provider.toList ++ ['\n'] := by
  rw [String.toList_join, List.flatMap_map]
  simp only [String.toList_append]
  rfl

/-- Lines without a line break in them are found again, with nothing after the last. -/
theorem split_flatMap {providers : List String}
    (h : ∀ provider ∈ providers, '\n' ∉ provider.toList) :
    Text.split '\n' (providers.flatMap fun provider => provider.toList ++ ['\n']) =
      providers.map String.toList ++ [[]] := by
  induction providers with
  | nil => rfl
  | cons provider providers ih =>
    obtain ⟨hfirst, hrest⟩ := List.forall_mem_cons.mp h
    rw [List.flatMap_cons, List.append_assoc, List.singleton_append, Text.split_append _ hfirst,
      ih hrest, List.map_cons, List.cons_append]

theorem filterMap_provider?_map {providers : List String}
    (hclean : ∀ provider ∈ providers, Clean provider) (hne : "" ∉ providers) :
    (providers.map String.toList).filterMap provider? = providers := by
  induction providers with
  | nil => rfl
  | cons provider providers ih =>
    obtain ⟨hfirst, hrest⟩ := List.forall_mem_cons.mp hclean
    rw [List.mem_cons, not_or] at hne
    rw [List.map_cons, List.filterMap_cons_some (provider?_toList hfirst (Ne.symm hne.1)),
      ih hrest hne.2]

/-- **Round trip.** What is rendered under the comment of a tool is read back in ascending
order. -/
theorem parse_header_append_render {tool : String} {providers : List String}
    (htool : '\n' ∉ tool.toList) (hclean : ∀ provider ∈ providers, Clean provider)
    (hne : "" ∉ providers) :
    parse (header tool ++ render providers) = ascending providers := by
  have hclean' : ∀ provider ∈ ascending providers, Clean provider := fun provider hprovider =>
    hclean provider (mem_ascending.mp hprovider)
  have hcomment : '\n' ∉ '#' :: (" Generated by ".toList ++ tool.toList) := by
    simp [htool]
  have hskipped : provider? ('#' :: (" Generated by ".toList ++ tool.toList)) = none := rfl
  rw [parse, render, String.toList_append, toList_header, toList_join, List.append_assoc,
    List.singleton_append, Text.split_append _ hcomment,
    split_flatMap fun provider hprovider => (hclean' provider hprovider).noBreak,
    List.filterMap_cons_none hskipped, List.filterMap_append,
    filterMap_provider?_map hclean' (mem_ascending.not.mpr hne)]
  exact List.append_nil _

/-- An entry of clean providers is stored once it was written. -/
theorem stored_header_append_render {tool : String} {entry : Entry} (htool : '\n' ∉ tool.toList)
    (hclean : ∀ provider ∈ entry.providers, Clean provider) (hne : "" ∉ entry.providers) :
    stored (some (header tool ++ entry.render)) = entry.providers := by
  refine ProviderSet.ext fun provider => ?_
  rw [mem_stored]
  simp only [Option.some.injEq, exists_eq_left']
  rw [Entry.render, parse_header_append_render htool hclean hne, mem_ascending]
  rfl

/-! ### Exactly what survives -/

/-- Different texts in ascending order ascend strictly. -/
theorem pairwise_lt_ascending {providers : List String} (hnodup : providers.Nodup) :
    (ascending providers).Pairwise (· < ·) := by
  have hdistinct : (ascending providers).Nodup :=
    (List.mergeSort_perm providers _).nodup_iff.mpr hnodup
  exact (pairwise_ascending providers).imp₂ (fun _ _ hle hne => lt_of_le_of_ne hle hne) hdistinct

/-- **The round trip, characterized.** Different providers, in any order, that are written under
the comment of a tool are read back as the same set just when each of them is clean and not empty.
They are then read in ascending order, each once. -/
theorem parse_written_iff {tool : String} {providers : List String} (htool : '\n' ∉ tool.toList)
    (hnodup : providers.Nodup) :
    ((∀ provider, provider ∈ parse (header tool ++ render providers) ↔ provider ∈ providers) ↔
      ∀ provider ∈ providers, provider ≠ "" ∧ Clean provider) ∧
    ((∀ provider ∈ providers, provider ≠ "" ∧ Clean provider) →
      (parse (header tool ++ render providers)).Pairwise (· < ·)) := by
  have hread (h : ∀ provider ∈ providers, provider ≠ "" ∧ Clean provider) :
      parse (header tool ++ render providers) = ascending providers :=
    parse_header_append_render htool (fun provider hprovider => (h provider hprovider).2)
      fun hempty => (h "" hempty).1 rfl
  refine ⟨⟨fun hsame provider hprovider => ?_, fun h provider => ?_⟩, fun h => ?_⟩
  · have hlisted := (hsame provider).mpr hprovider
    exact ⟨ne_empty_of_mem_parse hlisted, clean_of_mem_parse hlisted⟩
  · rw [hread h, mem_ascending]
  · rw [hread h]
    exact pairwise_lt_ascending hnodup

/-- Two clean providers are read back in ascending order, whatever the order in which they were
given. -/
theorem parse_written_iff_of_two_providers :
    '\n' ∉ "provreg (0.3.0)".toList ∧ ["b.Zip", "a.Plain"].Nodup ∧
      (∀ provider ∈ ["b.Zip", "a.Plain"], provider ≠ "" ∧ Clean provider) ∧
      (∀ provider, provider ∈ parse (header "provreg (0.3.0)" ++ render ["b.Zip", "a.Plain"]) ↔
        provider ∈ ["b.Zip", "a.Plain"]) ∧
      (parse (header "provreg (0.3.0)" ++ render ["b.Zip", "a.Plain"])).Pairwise (· < ·) := by
  have htool : '\n' ∉ "provreg (0.3.0)".toList := by decide
  have hnodup : ["b.Zip", "a.Plain"].Nodup := by decide
  have hclean : ∀ provider ∈ ["b.Zip", "a.Plain"], provider ≠ "" ∧ Clean provider := by
    decide +kernel
  obtain ⟨hsame, hascends⟩ := parse_written_iff htool hnodup
  exact ⟨htool, hnodup, hclean, hsame.mpr hclean, hascends hclean⟩

end Listing

end ProviderRegistry
