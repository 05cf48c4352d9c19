import ProviderRegistry.Proofs.Listing.RoundTrip
import ProviderRegistry.Proofs.Session.Flush

/-!
# The same turns once more

A session that goes through turns over what an earlier session with the same turns left. If its
listings were written, they are read back as the entries that they show, so the registry comes out
the same (`Rewritten.mem_entries_again`); if they were deleted, no entry lists more than before.
Either way a second flush leaves the texts as they are (`flushed_again`). It is not even needed
where every entry was written the first time (`isModified_again`).

The providers that the turns register must be clean, else they are not read back as they were
written.
-/

namespace ProviderRegistry

/-! ### Clean turns -/

/-- Turns are **clean** when all providers that they register are, and none is empty. -/
def Turn.Clean (turns : List Turn) : Prop :=
  ∀ turn ∈ turns, ∀ pair ∈ turn.registered, Listing.Clean pair.2 ∧ pair.2 ≠ ""

namespace Memory

variable {memory left : Memory} {turns : List Turn} {name provider : String} {entry : Entry}

/-- What the registry of a memory lists under a name. -/
theorem mem_entryOf_registryAfter :
    provider ∈ ((memory.registryAfter turns).entryOf memory.listing? name).providers ↔
      Turn.Holds turns name provider (provider ∈ Listing.stored (memory.listing? name)) :=
  Registry.mem_entryOf_after

/-- What the entries list after clean turns is clean. -/
theorem clean_of_mem_entries (hclean : Turn.Clean turns)
    (hentry : entry ∈ (memory.registryAfter turns).entries) (h : provider ∈ entry.providers) :
    Listing.Clean provider ∧ provider ≠ "" := by
  rw [← ((Registry.mem_entries_iff memory.listing?).mp hentry).2,
    mem_entryOf_registryAfter] at h
  rcases Turn.exists_registered_or_of_holds h with ⟨turn, hturn, hpair⟩ | hstored
  · exact hclean turn hturn _ hpair
  · obtain ⟨content, -, hparse⟩ := Listing.mem_stored.mp hstored
    exact ⟨Listing.clean_of_mem_parse hparse, Listing.ne_empty_of_mem_parse hparse⟩

/-- The names of the registry of a memory. -/
theorem mem_names_registryAfter :
    name ∈ (memory.registryAfter turns).names ↔
      name ∈ memory.names ∨ ∃ turn ∈ turns, ∃ p, (name, p) ∈ turn.registered :=
  Registry.mem_names_after

theorem registryAfter_congr (h : left.resources = memory.resources) (turns : List Turn) :
    left.registryAfter turns = memory.registryAfter turns := by
  have htext : left.listing? = memory.listing? := funext fun name => by rw [listing?, h, listing?]
  rw [registryAfter, names, h, htext, registryAfter, names]

/-! ### After the listings were written -/

theorem mem_entries_of_mem_accepted {registry : Registry}
    (h : entry ∈ memory.accepted registry.listed) : entry ∈ registry.entries :=
  (Registry.mem_listed_iff.mp (mem_accepted_iff.mp h).1).1

/-- A memory was **rewritten** after some turns when the flush found something changed and
something to list. -/
structure Rewritten (memory : Memory) (turns : List Turn) (left : Memory) : Prop where
  leaves : memory.Leaves (memory.registryAfter turns) left
  modified : (memory.registryAfter turns).isModified = true
  listed : (memory.registryAfter turns).listed ≠ []

namespace Rewritten

theorem resources (h : memory.Rewritten turns left) :
    left.resources = putAll memory.tool memory.resources
      (memory.accepted (memory.registryAfter turns).listed) := by
  rw [h.leaves.resources, flushed_of_listed h.modified h.listed]

theorem keeps (h : memory.Rewritten turns left)
    (hentry : entry ∈ memory.accepted (memory.registryAfter turns).listed) :
    Keeps left.resources entry.name (Listing.header memory.tool ++ entry.render) := by
  rw [h.resources]
  exact keeps_putAll (nodup_names_accepted _ _) hentry

theorem mem_map_fst (h : memory.Rewritten turns left) :
    name ∈ left.resources.map Prod.fst ↔ name ∈ memory.resources.map Prod.fst ∨
      name ∈ (memory.accepted (memory.registryAfter turns).listed).map Entry.name := by
  rw [h.resources, mem_map_fst_putAll (nodup_names_accepted _ _)]

/-- A name that was not written keeps its text. -/
theorem listing?_of_notMem (h : memory.Rewritten turns left)
    (hname : name ∉ (memory.accepted (memory.registryAfter turns).listed).map Entry.name) :
    left.listing? name = memory.listing? name := by
  rw [listing?, h.resources, lookup_putAll_of_notMem hname, listing?]

/-- The names after the same turns are the same. -/
theorem mem_names_again (h : memory.Rewritten turns left) :
    name ∈ (left.registryAfter turns).names ↔ name ∈ (memory.registryAfter turns).names := by
  rw [mem_names_registryAfter, mem_names_iff, h.mem_map_fst]
  constructor
  · rintro (⟨hkey | haccepted, hlog⟩ | hregistered)
    · exact mem_names_registryAfter.mpr (Or.inl (mem_names_iff.mpr ⟨hkey, hlog⟩))
    · obtain ⟨entry, hentry, rfl⟩ := List.mem_map.mp haccepted
      exact List.mem_map_of_mem (mem_entries_of_mem_accepted hentry)
    · exact mem_names_registryAfter.mpr (Or.inr hregistered)
  · intro hname
    rcases mem_names_registryAfter.mp hname with hbefore | hregistered
    · obtain ⟨hkey, hlog⟩ := mem_names_iff.mp hbefore
      exact Or.inl ⟨Or.inl hkey, hlog⟩
    · exact Or.inr hregistered

variable (h : memory.Rewritten turns left) (htool : '\n' ∉ memory.tool.toList)
  (hclean : Turn.Clean turns)
include h htool hclean

/-- What was written is read back as the entry. -/
theorem stored_eq (hentry : entry ∈ memory.accepted (memory.registryAfter turns).listed) :
    Listing.stored (left.listing? entry.name) = entry.providers := by
  have hmem := mem_entries_of_mem_accepted hentry
  rw [listing?, (h.keeps hentry).lookup]
  exact Listing.stored_header_append_render htool
    (fun p hp => (clean_of_mem_entries hclean hmem hp).1)
    fun hempty => (clean_of_mem_entries hclean hmem hempty).2 rfl

/-- A name that was written is stored as the registry shows it. -/
theorem stored_of_mem
    (hname : name ∈ (memory.accepted (memory.registryAfter turns).listed).map Entry.name) :
    Listing.stored (left.listing? name) =
      ((memory.registryAfter turns).entryOf memory.listing? name).providers := by
  obtain ⟨entry, hentry, rfl⟩ := List.mem_map.mp hname
  have hself := (Registry.mem_entries_iff memory.listing?).mp (mem_entries_of_mem_accepted hentry)
  rw [h.stored_eq htool hclean hentry, hself.2]

/-- **What is listed** after the same turns is the same. -/
theorem mem_entryOf_again :
    provider ∈ ((left.registryAfter turns).entryOf left.listing? name).providers ↔
      provider ∈ ((memory.registryAfter turns).entryOf memory.listing? name).providers := by
  rw [mem_entryOf_registryAfter]
  by_cases hname : name ∈ (memory.accepted (memory.registryAfter turns).listed).map Entry.name
  · -- the text stands for the entry after the turns, which are now gone through twice
    rw [h.stored_of_mem htool hclean hname, mem_entryOf_registryAfter, Turn.holds_holds]
  · -- the text is the one that was there before
    rw [h.listing?_of_notMem hname, mem_entryOf_registryAfter]

/-- **The entries** after the same turns are the same. -/
theorem mem_entries_again :
    entry ∈ (left.registryAfter turns).entries ↔ entry ∈ (memory.registryAfter turns).entries := by
  have hentry : (left.registryAfter turns).entryOf left.listing? entry.name =
      (memory.registryAfter turns).entryOf memory.listing? entry.name :=
    Entry.eq_of_name_eq (by rw [Registry.name_entryOf, Registry.name_entryOf]) fun p =>
      h.mem_entryOf_again htool hclean
  rw [Registry.mem_entries_iff left.listing?, Registry.mem_entries_iff memory.listing?, hentry,
    h.mem_names_again]

theorem mem_listed_again :
    entry ∈ (left.registryAfter turns).listed ↔ entry ∈ (memory.registryAfter turns).listed := by
  rw [Registry.mem_listed_iff, h.mem_entries_again htool hclean, Registry.mem_listed_iff]

/-- What is written again is there already. -/
theorem flushed_again : left.flushed (left.registryAfter turns) = left.resources := by
  cases hmodified : (left.registryAfter turns).isModified with
  | false => exact flushed_of_unmodified hmodified
  | true =>
    have hlisted : (left.registryAfter turns).listed ≠ [] := by
      obtain ⟨entry, hentry⟩ := List.exists_mem_of_ne_nil _ h.listed
      exact List.ne_nil_of_mem ((h.mem_listed_again htool hclean).mpr hentry)
    rw [flushed_of_listed hmodified hlisted, h.leaves.tool]
    refine putAll_eq_self fun entry hentry => h.keeps (mem_accepted_iff.mpr ?_)
    obtain ⟨hlisted, haccepted⟩ := mem_accepted_iff.mp hentry
    rw [h.leaves.refusedWrites] at haccepted
    exact ⟨(h.mem_listed_again htool hclean).mp hlisted, haccepted⟩

end Rewritten

/-! ### After the listings were deleted -/

section Emptied

variable
  (hleft : left.resources =
    memory.resources.filter fun resource => Listing.isLogName resource.1)
include hleft

theorem names_of_emptied : left.names = [] := by
  rw [List.eq_nil_iff_forall_not_mem]
  intro name hname
  obtain ⟨hkey, hlog⟩ := mem_names_iff.mp hname
  rw [hleft] at hkey
  obtain ⟨resource, hresource, rfl⟩ := List.mem_map.mp hkey
  exact Bool.false_ne_true (hlog.symm.trans (List.mem_filter.mp hresource).2)

/-- Nothing is listed after the same turns that was not before. -/
theorem listed_again_of_emptied (hlisted : (memory.registryAfter turns).listed = []) :
    (left.registryAfter turns).listed = [] := by
  rw [List.eq_nil_iff_forall_not_mem]
  intro entry hentry
  obtain ⟨hmem, p, hp⟩ := Registry.mem_listed_iff.mp hentry
  obtain ⟨hname, hentry⟩ := (Registry.mem_entries_iff left.listing?).mp hmem
  have hname : entry.name ∈ (memory.registryAfter turns).names := by
    rw [mem_names_registryAfter, names_of_emptied hleft] at hname
    exact mem_names_registryAfter.mpr (Or.inr (hname.resolve_left List.not_mem_nil))
  -- the text is gone or the one that was there before
  have hstored : p ∈ Listing.stored (left.listing? entry.name) →
      p ∈ Listing.stored (memory.listing? entry.name) := by
    rw [listing?, hleft, lookup_filter Listing.isLogName, listing?]
    split
    · exact id
    · simp
  have hheld :
      p ∈ ((memory.registryAfter turns).entryOf memory.listing? entry.name).providers := by
    rw [← hentry, mem_entryOf_registryAfter] at hp
    exact mem_entryOf_registryAfter.mpr (Turn.holds_mono hstored hp)
  have hfirst := Registry.mem_listed_iff.mpr
    ⟨Registry.entryOf_mem memory.listing? hname, p, hheld⟩
  exact List.not_mem_nil (hlisted ▸ hfirst)

/-- What is deleted again is gone already. -/
theorem flushed_again_of_emptied (hlisted : (memory.registryAfter turns).listed = [])
    (hrefuses : left.refusesDelete = false) :
    left.flushed (left.registryAfter turns) = left.resources := by
  cases hmodified : (left.registryAfter turns).isModified with
  | false => exact flushed_of_unmodified hmodified
  | true =>
    rw [flushed_of_empty hmodified (listed_again_of_emptied hleft hlisted), hrefuses,
      if_neg Bool.false_ne_true, hleft]
    simp only [List.filter_filter, Bool.and_self]

end Emptied

/-- **A flush after the same turns** over what the first one left changes nothing. -/
theorem flushed_again (htool : '\n' ∉ memory.tool.toList) (hclean : Turn.Clean turns)
    (hleft : memory.Leaves (memory.registryAfter turns) left) :
    left.flushed (left.registryAfter turns) = left.resources := by
  cases hmodified : (memory.registryAfter turns).isModified with
  | false =>
    have hresources := hleft.resources.trans (flushed_of_unmodified hmodified)
    exact flushed_of_unmodified (by rw [registryAfter_congr hresources, hmodified])
  | true =>
    by_cases hlisted : (memory.registryAfter turns).listed = []
    · have hresources := hleft.resources.trans (flushed_of_empty hmodified hlisted)
      cases hrefuses : memory.refusesDelete with
      | true =>
        -- the deletion was refused, and is refused again
        rw [hrefuses, if_pos rfl] at hresources
        rw [registryAfter_congr hresources, flushed_of_empty hmodified hlisted,
          hleft.refusesDelete, hrefuses, if_pos rfl]
      | false =>
        rw [hrefuses, if_neg Bool.false_ne_true] at hresources
        exact flushed_again_of_emptied hresources hlisted (hleft.refusesDelete.trans hrefuses)
    · have hwritten : memory.Rewritten turns left := ⟨hleft, hmodified, hlisted⟩
      exact hwritten.flushed_again htool hclean

/-- **Nothing to write.** If no entry is empty, no name is that of a log and nothing is refused,
the same turns over what the flush left change nothing. -/
theorem isModified_again (htool : '\n' ∉ memory.tool.toList) (hclean : Turn.Clean turns)
    (hleft : memory.Leaves (memory.registryAfter turns) left)
    (haccepts : memory.refusedWrites = [])
    (hlogs : ∀ turn ∈ turns, ∀ pair ∈ turn.registered, Listing.isLogName pair.1 = false)
    (hfull : ∀ entry ∈ (memory.registryAfter turns).entries, ∃ p, p ∈ entry.providers) :
    (left.registryAfter turns).isModified = false := by
  cases hmodified : (memory.registryAfter turns).isModified with
  | false =>
    rw [registryAfter_congr (hleft.resources.trans (flushed_of_unmodified hmodified)), hmodified]
  | true =>
    -- every entry was written the first time, so its name is listed now and reads back the same
    have haccepted : ∀ name ∈ (memory.registryAfter turns).names,
        (memory.registryAfter turns).entryOf memory.listing? name ∈
          memory.accepted (memory.registryAfter turns).listed := fun name hname => by
      have hmem := Registry.entryOf_mem memory.listing? hname
      refine mem_accepted_iff.mpr ⟨Registry.mem_listed_iff.mpr ⟨hmem, hfull _ hmem⟩, ?_⟩
      rw [haccepts]
      exact List.not_mem_nil
    have hlisted : (memory.registryAfter turns).listed ≠ [] := fun hempty => by
      have hunmodified : (memory.registryAfter turns).isModified = false :=
        Registry.isModified_after_eq_false_iff.mpr fun name hname =>
          absurd (mem_accepted_iff.mp (haccepted name hname)).1 (hempty ▸ List.not_mem_nil)
      exact Bool.false_ne_true (hunmodified.symm.trans hmodified)
    have hwritten : memory.Rewritten turns left := ⟨hleft, hmodified, hlisted⟩
    refine Registry.isModified_after_eq_false_iff.mpr fun name hname => ?_
    have hfirst := hwritten.mem_names_again.mp hname
    have hentry := haccepted name hfirst
    have hkeeps := hwritten.keeps hentry
    have hstored := hwritten.stored_eq htool hclean hentry
    rw [Registry.name_entryOf] at hkeeps hstored
    refine ⟨mem_names_iff.mpr ⟨List.mem_map_of_mem hkeeps.1, ?_⟩, ?_⟩
    · rcases mem_names_registryAfter.mp hfirst with hbefore | ⟨turn, hturn, p, hpair⟩
      · exact (mem_names_iff.mp hbefore).2
      · exact hlogs turn hturn (name, p) hpair
    · rw [hstored]
      exact ProviderSet.ext fun p => hwritten.mem_entryOf_again htool hclean

end Memory

end ProviderRegistry
