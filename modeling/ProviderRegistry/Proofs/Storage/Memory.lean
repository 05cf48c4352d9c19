import Mathlib.Data.List.Nodup
import ProviderRegistry.Entry
import ProviderRegistry.Storage.Memory

/-!
# What a memory holds after some writes

A write puts a text in the place of the one that its name had, or at the end. After some entries of
different names were written (`putAll`), each of their names has its new text and no other
(`keeps_putAll`), every other name has what it had (`lookup_putAll_of_notMem`), and the names that
are new stand at the end in the order of the entries (`map_fst_putAll`). Texts that are there
already change nothing (`putAll_eq_self`).
-/

namespace ProviderRegistry.Memory

variable {resources : List (String × String)} {tool name text other : String}
    {entries : List Entry}

/-- The names that a memory lists are those that it has a text for, but for logs. -/
theorem mem_names_iff {memory : Memory} :
    name ∈ memory.names ↔
      name ∈ memory.resources.map Prod.fst ∧ Listing.isLogName name = false := by
  rw [names, List.mem_filter, Bool.not_eq_true']

/-! ### One text -/

/-- Some texts by name **keep** a text under a name when it stands there, and nothing else does. -/
def Keeps (resources : List (String × String)) (name text : String) : Prop :=
  (name, text) ∈ resources ∧ ∀ other, (name, other) ∈ resources → other = text

/-- What is kept under a name is found under it. -/
theorem Keeps.lookup (h : Keeps resources name text) : resources.lookup name = some text := by
  obtain ⟨hmem, hunique⟩ := h
  cases hlookup : resources.lookup name with
  | none => simpa using List.lookup_eq_none_iff.mp hlookup (name, text) hmem
  | some found =>
    obtain ⟨before, after, rfl, -⟩ := List.lookup_eq_some_iff.mp hlookup
    rw [hunique found (by simp)]

/-- After a put the name has the new text, and the other names have theirs. -/
theorem mem_put {pair : String × String} :
    pair ∈ put resources name text ↔
      pair = (name, text) ∨ (pair ∈ resources ∧ pair.1 ≠ name) := by
  rw [put]
  split
  · rename_i hany
    obtain ⟨old, hold, hname⟩ := List.any_eq_true.mp hany
    constructor
    · intro h
      obtain ⟨entry, hentry, rfl⟩ := List.mem_map.mp h
      by_cases heq : entry.1 = name
      · simp [heq]
      · simp [heq, hentry]
    · rintro (rfl | ⟨hmem, hne⟩)
      · exact List.mem_map.mpr ⟨old, hold, by simp [hname]⟩
      · exact List.mem_map.mpr ⟨pair, hmem, by simp [hne]⟩
  · rename_i hany
    have hnew : ∀ entry ∈ resources, entry.1 ≠ name := fun entry hentry hname =>
      hany (List.any_eq_true.mpr ⟨entry, hentry, by simp [hname]⟩)
    rw [List.mem_append, List.mem_singleton, or_comm]
    exact or_congr_right ⟨fun h => ⟨h, hnew pair h⟩, And.left⟩

/-- What was put is kept. -/
theorem keeps_put : Keeps (put resources name text) name text := by
  refine ⟨mem_put.mpr (Or.inl rfl), fun other hother => ?_⟩
  rcases mem_put.mp hother with h | h
  · exact congrArg Prod.snd h
  · exact absurd rfl h.2

/-- What is kept under another name is not touched by a put. -/
theorem keeps_put_of_ne {name' text' : String} (h : Keeps resources name text)
    (hne : name ≠ name') :
    Keeps (put resources name' text') name text := by
  refine ⟨mem_put.mpr (Or.inr ⟨h.1, hne⟩), fun other hother => ?_⟩
  rcases mem_put.mp hother with hpair | hpair
  · exact absurd (congrArg Prod.fst hpair) hne
  · exact h.2 other hpair.1

private theorem lookup_map_of_ne (hne : other ≠ name) :
    (resources.map fun entry => if entry.1 == name then (name, text) else entry).lookup other =
      resources.lookup other := by
  induction resources with
  | nil => rfl
  | cons entry rest ih =>
    obtain ⟨key, value⟩ := entry
    rw [List.map_cons, List.lookup_cons, List.lookup_cons, ih]
    by_cases hkey : key = name
    · have hother : (other == name) = false := by simpa using hne
      simp [hkey, hother]
    · simp [hkey]

/-- A put is not seen under another name. -/
theorem lookup_put_of_ne (hne : other ≠ name) :
    (put resources name text).lookup other = resources.lookup other := by
  rw [put]
  split
  · exact lookup_map_of_ne hne
  · have hother : (other == name) = false := by simpa using hne
    rw [List.lookup_append, List.lookup_singleton, hother]
    simp

/-- What is kept of some texts by their names is kept with its text. -/
theorem lookup_filter (keep : String → Bool) (resources : List (String × String)) :
    (resources.filter fun resource => keep resource.1).lookup name =
      if keep name then resources.lookup name else none := by
  induction resources with
  | nil => simp
  | cons entry rest ih =>
    obtain ⟨key, value⟩ := entry
    rw [List.filter_cons]
    by_cases hkey : name = key
    · subst hkey
      cases hkeep : keep name with
      | true => simp
      | false =>
        rw [if_neg Bool.false_ne_true, if_neg Bool.false_ne_true, ih, hkeep,
          if_neg Bool.false_ne_true]
    · have hne : (name == key) = false := by simpa using hkey
      cases keep key with
      | true => rw [if_pos rfl, List.lookup_cons, List.lookup_cons, hne, ih]
      | false => rw [if_neg Bool.false_ne_true, List.lookup_cons, hne, ih]

theorem any_key_eq_true_iff :
    (resources.any (·.1 == name)) = true ↔ name ∈ resources.map Prod.fst := by
  simp [List.any_eq_true]

/-- A new name goes to the end, and an old one stays in its place. -/
theorem map_fst_put :
    (put resources name text).map Prod.fst =
      if name ∈ resources.map Prod.fst then resources.map Prod.fst
      else resources.map Prod.fst ++ [name] := by
  have hkeys : (resources.map fun entry => if entry.1 == name then (name, text) else entry).map
      Prod.fst = resources.map Prod.fst := by
    rw [List.map_map]
    refine List.map_congr_left fun entry _ => ?_
    by_cases h : entry.1 = name <;> simp [h]
  rw [put]
  by_cases h : name ∈ resources.map Prod.fst
  · rw [if_pos (any_key_eq_true_iff.mpr h), if_pos h, hkeys]
  · rw [if_neg (mt any_key_eq_true_iff.mp h), if_neg h, List.map_append]
    rfl

/-- A text that is kept already changes nothing. -/
theorem put_eq_self (h : Keeps resources name text) : put resources name text = resources := by
  rw [put, if_pos (any_key_eq_true_iff.mpr (List.mem_map_of_mem h.1))]
  conv_rhs => rw [← List.map_id resources]
  refine List.map_congr_left fun entry hentry => ?_
  obtain ⟨key, value⟩ := entry
  by_cases hkey : key = name
  · subst hkey
    simp [h.2 value hentry]
  · simp [hkey]

/-! ### Some entries -/

/-- Some texts by name after the listings of some entries were written. -/
def putAll (tool : String) (resources : List (String × String)) (entries : List Entry) :
    List (String × String) :=
  entries.foldl (fun resources entry =>
    put resources entry.name (Listing.header tool ++ entry.render)) resources

/-- Entries that are written are not seen under the names of others. -/
theorem lookup_putAll_of_notMem (h : other ∉ entries.map Entry.name) :
    (putAll tool resources entries).lookup other = resources.lookup other := by
  induction entries generalizing resources with
  | nil => rfl
  | cons entry rest ih =>
    rw [List.map_cons, List.mem_cons, not_or] at h
    rw [putAll, List.foldl_cons, ← putAll, ih h.2, lookup_put_of_ne h.1]

private theorem keeps_putAll_of_notMem (h : Keeps resources name text)
    (hname : name ∉ entries.map Entry.name) : Keeps (putAll tool resources entries) name text := by
  induction entries generalizing resources with
  | nil => exact h
  | cons entry rest ih =>
    rw [List.map_cons, List.mem_cons, not_or] at hname
    rw [putAll, List.foldl_cons, ← putAll]
    exact ih (keeps_put_of_ne h hname.1) hname.2

/-- **Written texts** are kept. -/
theorem keeps_putAll (hdistinct : (entries.map Entry.name).Nodup) {entry : Entry}
    (hentry : entry ∈ entries) :
    Keeps (putAll tool resources entries) entry.name (Listing.header tool ++ entry.render) := by
  -- no entry after it has its name, so none overwrites it
  induction entries generalizing resources with
  | nil => exact absurd hentry List.not_mem_nil
  | cons first rest ih =>
    obtain ⟨hfirst, hdistinct⟩ := List.nodup_cons.mp hdistinct
    rw [putAll, List.foldl_cons, ← putAll]
    rcases List.mem_cons.mp hentry with rfl | hrest
    · exact keeps_putAll_of_notMem keeps_put hfirst
    · exact ih hdistinct hrest

/-- Names that are new come last, in the order of the entries. -/
theorem map_fst_putAll (hdistinct : (entries.map Entry.name).Nodup) :
    (putAll tool resources entries).map Prod.fst =
      resources.map Prod.fst ++
        (entries.map Entry.name).filter fun name => name ∉ resources.map Prod.fst := by
  induction entries generalizing resources with
  | nil => simp [putAll]
  | cons entry rest ih =>
    obtain ⟨hentry, hdistinct⟩ := List.nodup_cons.mp hdistinct
    rw [putAll, List.foldl_cons, ← putAll, ih hdistinct, map_fst_put, List.map_cons]
    by_cases h : entry.name ∈ resources.map Prod.fst
    · rw [if_pos h, List.filter_cons_of_neg (by simpa using h)]
    · rw [if_neg h, List.filter_cons_of_pos (by simpa using h), List.append_assoc,
        List.singleton_append]
      -- the names after this one are others
      have hrest : ∀ name ∈ rest.map Entry.name,
          decide (name ∉ resources.map Prod.fst ++ [entry.name]) =
            decide (name ∉ resources.map Prod.fst) := by
        intro name hname
        have hne : name ≠ entry.name := fun heq => hentry (heq ▸ hname)
        simp [hne]
      rw [List.filter_congr hrest]

/-- The names afterwards are those before and those that were written. -/
theorem mem_map_fst_putAll (hdistinct : (entries.map Entry.name).Nodup) :
    name ∈ (putAll tool resources entries).map Prod.fst ↔
      name ∈ resources.map Prod.fst ∨ name ∈ entries.map Entry.name := by
  rw [map_fst_putAll hdistinct, List.mem_append, List.mem_filter, decide_eq_true_eq]
  by_cases h : name ∈ resources.map Prod.fst
  · exact iff_of_true (Or.inl h) (Or.inl h)
  · exact or_congr_right (and_iff_left h)

/-- Texts that are kept already change nothing. -/
theorem putAll_eq_self
    (h : ∀ entry ∈ entries, Keeps resources entry.name (Listing.header tool ++ entry.render)) :
    putAll tool resources entries = resources := by
  induction entries with
  | nil => rfl
  | cons entry rest ih =>
    obtain ⟨hentry, hrest⟩ := List.forall_mem_cons.mp h
    rw [putAll, List.foldl_cons, put_eq_self hentry]
    exact ih hrest

end ProviderRegistry.Memory
