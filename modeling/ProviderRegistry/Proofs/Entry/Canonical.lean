import Mathlib.Data.List.Induction
import Mathlib.Data.List.Nodup
import Mathlib.Data.String.Basic
import ProviderRegistry.Proofs.Listing.RoundTrip

/-!
# The text of an entry is canonical

An entry changes by one edit after the other: it is given a provider, loses one, takes in a text,
or goes on as a copy (`Edit`). An edit that is refused leaves it as it is (`Entry.attemptAll`).
What the edits come down to is told for each provider apart: it is held just when one of them gives
it and none after that takes it (`Entry.mem_attemptAll_bare`).

The same providers may arrive in different orders. A **roll** has them in the order in which they
arrived: a provider that is there keeps its place, and a text is taken in provider by provider
(`Roll.attemptAll`). Whatever the edits, the roll has each provider of the entry once and nothing
else (`Roll.Lists.attemptAll`), and sorting it gives the providers in the order of the entry
(`Listing.ascending_eq_toList`), which is the same for all its rolls. So the order in which the
providers came does not show in the text of the entry, and where no provider has a line break in
it, the text tells what the entry holds (`Entry.edits_render_canonically`).
-/

namespace ProviderRegistry

/-! ### Edits -/

/-- What may be done to an entry. What it is about may turn out to be missing. -/
inductive Edit where
  | add (provider : Option String)
  | remove (provider : Option String)
  | load (text : Option String)
  /-- The entry goes on as a copy of itself. -/
  | copy
  deriving DecidableEq, Repr

namespace Edit

/-- An edit **gives** a provider when it adds it, or loads a text that lists it. -/
inductive Gives : Edit → String → Prop
  | add {provider : String} (hne : provider ≠ "") : Gives (.add (some provider)) provider
  | load {text provider : String} (hlisted : provider ∈ Listing.parse text) :
    Gives (.load (some text)) provider

/-- Edits **leave** a provider when one of them gives it and none after that takes it. -/
def Leave (edits : List Edit) (provider : String) : Prop :=
  ∃ earlier gift later, edits = earlier ++ gift :: later ∧ gift.Gives provider ∧
    .remove (some provider) ∉ later

variable {edits : List Edit} {edit : Edit} {provider : String}

theorem gives_add_iff {given : String} :
    Gives (.add (some given)) provider ↔ provider = given ∧ given ≠ "" := by
  constructor
  · rintro ⟨hne⟩
    exact ⟨rfl, hne⟩
  · rintro ⟨rfl, hne⟩
    exact .add hne

theorem gives_load_iff {text : String} :
    Gives (.load (some text)) provider ↔ provider ∈ Listing.parse text := by
  constructor
  · rintro (- | hlisted)
    exact hlisted
  · exact .load

theorem Leave.ne_empty (h : Leave edits provider) : provider ≠ "" := by
  obtain ⟨earlier, gift, later, -, hgift, -⟩ := h
  cases hgift with
  | add hne => exact hne
  | load hlisted => exact Listing.ne_empty_of_mem_parse hlisted

/-- No line break is left in a provider, unless it was added with one. -/
theorem Leave.noBreak (h : Leave edits provider)
    (hedits : ∀ provider, Edit.add (some provider) ∈ edits → '\n' ∉ provider.toList) :
    '\n' ∉ provider.toList := by
  obtain ⟨earlier, gift, later, rfl, hgift, -⟩ := h
  cases hgift with
  | add => exact hedits provider (List.mem_append_right earlier List.mem_cons_self)
  | load hlisted => exact (Listing.clean_of_mem_parse hlisted).noBreak

theorem not_leave_nil : ¬ Leave [] provider := by
  rintro ⟨earlier, gift, later, hnil, -⟩
  simp at hnil

/-- The last of some edits gives a provider, or leaves what the others left unless it takes it. -/
theorem leave_concat_iff :
    Leave (edits ++ [edit]) provider ↔
      edit.Gives provider ∨ (Leave edits provider ∧ edit ≠ .remove (some provider)) := by
  constructor
  · rintro ⟨earlier, gift, later, hedits, hgift, hlater⟩
    -- the gift is the last edit, or the last edit comes after it
    rcases List.eq_nil_or_concat later with rfl | ⟨between, last, rfl⟩
    · obtain ⟨-, hlast⟩ := List.append_inj' hedits rfl
      obtain rfl : edit = gift := List.singleton_inj.mp hlast
      exact Or.inl hgift
    · rw [List.concat_eq_append, ← List.cons_append, ← List.append_assoc] at hedits
      obtain ⟨hfirst, hlast⟩ := List.append_inj' hedits rfl
      obtain rfl : edit = last := List.singleton_inj.mp hlast
      rw [List.concat_eq_append, List.mem_append, List.mem_singleton, not_or] at hlater
      exact Or.inr ⟨⟨earlier, gift, between, hfirst, hgift, hlater.1⟩, Ne.symm hlater.2⟩
  · rintro (hgives | ⟨⟨earlier, gift, later, rfl, hgift, hlater⟩, hne⟩)
    · exact ⟨edits, edit, [], rfl, hgives, List.not_mem_nil⟩
    · refine ⟨earlier, gift, later ++ [edit], by simp, hgift, ?_⟩
      rw [List.mem_append, List.mem_singleton, not_or]
      exact ⟨hlater, Ne.symm hne⟩

end Edit

namespace Entry

/-- The entry changed by an edit. A copy of an entry is the same entry. -/
def edited (entry : Entry) : Edit → Except Fault (Entry × List Event)
  | .add provider => entry.add provider
  | .remove provider => entry.remove provider
  | .load text => entry.load text
  | .copy => .ok (entry, [])

/-- The entry after an edit was tried. -/
def attempt (entry : Entry) (edit : Edit) : Entry :=
  match entry.edited edit with
  | .ok (new, _) => new
  | .error _ => entry

/-- The entry after some edits were tried one after the other. -/
def attemptAll (entry : Entry) (edits : List Edit) : Entry := edits.foldl attempt entry

variable {entry new : Entry} {edit : Edit} {edits : List Edit} {provider : String}

theorem attempt_of_ok {told : List Event} (h : entry.edited edit = .ok (new, told)) :
    entry.attempt edit = new := by
  rw [attempt, h]

theorem attempt_of_error {fault : Fault} (h : entry.edited edit = .error fault) :
    entry.attempt edit = entry := by
  rw [attempt, h]

/-- What an entry holds after an edit. -/
theorem mem_attempt_iff :
    provider ∈ (entry.attempt edit).providers ↔
      edit.Gives provider ∨ (provider ∈ entry.providers ∧ edit ≠ .remove (some provider)) := by
  -- an edit that is refused gives nothing and takes nothing
  have hrefused {refused : Edit} {fault : Fault} (h : entry.edited refused = .error fault)
      (hgives : ¬ refused.Gives provider) (hne : refused ≠ .remove (some provider)) :
      provider ∈ (entry.attempt refused).providers ↔ refused.Gives provider ∨
        (provider ∈ entry.providers ∧ refused ≠ .remove (some provider)) := by
    rw [attempt_of_error h]
    simp [hgives, hne]
  cases edit with
  | add given =>
    cases given with
    | none => exact hrefused rfl nofun nofun
    | some given =>
      by_cases hempty : given = ""
      · subst hempty
        exact hrefused rfl (fun h => (Edit.gives_add_iff.mp h).2 rfl) nofun
      · simp [attempt, edited, add_some hempty, Edit.gives_add_iff, hempty]
  | remove taken =>
    have hgives : ¬ (Edit.remove taken).Gives provider := nofun
    cases taken with
    | none => exact hrefused rfl hgives nofun
    | some taken => simp [attempt, edited, remove_some, hgives, eq_comm]
  | load text =>
    cases text with
    | none => exact hrefused rfl nofun nofun
    | some text => simp [attempt, edited, load_some, Edit.gives_load_iff]
  | copy =>
    have hgives : ¬ Edit.copy.Gives provider := nofun
    simp [attempt, edited, hgives]

/-- **What an entry holds** is what the edits leave that it grew from. -/
theorem mem_attemptAll_bare {name : String} (edits : List Edit) :
    provider ∈ ((bare name).attemptAll edits).providers ↔ Edit.Leave edits provider := by
  -- the last edit is the one that decides
  induction edits using List.reverseRecOn with
  | nil => exact iff_of_false ProviderSet.notMem_empty Edit.not_leave_nil
  | append_singleton edits edit ih =>
    rw [attemptAll, List.foldl_concat, ← attemptAll, mem_attempt_iff, ih, Edit.leave_concat_iff]

end Entry

/-! ### Rolls -/

/-- A **roll** of providers, in the order in which they arrived. -/
abbrev Roll := List String

namespace Roll

/-- The roll with a provider at its end, unless it is there. -/
def enter (roll : Roll) (provider : String) : Roll :=
  if provider ∈ roll then roll else roll ++ [provider]

/-- Enters a provider, which must have a name. -/
def add : Option String → EStateM Fault Roll Unit
  | none | some "" => throw .emptyProvider
  | some provider => modify (enter · provider)

/-- Strikes a provider out. -/
def remove : Option String → EStateM Fault Roll Unit
  | none => throw (.missing "provider")
  | some provider => modify (·.erase provider)

/-- Enters the providers of a text one after the other, up to the first that is refused. -/
def load : Option String → EStateM Fault Roll Unit
  | none => throw (.missing "text")
  | some text => (Listing.parse text).forM fun provider => add (some provider)

/-- Does an edit to a roll. Where it is refused, what was done before stays done. -/
def edit : Edit → EStateM Fault Roll Unit
  | .add provider => add provider
  | .remove provider => remove provider
  | .load text => load text
  | .copy => pure ()

/-- The roll after an edit was tried. -/
def attempt (roll : Roll) (step : Edit) : Roll :=
  match edit step roll with
  | .ok _ after | .error _ after => after

/-- The roll after some edits were tried one after the other. -/
def attemptAll (roll : Roll) (edits : List Edit) : Roll := edits.foldl attempt roll

/-- A roll **lists** an entry when it has each of its providers once, and nothing else. -/
structure Lists (roll : Roll) (entry : Entry) : Prop where
  nodup : roll.Nodup
  mem_iff : ∀ provider, provider ∈ roll ↔ provider ∈ entry.providers

variable {roll : Roll} {entry : Entry} {provider : String}

theorem lists_bare (name : String) : Lists [] (.bare name) :=
  ⟨List.nodup_nil, fun _ => iff_of_false List.not_mem_nil ProviderSet.notMem_empty⟩

theorem Lists.enter (h : roll.Lists entry) (provider : String) :
    (roll.enter provider).Lists (entry.insert provider) := by
  rw [Roll.enter]
  by_cases hthere : provider ∈ roll
  · rw [if_pos hthere]
    refine ⟨h.nodup, fun other => ?_⟩
    rw [Entry.providers_insert, ProviderSet.mem_insert, ← h.mem_iff, iff_or_self]
    rintro rfl
    exact hthere
  · rw [if_neg hthere]
    refine ⟨?_, fun other => ?_⟩
    · rw [(List.perm_append_singleton provider roll).nodup_iff]
      exact List.nodup_cons.mpr ⟨hthere, h.nodup⟩
    · rw [Entry.providers_insert, ProviderSet.mem_insert, ← h.mem_iff, List.mem_append,
        List.mem_singleton, or_comm]

/-- Only its first place is given up by a provider that is struck out, and it has no other. -/
theorem Lists.erase (h : roll.Lists entry) (provider : String) :
    Lists (roll.erase provider) (entry.erase provider) := by
  refine ⟨h.nodup.erase provider, fun other => ?_⟩
  rw [h.nodup.mem_erase_iff, Entry.providers_erase, ProviderSet.mem_erase, h.mem_iff, and_comm]

theorem add_some (h : provider ≠ "") :
    add (some provider) roll = .ok () (roll.enter provider) := by
  rw [add]
  · rfl
  · rintro rfl
    exact h rfl

/-- Providers with names are entered one after the other, and none is refused. -/
theorem Lists.forM_add {providers : List String} (hne : "" ∉ providers) (h : roll.Lists entry) :
    ∃ after, (providers.forM fun provider => add (some provider)) roll = .ok () after ∧
      after.Lists (entry.insertAll providers) := by
  induction providers generalizing roll entry with
  | nil => exact ⟨roll, rfl, h⟩
  | cons provider providers ih =>
    rw [List.mem_cons, not_or] at hne
    obtain ⟨after, hrun, hlists⟩ := ih hne.2 (h.enter provider)
    refine ⟨after, ?_, hlists⟩
    -- a state monad over rolls is not syntactically a function, so the bind is opened by hand
    have hfirst (k : Unit → EStateM Fault Roll Unit) :
        (add (some provider) >>= k) roll = k () (roll.enter provider) := by
      change EStateM.bind (add (some provider)) k roll = _
      rw [EStateM.bind, add_some (Ne.symm hne.1)]
    exact (hfirst _).trans hrun

/-- **An edit** is taken by a roll as by the entry that it lists, and lists it again; or both
refuse it for the same fault, and nothing is entered. -/
theorem Lists.edited (h : roll.Lists entry) (step : Edit) :
    (∃ new told after, entry.edited step = .ok (new, told) ∧ edit step roll = .ok () after ∧
        after.Lists new) ∨
      ∃ fault, entry.edited step = .error fault ∧ edit step roll = .error fault roll := by
  cases step with
  | add given =>
    cases given with
    | none => exact Or.inr ⟨_, rfl, rfl⟩
    | some given =>
      by_cases hempty : given = ""
      · subst hempty
        exact Or.inr ⟨_, rfl, rfl⟩
      · exact Or.inl ⟨_, _, _, Entry.add_some hempty, add_some hempty, h.enter given⟩
  | remove taken =>
    cases taken with
    | none => exact Or.inr ⟨_, rfl, rfl⟩
    | some taken => exact Or.inl ⟨_, _, _, rfl, rfl, h.erase taken⟩
  | load text =>
    cases text with
    | none => exact Or.inr ⟨_, rfl, rfl⟩
    | some text =>
      have hne : "" ∉ Listing.parse text := fun hempty => Listing.ne_empty_of_mem_parse hempty rfl
      obtain ⟨after, hrun, hlists⟩ := h.forM_add hne
      exact Or.inl ⟨_, _, after, rfl, hrun, hlists⟩
  | copy => exact Or.inl ⟨entry, [], roll, rfl, rfl, h⟩

theorem Lists.edit_of_error {step : Edit} {fault : Fault} (h : roll.Lists entry)
    (hrefused : entry.edited step = .error fault) : edit step roll = .error fault roll := by
  rcases h.edited step with ⟨new, told, after, htaken, -⟩ | ⟨cause, hsame, hroll⟩
  · cases htaken.symm.trans hrefused
  · obtain rfl := Except.error.inj (hsame.symm.trans hrefused)
    exact hroll

theorem Lists.attempt (h : roll.Lists entry) (step : Edit) :
    (roll.attempt step).Lists (entry.attempt step) := by
  rcases h.edited step with ⟨new, told, after, hentry, hroll, hlists⟩ | ⟨fault, hentry, hroll⟩
  · rwa [Entry.attempt_of_ok hentry, Roll.attempt, hroll]
  · rwa [Entry.attempt_of_error hentry, Roll.attempt, hroll]

/-- **Whatever the edits**, the roll lists the entry. -/
theorem Lists.attemptAll (h : roll.Lists entry) (edits : List Edit) :
    (roll.attemptAll edits).Lists (entry.attemptAll edits) := by
  induction edits generalizing roll entry with
  | nil => exact h
  | cons step edits ih => exact ih (h.attempt step)

end Roll

/-! ### Texts -/

/-- The code points of a text. -/
def Text.codePoints (text : String) : List Nat := text.toList.map Char.toNat

theorem Text.codePoints_lt {text other : String} (h : text < other) :
    codePoints text < codePoints other :=
  List.map_lt (fun _ _ hlt => hlt) (String.lt_iff_toList_lt.mp h)

namespace Listing

/-- **Sorted**, different providers stand as in the set of them. -/
theorem ascending_eq_toList {providers : List String} {s : ProviderSet} (hnodup : providers.Nodup)
    (h : ∀ provider, provider ∈ providers ↔ provider ∈ s) : ascending providers = s.toList :=
  ProviderSet.eq_of_mem_iff (pairwise_lt_ascending hnodup) s.ascending fun provider =>
    mem_ascending.trans (h provider)

/-- Lines without a line break in them are told by the text that they make up. -/
theorem eq_of_join_eq {providers others : List String}
    (hproviders : ∀ provider ∈ providers, '\n' ∉ provider.toList)
    (hothers : ∀ other ∈ others, '\n' ∉ other.toList)
    (h : String.join (providers.map (· ++ "\n")) = String.join (others.map (· ++ "\n"))) :
    providers = others := by
  have hlines : providers.map String.toList ++ [[]] = others.map String.toList ++ [[]] := by
    rw [← split_flatMap hproviders, ← split_flatMap hothers, ← toList_join, ← toList_join, h]
  exact List.map_injective_iff.mpr (fun _ _ => String.toList_injective)
    (List.append_cancel_right hlines)

/-- A line break makes one provider look like two. -/
example : String.join (["a\nb"].map (· ++ "\n")) = String.join (["a", "b"].map (· ++ "\n")) := by
  decide +kernel

end Listing

namespace Entry

variable {entry other : Entry}

/-- The text of an entry has its providers in their order, one a line. -/
theorem render_eq (entry : Entry) :
    entry.render = String.join (entry.providers.toList.map (· ++ "\n")) := by
  have hnodup : entry.providers.toList.Nodup := entry.providers.ascending.imp fun hlt => hlt.ne
  rw [render, Listing.render, Listing.ascending_eq_toList hnodup fun _ => Iff.rfl]

/-- A roll of the entry has the same text. -/
theorem render_of_lists {roll : Roll} (h : roll.Lists entry) :
    Listing.render roll = entry.render := by
  rw [Listing.render, Listing.ascending_eq_toList h.nodup h.mem_iff, render_eq]

/-- Entries are equal when their names and their providers are the same. -/
theorem eq_iff_mem_iff :
    entry = other ↔ entry.name = other.name ∧
      ∀ provider, provider ∈ entry.providers ↔ provider ∈ other.providers := by
  constructor
  · rintro rfl
    exact ⟨rfl, fun _ => Iff.rfl⟩
  · rintro ⟨hname, hsame⟩
    exact eq_of_name_eq hname hsame

/-- Entries whose providers have no line breaks have the same text when their providers are the
same. -/
theorem render_eq_iff_mem_iff (h : ∀ provider ∈ entry.providers, '\n' ∉ provider.toList)
    (hother : ∀ provider ∈ other.providers, '\n' ∉ provider.toList) :
    entry.render = other.render ↔
      ∀ provider, provider ∈ entry.providers ↔ provider ∈ other.providers := by
  rw [render_eq, render_eq]
  constructor
  · intro hrender provider
    rw [ProviderSet.mem_iff, Listing.eq_of_join_eq h hother hrender, ProviderSet.mem_iff]
  · intro hsame
    rw [ProviderSet.ext hsame]

/-- What is so of an entry that **grew** by some edits, and of its roll. The entry holds the
providers that the edits leave. The roll has each of them once, none of them is empty, and an edit
that is refused leaves the roll as it is. The text has the providers one a line, each line ended,
in strictly ascending order of their code points, and sorting the roll gives the same text,
whatever the order of the roll. -/
structure Grew (edits : List Edit) (roll : Roll) (entry : Entry) : Prop where
  mem_iff (provider : String) : provider ∈ entry.providers ↔ Edit.Leave edits provider
  mem_roll_iff (provider : String) : provider ∈ roll ↔ provider ∈ entry.providers
  nodup : roll.Nodup
  named : "" ∉ roll
  refused (step : Edit) (fault : Fault) (h : entry.edited step = .error fault) :
    Roll.edit step roll = .error fault roll
  render : entry.render = String.join (entry.providers.toList.map (· ++ "\n"))
  ascending : entry.providers.toList.Pairwise fun provider next =>
    Text.codePoints provider < Text.codePoints next
  render_roll : Listing.render roll = entry.render

/-- What **tells apart** two entries that grew by some edits. They are equal when their names and
the members of their rolls are the same, and this is to say when their names and their texts are.
Their texts are the same just when their edits leave the same providers. -/
structure ToldApart (edits otherEdits : List Edit) (roll otherRoll : Roll) (entry other : Entry) :
    Prop where
  eq_iff_roll : entry = other ↔
    entry.name = other.name ∧ ∀ provider, provider ∈ roll ↔ provider ∈ otherRoll
  eq_iff_render : entry = other ↔ entry.name = other.name ∧ entry.render = other.render
  render_eq_iff : entry.render = other.render ↔
    ∀ provider, Edit.Leave edits provider ↔ Edit.Leave otherEdits provider

/-- A bare entry that changes by some edits grows by them. -/
theorem grew_attemptAll (name : String) (edits : List Edit) :
    Grew edits (Roll.attemptAll [] edits) ((bare name).attemptAll edits) := by
  have hlists := (Roll.lists_bare name).attemptAll edits
  have hleft (provider : String) :
      provider ∈ ((bare name).attemptAll edits).providers ↔ Edit.Leave edits provider :=
    mem_attemptAll_bare edits
  have hnamed : "" ∉ Roll.attemptAll [] edits := fun hempty =>
    ((hleft "").mp ((hlists.mem_iff "").mp hempty)).ne_empty rfl
  exact ⟨hleft, hlists.mem_iff, hlists.nodup, hnamed, fun step fault => hlists.edit_of_error,
    render_eq _, ((bare name).attemptAll edits).providers.ascending.imp Text.codePoints_lt,
    render_of_lists hlists⟩

/-- **The text of an entry is canonical.** Two entries grew from bare ones by any edits, refused
ones among them, none of which adds a provider with a line break in it. Then their names and their
texts tell them apart, and nothing that their edits have been on the way. -/
theorem edits_render_canonically {name otherName : String} {edits otherEdits : List Edit}
    (hedits : ∀ provider, Edit.add (some provider) ∈ edits → '\n' ∉ provider.toList)
    (hotherEdits : ∀ provider, Edit.add (some provider) ∈ otherEdits → '\n' ∉ provider.toList) :
    let entry := (bare name).attemptAll edits
    let other := (bare otherName).attemptAll otherEdits
    let roll := Roll.attemptAll [] edits
    let otherRoll := Roll.attemptAll [] otherEdits
    Grew edits roll entry ∧ Grew otherEdits otherRoll other ∧
      ToldApart edits otherEdits roll otherRoll entry other := by
  intro entry other roll otherRoll
  have hgrew : Grew edits roll entry := grew_attemptAll name edits
  have hother : Grew otherEdits otherRoll other := grew_attemptAll otherName otherEdits
  have hrender : entry.render = other.render ↔
      ∀ provider, provider ∈ entry.providers ↔ provider ∈ other.providers :=
    render_eq_iff_mem_iff
      (fun provider hmem => ((hgrew.mem_iff provider).mp hmem).noBreak hedits)
      fun provider hmem => ((hother.mem_iff provider).mp hmem).noBreak hotherEdits
  refine ⟨hgrew, hother, ?_, ?_, ?_⟩
  · simp only [hgrew.mem_roll_iff, hother.mem_roll_iff]
    exact eq_iff_mem_iff
  · rw [hrender]
    exact eq_iff_mem_iff
  · rw [hrender]
    exact forall_congr' fun provider =>
      iff_congr (hgrew.mem_iff provider) (hother.mem_iff provider)

/-- Two histories of the same providers, with what is refused and what is taken back among
them, end in different rolls and in one text. -/
theorem edits_render_canonically_of_two_histories :
    let edits : List Edit := [.add (some "b.Zip"), .add none, .copy, .add (some ""),
      .load (some "# listed\n a.Plain # first\n\nb.Zip\n")]
    let otherEdits : List Edit := [.load (some "c.Old\na.Plain"), .remove none,
      .remove (some "c.Old"), .add (some "b.Zip"), .load none, .add (some "a.Plain")]
    let entry := (bare "a.Port").attemptAll edits
    (∀ provider, Edit.add (some provider) ∈ edits → '\n' ∉ provider.toList) ∧
      (∀ provider, Edit.add (some provider) ∈ otherEdits → '\n' ∉ provider.toList) ∧
      Roll.attemptAll [] edits = ["b.Zip", "a.Plain"] ∧
      Roll.attemptAll [] otherEdits = ["a.Plain", "b.Zip"] ∧
      entry = (bare "a.Port").attemptAll otherEdits ∧ entry.render = "a.Plain\nb.Zip\n" := by
  intro edits otherEdits entry
  have hedits : ∀ provider, Edit.add (some provider) ∈ edits → '\n' ∉ provider.toList := by
    intro provider hadd
    obtain rfl | rfl : provider = "b.Zip" ∨ provider = "" := by simpa [edits] using hadd
    · decide
    · decide
  have hotherEdits : ∀ provider, Edit.add (some provider) ∈ otherEdits →
      '\n' ∉ provider.toList := by
    intro provider hadd
    obtain rfl | rfl : provider = "b.Zip" ∨ provider = "a.Plain" := by
      simpa [otherEdits] using hadd
    · decide
    · decide
  have hroll : Roll.attemptAll [] edits = ["b.Zip", "a.Plain"] := by decide +kernel
  have hotherRoll : Roll.attemptAll [] otherEdits = ["a.Plain", "b.Zip"] := by decide +kernel
  obtain ⟨hgrew, -, happart⟩ :=
    @edits_render_canonically "a.Port" "a.Port" edits otherEdits hedits hotherEdits
  refine ⟨hedits, hotherEdits, hroll, hotherRoll,
    happart.eq_iff_roll.mpr ⟨by decide +kernel, fun provider => ?_⟩, ?_⟩
  · rw [hroll, hotherRoll]
    exact (List.Perm.swap _ _ _).mem_iff
  · have hlist : entry.providers.toList = ["a.Plain", "b.Zip"] := by decide +kernel
    rw [hgrew.render, hlist]
    rfl

end Entry

end ProviderRegistry
