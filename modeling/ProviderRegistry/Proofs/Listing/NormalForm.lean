import ProviderRegistry.Proofs.Listing.RoundTrip

/-!
# The normal form of a listing

A text that is read and written again is in its normal form at once: `Listing.normalized` is the
listing of what the text lists, and that lists the same (`stored_normalized`), whatever comments,
blanks, repetitions and order the text has.

An entry takes in a text one provider after the other, and each of them must have a name
(`Entry.addEach`). Whatever the text, none of them is refused (`Entry.load_eq_addEach`), so every
text can be loaded, and the entry that is loaded again from the normal form is the same
(`load_normalizes`).
-/

namespace ProviderRegistry

/-! ### One provider after the other -/

namespace Entry

/-- The entry given some providers one after the other, up to the first that it refuses. -/
def addEach (entry : Entry) : List String → Except Fault (Entry × List Event)
  | [] => .ok (entry, [])
  | provider :: providers =>
    match entry.add (some provider) with
    | .error fault => .error fault
    | .ok (next, told) =>
      match next.addEach providers with
      | .error fault => .error fault
      | .ok (last, more) => .ok (last, told ++ more)

/-- Providers that have names are all taken in. -/
theorem addEach_eq {providers : List String} (h : "" ∉ providers) (entry : Entry) :
    entry.addEach providers =
      .ok (entry.insertAll providers, providers.map (adding entry.name)) := by
  induction providers generalizing entry with
  | nil => rfl
  | cons provider providers ih =>
    rw [List.mem_cons, not_or] at h
    rw [addEach, add_some (Ne.symm h.1)]
    simp only [ih h.2 (entry.insert provider), name_insert, List.singleton_append, List.map_cons]
    rfl

/-- **To load a text** is to take in each of its providers, none of which is refused. -/
theorem load_eq_addEach (entry : Entry) (text : String) :
    entry.load (some text) = entry.addEach (Listing.parse text) := by
  rw [addEach_eq fun hempty => Listing.ne_empty_of_mem_parse hempty rfl]
  rfl

end Entry

/-! ### Normal forms -/

namespace Listing

/-- A text **normalized**: the listing that a tool writes of the providers in it. -/
def normalized (tool text : String) : String := header tool ++ render (stored (some text)).toList

variable {tool text : String}

/-- What a text lists has names that a line holds as they are. -/
theorem clean_of_mem_stored {provider : String} (h : provider ∈ stored (some text)) :
    provider ≠ "" ∧ Clean provider := by
  obtain ⟨content, hcontent, hprovider⟩ := mem_stored.mp h
  obtain rfl := Option.some.inj hcontent
  exact ⟨ne_empty_of_mem_parse hprovider, clean_of_mem_parse hprovider⟩

/-- The normal form lists what the text lists. -/
@[simp]
theorem stored_normalized (htool : '\n' ∉ tool.toList) (text : String) :
    stored (some (normalized tool text)) = stored (some text) := by
  have hclean : ∀ provider ∈ stored (some text), Clean provider := fun provider hprovider =>
    (clean_of_mem_stored hprovider).2
  have hne : "" ∉ stored (some text) := fun hempty => (clean_of_mem_stored hempty).1 rfl
  exact @stored_header_append_render tool ⟨"", stored (some text)⟩ htool hclean hne

/-- **Loading a text normalizes it.** Whatever the text, a new entry takes in all its providers,
each of which has a name that a line holds as it is. What the entry writes under the comment of a
tool is loaded as the same entry again, which writes the same. The name of the tool must have no
line
break. -/
theorem load_normalizes (name : String) {tool : String} (htool : '\n' ∉ tool.toList)
    (text : String) :
    ∃ entry told, Entry.load (.bare name) (some text) = .ok (entry, told) ∧
      Entry.addEach (.bare name) (parse text) = .ok (entry, told) ∧
      (∀ provider, provider ∈ entry.providers ↔ provider ∈ parse text) ∧
      (∀ provider ∈ entry.providers, provider ≠ "" ∧ Clean provider) ∧
      ∃ again told',
        Entry.load (.bare name) (some (header tool ++ entry.render)) = .ok (again, told') ∧
        again = entry ∧ header tool ++ again.render = header tool ++ entry.render := by
  have hload (content : String) : Entry.load (.bare name) (some content) =
      .ok (⟨name, stored (some content)⟩, Entry.loadNotes name content) := rfl
  have hagain : (⟨name, stored (some (normalized tool text))⟩ : Entry) =
      ⟨name, stored (some text)⟩ := by
    rw [stored_normalized htool]
  refine ⟨_, _, hload text, (Entry.load_eq_addEach (.bare name) text).symm.trans (hload text),
    fun provider => ?_, fun provider => clean_of_mem_stored, ?_⟩
  · simp
  · exact ⟨_, _, hload (normalized tool text), hagain, by rw [hagain]⟩

/-- A text with a comment, blanks, a provider listed twice and no line break at its end is loaded
as the two providers that it lists, and their listing is loaded as the same. -/
theorem load_normalizes_of_edited_text :
    let text := " b.Zip # the newer one\n\n#c.Old\nb.Zip\n\ta.Plain"
    '\n' ∉ "provreg (0.3.0)".toList ∧
      ∃ entry told, Entry.load (.bare "a.Port") (some text) = .ok (entry, told) ∧
        "a.Plain" ∈ entry.providers ∧ "b.Zip" ∈ entry.providers ∧ "c.Old" ∉ entry.providers ∧
        ∃ told', Entry.load (.bare "a.Port")
          (some (header "provreg (0.3.0)" ++ entry.render)) = .ok (entry, told') := by
  intro text
  have htool : '\n' ∉ "provreg (0.3.0)".toList := by decide
  obtain ⟨entry, told, hload, -, hmem, -, again, told', hagain, rfl, -⟩ :=
    load_normalizes "a.Port" htool text
  refine ⟨htool, again, told, hload, ?_, ?_, ?_, told', hagain⟩
  · exact (hmem _).mpr (by decide +kernel)
  · exact (hmem _).mpr (by decide +kernel)
  · exact (hmem _).not.mpr (by decide +kernel)

end Listing

end ProviderRegistry
