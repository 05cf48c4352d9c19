import ProviderRegistry.Text.Blank
import ProviderRegistry.Text.Split
import ProviderRegistry.Options

/-!
# Listings

The text in which the providers of one name are kept: one provider a line, in ascending order. A
hash sign starts a comment, blanks around a provider do not count, and lines without a provider are
skipped. A text that the program writes opens with a comment that names the tool.
-/

namespace ProviderRegistry.Listing

/-- The comment that opens a written listing. -/
def header (tool : String) : String := s!"# Generated by {tool}\n"

/-- Texts in ascending order. -/
def ascending (providers : List String) : List String := providers.mergeSort

/-- The providers in ascending order, one a line. -/
def render (providers : List String) : String :=
  String.join ((ascending providers).map (· ++ "\n"))

/-- The provider that a line names, without its comment and the blanks around it. -/
def provider? (line : List Char) : Option String :=
  match Text.trim (Text.beforeFirst '#' line) with
  | [] => none
  | token => some (String.ofList token)

/-- The providers that a text lists. -/
def parse (text : String) : List String :=
  (Text.split '\n' text.toList).filterMap provider?

/-- Is this the name of a log, which is never a listing? -/
def isLogName (name : String) : Bool :=
  (".log".toList).isSuffixOf (foldCase name).toList

theorem pairwise_ascending (providers : List String) :
    (ascending providers).Pairwise (· ≤ ·) := by
  have hsorted : (ascending providers).Pairwise fun a b => decide (a ≤ b) = true := by
    refine List.pairwise_mergeSort (fun a b c hab hbc => ?_) (fun a b => ?_) providers
    · exact decide_eq_true (String.le_trans (of_decide_eq_true hab) (of_decide_eq_true hbc))
    · rw [Bool.or_eq_true, decide_eq_true_eq, decide_eq_true_eq]
      exact String.le_total a b
  exact hsorted.imp of_decide_eq_true

/-- No listed provider is empty. -/
theorem ne_empty_of_mem_parse {text provider : String} (h : provider ∈ parse text) :
    provider ≠ "" := by
  simp only [parse, List.mem_filterMap, provider?] at h
  obtain ⟨line, -, h⟩ := h
  split at h
  · simp at h
  · rename_i hne
    obtain rfl := Option.some.inj h
    intro hempty
    exact hne (by simpa using congrArg String.toList hempty)

end ProviderRegistry.Listing
