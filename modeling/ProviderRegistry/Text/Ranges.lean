/-!
# Tables of character ranges

A property of characters that a standard lists rather than defines is kept as a table: an array of
closed ranges of code points. `Ranges.contains` decides membership; it is a plain search, so what a
table says of a character is what its ranges say, in any order.
-/

namespace ProviderRegistry.Text

/-- A **table** of closed ranges of code points. -/
abbrev Ranges := Array (Nat × Nat)

/-- Some range of the table holds the code point of the character. -/
def Ranges.contains (table : Ranges) (c : Char) : Bool :=
  table.any fun range => range.1 ≤ c.toNat && c.toNat ≤ range.2

theorem Ranges.contains_iff {table : Ranges} {c : Char} :
    table.contains c = true ↔ ∃ range ∈ table, range.1 ≤ c.toNat ∧ c.toNat ≤ range.2 := by
  rw [Ranges.contains, Array.any_eq_true']
  simp only [Bool.and_eq_true, decide_eq_true_eq]

end ProviderRegistry.Text
