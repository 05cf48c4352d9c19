/-!
# Line ends

A text that is read from a file may end its lines in a line feed, in a carriage return or in both.
Reading makes every line end a line feed; a text without carriage return is read as it is.
-/

namespace ProviderRegistry.Text

/-- Every line end as a line feed. -/
def unifyNewlines : List Char → List Char
  | '\r' :: '\n' :: rest => '\n' :: unifyNewlines rest
  | '\r' :: rest => '\n' :: unifyNewlines rest
  | c :: rest => c :: unifyNewlines rest
  | [] => []

/-- Without a carriage return there is nothing to unify. -/
theorem unifyNewlines_of_notMem {cs : List Char} (h : '\r' ∉ cs) : unifyNewlines cs = cs := by
  fun_induction unifyNewlines cs with
  | case1 => simp at h
  | case2 => simp at h
  | case3 c rest _ _ ih => simp_all
  | case4 => rfl

/-- No carriage return is left. -/
theorem notMem_unifyNewlines (cs : List Char) : '\r' ∉ unifyNewlines cs := by
  fun_induction unifyNewlines cs with
  | case1 rest ih => simp [ih]
  | case2 rest _ ih => simp [ih]
  | case3 c rest _ hc ih =>
    simp only [List.mem_cons, not_or]
    exact ⟨fun h => hc h.symm, ih⟩
  | case4 => simp

end ProviderRegistry.Text
