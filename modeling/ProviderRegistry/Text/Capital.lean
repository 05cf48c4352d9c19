/-!
# Capitals

Words that start with a capital, or consist of capitals.
-/

namespace ProviderRegistry.Text

/-- A word with a capital in front; the rest stays as it is. -/
def capitalized (word : String) : String :=
  match word.toList with
  | [] => ""
  | c :: rest => String.ofList (c.toUpper :: rest)

/-- A word in capitals. -/
def inCapitals (word : String) : String := String.ofList (word.toList.map Char.toUpper)

end ProviderRegistry.Text
