/-!
# Splitting and joining

Cutting a text at every occurrence of one character, at its first and at its last. The pieces hold
no separator and put the text back together: `join_split`, `notMem_of_mem_split`.
-/

namespace ProviderRegistry.Text

variable {sep : Char}

/-- The pieces of a text between the separators; a text without separator is one piece. -/
def split (sep : Char) : List Char → List (List Char)
  | [] => [[]]
  | c :: rest =>
    if c = sep then [] :: split sep rest
    else
      match split sep rest with
      | [] => [[c]]
      | piece :: pieces => (c :: piece) :: pieces

/-- The pieces with one separator between two. -/
def join (sep : Char) : List (List Char) → List Char
  | [] => []
  | [piece] => piece
  | piece :: pieces => piece ++ sep :: join sep pieces

theorem split_ne_nil (cs : List Char) : split sep cs ≠ [] := by
  cases cs with
  | nil => simp [split]
  | cons c rest =>
    simp only [split]
    split
    · simp
    · split <;> simp

theorem join_cons {piece : List Char} {pieces : List (List Char)} (h : pieces ≠ []) :
    join sep (piece :: pieces) = piece ++ sep :: join sep pieces := by
  cases pieces with
  | nil => exact absurd rfl h
  | cons next rest => rfl

/-- Splitting loses nothing. -/
theorem join_split (cs : List Char) : join sep (split sep cs) = cs := by
  induction cs with
  | nil => rfl
  | cons c rest ih =>
    by_cases h : c = sep
    · simp [split, h, join_cons (split_ne_nil rest), ih]
    · cases hs : split sep rest with
      | nil => exact absurd hs (split_ne_nil rest)
      | cons piece pieces =>
        rw [hs] at ih
        have hsplit : split sep (c :: rest) = (c :: piece) :: pieces := by simp [split, h, hs]
        rw [hsplit]
        cases pieces with
        | nil => simpa [join] using ih
        | cons next more => simpa [join] using ih

/-- No piece holds a separator. -/
theorem notMem_of_mem_split {cs piece : List Char} (h : piece ∈ split sep cs) : sep ∉ piece := by
  induction cs generalizing piece with
  | nil => simp_all [split]
  | cons c rest ih =>
    by_cases hc : c = sep
    · simp only [split, hc, if_true, List.mem_cons] at h
      rcases h with rfl | h
      · simp
      · exact ih h
    · cases hs : split sep rest with
      | nil => exact absurd hs (split_ne_nil rest)
      | cons first pieces =>
        rw [hs] at ih
        simp only [split, hc, if_false, hs, List.mem_cons] at h
        rcases h with rfl | h
        · have hfirst : sep ∉ first := ih (by simp)
          simp [hfirst, Ne.symm hc]
        · exact ih (by simp [h])

/-- A text without separator is one piece. -/
theorem split_of_notMem {cs : List Char} (h : sep ∉ cs) : split sep cs = [cs] := by
  induction cs with
  | nil => rfl
  | cons c rest ih =>
    simp only [List.mem_cons, not_or] at h
    simp [split, Ne.symm h.1, ih h.2]

/-- The first separator ends the first piece. -/
theorem split_append {cs : List Char} (rest : List Char) (h : sep ∉ cs) :
    split sep (cs ++ sep :: rest) = cs :: split sep rest := by
  induction cs with
  | nil => simp [split]
  | cons c cs ih =>
    simp only [List.mem_cons, not_or] at h
    simp [split, Ne.symm h.1, ih h.2]

/-- Two texts with a separator between them are split each. -/
theorem split_append_sep (cs ds : List Char) :
    split sep (cs ++ sep :: ds) = split sep cs ++ split sep ds := by
  induction cs with
  | nil => simp [split]
  | cons c cs ih =>
    by_cases h : c = sep
    · simp [split, h, ih]
    · cases hs : split sep cs with
      | nil => exact absurd hs (split_ne_nil cs)
      | cons piece pieces => simp [split, h, ih, hs]

/-- What stands before the first separator. -/
def beforeFirst (sep : Char) (cs : List Char) : List Char := cs.takeWhile (· != sep)

/-- What follows the first separator; `none` where there is none. -/
def afterFirst? (sep : Char) (cs : List Char) : Option (List Char) :=
  match cs.dropWhile (· != sep) with
  | [] => none
  | _ :: rest => some rest

/-- What follows the last separator, or the whole text. -/
def afterLast (sep : Char) (cs : List Char) : List Char :=
  (cs.reverse.takeWhile (· != sep)).reverse

/-- What stands before the last separator; `none` where there is none. -/
def beforeLast? (sep : Char) (cs : List Char) : Option (List Char) :=
  match cs.reverse.dropWhile (· != sep) with
  | [] => none
  | _ :: rest => some rest.reverse

private theorem takeWhile_append_of_notMem {cs : List Char} (h : sep ∉ cs) (ds : List Char) :
    (cs ++ ds).takeWhile (· != sep) = cs ++ ds.takeWhile (· != sep) :=
  List.takeWhile_append_of_pos fun _ hc => bne_iff_ne.mpr fun heq => h (heq ▸ hc)

private theorem dropWhile_append_of_notMem {cs : List Char} (h : sep ∉ cs) (ds : List Char) :
    (cs ++ ds).dropWhile (· != sep) = ds.dropWhile (· != sep) :=
  List.dropWhile_append_of_pos fun _ hc => bne_iff_ne.mpr fun heq => h (heq ▸ hc)

theorem beforeFirst_of_notMem {cs : List Char} (h : sep ∉ cs) : beforeFirst sep cs = cs := by
  simpa [beforeFirst] using takeWhile_append_of_notMem h []

theorem afterFirst?_of_notMem {cs : List Char} (h : sep ∉ cs) : afterFirst? sep cs = none := by
  have hdrop : cs.dropWhile (· != sep) = [] := by simpa using dropWhile_append_of_notMem h []
  rw [afterFirst?, hdrop]

/-- The last separator starts what follows it. -/
theorem afterLast_append (cs : List Char) {ds : List Char} (h : sep ∉ ds) :
    afterLast sep (cs ++ sep :: ds) = ds := by
  have hds : sep ∉ ds.reverse := by simpa using h
  rw [afterLast, List.reverse_append, List.reverse_cons, List.append_assoc,
    takeWhile_append_of_notMem hds]
  simp

/-- The last separator ends what stands before it. -/
theorem beforeLast?_append (cs : List Char) {ds : List Char} (h : sep ∉ ds) :
    beforeLast? sep (cs ++ sep :: ds) = some cs := by
  have hds : sep ∉ ds.reverse := by simpa using h
  rw [beforeLast?, List.reverse_append, List.reverse_cons, List.append_assoc,
    dropWhile_append_of_notMem hds]
  simp

theorem beforeLast?_of_notMem {cs : List Char} (h : sep ∉ cs) : beforeLast? sep cs = none := by
  have hcs : sep ∉ cs.reverse := by simpa using h
  have hdrop : cs.reverse.dropWhile (· != sep) = [] := by
    simpa using dropWhile_append_of_notMem hcs []
  rw [beforeLast?, hdrop]

end ProviderRegistry.Text
