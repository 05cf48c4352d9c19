/-!
# Sets of providers

A set of providers is a list in strictly ascending order, so two sets with the same members are
equal (`ProviderSet.ext`) and a set shows in one way only.
-/

namespace ProviderRegistry

/-- A finite set of texts, kept in strictly ascending order. -/
structure ProviderSet where
  toList : List String
  ascending : toList.Pairwise (· < ·)

namespace ProviderSet

instance : DecidableEq ProviderSet := fun s t =>
  decidable_of_iff (s.toList = t.toList) ⟨fun h => by cases s; cases t; cases h; rfl, congrArg _⟩

instance : Membership String ProviderSet := ⟨fun s p => p ∈ s.toList⟩

instance (p : String) (s : ProviderSet) : Decidable (p ∈ s) :=
  inferInstanceAs (Decidable (p ∈ s.toList))

/-- The set without members. -/
def empty : ProviderSet := ⟨[], .nil⟩

instance : Inhabited ProviderSet := ⟨empty⟩

/-- Has the set no members? -/
def isEmpty (s : ProviderSet) : Bool := s.toList.isEmpty

/-- A text put into its place of an ascending list, unless it is there. -/
def insertAscending (p : String) : List String → List String
  | [] => [p]
  | q :: rest => if p < q then p :: q :: rest else if p = q then q :: rest
    else q :: insertAscending p rest

/-- An insertion adds one member. -/
theorem mem_insertAscending {p q : String} {ps : List String} :
    q ∈ insertAscending p ps ↔ q = p ∨ q ∈ ps := by
  induction ps with
  | nil => simp [insertAscending]
  | cons r rest ih =>
    simp only [insertAscending]
    split
    · simp
    · split
      · rename_i h
        subst h
        simp
      · simp only [List.mem_cons, ih]
        exact or_left_comm

/-- An insertion keeps the order. -/
theorem pairwise_insertAscending {p : String} {ps : List String} (h : ps.Pairwise (· < ·)) :
    (insertAscending p ps).Pairwise (· < ·) := by
  induction ps with
  | nil => simp [insertAscending]
  | cons q rest ih =>
    obtain ⟨hq, hrest⟩ := List.pairwise_cons.1 h
    simp only [insertAscending]
    split
    · rename_i hpq
      refine List.pairwise_cons.2 ⟨fun r hr => ?_, h⟩
      rcases List.mem_cons.1 hr with rfl | hr
      · exact hpq
      · exact String.lt_trans hpq (hq r hr)
    · split
      · exact h
      · rename_i hle hne
        refine List.pairwise_cons.2 ⟨fun r hr => ?_, ih hrest⟩
        rcases mem_insertAscending.1 hr with rfl | hr
        · rcases Decidable.em (q < r) with hlt | hge
          · exact hlt
          · exact absurd (String.le_antisymm (String.not_lt.1 hge) (String.not_lt.1 hle)) hne
        · exact hq r hr

/-- The set with one more member. -/
def insert (p : String) (s : ProviderSet) : ProviderSet :=
  ⟨insertAscending p s.toList, pairwise_insertAscending s.ascending⟩

/-- The set without a member. -/
def erase (p : String) (s : ProviderSet) : ProviderSet :=
  ⟨s.toList.filter (· != p), s.ascending.filter _⟩

/-- The set with some more members. -/
def insertAll (ps : List String) (s : ProviderSet) : ProviderSet :=
  ps.foldl (fun s p => s.insert p) s

theorem mem_iff {p : String} {s : ProviderSet} : p ∈ s ↔ p ∈ s.toList := Iff.rfl

@[simp]
theorem notMem_empty {p : String} : p ∉ empty := by simp [mem_iff, empty]

@[simp]
theorem mem_insert {p q : String} {s : ProviderSet} : q ∈ s.insert p ↔ q = p ∨ q ∈ s :=
  mem_insertAscending

@[simp]
theorem mem_erase {p q : String} {s : ProviderSet} : q ∈ s.erase p ↔ q ∈ s ∧ q ≠ p := by
  simp [mem_iff, erase]

@[simp]
theorem mem_insertAll {ps : List String} {q : String} {s : ProviderSet} :
    q ∈ s.insertAll ps ↔ q ∈ ps ∨ q ∈ s := by
  induction ps generalizing s with
  | nil => simp [insertAll]
  | cons p ps ih =>
    have h : s.insertAll (p :: ps) = (s.insert p).insertAll ps := rfl
    rw [h, ih, mem_insert, List.mem_cons]
    constructor
    · rintro (h | h | h) <;> simp [h]
    · rintro ((h | h) | h) <;> simp [h]

/-- Two ascending lists with the same members are the same list. -/
theorem eq_of_mem_iff {ps qs : List String} (hp : ps.Pairwise (· < ·)) (hq : qs.Pairwise (· < ·))
    (h : ∀ r, r ∈ ps ↔ r ∈ qs) : ps = qs := by
  have hnodup {rs : List String} (hr : rs.Pairwise (· < ·)) : rs.Nodup :=
    hr.imp fun hlt => String.ne_of_lt hlt
  exact List.Perm.eq_of_pairwise (fun _ _ _ _ hlt hgt => absurd hgt (String.lt_asymm hlt)) hp hq
    ((List.perm_ext_iff_of_nodup (hnodup hp) (hnodup hq)).mpr h)

/-- Sets with the same members are equal. -/
theorem ext {s t : ProviderSet} (h : ∀ p, p ∈ s ↔ p ∈ t) : s = t := by
  have := eq_of_mem_iff s.ascending t.ascending h
  cases s
  cases t
  cases this
  rfl

end ProviderSet

end ProviderRegistry
