import ProviderRegistry.Flavor
import ProviderRegistry.Proofs.Source.Round
import ProviderRegistry.Proofs.Source.Supertypes

/-!
# Linearizations

A class with several bases is asked for an attribute in the order of its **linearization**: the
linearizations of its bases and the list of the bases itself are merged, always taking the first
head that stands in the tail of none of them (`Merges`). A round looks its supertypes through in
another order, the one of a search in depth. It has the same classes, but a class that is reached
in several ways stands where it is reached first, and that may be before a class that inherits from
it.

The two orders are the same just when the search in depth **respects** the hierarchy, which means
that every class stands before its bases and these stand in their order (`eraseDups_below_eq_iff`).
So the constructor that a class inherits in a round is the one that it has where this holds
(`inherited_constructor_follows_linearization`), for example where no class is reached in two ways;
in a diamond it may be another (`inherited_constructor_of_diamond`).
-/

namespace ProviderRegistry.Source

variable {bases above below : String → List String} {lists : List (List String)}
  {list names order : List String} {name head : String}

/-! ### Merging lists -/

/-- The first name that stands at the head of some list and in the tail of none. -/
def goodHead? (lists : List (List String)) : Option String :=
  (lists.filterMap List.head?).find? fun head => ∀ list ∈ lists, head ∉ list.tail

/-- A list without a name at its head. -/
def dropHead (head : String) (list : List String) : List String :=
  if list.head? = some head then list.tail else list

/-- Some lists **merge** into an order when it is made of their good heads, one after the other.
Lists of which some are left but have no good head do not merge. -/
inductive Merges : List (List String) → List String → Prop
  | done {lists : List (List String)} : (∀ list ∈ lists, list = []) → Merges lists []
  | take {lists : List (List String)} {head : String} {order : List String} :
      goodHead? lists = some head → Merges (lists.map (dropHead head)) order →
      Merges lists (head :: order)

instance decidableMerges : (lists : List (List String)) → (order : List String) →
    Decidable (Merges lists order)
  | lists, [] => decidable_of_iff (∀ list ∈ lists, list = []) ⟨.done, fun | .done h => h⟩
  | lists, head :: order =>
    have := decidableMerges (lists.map (dropHead head)) order
    decidable_of_iff (goodHead? lists = some head ∧ Merges (lists.map (dropHead head)) order)
      ⟨fun h => .take h.1 h.2, fun | .take hgood hrest => ⟨hgood, hrest⟩⟩

/-- A function is the **linearization** of a hierarchy when above a name it has the merge of what
its bases have, each after the base itself, and of the list of the bases. -/
def IsLinearization (bases above : String → List String) : Prop :=
  ∀ name, Merges ((bases name).map (fun base => base :: above base) ++ [bases name]) (above name)

theorem goodHead?_eq_some_iff_exists (h : goodHead? lists = some head) :
    (∃ list ∈ lists, list.head? = some head) ∧ ∀ list ∈ lists, head ∉ list.tail :=
  ⟨List.mem_filterMap.mp (List.mem_of_find?_eq_some h), by simpa using List.find?_some h⟩

theorem goodHead?_of_empty (h : ∀ list ∈ lists, list = []) : goodHead? lists = none := by
  have hheads : lists.filterMap List.head? = [] :=
    List.filterMap_eq_nil_iff.mpr fun list hlist => by rw [h list hlist, List.head?_nil]
  rw [goodHead?, hheads, List.find?_nil]

theorem dropHead_subset (head : String) (list : List String) : dropHead head list ⊆ list := by
  rw [dropHead]
  split
  · exact List.tail_subset list
  · exact List.Subset.refl list

namespace Merges

/-- **A merge keeps the order** of every list. -/
theorem sublist (h : Merges lists order) : ∀ list ∈ lists, list.Sublist order := by
  induction h with
  | done hempty => exact fun list hlist => hempty list hlist ▸ List.nil_sublist []
  | @take lists head order _ _ ih =>
    intro list hlist
    have hrest := ih _ (List.mem_map_of_mem hlist)
    rw [dropHead] at hrest
    split at hrest
    · rename_i hhead
      obtain ⟨tail, rfl⟩ := List.head?_eq_some_iff.mp hhead
      exact hrest.cons_cons head
    · exact hrest.cons head

theorem exists_mem (h : Merges lists order) : ∀ name ∈ order, ∃ list ∈ lists, name ∈ list := by
  induction h with
  | done => exact fun name hname => absurd hname List.not_mem_nil
  | @take lists head order hgood _ ih =>
    obtain ⟨first, hfirst, hhead⟩ := (goodHead?_eq_some_iff_exists hgood).1
    refine List.forall_mem_cons.mpr ⟨⟨first, hfirst, List.mem_of_head? hhead⟩,
      fun name hname => ?_⟩
    obtain ⟨rest, hrest, hmem⟩ := ih name hname
    obtain ⟨list, hlist, rfl⟩ := List.mem_map.mp hrest
    exact ⟨list, hlist, dropHead_subset head list hmem⟩

/-- Lists merge in one way only. -/
theorem unique {other : List String} (h : Merges lists order) (hother : Merges lists other) :
    order = other := by
  induction h generalizing other with
  | done hempty =>
    cases hother with
    | done => rfl
    | take hgood =>
      exact absurd ((goodHead?_of_empty hempty).symm.trans hgood) (Option.some_ne_none _).symm
  | take hgood _ ih =>
    cases hother with
    | done hempty =>
      exact absurd ((goodHead?_of_empty hempty).symm.trans hgood) (Option.some_ne_none _).symm
    | take hgood' hrest =>
      obtain rfl := Option.some.inj (hgood.symm.trans hgood')
      rw [ih hrest]

end Merges

/-! ### First occurrences -/

/-- Of a name and some others, what comes first is the name. -/
private theorem notMem_tail_of_sublist (hhead : head ∉ order) (h : list.Sublist (head :: order)) :
    head ∉ list.tail := by
  cases h with
  | cons _ h => exact fun hmem => hhead (h.subset (List.mem_of_mem_tail hmem))
  | cons_cons _ h => exact fun hmem => hhead (h.subset hmem)

/-- A name that can only stand at the head is dropped like everywhere. -/
private theorem dropHead_eq_filter (h : head ∉ list.tail) :
    dropHead head list = list.filter (· != head) := by
  rw [dropHead]
  cases list with
  | nil => rfl
  | cons first rest =>
    by_cases hfirst : first = head
    · subst hfirst
      simpa using (List.filter_bne_eq_self_of_not_mem h).symm
    · rw [if_neg (by simpa using hfirst), List.filter_bne_eq_self_of_not_mem]
      exact fun hmem => (List.mem_cons.mp hmem).elim (Ne.symm hfirst) h

/-- The first name of all lists is a good head where no tail has it. -/
private theorem goodHead?_of_flatten (h : lists.flatten.head? = some head)
    (htails : ∀ list ∈ lists, head ∉ list.tail) : goodHead? lists = some head := by
  rw [List.head?_flatten, ← List.head?_filterMap] at h
  obtain ⟨heads, hheads⟩ := List.head?_eq_some_iff.mp h
  rw [goodHead?, hheads]
  exact List.find?_cons_of_pos (by simpa using htails)

/-- **Lists merge into their first occurrences** when these have every list in its order. -/
theorem Merges.of_sublist (hsublist : ∀ list ∈ lists, list.Sublist order)
    (horder : lists.flatten.eraseDups = order) : Merges lists order := by
  induction order generalizing lists with
  | nil => exact .done fun list hlist => List.sublist_nil.mp (hsublist list hlist)
  | cons head order ih =>
    cases hflatten : lists.flatten with
    | nil => simp [hflatten] at horder
    | cons first rest =>
      rw [hflatten, List.eraseDups_cons] at horder
      obtain ⟨rfl, hrest⟩ := List.cons.inj horder
      have hnew : first ∉ order := by
        rw [← hrest, List.mem_eraseDups, List.mem_filter]
        simp
      have htails : ∀ list ∈ lists, first ∉ list.tail := fun list hlist =>
        notMem_tail_of_sublist hnew (hsublist list hlist)
      have hdrop : lists.map (dropHead first) = lists.map (List.filter (· != first)) :=
        List.map_congr_left fun list hlist => dropHead_eq_filter (htails list hlist)
      refine .take (goodHead?_of_flatten (by rw [hflatten, List.head?_cons]) htails) ?_
      rw [hdrop]
      refine ih (List.forall_mem_map.mpr fun list hlist => ?_) ?_
      · have hfiltered := (hsublist list hlist).filter (· != first)
        rwa [List.filter_cons_of_neg (by simp),
          List.filter_bne_eq_self_of_not_mem hnew] at hfiltered
      · rw [← List.filter_flatten, hflatten, List.filter_cons_of_neg (by simp)]
        exact hrest

/-! ### Orders that respect a hierarchy -/

/-- An order **respects** a hierarchy when each name in it stands before its bases, and these stand
in their order. -/
def Respects (bases : String → List String) (order : List String) : Prop :=
  ∀ name ∈ order, (name :: bases name).Sublist order

instance (bases : String → List String) (order : List String) : Decidable (Respects bases order) :=
  inferInstanceAs (Decidable (∀ name ∈ order, (name :: bases name).Sublist order))

namespace IsLinearization

variable (h : IsLinearization bases above)

include h

theorem cons_sublist {base : String} (hbase : base ∈ bases name) :
    (base :: above base).Sublist (above name) :=
  (h name).sublist _ (List.mem_append_left _ (List.mem_map_of_mem hbase))

theorem bases_sublist (name : String) : (bases name).Sublist (above name) :=
  (h name).sublist _ (List.mem_append_right _ List.mem_cons_self)

theorem exists_base (hname : head ∈ above name) :
    ∃ base ∈ bases name, head ∈ base :: above base := by
  obtain ⟨list, hlist, hmem⟩ := (h name).exists_mem head hname
  rcases List.mem_append.mp hlist with hlist | hlist
  · obtain ⟨base, hbase, rfl⟩ := List.mem_map.mp hlist
    exact ⟨base, hbase, hmem⟩
  · exact ⟨head, List.mem_singleton.mp hlist ▸ hmem, List.mem_cons_self⟩

theorem length_lt {base : String} (hbase : base ∈ bases name) :
    (above base).length < (above name).length :=
  (h.cons_sublist hbase).length_le

/-- A hierarchy that has a linearization has no cycle. -/
theorem acyclic : Acyclic bases := fun name hcycle => by
  have hless : ∀ other, Relation.TransGen (Inherits bases) name other →
      (above other).length < (above name).length := by
    intro other hpath
    induction hpath with
    | single hbase => exact h.length_lt hbase
    | tail _ hbase ih => exact (h.length_lt hbase).trans ih
  exact lt_irrefl _ (hless name hcycle)

theorem respects_above (name : String) : Respects bases (above name) := by
  induction hlength : (above name).length using Nat.strong_induction_on generalizing name with
  | _ length ih =>
    subst hlength
    intro other hother
    obtain ⟨base, hbase, hmem⟩ := h.exists_base hother
    refine .trans ?_ (h.cons_sublist hbase)
    rcases List.mem_cons.mp hmem with rfl | hmem
    · exact (h.bases_sublist other).cons_cons other
    · exact (ih _ (h.length_lt hbase) base rfl other hmem).cons base

/-- **A linearization** respects its hierarchy. -/
theorem respects (name : String) : Respects bases (name :: above name) :=
  List.forall_mem_cons.mpr ⟨(h.bases_sublist name).cons_cons name, fun other hother =>
    (h.respects_above name other hother).cons name⟩

end IsLinearization

/-! ### Searching in depth -/

/-- Names that are recorded come after those that were seen. -/
theorem exists_record_eq_append (seen names : List String) :
    ∃ more, record seen names = seen ++ more := by
  induction names generalizing seen with
  | nil => exact ⟨[], (List.append_nil seen).symm⟩
  | cons name names ih =>
    by_cases h : name ∈ seen
    · rw [record_cons_of_mem h]
      exact ih seen
    · obtain ⟨more, hmore⟩ := ih (seen ++ [name])
      exact ⟨name :: more, by rw [record_cons_of_notMem h, hmore, List.append_assoc]; rfl⟩

/-- Names of which none was seen are recorded as they would be from the start. -/
theorem record_of_disjoint {seen names : List String} (h : ∀ name ∈ names, name ∉ seen) :
    record seen names = seen ++ names.eraseDups := by
  induction names using List.reverseRecOn with
  | nil => simp
  | append_singleton names name ih =>
    rw [List.forall_mem_append, List.forall_mem_singleton] at h
    rw [record_append, ih h.1, ← record_empty (names ++ [name]), record_append, record_empty]
    by_cases hname : name ∈ names
    · rw [record_cons_of_mem (by simp [hname]), record_cons_of_mem (by simpa using hname)]
      rfl
    · rw [record_cons_of_notMem (by simp [hname, h.2]),
        record_cons_of_notMem (by simpa using hname), record_nil, record_nil, List.append_assoc]

theorem nodup_record {seen : List String} (hseen : seen.Nodup) (names : List String) :
    (record seen names).Nodup := by
  induction names generalizing seen with
  | nil => exact hseen
  | cons name names ih =>
    by_cases h : name ∈ seen
    · rw [record_cons_of_mem h]
      exact ih hseen
    · rw [record_cons_of_notMem h]
      refine ih (List.nodup_append.mpr ⟨hseen, List.nodup_singleton name, ?_⟩)
      rintro other hother _ hname rfl
      exact h (List.mem_singleton.mp hname ▸ hother)

theorem eraseDups_of_nodup (h : names.Nodup) : names.eraseDups = names := by
  induction names with
  | nil => rfl
  | cons name names ih =>
    obtain ⟨hname, hnames⟩ := List.nodup_cons.mp h
    have hrest : names.filter (· != name) = names := List.filter_bne_eq_self_of_not_mem hname
    exact List.eraseDups_cons.trans (congrArg (name :: ·) ((congrArg _ hrest).trans (ih hnames)))

/-- Names that were recorded once do not have to be recorded again. -/
theorem record_eraseDups (seen names : List String) :
    record seen names.eraseDups = record seen names := by
  induction names using List.reverseRecOn with
  | nil => rfl
  | append_singleton names name ih =>
    rw [← record_empty, record_append, record_empty, record_append, ← ih]
    by_cases h : name ∈ names
    · rw [record_cons_of_mem (by simpa using h), record_nil, record_cons_of_mem (by simp [h])]
      rfl
    · rw [record_cons_of_notMem (by simpa using h), record_nil, record_append]

theorem record_cons_eraseDups (seen : List String) (name : String) (names : List String) :
    record seen (name :: names.eraseDups) = record seen (name :: names) := by
  have hsplit : ∀ names, record seen (name :: names) = record (record seen [name]) names :=
    record_append seen [name]
  rw [hsplit names.eraseDups, hsplit names, record_eraseDups]

/-- Names in depth are recorded as they are without repetitions below each name. -/
theorem record_flatMap_eraseDups (below : String → List String) (seen names : List String) :
    record seen (names.flatMap fun name => name :: (below name).eraseDups) =
      record seen (inDepth below names) := by
  induction names generalizing seen with
  | nil => rfl
  | cons name names ih =>
    rw [List.flatMap_cons, inDepth_cons, record_append, record_append, ih, record_cons_eraseDups]

section Preorder

variable (hbelow : IsPreorder bases below)

include hbelow

/-- What holds of some names and goes over to bases holds of all that is in depth. -/
theorem IsPreorder.forall_mem {P : String → Prop}
    (hstep : ∀ name, P name → ∀ base ∈ bases name, P base) (hnames : ∀ name ∈ names, P name) :
    ∀ name ∈ inDepth below names, P name := by
  induction hlength : (inDepth below names).length using Nat.strong_induction_on
    generalizing names with
  | _ length ih =>
    subst hlength
    intro deep hdeep
    obtain ⟨top, htop, rfl | hmem⟩ := mem_inDepth.mp hdeep
    · exact hnames _ htop
    · rw [hbelow top] at hmem
      refine ih _ ?_ (hstep top (hnames top htop)) rfl deep hmem
      rw [← hbelow top]
      exact length_below_lt htop

/-- Where a name comes first in depth, it is followed by what is below it. -/
theorem IsPreorder.exists_first (hname : name ∈ inDepth below names) :
    ∃ front back, inDepth below names = front ++ (name :: below name) ++ back ∧ name ∉ front := by
  induction hlength : (inDepth below names).length using Nat.strong_induction_on
    generalizing names with
  | _ length ih =>
    subst hlength
    cases names with
    | nil => exact absurd hname List.not_mem_nil
    | cons top names =>
      rw [inDepth_cons] at hname ih ⊢
      by_cases htop : name = top
      · subst htop
        exact ⟨[], inDepth below names, rfl, List.not_mem_nil⟩
      have hlength : (top :: below top ++ inDepth below names).length =
          (below top).length + (inDepth below names).length + 1 := by
        rw [List.cons_append, List.length_cons, List.length_append]
      by_cases hdeep : name ∈ below top
      · rw [hbelow top] at hdeep
        obtain ⟨front, back, hsplit, hfront⟩ := ih _ (by rw [← hbelow top]; omega) hdeep rfl
        refine ⟨top :: front, back ++ inDepth below names, ?_, by simp [htop, hfront]⟩
        rw [← hbelow top] at hsplit
        simp [hsplit]
      · have hrest : name ∈ inDepth below names := by simpa [htop, hdeep] using hname
        obtain ⟨front, back, hsplit, hfront⟩ := ih _ (by omega) hrest rfl
        refine ⟨top :: below top ++ front, back, ?_, by simp [htop, hdeep, hfront]⟩
        simp [hsplit]

theorem IsPreorder.cons_eraseDups (name : String) :
    name :: (below name).eraseDups = (inDepth below [name]).eraseDups := by
  rw [inDepth_cons, inDepth, List.flatMap_nil, List.append_nil, List.eraseDups_cons]
  exact congrArg (fun names => name :: names.eraseDups)
    (List.filter_bne_eq_self_of_not_mem (hbelow.notMem_below name)).symm

theorem IsPreorder.nodup_cons_eraseDups (name : String) :
    (name :: (below name).eraseDups).Nodup :=
  List.nodup_cons.mpr
    ⟨fun h => hbelow.notMem_below name (List.mem_eraseDups.mp h),
      record_empty (below name) ▸ nodup_record .nil (below name)⟩

end Preorder

/-! ### When the two orders are the same -/

/-- What has a name before it in an order without repetition comes after the name. -/
private theorem sublist_back {front back : List String} (hfront : name ∉ front)
    (h : (name :: list).Sublist (front ++ name :: back)) : list.Sublist back := by
  obtain ⟨first, rest, hsplit, hfirst, hrest⟩ := List.sublist_append_iff.mp h
  cases first with
  | nil =>
    rw [← List.nil_append rest, ← hsplit] at hrest
    exact List.cons_sublist_cons.mp hrest
  | cons other first =>
    obtain ⟨rfl, -⟩ := List.cons.inj hsplit
    exact absurd (hfirst.subset List.mem_cons_self) hfront

/-- Names of an order without repetition that all stand in one part of it are in the order
there. -/
private theorem sublist_middle {front middle back : List String}
    (hnodup : (front ++ middle ++ back).Nodup) (h : list.Sublist (front ++ middle ++ back))
    (hsubset : list ⊆ middle) : list.Sublist middle := by
  obtain ⟨hboth, -, hback⟩ := List.nodup_append.mp hnodup
  obtain ⟨-, -, hfront⟩ := List.nodup_append.mp hboth
  obtain ⟨first, last, rfl, hfirst, hlast⟩ := List.sublist_append_iff.mp h
  obtain ⟨first, part, rfl, hfirst, hpart⟩ := List.sublist_append_iff.mp hfirst
  have hnone : first = [] := List.eq_nil_iff_forall_not_mem.mpr fun name hname =>
    hfront name (hfirst.subset hname) name (hsubset (by simp [hname])) rfl
  have hnone' : last = [] := List.eq_nil_iff_forall_not_mem.mpr fun name hname =>
    hback name (List.mem_append_right _ (hsubset (by simp [hname]))) name (hlast.subset hname) rfl
  simpa [hnone, hnone'] using hpart

section Same

variable (hbelow : IsPreorder bases below)

include hbelow

/-- In an order that respects the hierarchy, what is below a name stands after it. -/
private theorem subset_back {front back : List String} (hnodup : (front ++ name :: back).Nodup)
    (hrespects : Respects bases (front ++ name :: back)) : below name ⊆ back := by
  have hbases : ∀ {front back : List String} {name : String}, (front ++ name :: back).Nodup →
      Respects bases (front ++ name :: back) → bases name ⊆ back := by
    intro front back name hnodup hrespects
    have hfront : name ∉ front := fun h =>
      (List.nodup_append.mp hnodup).2.2 name h name List.mem_cons_self rfl
    exact (sublist_back hfront (hrespects name (by simp))).subset
  rw [hbelow name]
  refine hbelow.forall_mem (fun other hother base hbase => ?_) (hbases hnodup hrespects)
  obtain ⟨before, after, rfl⟩ := List.append_of_mem hother
  have hsplit : front ++ name :: (before ++ other :: after) =
      (front ++ name :: before) ++ other :: after := by simp
  rw [hsplit] at hnodup hrespects
  exact List.mem_append_right _ (List.mem_cons_of_mem _ (hbases hnodup hrespects hbase))

/-- **What is below a name** stands right after it where the search in depth respects the
hierarchy. -/
theorem Respects.exists_split (hrespects : Respects bases (name :: (below name).eraseDups))
    {other : String} (hother : other ∈ below name) :
    ∃ front back, name :: (below name).eraseDups =
      front ++ (other :: (below other).eraseDups) ++ back := by
  have hnodup := hbelow.nodup_cons_eraseDups name
  have hmem : other ∈ inDepth below [name] := mem_inDepth.mpr ⟨name, by simp, Or.inr hother⟩
  obtain ⟨front, back, hsplit, hfront⟩ := hbelow.exists_first hmem
  rw [hbelow.cons_eraseDups, hsplit, ← record_empty, record_append, record_append,
    record_empty] at hnodup hrespects ⊢
  have hnew : other ∉ front.eraseDups := by simpa using hfront
  obtain ⟨after, hafter⟩ := exists_record_eq_append (front.eraseDups ++ [other]) (below other)
  obtain ⟨more, hmore⟩ :=
    exists_record_eq_append (record front.eraseDups (other :: below other)) back
  have hform : record (record front.eraseDups (other :: below other)) back =
      front.eraseDups ++ other :: (after ++ more) := by
    rw [hmore, record_cons_of_notMem hnew, hafter]
    simp
  -- nothing of what is below was found before, so it is recorded without a gap
  have hdisjoint : ∀ deep ∈ other :: below other, deep ∉ front.eraseDups := by
    rw [hform] at hnodup hrespects
    have hbehind : below other ⊆ after ++ more := subset_back hbelow hnodup hrespects
    refine List.forall_mem_cons.mpr ⟨hnew, fun deep hdeep hseen => ?_⟩
    exact (List.nodup_append.mp hnodup).2.2 deep hseen deep
      (List.mem_cons_of_mem _ (hbehind hdeep)) rfl
  refine ⟨front.eraseDups, more, ?_⟩
  rw [hmore, record_of_disjoint hdisjoint, List.eraseDups_cons]
  exact congrArg (fun names => front.eraseDups ++ other :: names.eraseDups ++ more)
    (List.filter_bne_eq_self_of_not_mem (hbelow.notMem_below other))

/-- Where the search in depth from a name respects the hierarchy, so it does from a name below. -/
theorem Respects.of_mem_below (hrespects : Respects bases (name :: (below name).eraseDups))
    {other : String} (hother : other ∈ below name) :
    Respects bases (other :: (below other).eraseDups) := by
  obtain ⟨front, back, hsplit⟩ := hrespects.exists_split hbelow hother
  have hnodup := hbelow.nodup_cons_eraseDups name
  rw [hsplit] at hrespects hnodup
  intro deep hdeep
  have hmem := List.mem_append_left back (List.mem_append_right front hdeep)
  refine sublist_middle hnodup (hrespects deep hmem) ?_
  refine List.cons_subset.mpr ⟨hdeep, fun base hbase => List.mem_cons_of_mem _ ?_⟩
  have hbase' : base ∈ below deep := by
    rw [hbelow deep]
    exact mem_inDepth.mpr ⟨base, hbase, Or.inl rfl⟩
  rw [List.mem_eraseDups]
  rcases List.mem_cons.mp hdeep with rfl | hdeep
  · exact hbase'
  · exact (hbelow.below_subset (List.mem_eraseDups.mp hdeep)).1 hbase'

/-- **The search in depth is the linearization** just when it respects the hierarchy. -/
theorem eraseDups_below_eq_iff (hlinear : IsLinearization bases above) (name : String) :
    (below name).eraseDups = above name ↔ Respects bases (name :: (below name).eraseDups) := by
  constructor
  · intro h
    rw [h]
    exact hlinear.respects name
  intro hrespects
  induction hlength : (below name).length using Nat.strong_induction_on generalizing name with
  | _ length ih =>
    subst hlength
    have hbase : ∀ base ∈ bases name, base ∈ below name := fun base hbase => by
      rw [hbelow name]
      exact mem_inDepth.mpr ⟨base, hbase, Or.inl rfl⟩
    have habove : ∀ base ∈ bases name, (below base).eraseDups = above base := fun base hmem =>
      ih _ (hbelow.below_subset (hbase base hmem)).2 base
        (hrespects.of_mem_below hbelow (hbase base hmem)) rfl
    have hlists : (bases name).map (fun base => base :: above base) =
        (bases name).map fun base => base :: (below base).eraseDups :=
      List.map_congr_left fun base hmem => by rw [habove base hmem]
    refine Merges.unique ?_ (hlinear name)
    rw [hlists]
    refine .of_sublist (List.forall_mem_append.mpr ⟨?_, ?_⟩) ?_
    · refine List.forall_mem_map.mpr fun base hmem => ?_
      obtain ⟨front, back, hsplit⟩ := hrespects.exists_split hbelow (hbase base hmem)
      have hpart : (base :: (below base).eraseDups).Sublist (name :: (below name).eraseDups) := by
        rw [hsplit, List.append_assoc]
        exact (List.sublist_append_left _ _).trans (List.sublist_append_right _ _)
      cases hpart with
      | cons _ hpart => exact hpart
      | cons_cons => exact absurd (hbase name hmem) (hbelow.notMem_below name)
    · rw [List.forall_mem_singleton]
      exact List.cons_sublist_cons.mp (hrespects name List.mem_cons_self)
    · rw [List.flatten_append, ← List.flatMap_def, List.flatten_singleton, ← record_empty,
        record_append, record_flatMap_eraseDups, ← hbelow name, record_of_subset, record_empty]
      exact fun base hmem => mem_record.mpr (Or.inr (hbase base hmem))

/-- A search in depth that reaches nothing twice respects the hierarchy. -/
theorem IsPreorder.respects_of_nodup (hnodup : (below name).Nodup) :
    Respects bases (name :: (below name).eraseDups) := by
  have hbases : ∀ names : List String, names.Sublist (inDepth below names) := by
    intro names
    induction names with
    | nil => exact List.nil_sublist _
    | cons base names ih =>
      rw [inDepth_cons]
      exact (ih.trans (List.sublist_append_right _ _)).cons_cons base
  have hself : inDepth below [name] = name :: below name := by simp [inDepth]
  rw [eraseDups_of_nodup hnodup, ← hself]
  intro other hother
  obtain ⟨front, back, hsplit, -⟩ := hbelow.exists_first hother
  rw [hsplit, List.append_assoc]
  refine .trans ?_ (List.sublist_append_right _ _)
  refine .trans ?_ (List.sublist_append_left _ _)
  rw [hbelow other]
  exact (hbases _).cons_cons other

/-- The two orders have the same names. -/
theorem IsLinearization.mem_iff (hlinear : IsLinearization bases above) {other : String} :
    other ∈ above name ↔ other ∈ below name := by
  constructor
  · intro h
    induction hlength : (above name).length using Nat.strong_induction_on generalizing name with
    | _ length ih =>
      subst hlength
      obtain ⟨base, hbase, hmem⟩ := hlinear.exists_base h
      rw [hbelow name, mem_inDepth]
      refine ⟨base, hbase, (List.mem_cons.mp hmem).imp_right fun hmem => ?_⟩
      exact ih _ (hlinear.length_lt hbase) hmem rfl
  · intro h
    rw [hbelow name] at h
    refine hbelow.forall_mem (fun deep hdeep base hbase => ?_)
      (fun base hbase => (hlinear.bases_sublist name).subset hbase) other h
    exact (hlinear.respects_above name deep hdeep).subset (List.mem_cons_of_mem deep hbase)

end Same

/-! ### Inherited constructors -/

section Inherited

variable {modules : List DeclaringModule} {before : Declaration}

/-- In a round, a class without a constructor of its own has its supertypes in depth and the
constructor of the first of them that writes one. -/
theorem mem_shown_of_inherits (hnames : ((parsed modules).map Declaration.name).Nodup)
    (hbelow : IsPreorder (directBases (parsed modules)) below) (hbefore : before ∈ parsed modules)
    (hinherits : before.definesInit = false) (hname : before.name = some name) :
    { before with
      supertypes := (below name).eraseDups
      hasNoargConstructor := nearestConstructor (parsed modules) (below name).eraseDups } ∈
        (Round.ofModules modules).shown := by
  obtain ⟨shown, hsettled, hshown⟩ := exists_settled hnames
  obtain ⟨after, hafter, hrel⟩ := hsettled.exists_mem_after hbefore
  have hsupertypes : after.supertypes = (below name).eraseDups := by
    rw [hrel.full.inOrder below hbelow, hbelow name, directBases_of_mem hnames hbefore hname]
  have hconstructor := hrel.constructor
  rw [if_neg (by simp [hinherits])] at hconstructor
  rw [hshown, ← hsupertypes, ← hconstructor, ← hrel.same]
  exact hafter

/-- **The constructor that a class inherits** is that of the first class that writes one in the
order of a search in depth. These are the classes of its linearization, and in the same order just
when the search respects the hierarchy, as it does where it reaches nothing twice. Then the
constructor is the one that the linearization comes to first. -/
theorem inherited_constructor_follows_linearization
    (hnames : ((parsed modules).map Declaration.name).Nodup)
    (hlinear : IsLinearization (directBases (parsed modules)) above)
    (hbefore : before ∈ parsed modules) (hinherits : before.definesInit = false)
    (hname : before.name = some name) :
    ∃ below, IsPreorder (directBases (parsed modules)) below ∧
      let supertypes := (below name).eraseDups
      { before with
        supertypes
        hasNoargConstructor := nearestConstructor (parsed modules) supertypes } ∈
          (Round.ofModules modules).shown ∧
      (∀ other, other ∈ supertypes ↔ other ∈ above name) ∧
      (supertypes = above name ↔ Respects (directBases (parsed modules)) (name :: supertypes)) ∧
      (Respects (directBases (parsed modules)) (name :: supertypes) →
        nearestConstructor (parsed modules) supertypes =
          nearestConstructor (parsed modules) (above name)) ∧
      ((below name).Nodup → Respects (directBases (parsed modules)) (name :: supertypes)) := by
  obtain ⟨below, hbelow⟩ := hlinear.acyclic.exists_isPreorder fun _ => directBases_eq_nil
  have hsame := eraseDups_below_eq_iff hbelow hlinear name
  refine ⟨below, hbelow, mem_shown_of_inherits hnames hbelow hbefore hinherits hname,
    fun other => ?_, hsame, fun hrespects => ?_, hbelow.respects_of_nodup⟩
  · rw [List.mem_eraseDups, hlinear.mem_iff hbelow]
  · rw [hsame.mpr hrespects]

end Inherited

/-- A table of declared names says nothing of other names. -/
theorem basesIn_eq_nil {names : List String} {table : List (String × List String)}
    (htable : ∀ entry ∈ table, entry.1 ∈ names) (hname : name ∉ names) :
    basesIn table name = [] := by
  have hnone : table.lookup name = none := List.lookup_eq_none_iff.mpr fun entry hentry =>
    bne_iff_ne.mpr fun (heq : name = entry.1) => hname (heq ▸ htable entry hentry)
  rw [basesIn, hnone, Option.getD_none]

/-- A table linearizes a hierarchy when the lists of every name that is declared merge as it
says. -/
theorem isLinearization_of_table {ds : List Declaration}
    {table : List (String × List String)}
    (htable : ∀ entry ∈ table, entry.1 ∈ ds.filterMap Declaration.name)
    (h : ∀ name ∈ ds.filterMap Declaration.name,
      Merges ((directBases ds name).map (fun base => base :: basesIn table base) ++
        [directBases ds name]) (basesIn table name)) :
    IsLinearization (directBases ds) (basesIn table) := fun name => by
  by_cases hname : name ∈ ds.filterMap Declaration.name
  · exact h name hname
  · rw [directBases_eq_nil hname, basesIn_eq_nil htable hname]
    exact .done (by simp)

/-- A table is the pre-order of a hierarchy when it is for every name that is declared. -/
theorem isPreorder_of_table {ds : List Declaration} {table : List (String × List String)}
    (htable : ∀ entry ∈ table, entry.1 ∈ ds.filterMap Declaration.name)
    (h : ∀ name ∈ ds.filterMap Declaration.name,
      basesIn table name = inDepth (basesIn table) (directBases ds name)) :
    IsPreorder (directBases ds) (basesIn table) := fun name => by
  by_cases hname : name ∈ ds.filterMap Declaration.name
  · exact h name hname
  · rw [directBases_eq_nil hname, basesIn_eq_nil htable hname]
    rfl

/-- A class that inherits from two others, of which the second is a base of the first too. -/
def triangle : DeclaringModule where
  name := "m"
  path := "m.py"
  marked := []
  syntaxError := none
  topLevel := [
    { name := some "m.Top", definesInit := true, hasNoargConstructor := false
      sourceFile := "m.py", line := 1 },
    { name := some "m.Left", supertypes := ["m.Top"], sourceFile := "m.py", line := 6 },
    { name := some "m.Bottom", supertypes := ["m.Left", "m.Top"], sourceFile := "m.py",
      line := 10 }]

/-- A class that reaches another one twice, but only after all that inherit from it. -/
theorem inherited_constructor_follows_linearization_of_triangle :
    let before : Declaration :=
      { name := some "m.Bottom", supertypes := ["m.Left", "m.Top"], sourceFile := "m.py",
        line := 10 }
    ((parsed [triangle]).map Declaration.name).Nodup ∧ before ∈ parsed [triangle] ∧
      before.definesInit = false ∧ before.name = some "m.Bottom" ∧
      ∃ above, IsLinearization (directBases (parsed [triangle])) above ∧
        { before with
          supertypes := above "m.Bottom"
          hasNoargConstructor := nearestConstructor (parsed [triangle]) (above "m.Bottom") } ∈
            (Round.ofModules [triangle]).shown := by
  intro before
  have hnames : ((parsed [triangle]).map Declaration.name).Nodup := by decide
  have hbefore : before ∈ parsed [triangle] := by decide
  have hlinear : IsLinearization (directBases (parsed [triangle]))
      (basesIn [("m.Left", ["m.Top"]), ("m.Bottom", ["m.Left", "m.Top"])]) :=
    isLinearization_of_table (by decide) (by decide)
  refine ⟨hnames, hbefore, rfl, rfl, _, hlinear, ?_⟩
  obtain ⟨below, hbelow, hshown, -, hsame, -, -⟩ :=
    inherited_constructor_follows_linearization hnames hlinear hbefore rfl rfl
  have hinherited : (below "m.Bottom").eraseDups = ["m.Left", "m.Top"] := by
    have htop : directBases (parsed [triangle]) "m.Top" = [] := by decide
    have hleft : directBases (parsed [triangle]) "m.Left" = ["m.Top"] := by decide
    have hbottom : directBases (parsed [triangle]) "m.Bottom" = ["m.Left", "m.Top"] := by decide
    have htop' : below "m.Top" = [] := by
      rw [hbelow "m.Top", htop]
      rfl
    have hleft' : below "m.Left" = ["m.Top"] := by
      rw [hbelow "m.Left", hleft, inDepth_cons, htop']
      rfl
    rw [hbelow "m.Bottom", hbottom, inDepth_cons, inDepth_cons, hleft', htop', inDepth,
      List.flatMap_nil]
    decide
  have hrespects : Respects (directBases (parsed [triangle])) ["m.Bottom", "m.Left", "m.Top"] := by
    decide
  rw [hinherited] at hsame hshown
  rwa [← hsame.mpr hrespects]

/-- A class that inherits from two others with a common base. The base can be made without
arguments, the second class cannot. -/
def crossing : DeclaringModule where
  name := "m"
  path := "m.py"
  marked := []
  syntaxError := none
  topLevel := [
    { name := some "m.Top", definesInit := true, sourceFile := "m.py", line := 1 },
    { name := some "m.Left", supertypes := ["m.Top"], sourceFile := "m.py", line := 6 },
    { name := some "m.Right", supertypes := ["m.Top"], definesInit := true
      hasNoargConstructor := false, sourceFile := "m.py", line := 10 },
    { name := some "m.Bottom", supertypes := ["m.Left", "m.Right"], sourceFile := "m.py",
      line := 15 }]

/-- **In a diamond** the search in depth comes to the common base before the second class, which
inherits from it. So a service whose constructor needs an argument passes for one without. -/
theorem inherited_constructor_of_diamond :
    ((parsed [crossing]).map Declaration.name).Nodup ∧
      (∀ d ∈ crossing.topLevel, ∀ base ∈ d.supertypes, DeclaresTopLevel [crossing] base) ∧
      ∃ above, IsLinearization (directBases (parsed [crossing])) above ∧
        above "m.Bottom" = ["m.Left", "m.Right", "m.Top"] ∧
        nearestConstructor (parsed [crossing]) (above "m.Bottom") = false ∧
        ∃ after ∈ (Round.ofModules [crossing]).shown, after.name = some "m.Bottom" ∧
          after.definesInit = false ∧ after.supertypes = ["m.Left", "m.Top", "m.Right"] ∧
          after.hasNoargConstructor = true ∧ Flavor.service.objection? after = none := by
  have hnames : ((parsed [crossing]).map Declaration.name).Nodup := by decide
  have hlinear : IsLinearization (directBases (parsed [crossing]))
      (basesIn [("m.Left", ["m.Top"]), ("m.Right", ["m.Top"]),
        ("m.Bottom", ["m.Left", "m.Right", "m.Top"])]) :=
    isLinearization_of_table (by decide) (by decide)
  have hbelow : IsPreorder (directBases (parsed [crossing]))
      (basesIn [("m.Left", ["m.Top"]), ("m.Right", ["m.Top"]),
        ("m.Bottom", ["m.Left", "m.Top", "m.Right", "m.Top"])]) :=
    isPreorder_of_table (by decide) (by decide)
  let before : Declaration :=
    { name := some "m.Bottom", supertypes := ["m.Left", "m.Right"], sourceFile := "m.py",
      line := 15 }
  have hbefore : before ∈ parsed [crossing] := by decide
  refine ⟨hnames, by decide, _, hlinear, by decide, by decide, _,
    mem_shown_of_inherits hnames hbelow hbefore rfl rfl, rfl, rfl, ?_, ?_, ?_⟩
  · decide
  · decide
  · decide

end ProviderRegistry.Source
