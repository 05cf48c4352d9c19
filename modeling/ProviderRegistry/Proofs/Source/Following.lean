import Mathlib.Data.List.Basic
import Mathlib.Logic.Relation
import Mathlib.Order.WellFoundedSet
import ProviderRegistry.Source.Round

/-!
# Following what names inherit from

Supertypes are found by a worklist: take a name off the stack, pass over it if it was seen or is
the heir, the class that is followed, else record it and put what it inherits from on top. Nothing
is marked when it is put on the stack, so names can stand there many times, but every hierarchy is
followed to its end (`follows_followSupertypes`).

What is found is `Full` with respect to a hierarchy: the names that can be reached, each once,
without the heir; and where the hierarchy has a pre-order, they stand in that order. All this stays
so when some names already have their full supertypes in place of the direct ones, which is the
state of a hierarchy half way through its expansion (`Full.of_follows`).
-/

namespace ProviderRegistry.Source

variable {heir : Option String} {bases now : String → List String}

/-! ### Hierarchies -/

/-- What a name inherits from according to a table. A name without an entry is a leaf. -/
def basesIn (table : List (String × List String)) (name : String) : List String :=
  (table.lookup name).getD []

/-- One name inherits from another directly. -/
def Inherits (bases : String → List String) (name base : String) : Prop := base ∈ bases name

/-- A name can be **reached** from some direct bases, in no step or more. -/
def Reaches (bases : String → List String) (direct : List String) (name : String) : Prop :=
  ∃ base ∈ direct, Relation.ReflTransGen (Inherits bases) base name

/-- A hierarchy is **acyclic** when no name inherits from itself, in one step or more. -/
def Acyclic (bases : String → List String) : Prop :=
  ∀ name, ¬ Relation.TransGen (Inherits bases) name name

/-- Names in depth: each is followed by what is below it. -/
def inDepth (below : String → List String) (names : List String) : List String :=
  names.flatMap fun name => name :: below name

/-- A function is the **pre-order** of a hierarchy when below a name it has the direct bases in
depth. It repeats what can be reached in several ways. -/
def IsPreorder (bases below : String → List String) : Prop :=
  ∀ name, below name = inDepth below (bases name)

/-- Some names are the **full** supertypes of what has these direct bases. -/
structure Full (bases : String → List String) (heir : Option String)
    (direct supertypes : List String) : Prop where
  nodup : supertypes.Nodup
  mem_iff : ∀ name, name ∈ supertypes ↔ heir ≠ some name ∧ Reaches bases direct name
  inOrder : ∀ below, IsPreorder bases below → supertypes = (inDepth below direct).eraseDups

/-! ### The worklist -/

/-- A **run of the worklist**, turn by turn, from the names that were seen and the stack to the
names that are seen in the end. -/
inductive Follows (heir : Option String) (bases : String → List String) :
    List String → List String → List String → Prop
  | done {seen : List String} : Follows heir bases seen [] seen
  | skip {seen rest all : List String} {name : String} :
      name ∈ seen ∨ heir = some name → Follows heir bases seen rest all →
      Follows heir bases seen (name :: rest) all
  | visit {seen rest all : List String} {name : String} :
      ¬ (name ∈ seen ∨ heir = some name) →
      Follows heir bases (seen ++ [name]) (bases name ++ rest) all →
      Follows heir bases seen (name :: rest) all

private theorem basesIn_without {table : List (String × List String)} {name other : String}
    (h : other ≠ name) : basesIn (without table name) other = basesIn table other := by
  unfold basesIn without
  induction table with
  | nil => rfl
  | cons entry table ih =>
    obtain ⟨key, supertypes⟩ := entry
    by_cases hkey : key = name
    · subst hkey
      simpa [List.lookup_cons, beq_eq_false_iff_ne.mpr h] using ih
    · by_cases hother : other = key
      · subst hother
        simp [hkey]
      · simpa [List.filter_cons, hkey, List.lookup_cons, beq_eq_false_iff_ne.mpr hother] using ih

/-- **The worklist ends**, on every hierarchy that a table holds. What is followed has its entry
taken from the table, which makes no difference since it is not followed again. -/
theorem follows_followSupertypes {table : List (String × List String)} {seen stack : List String}
    (hserves : ∀ name ∉ seen, basesIn table name = bases name) :
    Follows heir bases seen stack (followSupertypes heir table seen stack) := by
  fun_induction followSupertypes heir table seen stack with
  | case1 table seen => exact .done
  | case2 table seen name rest hpass ih => exact .skip hpass (ih hserves)
  | case3 table seen name rest hpass hlookup ih =>
    refine .visit hpass ?_
    have hleaf : bases name = [] := by
      rw [← hserves name fun h => hpass (Or.inl h), basesIn, hlookup]
      rfl
    rw [hleaf, List.nil_append]
    exact ih fun other hother => hserves other fun h => hother (List.mem_append_left _ h)
  | case4 table seen name rest hpass supertypes hlookup ih =>
    refine .visit hpass ?_
    have hbases : bases name = supertypes := by
      rw [← hserves name fun h => hpass (Or.inl h), basesIn, hlookup]
      rfl
    rw [hbases]
    refine ih fun other hother => ?_
    rw [List.mem_append, List.mem_singleton, not_or] at hother
    rw [basesIn_without hother.2, hserves other hother.1]

namespace Follows

variable {seen stack all : List String}

theorem nodup (h : Follows heir bases seen stack all) (hseen : seen.Nodup) : all.Nodup := by
  induction h with
  | done => exact hseen
  | skip _ _ ih => exact ih hseen
  | visit hpass _ ih =>
    refine ih (List.nodup_append.mpr ⟨hseen, List.nodup_singleton _, ?_⟩)
    rintro name hname other hother rfl
    exact hpass (Or.inl (List.mem_singleton.mp hother ▸ hname))

theorem subset (h : Follows heir bases seen stack all) : seen ⊆ all := by
  induction h with
  | done => exact List.Subset.refl _
  | skip _ _ ih => exact ih
  | visit _ _ ih => exact fun _ hname => ih (List.mem_append_left _ hname)

/-- The heir is not found. -/
theorem ne_heir (h : Follows heir bases seen stack all) (hseen : ∀ name ∈ seen, heir ≠ some name) :
    ∀ name ∈ all, heir ≠ some name := by
  induction h with
  | done => exact hseen
  | skip _ _ ih => exact ih hseen
  | visit hpass _ ih =>
    refine ih fun name hname => ?_
    rcases List.mem_append.mp hname with hname | hname
    · exact hseen name hname
    · exact List.mem_singleton.mp hname ▸ fun heq => hpass (Or.inr heq)

/-- What is found lies in every set that holds the stack and what its names inherit from. -/
theorem forall_mem (h : Follows heir bases seen stack all) {P : String → Prop}
    (hstep : ∀ name, P name → ∀ base ∈ bases name, P base) (hseen : ∀ name ∈ seen, P name)
    (hstack : ∀ name ∈ stack, P name) : ∀ name ∈ all, P name := by
  induction h with
  | done => exact hseen
  | skip _ _ ih => exact ih hseen (List.forall_mem_cons.mp hstack).2
  | visit _ _ ih =>
    obtain ⟨hname, hrest⟩ := List.forall_mem_cons.mp hstack
    refine ih ?_ ?_
    · exact List.forall_mem_append.mpr ⟨hseen, List.forall_mem_singleton.mpr hname⟩
    · exact List.forall_mem_append.mpr ⟨hstep _ hname, hrest⟩

/-- The stack is found, but for the heir. -/
theorem mem_of_mem_stack (h : Follows heir bases seen stack all) :
    ∀ name ∈ stack, name ∈ all ∨ heir = some name := by
  induction h with
  | done => exact fun _ hname => absurd hname List.not_mem_nil
  | skip hpass h ih =>
    exact List.forall_mem_cons.mpr ⟨hpass.imp_left fun hseen => h.subset hseen, ih⟩
  | visit _ h ih =>
    refine List.forall_mem_cons.mpr ⟨Or.inl (h.subset ?_), (List.forall_mem_append.mp ih).2⟩
    exact List.mem_append_right _ (List.mem_singleton.mpr rfl)

/-- What is found is closed under inheritance, but for the heir. -/
theorem mem_of_mem_bases (h : Follows heir bases seen stack all) {name : String}
    (hname : name ∈ all) (hnew : name ∉ seen) :
    ∀ base ∈ bases name, base ∈ all ∨ heir = some base := by
  induction h with
  | done => exact absurd hname hnew
  | skip _ _ ih => exact ih hname hnew
  | @visit seen rest all found _ h ih =>
    by_cases hfound : name = found
    · subst hfound
      exact (List.forall_mem_append.mp h.mem_of_mem_stack).1
    · exact ih hname (by simp [hnew, hfound])

end Follows

/-! ### Recording names in order -/

/-- Names recorded after those that were seen, each where it is new. -/
def record (seen names : List String) : List String :=
  names.foldl (fun seen name => if name ∈ seen then seen else seen ++ [name]) seen

@[simp]
theorem record_nil (seen : List String) : record seen [] = seen := rfl

theorem record_append (seen names more : List String) :
    record seen (names ++ more) = record (record seen names) more :=
  List.foldl_append

theorem record_cons_of_mem {seen names : List String} {name : String} (h : name ∈ seen) :
    record seen (name :: names) = record seen names := by
  rw [record, List.foldl_cons, if_pos h, record]

theorem record_cons_of_notMem {seen names : List String} {name : String} (h : name ∉ seen) :
    record seen (name :: names) = record (seen ++ [name]) names := by
  rw [record, List.foldl_cons, if_neg h, record]

@[simp]
theorem mem_record {seen names : List String} {name : String} :
    name ∈ record seen names ↔ name ∈ seen ∨ name ∈ names := by
  induction names generalizing seen with
  | nil => simp
  | cons other names ih =>
    by_cases h : other ∈ seen
    · rw [record_cons_of_mem h, ih, List.mem_cons]
      constructor
      · exact Or.imp_right Or.inr
      · rintro (hname | rfl | hname)
        · exact Or.inl hname
        · exact Or.inl h
        · exact Or.inr hname
    · rw [record_cons_of_notMem h, ih, List.mem_append, List.mem_singleton, List.mem_cons,
      or_assoc]

theorem record_of_subset {seen names : List String} (h : names ⊆ seen) :
    record seen names = seen := by
  induction names with
  | nil => rfl
  | cons name names ih =>
    rw [List.cons_subset] at h
    rw [record_cons_of_mem h.1, ih h.2]

/-- Names that are recorded from the start are the names without their repetitions. -/
theorem record_empty (names : List String) : record [] names = names.eraseDups := by
  induction names using List.reverseRecOn with
  | nil => rfl
  | append_singleton names name ih =>
    rw [record_append, ih, List.eraseDups_append]
    by_cases h : name ∈ names
    · rw [record_cons_of_mem (List.mem_eraseDups.mpr h)]
      simp [List.removeAll, h]
    · rw [record_cons_of_notMem (List.mem_eraseDups.not.mpr h)]
      simp [List.removeAll, h, List.eraseDups_cons]

/-! ### Pre-orders -/

section Preorder

variable {below : String → List String}

@[simp]
theorem inDepth_cons (below : String → List String) (name : String) (names : List String) :
    inDepth below (name :: names) = name :: below name ++ inDepth below names :=
  List.flatMap_cons

theorem inDepth_append (below : String → List String) (names more : List String) :
    inDepth below (names ++ more) = inDepth below names ++ inDepth below more :=
  List.flatMap_append

theorem mem_inDepth {names : List String} {name : String} :
    name ∈ inDepth below names ↔ ∃ top ∈ names, name = top ∨ name ∈ below top := by
  simp [inDepth, List.mem_flatMap]

theorem inDepth_subset {names more : List String} (h : names ⊆ more) :
    inDepth below names ⊆ inDepth below more := fun name hname => by
  obtain ⟨top, htop, hbelow⟩ := mem_inDepth.mp hname
  exact mem_inDepth.mpr ⟨top, h htop, hbelow⟩

theorem length_below_lt {names : List String} {name : String} (h : name ∈ names) :
    (below name).length < (inDepth below names).length := by
  obtain ⟨before, after, rfl⟩ := List.append_of_mem h
  rw [inDepth_append, inDepth_cons]
  simp only [List.length_append, List.length_cons]
  omega

/-- A pre-order goes to the end: below a name is what is below the names below it, and less of
it. -/
theorem IsPreorder.below_subset (hbelow : IsPreorder bases below) {name other : String}
    (h : other ∈ below name) :
    below other ⊆ below name ∧ (below other).length < (below name).length := by
  induction hlength : (below name).length using Nat.strong_induction_on
    generalizing name other with
  | _ length ih =>
    subst hlength
    have hunfold := hbelow name
    obtain ⟨base, hbase, hother⟩ := mem_inDepth.mp (hunfold ▸ h)
    have hlt : (below base).length < (below name).length := hunfold ▸ length_below_lt hbase
    have hbaseSubset : below base ⊆ below name := fun deep hdeep =>
      hunfold ▸ mem_inDepth.mpr ⟨base, hbase, Or.inr hdeep⟩
    rcases hother with rfl | hother
    · exact ⟨hbaseSubset, hlt⟩
    · obtain ⟨hsubset, hless⟩ := ih _ hlt hother rfl
      exact ⟨fun deep hdeep => hbaseSubset (hsubset hdeep), hless.trans hlt⟩

theorem IsPreorder.notMem_below (hbelow : IsPreorder bases below) (name : String) :
    name ∉ below name := fun h => lt_irrefl _ (hbelow.below_subset h).2

/-- What is in depth adds nothing to it when it is gone through in depth again. -/
theorem IsPreorder.inDepth_inDepth_subset (hbelow : IsPreorder bases below) (names : List String) :
    inDepth below (inDepth below names) ⊆ inDepth below names := fun deep hdeep => by
  obtain ⟨other, hother, hdeep⟩ := mem_inDepth.mp hdeep
  rcases hdeep with rfl | hdeep
  · exact hother
  · obtain ⟨top, htop, hother⟩ := mem_inDepth.mp hother
    refine mem_inDepth.mpr ⟨top, htop, Or.inr ?_⟩
    rcases hother with rfl | hother
    · exact hdeep
    · exact (hbelow.below_subset hother).1 hdeep

/-- Going in depth through what is in depth already finds nothing new. -/
theorem IsPreorder.record_inDepth_inDepth (hbelow : IsPreorder bases below)
    (seen names : List String) :
    record seen (inDepth below (inDepth below names)) = record seen (inDepth below names) := by
  induction names generalizing seen with
  | nil => rfl
  | cons name names ih =>
    rw [inDepth_cons, inDepth_append, inDepth_cons, record_append, record_append,
      record_append seen, ih]
    congr 1
    refine record_of_subset fun deep hdeep => mem_record.mpr (Or.inr (List.mem_cons_of_mem _ ?_))
    rw [hbelow name] at hdeep ⊢
    exact hbelow.inDepth_inDepth_subset _ hdeep

/-- Nor does it matter that names are gone through repeatedly. -/
theorem record_inDepth_eraseDups (below : String → List String) (seen names : List String) :
    record seen (inDepth below names.eraseDups) = record seen (inDepth below names) := by
  induction names using List.reverseRecOn with
  | nil => rfl
  | append_singleton names name ih =>
    rw [← record_empty, record_append, record_empty, inDepth_append, record_append, ← ih]
    by_cases h : name ∈ names
    · rw [record_cons_of_mem (List.mem_eraseDups.mpr h), record_nil]
      refine (record_of_subset fun deep hdeep => mem_record.mpr (Or.inr ?_)).symm
      exact inDepth_subset (by simpa using h) hdeep
    · rw [record_cons_of_notMem (List.mem_eraseDups.not.mpr h), record_nil, inDepth_append,
        record_append]

/-- An acyclic hierarchy has a **pre-order** when only finitely many names inherit from others. -/
theorem Acyclic.exists_isPreorder (hacyclic : Acyclic bases) {names : List String}
    (hfinite : ∀ name ∉ names, bases name = []) : ∃ below, IsPreorder bases below := by
  let Below : String → String → Prop :=
    fun base name => Relation.TransGen (Inherits bases) name base
  have : IsStrictOrder String Below :=
    { irrefl := hacyclic
      trans := fun _ _ _ hab hbc => hbc.trans hab }
  have hlisted : {name | name ∈ names}.WellFoundedOn Below :=
    (List.finite_toSet names).wellFoundedOn
  have hleaf : ∀ name ∉ names, Acc (fun base name => Inherits bases name base) name :=
    fun name hname => .intro name fun base hbase => by
      rw [Inherits, hfinite name hname] at hbase
      exact absurd hbase List.not_mem_nil
  have hacc : ∀ name, Acc (fun base name => Inherits bases name base) name := fun name => by
    by_cases hname : name ∈ names
    · refine hlisted.induction (x := name) hname fun name _ ih => .intro name fun base hbase => ?_
      by_cases hlist : base ∈ names
      · exact ih base hlist (.single hbase)
      · exact hleaf base hlist
    · exact hleaf name hname
  let below := (WellFounded.intro hacc).fix fun name rec =>
    (bases name).attach.flatMap fun base => base.1 :: rec base.1 base.2
  refine ⟨below, fun name => ?_⟩
  have hbelow : below name = (bases name).attach.flatMap fun base => base.1 :: below base.1 :=
    WellFounded.fix_eq ..
  rw [hbelow, List.flatMap_subtype (g := fun base => base :: below base) fun _ _ => rfl,
    List.unattach_attach]
  rfl

/-! ### Hierarchies that are expanded in part -/

/-- A hierarchy is expanded **in part** when some names have their full supertypes in place of
their direct bases. -/
def ExpandedInPart (bases now : String → List String) : Prop :=
  ∀ name, now name = bases name ∨ Full bases (some name) (bases name) (now name)

/-- A list of bases that is full or not leads to the same names in the same order. -/
theorem Full.record_inDepth (hbelow : IsPreorder bases below) {direct stack : List String}
    (h : stack = direct ∨ Full bases heir direct stack) (seen : List String) :
    record seen (inDepth below stack) = record seen (inDepth below direct) := by
  rcases h with rfl | hfull
  · rfl
  · rw [hfull.inOrder below hbelow, record_inDepth_eraseDups, hbelow.record_inDepth_inDepth]

theorem Full.subset_inDepth (hbelow : IsPreorder bases below) {direct stack : List String}
    (h : stack = direct ∨ Full bases heir direct stack) : stack ⊆ inDepth below direct := by
  rcases h with rfl | hfull
  · exact fun name hname => mem_inDepth.mpr ⟨name, hname, Or.inl rfl⟩
  · rw [hfull.inOrder below hbelow]
    exact fun name hname => List.mem_eraseDups.mp hname

/-- What stands on the stack is followed in depth, in a hierarchy that is expanded in part: each
name of it and what is below it are recorded before the names that come after. -/
theorem Follows.of_append (hbelow : IsPreorder bases below) (hnow : ExpandedInPart bases now)
    (depth : ℕ) {seen stack rest all : List String}
    (hdepth : ∀ name ∈ stack, (below name).length < depth)
    (hdone : ∀ name ∈ inDepth below stack, name ∈ seen → below name ⊆ seen)
    (hself : ∀ name ∈ inDepth below stack, heir ≠ some name)
    (h : Follows heir now seen (stack ++ rest) all) :
    Follows heir now (record seen (inDepth below stack)) rest all := by
  -- names below others are less deep; names side by side are taken one after the other
  induction depth generalizing seen stack rest with
  | zero =>
    cases stack with
    | nil => exact h
    | cons name stack => exact absurd (hdepth name List.mem_cons_self) (Nat.not_lt_zero _)
  | succ depth ihDepth =>
    induction stack generalizing seen with
    | nil => exact h
    | cons name stack ihStack =>
      obtain ⟨hname, hstack⟩ := List.forall_mem_cons.mp hdepth
      rw [inDepth_cons, List.forall_mem_append] at hdone hself
      rw [inDepth_cons, record_append]
      have hbelowDone : ∀ other ∈ below name, below other ⊆ below name := fun other hother =>
        (hbelow.below_subset hother).1
      refine ihStack hstack ?_ hself.2 ?_
      · intro other hother hseen deep hdeep
        rw [mem_record] at hseen ⊢
        rcases hseen with hseen | hseen
        · exact Or.inl (hdone.2 other hother hseen hdeep)
        · rcases List.mem_cons.mp hseen with rfl | hseen
          · exact Or.inr (List.mem_cons_of_mem _ hdeep)
          · exact Or.inr (List.mem_cons_of_mem _ (hbelowDone other hseen hdeep))
      · cases h with
        | skip hpass h =>
          have hseen : name ∈ seen := hpass.resolve_right (hself.1 name List.mem_cons_self)
          rw [record_cons_of_mem hseen,
            record_of_subset (hdone.1 name List.mem_cons_self hseen)]
          exact h
        | visit hpass h =>
          have hnew : name ∉ seen := fun hseen => hpass (Or.inl hseen)
          rw [record_cons_of_notMem hnew]
          have hless : now name ⊆ below name :=
            (hbelow name).symm ▸ Full.subset_inDepth hbelow (hnow name)
          have hbelowName : inDepth below (bases name) = below name := (hbelow name).symm
          have hsubset : inDepth below (now name) ⊆ below name := fun deep hdeep =>
            hbelowName ▸ hbelow.inDepth_inDepth_subset _
              (inDepth_subset (hbelowName.symm ▸ hless) hdeep)
          rw [← hbelowName, ← Full.record_inDepth hbelow (hnow name)]
          refine ihDepth ?_ ?_ ?_ h
          · intro other hother
            exact (hbelow.below_subset (hless hother)).2.trans_le (Nat.le_of_lt_succ hname)
          · intro other hother hseen deep hdeep
            rw [List.mem_append, List.mem_singleton] at hseen ⊢
            rcases hseen with hseen | rfl
            · exact Or.inl (hdone.1 other (List.mem_cons_of_mem _ (hsubset hother)) hseen hdeep)
            · exact absurd (hsubset hother) (hbelow.notMem_below other)
          · intro other hother
            exact hself.1 other (List.mem_cons_of_mem _ (hsubset hother))

section Full

variable {direct stack all : List String}

/-- What stands for the bases of a name can be reached from it. -/
theorem Full.reaches (h : stack = direct ∨ Full bases heir direct stack) {name : String}
    (hname : name ∈ stack) : Reaches bases direct name := by
  rcases h with rfl | hfull
  · exact ⟨name, hname, .refl⟩
  · exact ((hfull.mem_iff name).mp hname).2

/-- What stands for the bases of a name has all of them, but for the name itself. -/
theorem Full.mem_of_mem_direct (h : stack = direct ∨ Full bases heir direct stack) {name : String}
    (hname : name ∈ direct) : name ∈ stack ∨ heir = some name := by
  rcases h with rfl | hfull
  · exact Or.inl hname
  · by_cases hheir : heir = some name
    · exact Or.inr hheir
    · exact Or.inl ((hfull.mem_iff name).mpr ⟨hheir, name, hname, .refl⟩)

/-- Only what can be reached is found. -/
theorem Follows.reaches (hnow : ExpandedInPart bases now)
    (hstack : stack = direct ∨ Full bases heir direct stack)
    (h : Follows heir now [] stack all) : ∀ name ∈ all, Reaches bases direct name := by
  refine h.forall_mem ?_ (List.forall_mem_nil _) fun name hname => Full.reaches hstack hname
  rintro other ⟨first, hfirst, hpath⟩ base hbase
  obtain ⟨next, hnext, hmore⟩ := Full.reaches (hnow other) hbase
  exact ⟨first, hfirst, (hpath.tail hnext).trans hmore⟩

/-- All that can be reached is found, but for the heir. -/
theorem Follows.mem_of_reaches (hnow : ExpandedInPart bases now)
    (hheir : ∀ name, heir = some name → bases name = direct)
    (hstack : stack = direct ∨ Full bases heir direct stack)
    (h : Follows heir now [] stack all) {name : String} (hname : Reaches bases direct name) :
    name ∈ all ∨ heir = some name := by
  have hdirect : ∀ base ∈ direct, base ∈ all ∨ heir = some base := fun base hbase =>
    (Full.mem_of_mem_direct hstack hbase).elim (h.mem_of_mem_stack base) Or.inr
  obtain ⟨first, hfirst, hpath⟩ := hname
  induction hpath with
  | refl => exact hdirect first hfirst
  | @tail other base _ hstep ih =>
    rcases ih with hother | hother
    · rcases Full.mem_of_mem_direct (hnow other) hstep with hbase | hbase
      · exact h.mem_of_mem_bases hother List.not_mem_nil base hbase
      · exact Or.inl (Option.some.inj hbase ▸ hother)
    · exact hdirect base (hheir other hother ▸ hstep)

/-- **What is followed is full**, in a hierarchy that is expanded in part, from bases that are
direct or expanded themselves. -/
theorem Full.of_follows (hnow : ExpandedInPart bases now)
    (hheir : ∀ name, heir = some name → bases name = direct)
    (hstack : stack = direct ∨ Full bases heir direct stack)
    (h : Follows heir now [] stack all) : Full bases heir direct all where
  nodup := h.nodup List.nodup_nil
  mem_iff := fun name =>
    ⟨fun hname => ⟨h.ne_heir (List.forall_mem_nil _) name hname, h.reaches hnow hstack name hname⟩,
      fun hname => (h.mem_of_reaches hnow hheir hstack hname.2).resolve_right hname.1⟩
  inOrder := fun below hbelow => by
    have hsubset : inDepth below stack ⊆ inDepth below direct := fun deep hdeep =>
      hbelow.inDepth_inDepth_subset direct
        (inDepth_subset (Full.subset_inDepth hbelow hstack) hdeep)
    have hother : ∀ name ∈ inDepth below stack, heir ≠ some name := fun name hname heq => by
      refine hbelow.notMem_below name ?_
      rw [hbelow name, hheir name heq]
      exact hsubset hname
    rw [← List.append_nil stack] at h
    have hfound := h.of_append hbelow hnow (inDepth below stack).length
      (fun name hname => length_below_lt hname) (fun _ _ hseen => absurd hseen List.not_mem_nil)
      hother
    cases hfound with
    | done => rw [Full.record_inDepth hbelow hstack, record_empty]

end Full

end Preorder

end ProviderRegistry.Source
