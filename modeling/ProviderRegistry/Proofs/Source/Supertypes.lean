import Mathlib.Data.Option.Basic
import Mathlib.Data.List.Nodup
import ProviderRegistry.Proofs.Source.Following

/-!
# The supertypes of a round

To make a round, its declarations are gone through one by one: each gets all its supertypes in
place of its direct bases, while some of the others have theirs already and the rest have not. When
the declarations have different names, each one ends up `Settled` all the same, that is with the
full supertypes of the hierarchy that was parsed and the constructor of the nearest one that writes
any (`ofModules_settles`). Cycles do no harm. In an acyclic hierarchy the supertypes stand in the
order of a search in depth, so the order of the modules makes no difference.
-/

namespace ProviderRegistry.Source

/-! ### What was parsed -/

/-- The declaration that a mark holds of its own. -/
def Marked.own? : Marked → Option Declaration
  | .topLevel _ => none
  | .own d => some d

/-- The **parsed** declarations of some modules, each once: the classes at the top level, then
everything else that is marked. -/
def parsed (modules : List DeclaringModule) : List Declaration :=
  modules.flatMap (·.topLevel) ++ modules.flatMap (·.marked.filterMap Marked.own?)

/-- The declaration of a name among some. -/
def declared? (ds : List Declaration) (name : String) : Option Declaration :=
  ds.find? (·.name = some name)

/-- What a name inherits from directly, as some declarations say. A name that none of them has is a
leaf. -/
def directBases (ds : List Declaration) (name : String) : List String :=
  ((declared? ds name).map (·.supertypes)).getD []

/-- Can the constructor of the nearest of some supertypes that writes one be called without
arguments? It can when none of them writes one. -/
def nearestConstructor (ds : List Declaration) (supertypes : List String) : Bool :=
  (supertypes.findSome? fun name =>
    ((declared? ds name).filter (·.definesInit)).map (·.hasNoargConstructor)).getD true

/-- A parsed declaration is **settled** when it has its full supertypes and, unless it writes a
constructor, that of the nearest of them. -/
structure Settled (ds : List Declaration) (before after : Declaration) : Prop where
  same : after = { before with
    supertypes := after.supertypes
    hasNoargConstructor := after.hasNoargConstructor }
  full : Full (directBases ds) before.name before.supertypes after.supertypes
  constructor : after.hasNoargConstructor =
    if before.definesInit then before.hasNoargConstructor
    else nearestConstructor ds after.supertypes

/-- Everything that a round shows. -/
def Round.shown (round : Round) : List Declaration := round.declarations ++ round.annotated

variable {ds before after : List Declaration} {d e : Declaration} {modules : List DeclaringModule}
  {index : List (Option String × ℕ)}

/-- With names that differ, a name finds the declaration that has it. -/
theorem declared?_eq_some_iff (hnames : (ds.map Declaration.name).Nodup) {name : String}
    {d : Declaration} : declared? ds name = some d ↔ d ∈ ds ∧ d.name = some name := by
  rw [declared?]
  constructor
  · intro h
    exact ⟨List.mem_of_find?_eq_some h, by simpa using List.find?_some h⟩
  · rintro ⟨hd, hname⟩
    cases hfound : ds.find? (·.name = some name) with
    | none => simpa [hname] using List.find?_eq_none.mp hfound d hd
    | some other =>
      have hother : other.name = some name := by simpa using List.find?_some hfound
      exact congrArg some (List.inj_on_of_nodup_map hnames (List.mem_of_find?_eq_some hfound) hd
        (hother.trans hname.symm))

/-- The direct bases of a declared name are the supertypes that its declaration starts with. -/
theorem directBases_of_mem (hnames : (ds.map Declaration.name).Nodup) {d : Declaration}
    (hd : d ∈ ds) {name : String} (hname : d.name = some name) :
    directBases ds name = d.supertypes := by
  rw [directBases, (declared?_eq_some_iff hnames).mpr ⟨hd, hname⟩]
  rfl

/-! ### Where declarations stand -/

/-- A key that stands for one thing only is looked up where it stands. -/
private theorem lookup_of_unique {α β : Type} [BEq α] [LawfulBEq α] {table : List (α × β)}
    {key : α} {value : β} (hmem : (key, value) ∈ table)
    (hunique : ∀ other, (key, other) ∈ table → other = value) : table.lookup key = some value := by
  cases hlookup : table.lookup key with
  | none => simpa using List.lookup_eq_none_iff.mp hlookup (key, value) hmem
  | some found =>
    obtain ⟨front, back, rfl, -⟩ := List.lookup_eq_some_iff.mp hlookup
    rw [hunique found (by simp)]

/-- Two places of the same name are one place. -/
theorem place_eq_of_name_eq (hnames : (ds.map Declaration.name).Nodup) {place other : ℕ}
    (hd : ds[place]? = some d) (he : ds[other]? = some e) (hname : d.name = e.name) :
    place = other := by
  obtain ⟨hlt, rfl⟩ := List.getElem?_eq_some_iff.mp hd
  obtain ⟨hlt', rfl⟩ := List.getElem?_eq_some_iff.mp he
  have hplace : place < (ds.map Declaration.name).length := by simpa using hlt
  have hother : other < (ds.map Declaration.name).length := by simpa using hlt'
  have hat : (ds.map Declaration.name)[place] = (ds.map Declaration.name)[other] := by
    rw [List.getElem_map, List.getElem_map, hname]
  exact hnames.getElem_inj_iff.mp hat

/-- An index **places** declarations when it says of each name where it stands, and nothing
else. -/
def Places (index : List (Option String × ℕ)) (ds : List Declaration) : Prop :=
  ∀ name place, (name, place) ∈ index ↔ ∃ d, ds[place]? = some d ∧ d.name = name

section Places

variable (hindex : Places index ds) (hnames : (ds.map Declaration.name).Nodup)

include hindex hnames

/-- A name stands for one place only. -/
theorem Places.unique {name : Option String} {place other : ℕ} (hplace : (name, place) ∈ index)
    (hother : (name, other) ∈ index) : other = place := by
  obtain ⟨d, hd, rfl⟩ := (hindex name place).mp hplace
  obtain ⟨e, he, hname⟩ := (hindex d.name other).mp hother
  exact place_eq_of_name_eq hnames he hd hname

/-- The index finds what is declared. -/
theorem Places.lookUp_eq (name : String) : lookUp index ds name = declared? ds name := by
  refine Option.ext fun d => ?_
  rw [declared?_eq_some_iff hnames, List.mem_iff_getElem?, lookUp, Option.bind_eq_some_iff]
  constructor
  · rintro ⟨place, hlookup, hd⟩
    obtain ⟨front, back, hsplit, -⟩ := List.lookup_eq_some_iff.mp hlookup
    obtain ⟨e, he, hname⟩ := (hindex (some name) place).mp (by simp [hsplit])
    exact ⟨⟨place, hd⟩, Option.some.inj (hd.symm.trans he) ▸ hname⟩
  · rintro ⟨⟨place, hd⟩, hname⟩
    have hplace := (hindex (some name) place).mpr ⟨d, hd, hname⟩
    exact ⟨place, lookup_of_unique hplace fun _ => hindex.unique hnames hplace, hd⟩

/-- The table of supertypes says what the declarations say. -/
theorem Places.basesIn_supertypeTable :
    basesIn (supertypeTable index ds) = directBases ds := by
  have hmem : ∀ name supertypes, (name, supertypes) ∈ supertypeTable index ds ↔
      (declared? ds name).map (·.supertypes) = some supertypes := fun name supertypes => by
    rw [supertypeTable, List.mem_filterMap, Option.map_eq_some_iff]
    constructor
    · rintro ⟨⟨key, place⟩, hentry, heq⟩
      obtain ⟨d, hd, rfl⟩ := (hindex key place).mp hentry
      cases hname : d.name with
      | none => simp [hname] at heq
      | some found =>
        simp only [hname, hd, Option.some.injEq, Prod.mk.injEq] at heq
        obtain ⟨rfl, rfl⟩ := heq
        exact ⟨d, (declared?_eq_some_iff hnames).mpr ⟨List.mem_of_getElem? hd, hname⟩, rfl⟩
    · rintro ⟨d, hd, rfl⟩
      obtain ⟨hd, hname⟩ := (declared?_eq_some_iff hnames).mp hd
      obtain ⟨place, hplace⟩ := List.mem_iff_getElem?.mp hd
      refine ⟨(some name, place), (hindex _ _).mpr ⟨d, hplace, hname⟩, ?_⟩
      simp [hplace]
  funext name
  rw [basesIn, directBases]
  congr 1
  cases hfound : (declared? ds name).map (·.supertypes) with
  | none =>
    rw [List.lookup_eq_none_iff]
    rintro ⟨key, supertypes⟩ hentry
    refine bne_iff_ne.mpr fun (heq : name = key) => ?_
    rw [← heq, hmem, hfound] at hentry
    exact absurd hentry (Option.some_ne_none _).symm
  | some supertypes =>
    refine lookup_of_unique ((hmem _ _).mpr hfound) fun other hother => ?_
    rw [hmem, hfound] at hother
    exact (Option.some.inj hother).symm

end Places

/-! ### Going through the places -/

/-- Declarations are related **place by place**. -/
def Placewise (R : Declaration → Declaration → Prop) (before after : List Declaration) : Prop :=
  ∀ place : ℕ, Option.Rel R before[place]? after[place]?

namespace Placewise

variable {R S : Declaration → Declaration → Prop}

private theorem rel_mono (h : ∀ d e, S d e → R d e) {d e : Option Declaration}
    (hrel : Option.Rel S d e) : Option.Rel R d e := by
  cases hrel with
  | none => exact .none
  | some hrel => exact .some (h _ _ hrel)

theorem refl (h : ∀ d, R d d) (ds : List Declaration) : Placewise R ds ds := fun place => by
  cases ds[place]? with
  | none => exact .none
  | some d => exact .some (h d)

theorem mono (h : Placewise R before after) (hmono : ∀ d e, R d e → S d e) :
    Placewise S before after := fun place => rel_mono hmono (h place)

/-- Each place is there afterwards. -/
theorem exists_after (h : Placewise R before after) {place : ℕ} {d : Declaration}
    (hd : before[place]? = some d) : ∃ e, after[place]? = some e ∧ R d e := by
  have hrel := h place
  rw [hd] at hrel
  cases hafter : after[place]? with
  | none => rw [hafter] at hrel; cases hrel
  | some e =>
    rw [hafter] at hrel
    cases hrel with
    | some hrel => exact ⟨e, rfl, hrel⟩

/-- No place is new. -/
theorem exists_before (h : Placewise R before after) {place : ℕ} {e : Declaration}
    (he : after[place]? = some e) : ∃ d, before[place]? = some d ∧ R d e := by
  have hrel := h place
  rw [he] at hrel
  cases hbefore : before[place]? with
  | none => rw [hbefore] at hrel; cases hrel
  | some d =>
    rw [hbefore] at hrel
    cases hrel with
    | some hrel => exact ⟨d, rfl, hrel⟩

theorem eq_none (h : Placewise R before after) {place : ℕ} (hbefore : before[place]? = none) :
    after[place]? = none := by
  cases hafter : after[place]? with
  | none => rfl
  | some e =>
    obtain ⟨d, hd, -⟩ := h.exists_before hafter
    exact absurd (hbefore.symm.trans hd) (Option.some_ne_none d).symm

/-- Each declaration has one that came of it. -/
theorem exists_mem_after (h : Placewise R before after) {d : Declaration} (hd : d ∈ before) :
    ∃ e ∈ after, R d e := by
  obtain ⟨place, hplace⟩ := List.mem_iff_getElem?.mp hd
  obtain ⟨e, he, hrel⟩ := h.exists_after hplace
  exact ⟨e, List.mem_of_getElem? he, hrel⟩

/-- Each declaration came of one. -/
theorem exists_mem_before (h : Placewise R before after) {e : Declaration} (he : e ∈ after) :
    ∃ d ∈ before, R d e := by
  obtain ⟨place, hplace⟩ := List.mem_iff_getElem?.mp he
  obtain ⟨d, hd, hrel⟩ := h.exists_before hplace
  exact ⟨d, List.mem_of_getElem? hd, hrel⟩

/-- If names stay, a name stands at the places where it stood. -/
theorem exists_named_iff (h : Placewise R before after) (hname : ∀ d e, R d e → e.name = d.name)
    {place : ℕ} {name : Option String} :
    (∃ e, after[place]? = some e ∧ e.name = name) ↔
      ∃ d, before[place]? = some d ∧ d.name = name := by
  constructor
  · rintro ⟨e, he, rfl⟩
    obtain ⟨d, hd, hrel⟩ := h.exists_before he
    exact ⟨d, hd, (hname d e hrel).symm⟩
  · rintro ⟨d, hd, rfl⟩
    obtain ⟨e, he, hrel⟩ := h.exists_after hd
    exact ⟨e, he, hname d e hrel⟩

/-- If each name stays, the list of names does. -/
theorem map_name (h : Placewise R before after) (hname : ∀ d e, R d e → e.name = d.name) :
    after.map Declaration.name = before.map Declaration.name := by
  refine List.ext_getElem? fun place => Option.ext fun name => ?_
  rw [List.getElem?_map, List.getElem?_map, Option.map_eq_some_iff, Option.map_eq_some_iff]
  exact h.exists_named_iff hname

/-- Names that differ still do. -/
theorem nodup_names (h : Placewise R before after) (hname : ∀ d e, R d e → e.name = d.name)
    (hnames : (before.map Declaration.name).Nodup) : (after.map Declaration.name).Nodup := by
  rw [h.map_name hname]
  exact hnames

/-- An index stays right as long as names stay where they stand. -/
theorem places (h : Placewise R before after) (hname : ∀ d e, R d e → e.name = d.name)
    (hindex : Places index before) : Places index after := fun name place =>
  (hindex name place).trans (h.exists_named_iff hname).symm

/-- Declarations that are changed **one by one**, each from what it is to what it shall be while
the others are whatever they are by then. -/
theorem foldl {step : List Declaration → ℕ → List Declaration}
    (hstep : ∀ after place, Placewise R before after → ∃ f,
      step after place = after.modify place f ∧
      ∀ d e, before[place]? = some d → after[place]? = some e → R d e → S d (f e))
    (hweak : ∀ d e, S d e → R d e) {order : List ℕ} (h : Placewise R before after)
    (horder : ∀ place < before.length, place ∈ order) :
    Placewise S before (order.foldl step after) := by
  -- a place that is gone through keeps what it got; in the end these are all places
  suffices hall : ∀ place, place ∈ order ∨ Option.Rel S before[place]? after[place]? →
      Option.Rel S before[place]? (order.foldl step after)[place]? from fun place => by
    by_cases hplace : place < before.length
    · exact hall place (Or.inl (horder place hplace))
    · have hnone := List.getElem?_eq_none (Nat.le_of_not_lt hplace)
      refine hall place (Or.inr ?_)
      rw [hnone, h.eq_none hnone]
      exact .none
  clear horder
  induction order generalizing after with
  | nil => exact fun place hplace => hplace.resolve_left List.not_mem_nil
  | cons changed order ih =>
    obtain ⟨f, hmodify, hchanged⟩ := hstep after changed h
    have hat : Option.Rel S before[changed]? (step after changed)[changed]? := by
      rw [hmodify, List.getElem?_modify_eq]
      cases hbefore : before[changed]? with
      | none =>
        rw [h.eq_none hbefore]
        exact .none
      | some d =>
        obtain ⟨e, hafter, hrel⟩ := h.exists_after hbefore
        rw [hafter]
        exact .some (hchanged d e hbefore hafter hrel)
    have helse : ∀ place ≠ changed, (step after changed)[place]? = after[place]? :=
      fun place hne => by
        rw [hmodify, List.getElem?_modify_ne _ _ (Ne.symm hne)]
    have hnext : Placewise R before (step after changed) := fun place => by
      by_cases hne : place = changed
      · rw [hne]
        exact rel_mono hweak hat
      · rw [helse place hne]
        exact h place
    intro place hplace
    refine ih hnext place ?_
    by_cases hne : place = changed
    · exact Or.inr (hne ▸ hat)
    · rw [helse place hne]
      exact hplace.imp_left fun hmem => (List.mem_cons.mp hmem).resolve_left hne

end Placewise

/-! ### Two passes over the declarations -/

/-- A declaration in the first pass: it may have its full supertypes already. -/
structure Expanding (ds : List Declaration) (before after : Declaration) : Prop where
  same : after = { before with supertypes := after.supertypes }
  expanded : after.supertypes = before.supertypes ∨
    Full (directBases ds) before.name before.supertypes after.supertypes

/-- A declaration in the second pass: it has its full supertypes, and a constructor that it writes
is what it was. -/
structure Expanded (ds : List Declaration) (before after : Declaration) : Prop where
  same : after = { before with
    supertypes := after.supertypes
    hasNoargConstructor := after.hasNoargConstructor }
  full : Full (directBases ds) before.name before.supertypes after.supertypes
  written : before.definesInit = true → after.hasNoargConstructor = before.hasNoargConstructor

theorem Expanding.name_eq (h : Expanding ds d e) : e.name = d.name := by
  rw [h.same]

theorem Expanded.name_eq (h : Expanded ds d e) : e.name = d.name := by
  rw [h.same]

theorem Settled.name_eq (h : Settled ds d e) : e.name = d.name := by
  rw [h.same]

/-- What is settled is expanded. -/
theorem Settled.expanded (h : Settled ds d e) : Expanded ds d e where
  same := h.same
  full := h.full
  written := fun hwrites => by rw [h.constructor, if_pos hwrites]

/-- The same names are declared before and after a pass. -/
theorem Placewise.declared?_eq_none {R : Declaration → Declaration → Prop}
    (hnames : (ds.map Declaration.name).Nodup) (h : Placewise R ds after)
    (hname : ∀ d e, R d e → e.name = d.name) {name : String}
    (hnone : declared? after name = none) :
    declared? ds name = none := by
  cases hfound : declared? ds name with
  | none => rfl
  | some d =>
    obtain ⟨hd, hdname⟩ := (declared?_eq_some_iff hnames).mp hfound
    obtain ⟨e, he, hrel⟩ := h.exists_mem_after hd
    have := List.find?_eq_none.mp hnone e he
    rw [hname d e hrel, hdname] at this
    exact absurd (decide_eq_true rfl) this

section Passes

variable (hnames : (ds.map Declaration.name).Nodup)

include hnames

/-- Halfway through the first pass the hierarchy is expanded in part. -/
theorem expandedInPart_of_expanding (h : Placewise (Expanding ds) ds after) :
    ExpandedInPart (directBases ds) (directBases after) := fun name => by
  have hnames' := h.nodup_names (fun _ _ => Expanding.name_eq) hnames
  cases hfound : declared? after name with
  | none =>
    have hnone := h.declared?_eq_none hnames (fun _ _ => Expanding.name_eq) hfound
    exact Or.inl (by rw [directBases, directBases, hfound, hnone])
  | some e =>
    obtain ⟨he, hname⟩ := (declared?_eq_some_iff hnames').mp hfound
    obtain ⟨d, hd, hrel⟩ := h.exists_mem_before he
    have hdname : d.name = some name := hrel.name_eq.symm.trans hname
    rw [directBases_of_mem hnames' he hname, directBases_of_mem hnames hd hdname, ← hdname]
    exact hrel.expanded

/-- A constructor is the same halfway through the second pass, since those that are written
stay. -/
theorem nearestConstructor_of_expanded (h : Placewise (Expanded ds) ds after)
    (supertypes : List String) :
    nearestConstructor after supertypes = nearestConstructor ds supertypes := by
  have hnames' := h.nodup_names (fun _ _ => Expanded.name_eq) hnames
  rw [nearestConstructor, nearestConstructor]
  congr 2
  funext name
  cases hfound : declared? after name with
  | none => rw [h.declared?_eq_none hnames (fun _ _ => Expanded.name_eq) hfound]
  | some e =>
    obtain ⟨he, hname⟩ := (declared?_eq_some_iff hnames').mp hfound
    obtain ⟨d, hd, hrel⟩ := h.exists_mem_before he
    have hfoundBefore : declared? ds name = some d :=
      (declared?_eq_some_iff hnames).mpr ⟨hd, hrel.name_eq.symm.trans hname⟩
    have hinit : e.definesInit = d.definesInit := by rw [hrel.same]
    rw [hfoundBefore, Option.filter_some, Option.filter_some, hinit]
    by_cases hwrites : d.definesInit = true
    · rw [if_pos hwrites, if_pos hwrites, Option.map_some, Option.map_some, hrel.written hwrites]
    · rw [if_neg hwrites, if_neg hwrites]

variable (hindex : Places index ds)

include hindex

/-- **The first pass** gives each declaration its full supertypes. -/
theorem expanded_foldl_expandAt {order : List ℕ} (horder : ∀ place < ds.length, place ∈ order) :
    Placewise (Expanded ds) ds (order.foldl (expandAt index) ds) := by
  have hpass : Placewise (fun d e => e = { d with supertypes := e.supertypes } ∧
      Full (directBases ds) d.name d.supertypes e.supertypes) ds
      (order.foldl (expandAt index) ds) := by
    refine Placewise.foldl (R := Expanding ds) ?_ (fun d e h => ⟨h.1, Or.inr h.2⟩)
      (Placewise.refl (fun d => ⟨rfl, Or.inl rfl⟩) ds) horder
    intro after place h
    refine ⟨_, rfl, fun d e hd _ hrel => ⟨by rw [hrel.same], ?_⟩⟩
    have hnames' := h.nodup_names (fun _ _ => Expanding.name_eq) hnames
    have htable := (h.places (fun _ _ => Expanding.name_eq) hindex).basesIn_supertypeTable hnames'
    have hfollows : Follows e.name (directBases after) [] e.supertypes
        (followSupertypes e.name (supertypeTable index after) [] e.supertypes) :=
      follows_followSupertypes fun name _ => congrFun htable name
    have hexpanded := hrel.expanded
    rw [← hrel.name_eq] at hexpanded ⊢
    refine Full.of_follows (expandedInPart_of_expanding hnames h) (fun name hname => ?_) hexpanded
      hfollows
    exact directBases_of_mem hnames (List.mem_of_getElem? hd) (hrel.name_eq.symm.trans hname)
  exact hpass.mono fun d e h =>
    { same := by rw [h.1]
      full := h.2
      written := fun _ => by rw [h.1] }

/-- **The second pass** gives each declaration the constructor that it inherits. -/
theorem settled_foldl_inheritAt {order : List ℕ} (horder : ∀ place < ds.length, place ∈ order)
    (h : Placewise (Expanded ds) ds after) :
    Placewise (Settled ds) ds (order.foldl (inheritAt index) after) := by
  refine Placewise.foldl (R := Expanded ds) ?_ (fun _ _ => Settled.expanded) h horder
  intro after place h
  refine ⟨_, rfl, fun d e _ _ hrel => ?_⟩
  have hnames' := h.nodup_names (fun _ _ => Expanded.name_eq) hnames
  have hinit : e.definesInit = d.definesInit := by rw [hrel.same]
  have hconstructor : inheritedConstructor index after e.supertypes =
      nearestConstructor ds e.supertypes := by
    rw [← nearestConstructor_of_expanded hnames h, inheritedConstructor, nearestConstructor,
      List.head?_filterMap, List.map_findSome?]
    simp only [(h.places (fun _ _ => Expanded.name_eq) hindex).lookUp_eq hnames']
    rfl
  by_cases hwrites : d.definesInit = true
  · rw [if_pos (hinit.trans hwrites)]
    exact ⟨hrel.same, hrel.full, by rw [if_pos hwrites, hrel.written hwrites]⟩
  · rw [if_neg (hinit.symm ▸ hwrites)]
    refine ⟨by rw [hrel.same], hrel.full, ?_⟩
    rw [if_neg hwrites]
    exact hconstructor

end Passes

/-! ### The order in which declarations are gone through -/

/-- The declarations that are placed are the own ones of the marks, in their order. -/
theorem snd_placeMarked (offset next : ℕ) (marked : List Marked) :
    (placeMarked offset next marked).2 = marked.filterMap Marked.own? := by
  induction marked generalizing next with
  | nil => rfl
  | cons mark marked ih =>
    cases mark with
    | topLevel i => exact ih next
    | own d => exact congrArg (d :: ·) (ih (next + 1))

/-- Over all modules, the declarations that are placed are the own ones of the marks. -/
theorem snd_placeAllMarked (offset next : ℕ) (modules : List DeclaringModule) :
    (placeAllMarked offset next modules).2 =
      modules.flatMap (·.marked.filterMap Marked.own?) := by
  induction modules generalizing offset next with
  | nil => rfl
  | cons m modules ih =>
    rw [placeAllMarked, List.flatMap_cons, ← snd_placeMarked offset next]
    exact congrArg (_ ++ ·) (ih _ _)

/-- What is marked and stands at no top level has the places from the next one on. -/
theorem mem_fst_placeMarked (offset next : ℕ) (marked : List Marked) {place : ℕ}
    (hle : next ≤ place) (hlt : place < next + (placeMarked offset next marked).2.length) :
    place ∈ (placeMarked offset next marked).1 := by
  induction marked generalizing next with
  | nil => exact absurd hlt (Nat.not_lt_of_le hle)
  | cons mark marked ih =>
    cases mark with
    | topLevel i => exact List.mem_cons_of_mem _ (ih next hle hlt)
    | own d =>
      change place < next + ((placeMarked offset (next + 1) marked).2.length + 1) at hlt
      rcases Nat.eq_or_lt_of_le hle with rfl | hless
      · exact List.mem_cons_self
      · exact List.mem_cons_of_mem _ (ih (next + 1) hless (by omega))

@[inherit_doc mem_fst_placeMarked]
theorem mem_fst_placeAllMarked (offset next : ℕ) (modules : List DeclaringModule) {place : ℕ}
    (hle : next ≤ place) (hlt : place < next + (placeAllMarked offset next modules).2.length) :
    place ∈ (placeAllMarked offset next modules).1 := by
  induction modules generalizing offset next with
  | nil => exact absurd hlt (Nat.not_lt_of_le hle)
  | cons m modules ih =>
    simp only [placeAllMarked, List.length_append] at hlt ⊢
    rw [List.mem_append]
    by_cases hfirst : place < next + (placeMarked offset next m.marked).2.length
    · exact Or.inl (mem_fst_placeMarked offset next m.marked hle hfirst)
    · exact Or.inr (ih _ _ (by omega) (by omega))

/-- Indexing declarations of different names one by one, each where it stands. -/
private theorem mem_foldl_index (hnames : (ds.map Declaration.name).Nodup)
    {seen : List (Declaration × ℕ)} (hseen : ∀ found ∈ seen, ds[found.2]? = some found.1)
    (hindex : ∀ entry ∈ index, ∃ d, ds[entry.2]? = some d ∧ d.name = entry.1)
    (entry : Option String × ℕ) :
    entry ∈ seen.foldl (fun index (d, place) =>
        if index.any (·.1 == d.name) then
          index.map fun entry => if entry.1 == d.name then (d.name, place) else entry
        else index ++ [(d.name, place)]) index ↔
      entry ∈ index ∨ ∃ found ∈ seen, entry = (found.1.name, found.2) := by
  induction seen generalizing index with
  | nil => simp
  | cons found seen ih =>
    obtain ⟨d, place⟩ := found
    obtain ⟨hd, hseen⟩ := List.forall_mem_cons.mp hseen
    rw [List.foldl_cons]
    simp only [List.mem_cons, exists_eq_or_imp, ← or_assoc]
    by_cases hany : index.any (·.1 == d.name) = true
    · -- the name is there already, and it stands for the same place
      obtain ⟨⟨name, old⟩, hold, hname⟩ := List.any_eq_true.mp hany
      have hplace : ∀ entry ∈ index, entry.1 = d.name → entry = (d.name, place) :=
        fun entry hentry heq => by
          obtain ⟨e, he, hename⟩ := hindex entry hentry
          exact Prod.ext heq (place_eq_of_name_eq hnames he hd (hename.trans heq))
      have hsame : (index.map fun entry =>
          if entry.1 == d.name then (d.name, place) else entry) = index := by
        refine (List.map_congr_left fun entry hentry => ?_).trans (List.map_id index)
        by_cases heq : entry.1 = d.name
        · rw [if_pos (beq_iff_eq.mpr heq), hplace entry hentry heq, id]
        · rw [if_neg (fun h => heq (beq_iff_eq.mp h)), id]
      have hmem : (d.name, place) ∈ index := hplace _ hold (beq_iff_eq.mp hname) ▸ hold
      simp only [hany, if_true, hsame]
      rw [ih hseen hindex]
      refine or_congr_left ⟨Or.inl, ?_⟩
      rintro (hentry | rfl)
      · exact hentry
      · exact hmem
    · simp only [hany, Bool.false_eq_true, if_false]
      rw [ih hseen ?_, List.mem_append, List.mem_singleton]
      exact List.forall_mem_append.mpr ⟨hindex, List.forall_mem_singleton.mpr ⟨d, hd, rfl⟩⟩

/-- The index of a round places the declarations. -/
theorem places_indexOf (hnames : (ds.map Declaration.name).Nodup) {classes : ℕ} {places : List ℕ}
    (hall : ∀ place < ds.length, place ∈ List.range classes ++ places) :
    Places (indexOf classes places ds) ds := fun name place => by
  have hseen : ∀ found ∈ (List.range classes ++ places).filterMap fun place =>
      (ds[place]?).map ((·, place)), ds[found.2]? = some found.1 := fun found hfound => by
    obtain ⟨at', -, hat⟩ := List.mem_filterMap.mp hfound
    obtain ⟨d, hd, rfl⟩ := Option.map_eq_some_iff.mp hat
    exact hd
  rw [indexOf, mem_foldl_index hnames hseen (List.forall_mem_nil _)]
  constructor
  · rintro (hentry | ⟨found, hfound, heq⟩)
    · exact absurd hentry List.not_mem_nil
    · obtain ⟨rfl, rfl⟩ := Prod.mk.inj heq
      exact ⟨found.1, hseen found hfound, rfl⟩
  · rintro ⟨d, hd, rfl⟩
    refine Or.inr ⟨(d, place), List.mem_filterMap.mpr ⟨place, hall place ?_, ?_⟩, rfl⟩
    · exact (List.getElem?_eq_some_iff.mp hd).1
    · rw [hd]
      rfl

/-! ### Rounds -/

/-- All places are gone through. -/
theorem mem_places (modules : List DeclaringModule) {place : ℕ}
    (hplace : place < (parsed modules).length) :
    place ∈ List.range (modules.flatMap (·.topLevel)).length ++
      (placeAllMarked 0 (modules.flatMap (·.topLevel)).length modules).1 := by
  rw [parsed, List.length_append] at hplace
  by_cases hclass : place < (modules.flatMap (·.topLevel)).length
  · exact List.mem_append_left _ (List.mem_range.mpr hclass)
  · refine List.mem_append_right _ (mem_fst_placeAllMarked _ _ _ (Nat.le_of_not_lt hclass) ?_)
    rw [snd_placeAllMarked]
    exact hplace

/-- A round shows its declarations once they are **settled**. -/
theorem exists_settled (hnames : ((parsed modules).map Declaration.name).Nodup) :
    ∃ after, Placewise (Settled (parsed modules)) (parsed modules) after ∧
      ∀ d, d ∈ (Round.ofModules modules).shown ↔ d ∈ after := by
  let classes := (modules.flatMap (·.topLevel)).length
  let places := (placeAllMarked 0 classes modules).1
  let index := indexOf classes places
  let order := fun ds => (index ds).map (·.2)
  let expand := fun ds => (order ds).foldl (expandAt (index ds)) ds
  let settle := fun ds => (order ds).foldl (inheritAt (index ds)) (expand ds)
  have hindex : Places (index (parsed modules)) (parsed modules) :=
    places_indexOf hnames fun _ hplace => mem_places modules hplace
  have horder : ∀ place < (parsed modules).length, place ∈ order (parsed modules) :=
    fun place hplace => List.mem_map.mpr ⟨((parsed modules)[place].name, place),
      (hindex _ _).mpr ⟨_, List.getElem?_eq_getElem hplace, rfl⟩, rfl⟩
  have hsettled :
      Placewise (Settled (parsed modules)) (parsed modules) (settle (parsed modules)) :=
    settled_foldl_inheritAt hnames hindex horder (expanded_foldl_expandAt hnames hindex horder)
  have hparsed : parsed modules =
      modules.flatMap (·.topLevel) ++ (placeAllMarked 0 classes modules).2 := by
    rw [parsed, snd_placeAllMarked]
  have hshown : (Round.ofModules modules).shown =
      (settle (parsed modules)).take classes ++
        places.filterMap ((settle (parsed modules))[·]?) := by
    rw [hparsed]
    rfl
  refine ⟨_, hsettled, fun d => ?_⟩
  rw [hshown, List.mem_append, List.mem_filterMap]
  constructor
  · rintro (hd | ⟨place, -, hd⟩)
    · exact List.mem_of_mem_take hd
    · exact List.mem_of_getElem? hd
  · intro hd
    obtain ⟨place, hplace⟩ := List.mem_iff_getElem?.mp hd
    obtain ⟨before, hbefore, -⟩ := hsettled.exists_before hplace
    rcases List.mem_append.mp (mem_places modules (List.getElem?_eq_some_iff.mp hbefore).1) with
      hmem | hmem
    · refine Or.inl (List.mem_of_getElem? (i := place) ?_)
      rw [List.getElem?_take_of_lt (List.mem_range.mp hmem)]
      exact hplace
    · exact Or.inr ⟨place, hmem, hplace⟩

/-! ### Hierarchies of declarations -/

/-- A name that is not declared has no direct bases. -/
theorem directBases_eq_nil {name : String} (h : name ∉ ds.filterMap Declaration.name) :
    directBases ds name = [] := by
  have hnone : declared? ds name = none := List.find?_eq_none.mpr fun d hd hname =>
    h (List.mem_filterMap.mpr ⟨d, hd, by simpa using hname⟩)
  rw [directBases, hnone]
  rfl

/-- Direct bases that are always of less rank make no cycle. -/
theorem acyclic_of_rank (rank : String → ℕ)
    (h : ∀ d ∈ ds, ∀ name ∈ d.name, ∀ base ∈ d.supertypes, rank base < rank name) :
    Acyclic (directBases ds) := fun name hcycle => by
  have hstep : ∀ name base, Inherits (directBases ds) name base → rank base < rank name := by
    intro name base hbase
    rw [Inherits, directBases] at hbase
    cases hfound : declared? ds name with
    | none => rw [hfound] at hbase; exact absurd hbase List.not_mem_nil
    | some d =>
      rw [hfound] at hbase
      exact h d (List.mem_of_find?_eq_some hfound) name (by simpa using List.find?_some hfound)
        base hbase
  have hdown : ∀ base, Relation.TransGen (Inherits (directBases ds)) name base →
      rank base < rank name := by
    intro base hpath
    induction hpath with
    | single h => exact hstep _ _ h
    | tail _ h ih => exact (hstep _ _ h).trans ih
  exact lt_irrefl _ (hdown name hcycle)

/-- The order of declarations does not bear on what a name finds. -/
theorem declared?_perm {others : List Declaration} (hperm : ds.Perm others)
    (hnames : (ds.map Declaration.name).Nodup) : declared? others = declared? ds := by
  funext name
  refine Option.ext fun d => ?_
  have hnames' := (hperm.map Declaration.name).nodup_iff.mp hnames
  rw [declared?_eq_some_iff hnames, declared?_eq_some_iff hnames', hperm.mem_iff]

/-- The order of declarations does not bear on the direct bases. -/
theorem directBases_perm {others : List Declaration} (hperm : ds.Perm others)
    (hnames : (ds.map Declaration.name).Nodup) : directBases others = directBases ds := by
  funext name
  rw [directBases, directBases, declared?_perm hperm hnames]

/-- The modules in another order give the same declarations in another order. -/
theorem parsed_perm {others : List DeclaringModule} (hperm : modules.Perm others) :
    (parsed modules).Perm (parsed others) :=
  (hperm.flatMap_right _).append (hperm.flatMap_right _)

/-- What is settled in an acyclic hierarchy is settled in one way. -/
theorem Settled.unique {below : String → List String} (hbelow : IsPreorder (directBases ds) below)
    {before after other : Declaration} (h : Settled ds before after)
    (hother : Settled ds before other) : after = other := by
  have hsupertypes : after.supertypes = other.supertypes :=
    (h.full.inOrder below hbelow).trans (hother.full.inOrder below hbelow).symm
  have hconstructor : after.hasNoargConstructor = other.hasNoargConstructor := by
    rw [h.constructor, hother.constructor, hsupertypes]
  rw [h.same, hother.same, hsupertypes, hconstructor]

/-- The order of the modules makes no difference in an acyclic hierarchy. -/
theorem shown_subset_of_perm {others : List DeclaringModule} (hperm : modules.Perm others)
    (hnames : ((parsed modules).map Declaration.name).Nodup)
    (hacyclic : Acyclic (directBases (parsed modules))) :
    (Round.ofModules modules).shown ⊆ (Round.ofModules others).shown := fun d hd => by
  have hparsed := parsed_perm hperm
  have hnames' := (hparsed.map Declaration.name).nodup_iff.mp hnames
  obtain ⟨after, hsettled, hshown⟩ := exists_settled hnames
  obtain ⟨after', hsettled', hshown'⟩ := exists_settled hnames'
  obtain ⟨below, hbelow⟩ := hacyclic.exists_isPreorder fun _ => directBases_eq_nil
  obtain ⟨before, hbefore, hd⟩ := hsettled.exists_mem_before ((hshown d).mp hd)
  obtain ⟨e, he, hother⟩ := hsettled'.exists_mem_after (hparsed.mem_iff.mp hbefore)
  have hsame : Settled (parsed modules) before e := by
    refine ⟨hother.same, directBases_perm hparsed hnames ▸ hother.full, ?_⟩
    rw [hother.constructor, nearestConstructor, nearestConstructor, declared?_perm hparsed hnames]
  rw [hd.unique hbelow hsame]
  exact (hshown' e).mpr he

/-- **The supertypes of a round.** The worklist ends on every hierarchy, with a cycle or without.
When parsed declarations have different names, a round shows each of them settled and nothing else.
When moreover their hierarchy is acyclic, their supertypes stand in the order of a search in depth
through the direct bases, with repetitions dropped, and modules in another order make the same
round. -/
theorem ofModules_settles (hnames : ((parsed modules).map Declaration.name).Nodup) :
    (∀ heir table stack,
      Follows heir (basesIn table) [] stack (followSupertypes heir table [] stack)) ∧
    (∀ before ∈ parsed modules, ∃ after ∈ (Round.ofModules modules).shown,
      Settled (parsed modules) before after) ∧
    (∀ after ∈ (Round.ofModules modules).shown, ∃ before ∈ parsed modules,
      Settled (parsed modules) before after) ∧
    (Acyclic (directBases (parsed modules)) →
      (∃ below, IsPreorder (directBases (parsed modules)) below ∧
        ∀ before ∈ parsed modules, ∀ after ∈ (Round.ofModules modules).shown,
          after.name = before.name →
            after.supertypes = (inDepth below before.supertypes).eraseDups) ∧
      ∀ others, modules.Perm others → ∀ d,
        d ∈ (Round.ofModules others).shown ↔ d ∈ (Round.ofModules modules).shown) := by
  obtain ⟨after, hsettled, hshown⟩ := exists_settled hnames
  refine ⟨fun _ _ _ => follows_followSupertypes fun _ _ => rfl, fun d hd => ?_, fun e he => ?_,
    fun hacyclic => ⟨?_, fun others hperm d => ⟨?_, ?_⟩⟩⟩
  · obtain ⟨e, he, hrel⟩ := hsettled.exists_mem_after hd
    exact ⟨e, (hshown e).mpr he, hrel⟩
  · exact hsettled.exists_mem_before ((hshown e).mp he)
  · obtain ⟨below, hbelow⟩ := hacyclic.exists_isPreorder fun _ => directBases_eq_nil
    refine ⟨below, hbelow, fun d hd e he hname => ?_⟩
    obtain ⟨d', hd', hrel⟩ := hsettled.exists_mem_before ((hshown e).mp he)
    have hsame : d' = d :=
      List.inj_on_of_nodup_map hnames hd' hd (hrel.name_eq.symm.trans hname)
    exact hsame ▸ hrel.full.inOrder below hbelow
  · have hparsed := parsed_perm hperm
    have hnames' := (hparsed.map Declaration.name).nodup_iff.mp hnames
    refine fun hd => shown_subset_of_perm hperm.symm hnames' ?_ hd
    rw [directBases_perm hparsed hnames]
    exact hacyclic
  · exact fun hd => shown_subset_of_perm hperm hnames hacyclic hd

/-- Two modules with a class that inherits from another in two ways, once in each module, and a
module whose classes inherit from each other and from themselves. -/
def diamond : List DeclaringModule := [
  { name := "a", path := "a.py", marked := [.topLevel 0], syntaxError := none
    topLevel := [
      { name := some "a.Bottom", supertypes := ["a.Left", "b.Right"] },
      { name := some "a.Left", supertypes := ["b.Top"] }] },
  { name := "b", path := "b.py", marked := [], syntaxError := none
    topLevel := [
      { name := some "b.Right", supertypes := ["b.Top", "abc.ABC"] },
      { name := some "b.Top", definesInit := true, hasNoargConstructor := false }] }]

@[inherit_doc diamond]
def knot : DeclaringModule :=
  { name := "c", path := "c.py", marked := [.topLevel 1], syntaxError := none
    topLevel := [
      { name := some "c.One", supertypes := ["c.Other", "c.One", "d.Far"] },
      { name := some "c.Other", supertypes := ["c.One"] }] }

/-- A cycle does not keep the classes in it from being settled, and where there is none two modules
can change places. -/
theorem ofModules_settles_of_knot_and_diamond :
    ((parsed [knot]).map Declaration.name).Nodup ∧
      (∀ before ∈ parsed [knot], ∃ after ∈ (Round.ofModules [knot]).shown,
        Settled (parsed [knot]) before after) ∧
      ((parsed diamond).map Declaration.name).Nodup ∧ Acyclic (directBases (parsed diamond)) ∧
      ∀ d, d ∈ (Round.ofModules diamond.reverse).shown ↔ d ∈ (Round.ofModules diamond).shown := by
  have hknot : ((parsed [knot]).map Declaration.name).Nodup := by decide
  have hdiamond : ((parsed diamond).map Declaration.name).Nodup := by decide
  have hacyclic : Acyclic (directBases (parsed diamond)) :=
    acyclic_of_rank (fun name => if name = "a.Bottom" then 3 else if name = "a.Left" then 2
      else if name = "b.Right" then 2 else if name = "b.Top" then 1 else 0) (by decide)
  obtain ⟨-, hsettled, -, -⟩ := ofModules_settles hknot
  obtain ⟨-, -, -, hordered⟩ := ofModules_settles hdiamond
  exact ⟨hknot, hsettled, hdiamond, hacyclic,
    (hordered hacyclic).2 diamond.reverse (List.reverse_perm diamond).symm⟩

end ProviderRegistry.Source
