import Mathlib.Data.List.Perm.Basic
import Mathlib.Data.Option.Basic
import ProviderRegistry.Proofs.FileTree
import ProviderRegistry.Proofs.Source.Marked

/-!
# Markers in the source and at run time

A class may carry a stack of markers. What they are given is told twice: from the source, by
reading the decorators from the first to the last, and by the class itself, once the decorators
have been called and put on it from the last to the first (`recordedBy`). The two tell the same for
a marker just when no target of it is given by name, which the source is not read for, and the uses
of the marker read the same in both directions (`targets_eq_recorded_iff`). A stack that uses a
marker twice, with two targets, is enough to tell them apart (`recorded_otherwise_than_read`).
-/

namespace ProviderRegistry

/-! ### Calling a marker -/

namespace Marker

variable {marker marker' : Marker} {target target' : Option String}
  {named : List (String × String)}

theorem name_injective : Function.Injective name := by
  intro marker marker'
  cases marker <;> cases marker' <;> decide

/-- An argument that is given by name is the only one. -/
theorem bindNamed_eq_ok (h : marker.bindNamed target named = .ok target') :
    (named = [] ∧ target' = target) ∨
      ∃ name given, named = [(name, given)] ∧ marker.parameter? = some name ∧ target = none ∧
        target' = some given := by
  match named with
  | [] => exact Or.inl ⟨rfl, (Except.ok.inj h).symm⟩
  | (name, given) :: rest =>
    rw [bindNamed] at h
    split at h
    · cases h
    · rename_i hname
      split at h
      · cases h
      · rename_i htarget
        obtain rfl : target = none := by simpa using htarget
        match rest with
        | [] => exact Or.inr ⟨name, given, rfl, not_not.mp hname, rfl, (Except.ok.inj h).symm⟩
        | (other, _) :: _ =>
          -- the parameter has its target now
          rw [bindNamed] at h
          split at h
          · cases h
          · cases h

/-- **The targets of a call** are what it is given, by position or by name. -/
theorem targets_eq_ok {arguments targets : List String}
    (h : marker.targets arguments named = .ok targets) :
    targets = arguments ++ named.map Prod.snd := by
  obtain ⟨target, hbind, h⟩ := bind_eq_ok_iff.mp h
  rcases bindNamed_eq_ok hbind with ⟨rfl, rfl⟩ | ⟨name, given, rfl, hname, harguments, rfl⟩
  · rw [List.map_nil, List.append_nil]
    cases marker with
    | index =>
      match arguments with
      | [] => cases h
      | [argument] => exact (Except.ok.inj h).symm
      | _ :: _ :: _ => cases h
    | provider | typeProvider =>
      match arguments with
      | [] => cases h
      | _ :: _ => exact (Except.ok.inj h).symm
  · obtain rfl := List.head?_eq_none_iff.mp harguments
    cases marker with
    | index => exact (Except.ok.inj h).symm
    | provider | typeProvider => cases hname

end Marker

namespace Recorded

/-- A marker adds to its own targets alone. -/
theorem targets_add (recorded : Recorded) (marker marker' : Marker) (targets : List String) :
    (recorded.add marker targets).targets marker' =
      recorded.targets marker' ++ if marker = marker' then targets else [] := by
  rw [add, Recorded.targets, Recorded.targets, List.filter_append, List.map_append,
    List.filter_map, List.map_map]
  congr 1
  split
  · rename_i heq
    simp [Function.comp_def, heq]
  · rename_i hne
    simp [Function.comp_def, hne]

end Recorded

/-! ### A stack of markers -/

/-- One **use** of a marker: the targets that it is given by position, and those that it is given
by name. -/
structure MarkerUse where
  marker : Marker
  arguments : List String
  named : List (String × String)

namespace MarkerUse

/-- All targets that a use gives. -/
def given (use : MarkerUse) : List String := use.arguments ++ use.named.map Prod.snd

/-- A use is **accepted** when the call of the marker does not fail. -/
def IsAccepted (use : MarkerUse) : Prop :=
  ∃ targets, use.marker.targets use.arguments use.named = .ok targets

/-- The uses of one marker. -/
def of (marker : Marker) (uses : List MarkerUse) : List MarkerUse :=
  uses.filter fun use => use.marker = marker

end MarkerUse

/-- What a class has recorded with a stack of markers on it. They are called from the first to the
last, and then put on the class from the last to the first. -/
def recordedBy : List MarkerUse → Except Marker.Misuse Recorded
  | [] => .ok []
  | use :: below => do
    let targets ← use.marker.targets use.arguments use.named
    return (← recordedBy below).add use.marker targets

variable {uses : List MarkerUse} {recorded : Recorded}

/-- A stack of accepted uses can be put on a class. -/
theorem exists_recordedBy (h : ∀ use ∈ uses, use.IsAccepted) :
    ∃ recorded, recordedBy uses = .ok recorded := by
  induction uses with
  | nil => exact ⟨[], rfl⟩
  | cons use below ih =>
    obtain ⟨⟨targets, htargets⟩, hbelow⟩ := List.forall_mem_cons.mp h
    obtain ⟨recorded, hrecorded⟩ := ih hbelow
    exact ⟨recorded.add use.marker targets, by rw [recordedBy, htargets, hrecorded]; rfl⟩

/-- **What is recorded** of a marker are all targets of its uses, from the last use to the
first. -/
theorem targets_recordedBy (h : recordedBy uses = .ok recorded) (marker : Marker) :
    recorded.targets marker = (MarkerUse.of marker uses).reverse.flatMap MarkerUse.given := by
  induction uses generalizing recorded with
  | nil =>
    obtain rfl := Except.ok.inj h
    rfl
  | cons use below ih =>
    obtain ⟨targets, htargets, h⟩ := bind_eq_ok_iff.mp h
    obtain ⟨before, hbelow, h⟩ := bind_eq_ok_iff.mp h
    obtain rfl := Except.ok.inj h
    rw [Recorded.targets_add, ih hbelow, Marker.targets_eq_ok htargets, MarkerUse.of,
      MarkerUse.of, List.filter_cons]
    split
    · rename_i heq
      rw [if_pos (by simpa using heq), List.reverse_cons, List.flatMap_append,
        List.flatMap_singleton]
      rfl
    · rename_i hne
      rw [if_neg (by simpa using hne), List.append_nil]

namespace Source

/-! ### A stack of markers in a source -/

/-- A decorator **writes** a use of a marker: it calls a name that ends in that of the marker, and
what it is given are names that stand for the targets. What a name stands for is taken from the
scope, for the source and at run time alike, and the scope has one meaning for it in the whole
module. So names that a module binds twice at its top level are outside: a class between the two
bindings is given the target of the first. -/
def Writes (scope : Scope) (use : MarkerUse) : Expr → Prop
  | .call _ function arguments keywords =>
    (scope.resolve? function).map simpleName = some use.marker.name ∧
      arguments.map scope.resolve? = use.arguments.map some ∧
      keywords.map (fun keyword => (keyword.1, scope.resolve? keyword.2)) =
        use.named.map fun target => (some target.1, some target.2)
  | _ => False

variable {scope : Scope}

theorem ofName?_name (marker : Marker) : Marker.ofName? marker.name = some marker := by
  cases marker <;> rfl

/-- What is read of a use are the targets that it is given by position. -/
theorem Writes.markerCall? {e : Expr} {use : MarkerUse} (h : Writes scope use e) :
    markerCall? scope e = some (use.marker, use.arguments) := by
  cases e with
  | call line function arguments keywords =>
    obtain ⟨hname, harguments, -⟩ := h
    obtain ⟨name, hfunction, hsimple⟩ := Option.map_eq_some_iff.mp hname
    have htargets : arguments.filterMap scope.resolve? = use.arguments := by
      have hsome := congrArg (List.filterMap id) harguments
      simpa [List.filterMap_map] using hsome
    simp [Source.markerCall?, hfunction, hsimple, ofName?_name, htargets]
  | _ => exact h.elim

private theorem lookup_map_append (markers : List (String × List (Option String)))
    (key key' : String) (more : List (Option String)) :
    (markers.map fun entry => if entry.1 == key then (entry.1, entry.2 ++ more) else entry).lookup
        key' =
      (markers.lookup key').map fun found => if key' = key then found ++ more else found := by
  induction markers with
  | nil => rfl
  | cons entry markers ih =>
    obtain ⟨first, found⟩ := entry
    rw [List.map_cons, List.lookup_cons, List.lookup_cons]
    by_cases hfirst : first = key
    · subst hfirst
      by_cases hkey' : key' = first
      · simp [hkey']
      · simpa [beq_false_of_ne hkey'] using ih
    · by_cases hkey' : key' = first
      · simp [hkey', hfirst]
      · simpa [beq_false_of_ne hkey', hfirst] using ih

/-- A use of a marker adds to the targets of this marker alone. -/
theorem lookup_addTargets (markers : List (String × List (Option String)))
    (marker marker' : Marker) (targets : List String) :
    ((addTargets markers marker targets).lookup marker'.name).getD [] =
      (markers.lookup marker'.name).getD [] ++
        if marker = marker' then targets.map some else [] := by
  have hname : marker'.name = marker.name ↔ marker = marker' :=
    ⟨fun h => (Marker.name_injective h).symm, fun h => h ▸ rfl⟩
  rw [addTargets]
  split
  -- the marker has targets already, and the others are left as they are
  · rename_i hany
    rw [lookup_map_append]
    simp only [hname]
    cases hlookup : markers.lookup marker'.name with
    | some found => split <;> simp
    | none =>
      obtain ⟨entry, hentry, hkey⟩ := List.any_eq_true.mp hany
      have hne := List.lookup_eq_none_iff.mp hlookup entry hentry
      rw [eq_of_beq hkey, bne_iff_ne, ne_eq, hname] at hne
      simp [hne]
  -- the marker is new, and goes to the end
  · rename_i hnone
    rw [List.lookup_append, List.lookup_cons, List.lookup_nil]
    by_cases heq : marker = marker'
    · have hlookup : markers.lookup marker'.name = none := by
        refine List.lookup_eq_none_iff.mpr fun entry hentry => bne_iff_ne.mpr fun hkey => hnone ?_
        exact List.any_eq_true.mpr ⟨entry, hentry, by rw [← hkey, heq, beq_self_eq_true]⟩
      rw [hlookup, heq, beq_self_eq_true]
      simp
    · have hne : (marker'.name == marker.name) = false := beq_false_of_ne (mt hname.mp heq)
      rw [hne, if_neg heq, List.append_nil, Option.or_none]

/-- Uses add one after the other. -/
theorem lookup_foldl_addTargets (uses : List MarkerUse)
    (markers : List (String × List (Option String))) (marker : Marker) :
    (((uses.map fun use => (use.marker, use.arguments)).foldl
        (fun markers call => addTargets markers call.1 call.2) markers).lookup
          marker.name).getD [] =
      (markers.lookup marker.name).getD [] ++
        ((MarkerUse.of marker uses).flatMap MarkerUse.arguments).map some := by
  induction uses generalizing markers with
  | nil => exact (List.append_nil _).symm
  | cons use uses ih =>
    rw [List.map_cons, List.foldl_cons, ih, lookup_addTargets, MarkerUse.of, MarkerUse.of,
      List.filter_cons, List.append_assoc]
    split
    · rename_i heq
      rw [if_pos (by simpa using heq), List.flatMap_cons, List.map_append]
    · rename_i hne
      rw [if_neg (by simpa using hne), List.nil_append]

/-- **What is read** of a marker are the targets that its uses give by position, from the first use
to the last. -/
theorem lookup_markersOf {decorators : List Expr}
    (hwrites : List.Forall₂ (Writes scope) uses decorators) (marker : Marker) :
    ((markersOf scope decorators).lookup marker.name).getD [] =
      ((MarkerUse.of marker uses).flatMap MarkerUse.arguments).map some := by
  have hcalls : decorators.filterMap (markerCall? scope) =
      uses.map fun use => (use.marker, use.arguments) := by
    induction hwrites with
    | nil => rfl
    | cons hfirst _ ih => rw [List.filterMap_cons_some hfirst.markerCall?, ih, List.map_cons]
  rw [markersOf, hcalls]
  exact lookup_foldl_addTargets uses [] marker

/-! ### The two compared -/

theorem length_flatMap_given (uses : List MarkerUse) :
    (uses.flatMap MarkerUse.given).length =
      (uses.flatMap MarkerUse.arguments).length + (uses.flatMap MarkerUse.named).length := by
  induction uses with
  | nil => rfl
  | cons use uses ih =>
    simp only [List.flatMap_cons, List.length_append, ih, MarkerUse.given, List.length_map]
    omega

theorem flatMap_given_of_positional (h : ∀ use ∈ uses, use.named = []) :
    uses.flatMap MarkerUse.given = uses.flatMap MarkerUse.arguments := by
  refine List.flatMap_congr fun use huse => ?_
  rw [MarkerUse.given, h use huse, List.map_nil, List.append_nil]

/-- A target that is given by name is missed, and nothing makes up for it. -/
theorem arguments_perm_given_iff (uses : List MarkerUse) :
    (uses.flatMap MarkerUse.arguments).Perm (uses.reverse.flatMap MarkerUse.given) ↔
      ∀ use ∈ uses, use.named = [] := by
  have hreverse : (uses.reverse.flatMap MarkerUse.given).Perm (uses.flatMap MarkerUse.given) :=
    (List.reverse_perm uses).flatMap_right _
  constructor
  · intro h
    have hlength := (h.trans hreverse).length_eq
    rw [length_flatMap_given, Nat.left_eq_add, List.length_eq_zero_iff] at hlength
    exact List.flatMap_eq_nil_iff.mp hlength
  · intro h
    rw [← flatMap_given_of_positional h]
    exact hreverse.symm

/-- **Source and class compared.** A class that carries a stack of accepted uses of markers has
recorded all their targets, those of one marker from the last use to the first. What is read of it
are the targets that are given by position, from the first use to the last. Both have the same
targets just when none is given by name, and have them in the same order just when the uses
moreover read the same in both directions. -/
theorem targets_eq_recorded_iff {path : String} {around : List Stmt} {st : Stmt} {d : Declaration}
    (hd : DescribesClass scope path around st d)
    (hwrites : List.Forall₂ (Writes scope) uses st.decorators)
    (haccepted : ∀ use ∈ uses, use.IsAccepted) :
    ∃ recorded, recordedBy uses = .ok recorded ∧ ∀ marker : Marker,
      let ofMarker := MarkerUse.of marker uses
      d.targets marker.name = (ofMarker.flatMap MarkerUse.arguments).map some ∧
        recorded.targets marker = ofMarker.reverse.flatMap MarkerUse.given ∧
        ((d.targets marker.name).Perm ((recorded.targets marker).map some) ↔
          ∀ use ∈ ofMarker, use.named = []) ∧
        (d.targets marker.name = (recorded.targets marker).map some ↔
          (∀ use ∈ ofMarker, use.named = []) ∧
            ofMarker.flatMap MarkerUse.arguments =
              ofMarker.reverse.flatMap MarkerUse.arguments) := by
  obtain ⟨recorded, hrecorded⟩ := exists_recordedBy haccepted
  refine ⟨recorded, hrecorded, fun marker => ?_⟩
  intro ofMarker
  have hread : d.targets marker.name = (ofMarker.flatMap MarkerUse.arguments).map some := by
    rw [Declaration.targets, hd.markers]
    exact lookup_markersOf hwrites marker
  have hrun : recorded.targets marker = ofMarker.reverse.flatMap MarkerUse.given :=
    targets_recordedBy hrecorded marker
  have hreversed : (∀ use ∈ ofMarker, use.named = []) →
      ofMarker.reverse.flatMap MarkerUse.given = ofMarker.reverse.flatMap MarkerUse.arguments :=
    fun h => flatMap_given_of_positional fun use huse => h use (List.mem_reverse.mp huse)
  have hsome : Function.Injective (some : String → Option String) := Option.some_injective String
  refine ⟨hread, hrun, ?_, ?_⟩
  · rw [hread, hrun, List.map_perm_map_iff hsome, arguments_perm_given_iff]
  · rw [hread, hrun, hsome.list_map.eq_iff]
    constructor
    · intro h
      have hnamed := (arguments_perm_given_iff ofMarker).mp (h ▸ List.Perm.refl _)
      exact ⟨hnamed, h.trans (hreversed hnamed)⟩
    · rintro ⟨hnamed, h⟩
      exact h.trans (hreversed hnamed).symm

/-- A module with a class that carries some decorators. -/
def decorated (decorators : List Expr) : List Stmt := [
  .importFrom 0 (some "markers") [⟨"provider_for", none⟩, ⟨"index_for", none⟩],
  .importFrom 0 (some "p") [⟨"A", none⟩, ⟨"B", none⟩],
  .classDef 5 "C" [] [] decorators [.other]]

/-- A call of a marker by its name. -/
def markerCall (line : ℕ) (marker : Marker) (arguments : List String)
    (named : List (String × String)) : Expr :=
  .call line (.name line marker.name) (arguments.map (Expr.name line))
    (named.map fun target => (some target.1, .name line target.2))

/-- Two different markers, one of which has two targets. -/
def mixedStack : List Expr :=
  [markerCall 3 .provider ["A", "B"] [], markerCall 4 .index ["A"] []]

@[inherit_doc mixedStack]
def mixedUses : List MarkerUse := [⟨.provider, ["p.A", "p.B"], []⟩, ⟨.index, ["p.A"], []⟩]

/-- A stack that uses each marker once, without names, is read as it is recorded. -/
theorem targets_eq_recorded_of_mixedStack :
    let scope : Scope := .ofBody "m" "" (decorated mixedStack)
    ∃ d, DescribesClass scope "m.py" [] (.classDef 5 "C" [] [] mixedStack [.other]) d ∧
      List.Forall₂ (Writes scope) mixedUses mixedStack ∧ (∀ use ∈ mixedUses, use.IsAccepted) ∧
      ∃ recorded, recordedBy mixedUses = .ok recorded ∧
        recorded.targets .provider = ["p.A", "p.B"] ∧
        ∀ marker : Marker, d.targets marker.name = (recorded.targets marker).map some := by
  intro scope
  obtain ⟨d, _, hd, -, -⟩ := List.forall₂_cons_left_iff.mp
    (DeclaringModule.finds_ofBody "m" "" "m.py" (decorated mixedStack)).topLevel
  have hwrites : List.Forall₂ (Writes scope) mixedUses mixedStack :=
    .cons ⟨by decide, by decide, rfl⟩ (.cons ⟨by decide, by decide, rfl⟩ .nil)
  have haccepted : ∀ use ∈ mixedUses, use.IsAccepted :=
    List.forall_mem_cons.mpr ⟨⟨_, rfl⟩, List.forall_mem_singleton.mpr ⟨_, rfl⟩⟩
  obtain ⟨recorded, hrecorded, hagree⟩ := targets_eq_recorded_iff hd hwrites haccepted
  refine ⟨d, hd, hwrites, haccepted, recorded, hrecorded, (hagree .provider).2.1, fun marker => ?_⟩
  refine (hagree marker).2.2.2.mpr ⟨?_, ?_⟩
  · cases marker <;> decide
  · cases marker <;> rfl

/-- One marker twice, and one that is given its target by name. -/
def twiceStack : List Expr :=
  [markerCall 2 .provider ["A"] [], markerCall 3 .provider ["B"] [],
    markerCall 4 .index [] [("indexed_type", "A")]]

@[inherit_doc twiceStack]
def twiceUses : List MarkerUse :=
  [⟨.provider, ["p.A"], []⟩, ⟨.provider, ["p.B"], []⟩, ⟨.index, [], [("indexed_type", "p.A")]⟩]

/-- **A class that recorded otherwise than is read of it**: the targets of the marker that is used
twice are in another order, and the target that is given by name is missed. -/
theorem recorded_otherwise_than_read :
    let scope : Scope := .ofBody "m" "" (decorated twiceStack)
    List.Forall₂ (Writes scope) twiceUses twiceStack ∧ (∀ use ∈ twiceUses, use.IsAccepted) ∧
      ((DeclaringModule.ofBody "m" "" "m.py" (decorated twiceStack)).topLevel.map fun d =>
        (d.name, d.targets "provider_for", d.targets "index_for")) =
        [(some "m.C", [some "p.A", some "p.B"], [])] ∧
      ∃ recorded, recordedBy twiceUses = .ok recorded ∧
        recorded.targets .provider = ["p.B", "p.A"] ∧ recorded.targets .index = ["p.A"] := by
  intro scope
  have hwrites : List.Forall₂ (Writes scope) twiceUses twiceStack :=
    .cons ⟨by decide, by decide, rfl⟩ (.cons ⟨by decide, by decide, rfl⟩
      (.cons ⟨by decide, rfl, by decide⟩ .nil))
  have haccepted : ∀ use ∈ twiceUses, use.IsAccepted :=
    List.forall_mem_cons.mpr ⟨⟨_, rfl⟩, List.forall_mem_cons.mpr ⟨⟨_, rfl⟩,
      List.forall_mem_singleton.mpr ⟨_, rfl⟩⟩⟩
  exact ⟨hwrites, haccepted, by decide, _, rfl, by decide, by decide⟩

end Source

end ProviderRegistry
