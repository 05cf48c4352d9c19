import Mathlib.Data.List.Induction
import Mathlib.Order.Bounds.Basic
import ProviderRegistry.Proofs.Registry.View

/-!
# Turns of a registry

A **turn** is what a round does to a registry: it strips some providers from every name, and then
registers some providers under some names. After any number of turns a provider is listed under a
name just when the last turn that registered it there is not before the last turn that stripped it,
or when no turn touched it and the storage listed it from the start (`holds_iff_isGreatest`). The
same in another form: the turns add some providers of their own, and keep of the others those that
they never strip (`holds_iff`); going through the same turns twice is therefore the same as once
(`holds_holds`).
-/

namespace ProviderRegistry

/-- What a round does to a registry: the providers that it strips from every name, and the names
and providers that it registers afterwards. -/
structure Turn where
  stripped : List String
  registered : List (String × String)

namespace Turn

/-- Does a name list a provider after some turns, given whether it did before? -/
def Holds (turns : List Turn) (name provider : String) (before : Prop) : Prop :=
  turns.foldl (fun held turn =>
    (name, provider) ∈ turn.registered ∨ (held ∧ provider ∉ turn.stripped)) before

variable {turns : List Turn} {turn : Turn} {name provider : String} {before : Prop}

@[simp]
theorem holds_nil : Holds [] name provider before ↔ before := Iff.rfl

/-- After one more turn a name holds what the turn registers, and what it held before unless the
turn strips it. -/
theorem holds_concat :
    Holds (turns ++ [turn]) name provider before ↔
      (name, provider) ∈ turn.registered ∨
        (Holds turns name provider before ∧ provider ∉ turn.stripped) := by
  rw [Holds, List.foldl_append, List.foldl_cons, List.foldl_nil, ← Holds]

/-- What the turns register stands whatever was there before; of that, they keep what no turn
strips. -/
theorem holds_iff :
    Holds turns name provider before ↔
      Holds turns name provider False ∨ (before ∧ ∀ turn ∈ turns, provider ∉ turn.stripped) := by
  induction turns using List.reverseRecOn with
  | nil => simp
  | append_singleton turns turn ih =>
    have hkept : (∀ t ∈ turns ++ [turn], provider ∉ t.stripped) ↔
        (∀ t ∈ turns, provider ∉ t.stripped) ∧ provider ∉ turn.stripped := by
      simp [or_imp, forall_and]
    rw [holds_concat, holds_concat, ih, hkept, or_and_right, or_assoc, and_assoc]

/-- **Going through the same turns again changes nothing.** -/
theorem holds_holds :
    Holds turns name provider (Holds turns name provider before) ↔
      Holds turns name provider before := by
  rw [holds_iff, @holds_iff turns name provider before]
  constructor
  · rintro (h | ⟨h | h, hkept⟩)
    · exact Or.inl h
    · exact Or.inl h
    · exact Or.inr h
  · rintro (h | ⟨h, hkept⟩)
    · exact Or.inl h
    · exact Or.inr ⟨Or.inr ⟨h, hkept⟩, hkept⟩

/-- What turns make of less is less. -/
theorem holds_mono {after : Prop} (h : before → after) (hheld : Holds turns name provider before) :
    Holds turns name provider after := by
  rw [holds_iff] at hheld ⊢
  exact hheld.imp_right (And.imp_left h)

/-- What is listed after some turns was registered by one of them or listed before. -/
theorem exists_registered_or_of_holds (h : Holds turns name provider before) :
    (∃ turn ∈ turns, (name, provider) ∈ turn.registered) ∨ before := by
  induction turns using List.reverseRecOn with
  | nil => exact Or.inr h
  | append_singleton turns turn ih =>
    rcases holds_concat.mp h with hlast | ⟨hearlier, -⟩
    · exact Or.inl ⟨turn, by simp, hlast⟩
    · refine (ih hearlier).imp_left ?_
      rintro ⟨t, ht, hpair⟩
      exact ⟨t, List.mem_append_left _ ht, hpair⟩

end Turn

/-! ### The last round that did something -/

section RoundsWith

variable {α β : Type} {p : α → Prop} {rounds : List α} {round : α} {k : ℕ}

/-- The positions of the rounds with a property. -/
def roundsWith (p : α → Prop) (rounds : List α) : Set ℕ :=
  {k | ∃ round, rounds[k]? = some round ∧ p round}

theorem roundsWith_map (f : α → β) (p : β → Prop) (rounds : List α) :
    roundsWith p (rounds.map f) = roundsWith (fun round => p (f round)) rounds := by
  ext k
  simp [roundsWith, List.getElem?_map]

theorem roundsWith_nil : roundsWith p [] = ∅ := by
  ext k
  simp [roundsWith]

/-- A counted round is one of the rounds. -/
theorem lt_length_of_mem_roundsWith (h : k ∈ roundsWith p rounds) : k < rounds.length := by
  obtain ⟨round, hround, -⟩ := h
  exact (List.getElem?_eq_some_iff.mp hround).1

/-- One more round is counted if the property holds of it. -/
theorem mem_roundsWith_concat :
    k ∈ roundsWith p (rounds ++ [round]) ↔
      k ∈ roundsWith p rounds ∨ (k = rounds.length ∧ p round) := by
  rcases lt_trichotomy k rounds.length with h | h | h
  · have hne : k ≠ rounds.length := h.ne
    simp [roundsWith, List.getElem?_append_left h, hne]
  · subst h
    simp [roundsWith]
  · have hout : (rounds ++ [round])[k]? = none := by
      rw [List.getElem?_eq_none]
      simp only [List.length_append, List.length_singleton]
      omega
    have hout' : rounds[k]? = none := List.getElem?_eq_none h.le
    simp [roundsWith, hout, hout', h.ne']

theorem roundsWith_concat_of_not (h : ¬ p round) :
    roundsWith p (rounds ++ [round]) = roundsWith p rounds := by
  ext k
  rw [mem_roundsWith_concat]
  exact or_iff_left fun hk => h hk.2

/-- A round that comes last is the last with a property that it has. -/
theorem isGreatest_roundsWith_concat (h : p round) :
    IsGreatest (roundsWith p (rounds ++ [round])) rounds.length := by
  refine ⟨mem_roundsWith_concat.mpr (Or.inr ⟨rfl, h⟩), fun k hk => ?_⟩
  have hlt := lt_length_of_mem_roundsWith hk
  rw [List.length_append, List.length_singleton] at hlt
  omega

end RoundsWith

namespace Turn

variable {turns : List Turn} {name provider : String} {before : Prop}

/-- The turns that register a provider under a name. -/
def registering (turns : List Turn) (name provider : String) : Set ℕ :=
  roundsWith (fun turn => (name, provider) ∈ turn.registered) turns

/-- The turns that strip a provider. -/
def stripping (turns : List Turn) (provider : String) : Set ℕ :=
  roundsWith (fun turn => provider ∈ turn.stripped) turns

/-- **The last turn decides.** A name lists a provider just when the last turn that registered it
there is not before the last one that stripped it, or when no turn did either and the name listed
it before. -/
theorem holds_iff_isGreatest :
    Holds turns name provider before ↔
      (∃ j, IsGreatest (registering turns name provider) j ∧
        ∀ i, IsGreatest (stripping turns provider) i → i ≤ j) ∨
      (registering turns name provider = ∅ ∧ stripping turns provider = ∅ ∧ before) := by
  induction turns using List.reverseRecOn with
  | nil =>
    have hnone : ¬ ∃ j, IsGreatest (registering [] name provider) j := by
      rintro ⟨j, hj, -⟩
      simp [registering, roundsWith_nil] at hj
    simp only [holds_nil]
    constructor
    · intro h
      exact Or.inr ⟨roundsWith_nil, roundsWith_nil, h⟩
    · rintro (⟨j, hj, -⟩ | ⟨-, -, h⟩)
      · exact absurd ⟨j, hj⟩ hnone
      · exact h
  | append_singleton turns turn ih =>
    rw [holds_concat]
    by_cases hreg : (name, provider) ∈ turn.registered
    · -- registered in the last turn, which no turn comes after
      refine iff_of_true (Or.inl hreg)
        (Or.inl ⟨turns.length, isGreatest_roundsWith_concat hreg, ?_⟩)
      intro i hi
      have hlt := lt_length_of_mem_roundsWith hi.1
      rw [List.length_append, List.length_singleton] at hlt
      omega
    · have hsame : registering (turns ++ [turn]) name provider = registering turns name provider :=
        roundsWith_concat_of_not hreg
      by_cases hstrip : provider ∈ turn.stripped
      · -- stripped in the last turn, which is after every turn that registered it
        have hlast : IsGreatest (stripping (turns ++ [turn]) provider) turns.length :=
          isGreatest_roundsWith_concat hstrip
        refine iff_of_false (by simp [hreg, hstrip]) ?_
        rw [hsame]
        rintro (⟨j, hj, hle⟩ | ⟨-, hempty, -⟩)
        · have hlt := lt_length_of_mem_roundsWith hj.1
          have := hle turns.length hlast
          omega
        · exact Set.notMem_empty turns.length (hempty ▸ hlast.1)
      · have hsame' : stripping (turns ++ [turn]) provider = stripping turns provider :=
          roundsWith_concat_of_not hstrip
        rw [hsame, hsame', ← ih]
        simp [hreg, hstrip]

end Turn

/-! ### Registries that go through turns -/

namespace Registry

variable {text : String → Option String} {registry : Registry}

/-- The registry after a turn. -/
def turn (text : String → Option String) (registry : Registry) (turn : Turn) : Registry :=
  turn.registered.foldl (fun registry pair => registry.register text pair.1 pair.2)
    (turn.stripped.foldl remove registry)

/-- The registry that some names were asked for at the start, and that remembers their entries. -/
def opened (text : String → Option String) (names : List String) : Registry :=
  let loaded := names.foldl (demand text) empty
  { loaded with snapshot := some loaded.entries }

/-- The registry after some turns. -/
def after (text : String → Option String) (names : List String) (turns : List Turn) : Registry :=
  turns.foldl (turn text) (opened text names)

/-- Nothing is remembered anew by what keeps the memory at each step. -/
private theorem snapshot_foldl {α : Type} {f : Registry → α → Registry}
    (h : ∀ registry a, (f registry a).snapshot = registry.snapshot) (as : List α)
    (registry : Registry) : (as.foldl f registry).snapshot = registry.snapshot := by
  induction as generalizing registry with
  | nil => rfl
  | cons a as ih => rw [List.foldl_cons, ih, h]

/-- A turn does not touch what was remembered. -/
@[simp]
theorem snapshot_turn (t : Turn) : (registry.turn text t).snapshot = registry.snapshot := by
  rw [turn, snapshot_foldl (fun _ _ => snapshot_register _ _),
    snapshot_foldl (f := remove) fun _ _ => snapshot_remove _]

theorem names_foldl_remove (providers : List String) (registry : Registry) :
    (providers.foldl remove registry).names = registry.names := by
  induction providers generalizing registry with
  | nil => rfl
  | cons p ps ih => rw [List.foldl_cons, ih, names_remove]

private theorem mem_names_foldl_register {pairs : List (String × String)} {name : String}
    {registry : Registry} :
    name ∈ (pairs.foldl (fun registry pair => registry.register text pair.1 pair.2)
        registry).names ↔
      name ∈ registry.names ∨ ∃ provider, (name, provider) ∈ pairs := by
  induction pairs generalizing registry with
  | nil => simp
  | cons pair pairs ih =>
    obtain ⟨target, p⟩ := pair
    rw [List.foldl_cons, ih, mem_names_register, or_assoc]
    refine or_congr_right ⟨?_, ?_⟩
    · rintro (rfl | ⟨q, hq⟩)
      · exact ⟨p, List.mem_cons_self⟩
      · exact ⟨q, List.mem_cons_of_mem _ hq⟩
    · rintro ⟨q, hq⟩
      rcases List.mem_cons.mp hq with h | h
      · exact Or.inl (congrArg Prod.fst h)
      · exact Or.inr ⟨q, h⟩

/-- A turn brings the names that it registers something under. -/
theorem mem_names_turn {t : Turn} {name : String} :
    name ∈ (registry.turn text t).names ↔
      name ∈ registry.names ∨ ∃ provider, (name, provider) ∈ t.registered := by
  rw [turn, mem_names_foldl_register, names_foldl_remove]

private theorem mem_entryOf_foldl_remove {providers : List String} {name held : String}
    {registry : Registry} :
    held ∈ ((providers.foldl remove registry).entryOf text name).providers ↔
      held ∈ (registry.entryOf text name).providers ∧ held ∉ providers := by
  induction providers generalizing registry with
  | nil => simp
  | cons p ps ih =>
    rw [List.foldl_cons, ih, entryOf_remove, Entry.providers_erase, ProviderSet.mem_erase,
      List.mem_cons, not_or, and_assoc]

private theorem mem_entryOf_foldl_register {pairs : List (String × String)} {name held : String}
    {registry : Registry} :
    held ∈ ((pairs.foldl (fun registry pair => registry.register text pair.1 pair.2)
        registry).entryOf text name).providers ↔
      (name, held) ∈ pairs ∨ held ∈ (registry.entryOf text name).providers := by
  induction pairs generalizing registry with
  | nil => simp
  | cons pair pairs ih =>
    rw [List.foldl_cons, ih, mem_entryOf_register, List.mem_cons, or_left_comm, or_assoc]

/-- A name lists what a turn registers under it, and what it listed before and was not stripped. -/
theorem mem_entryOf_turn {t : Turn} {name held : String} :
    held ∈ ((registry.turn text t).entryOf text name).providers ↔
      (name, held) ∈ t.registered ∨
        (held ∈ (registry.entryOf text name).providers ∧ held ∉ t.stripped) := by
  rw [turn, mem_entryOf_foldl_register, mem_entryOf_foldl_remove]

/-- Turns ask for the names that something is registered under. -/
theorem mem_names_foldl_turn {turns : List Turn} {name : String} :
    name ∈ (turns.foldl (turn text) registry).names ↔
      name ∈ registry.names ∨ ∃ t ∈ turns, ∃ provider, (name, provider) ∈ t.registered := by
  induction turns using List.reverseRecOn with
  | nil => simp
  | append_singleton turns t ih =>
    rw [List.foldl_append, List.foldl_cons, List.foldl_nil, mem_names_turn, ih, or_assoc]
    simp [or_and_right, exists_or]

/-- What a name lists after some turns, given what it listed before them. -/
theorem mem_entryOf_foldl_turn {turns : List Turn} {name held : String} :
    held ∈ ((turns.foldl (turn text) registry).entryOf text name).providers ↔
      Turn.Holds turns name held (held ∈ (registry.entryOf text name).providers) := by
  induction turns using List.reverseRecOn with
  | nil => simp
  | append_singleton turns t ih =>
    rw [List.foldl_append, List.foldl_cons, List.foldl_nil, mem_entryOf_turn, ih,
      Turn.holds_concat]

/-! ### The start -/

private theorem entryOf_foldl_demand (names : List String) (name : String) (registry : Registry) :
    (names.foldl (demand text) registry).entryOf text name = registry.entryOf text name := by
  induction names generalizing registry with
  | nil => rfl
  | cons n names ih => rw [List.foldl_cons, ih, entryOf_demand]

private theorem mem_names_foldl_demand {names : List String} {name : String}
    {registry : Registry} :
    name ∈ (names.foldl (demand text) registry).names ↔ name ∈ registry.names ∨ name ∈ names := by
  induction names generalizing registry with
  | nil => simp
  | cons n names ih => rw [List.foldl_cons, ih, mem_names_demand, List.mem_cons, or_assoc]

/-- A session opens with the names of its storage. -/
@[simp]
theorem mem_names_opened {names : List String} {name : String} :
    name ∈ (opened text names).names ↔ name ∈ names := by
  have h : name ∈ (opened text names).names ↔ name ∈ empty.names ∨ name ∈ names :=
    mem_names_foldl_demand
  have hempty : name ∉ empty.names := by simp [empty, Registry.names]
  rw [h]
  exact or_iff_right hempty

/-- A registry that was opened shows what the storage lists. -/
@[simp]
theorem entryOf_opened (names : List String) (name : String) :
    (opened text names).entryOf text name = ⟨name, Listing.stored (text name)⟩ := by
  have h : (opened text names).entryOf text name = empty.entryOf text name :=
    entryOf_foldl_demand names name empty
  rw [h, entryOf_empty]

/-! ### After some turns -/

variable {names : List String} {turns : List Turn}

/-- **The names** are those that the storage listed, and those that something was registered
under. -/
theorem mem_names_after {name : String} :
    name ∈ (after text names turns).names ↔
      name ∈ names ∨ ∃ t ∈ turns, ∃ provider, (name, provider) ∈ t.registered := by
  rw [after, mem_names_foldl_turn, mem_names_opened]

/-- **The providers** of a name follow from the turns and from what the storage listed. -/
theorem mem_entryOf_after {name held : String} :
    held ∈ ((after text names turns).entryOf text name).providers ↔
      Turn.Holds turns name held (held ∈ Listing.stored (text name)) := by
  rw [after, mem_entryOf_foldl_turn, entryOf_opened]

/-- What was remembered when a session opened is what it opened with. -/
theorem snapshot_after :
    (after text names turns).snapshot = some (opened text names).entries := by
  rw [after, snapshot_foldl fun _ _ => snapshot_turn _]
  rfl

/-- **Nothing changed** just when every name comes from the storage and lists what it listed
there. -/
theorem isModified_after_eq_false_iff :
    (after text names turns).isModified = false ↔
      ∀ name ∈ (after text names turns).names, name ∈ names ∧
        ((after text names turns).entryOf text name).providers = Listing.stored (text name) := by
  have hsnapshot : (after text names turns).snapshot.getD [] = (opened text names).entries := by
    rw [snapshot_after, Option.getD_some]
  rw [isModified_eq_false_iff (by rw [hsnapshot]; exact (opened text names).distinct), hsnapshot]
  constructor
  · -- an entry that was remembered shows what the storage listed
    intro h name hname
    have hentry : (after text names turns).entryOf text name ∈ (opened text names).entries :=
      (h _).mpr (entryOf_mem text hname)
    obtain ⟨hopened, heq⟩ := (mem_entries_iff text).mp hentry
    rw [name_entryOf, mem_names_opened] at hopened
    rw [name_entryOf, entryOf_opened] at heq
    exact ⟨hopened, by rw [← heq]⟩
  · intro h entry
    have hentry : ∀ name ∈ names, (after text names turns).entryOf text name =
        ⟨name, Listing.stored (text name)⟩ := by
      intro name hname
      have hproviders := (h name (mem_names_after.mpr (Or.inl hname))).2
      have hself : (after text names turns).entryOf text name =
          ⟨((after text names turns).entryOf text name).name,
            ((after text names turns).entryOf text name).providers⟩ := rfl
      rw [hself, hproviders, name_entryOf]
    rw [mem_entries_iff text, mem_entries_iff text, mem_names_opened, entryOf_opened]
    constructor
    · rintro ⟨hname, heq⟩
      exact ⟨mem_names_after.mpr (Or.inl hname), by rw [hentry _ hname, heq]⟩
    · rintro ⟨hname, heq⟩
      have hlisted := (h _ hname).1
      exact ⟨hlisted, by rw [← hentry _ hlisted, heq]⟩

end Registry

end ProviderRegistry
