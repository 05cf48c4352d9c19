import ProviderRegistry.Proofs.Registry.Turns
import ProviderRegistry.Proofs.Workbench
import ProviderRegistry.Session

/-!
# What a round makes of its declarations

A **batch** is what a caller hands over for one round. What becomes of its declarations is decided
by the flavor alone, whatever the registry and the storage hold: `Batch.verdicts` are the
registrations and rejections in their order, and `Batch.turn` is what they do to a registry. So is
the fault that a batch comes to, if it does (`Batch.fault?`). A batch without a fault settles on
its turn (`settles_reconcile`), and its report is `Batch.report`; no fault comes of a batch in
which no name and no target is missing (`Batch.Complete.fault?_eq_none`).
-/

namespace ProviderRegistry

/-! ### Batches -/

/-- A declaration is **complete** for a flavor when it has a name, and none of the targets that it
asks for is missing. -/
def Declaration.Complete (flavor : Flavor) (d : Declaration) : Prop :=
  d.name ≠ none ∧ d.name ≠ some "" ∧ none ∉ flavor.targets d

instance (flavor : Flavor) (d : Declaration) : Decidable (d.Complete flavor) :=
  inferInstanceAs (Decidable (_ ∧ _ ∧ _))

theorem Declaration.Complete.exists_name {flavor : Flavor} {d : Declaration}
    (h : d.Complete flavor) : ∃ name, d.name = some name ∧ name ≠ "" := by
  obtain ⟨name, hname⟩ := Option.ne_none_iff_exists'.mp h.1
  exact ⟨name, hname, fun hempty => h.2.1 (by rw [hname, hempty])⟩

/-- What a caller hands over for a round: declarations, those of them that are to be registered
unless they are the marked ones, and whether the round is the last. -/
structure Batch where
  declarations : List Declaration
  annotated : Option (List Declaration) := none
  final : Bool := false

namespace Batch

/-- The batch of the last round of a session that has nothing more to declare. -/
def finish : Batch where
  declarations := []
  annotated := some []
  final := true

/-- The declarations that are to be registered. -/
def marked (flavor : Flavor) (batch : Batch) : List Declaration :=
  batch.annotated.getD (batch.declarations.filter (·.hasMarker flavor.marker.name))

/-- A batch is **complete** when all its declarations are. -/
def Complete (flavor : Flavor) (batch : Batch) : Prop :=
  ∀ d ∈ batch.declarations ++ batch.annotated.getD [], d.Complete flavor

instance (flavor : Flavor) (batch : Batch) : Decidable (batch.Complete flavor) :=
  inferInstanceAs (Decidable (∀ d ∈ _, Declaration.Complete flavor d))

/-- The last call names nothing, so nothing is missing in it. -/
theorem complete_finish (flavor : Flavor) : finish.Complete flavor := by
  simp [Complete, finish]

/-- In a complete batch every declaration has a name. -/
theorem Complete.declarations {flavor : Flavor} {batch : Batch} (h : batch.Complete flavor) :
    ∀ d ∈ batch.declarations, d.Complete flavor :=
  fun d hd => h d (List.mem_append_left _ hd)

/-- In a complete batch every marked declaration has a name. -/
theorem Complete.marked {flavor : Flavor} {batch : Batch} (h : batch.Complete flavor) :
    ∀ d ∈ batch.marked flavor, d.Complete flavor := by
  intro d hd
  rw [Batch.marked] at hd
  cases hannotated : batch.annotated with
  | none =>
    rw [hannotated, Option.getD_none] at hd
    exact h.declarations d (List.mem_of_mem_filter hd)
  | some annotated =>
    rw [hannotated, Option.getD_some] at hd
    refine h d (List.mem_append_right _ ?_)
    rwa [hannotated, Option.getD_some]

end Batch

/-! ### Verdicts -/

/-- The diagnostic of an objection to a declaration. -/
def Objection.diagnostic (objection : Objection) (d : Declaration) : Diagnostic where
  severity := .error
  message := (⟨simpleName (d.name.getD ""), objection⟩ : Rejection).message
  declaration := d.name.getD ""
  sourceFile := d.sourceFile
  line := d.line

namespace Flavor

/-- What becomes of a declaration under one of its targets. -/
def verdictUnder (flavor : Flavor) (d : Declaration) (target : Option String) : Verdict :=
  match flavor.targetObjection? d target with
  | some objection => .rejected (objection.diagnostic d)
  | none => .registered (target.getD "") (d.name.getD "")

/-- What becomes of a declaration. -/
def verdicts (flavor : Flavor) (d : Declaration) : List Verdict :=
  match flavor.objection? d with
  | some objection => [.rejected (objection.diagnostic d)]
  | none => (flavor.targets d).map (flavor.verdictUnder d)

/-- What is registered for a declaration is its name. -/
theorem snd_of_registration {flavor : Flavor} {d : Declaration} {verdict : Verdict}
    {pair : String × String} (h : verdict ∈ flavor.verdicts d)
    (hpair : verdict.registration? = some pair) : pair.2 = d.name.getD "" := by
  rw [verdicts] at h
  cases hobjection : flavor.objection? d with
  | some objection =>
    rw [hobjection] at h
    rw [List.mem_singleton.mp h] at hpair
    exact absurd hpair (Option.some_ne_none pair).symm
  | none =>
    rw [hobjection] at h
    obtain ⟨target, -, rfl⟩ := List.mem_map.mp h
    rw [verdictUnder] at hpair
    cases htarget : flavor.targetObjection? d target with
    | some objection =>
      rw [htarget] at hpair
      exact absurd hpair (Option.some_ne_none pair).symm
    | none =>
      rw [htarget] at hpair
      rw [← Option.some.inj hpair]

end Flavor

/-! ### Faults -/

namespace Flavor

/-- The fault that a declaration comes to under one of its targets, if it does: to be rejected it
must have a name, and to be registered a name that is not empty, and the target must be given. -/
def faultUnder? (flavor : Flavor) (d : Declaration) (target : Option String) : Option Fault :=
  match flavor.targetObjection? d target with
  | some _ => if d.name = none then some .nameless else none
  | none =>
    if target = none then some (.missing "name")
    else if d.name = none ∨ d.name = some "" then some .emptyProvider
    else none

/-- The fault that a declaration comes to, if it does: the first under one of its targets, unless
it is rejected before. -/
def fault? (flavor : Flavor) (d : Declaration) : Option Fault :=
  match flavor.objection? d with
  | some _ => if d.name = none then some .nameless else none
  | none => (flavor.targets d).findSome? (flavor.faultUnder? d)

/-- A target makes no fault just when the names are there that are asked for: the name of the
declaration, and beyond an objection that of the target. -/
theorem faultUnder?_eq_none_iff {flavor : Flavor} {d : Declaration} {target : Option String} :
    flavor.faultUnder? d target = none ↔ d.name ≠ none ∧
      (flavor.targetObjection? d target = none → target ≠ none ∧ d.name ≠ some "") := by
  rw [faultUnder?]
  cases flavor.targetObjection? d target with
  | some objection => simp
  | none =>
    cases target with
    | none => simp
    | some name => simp

end Flavor

/-- The fault that a round over the batch comes to, if it does: every declaration must have a name,
to be taken from the entries, and then the first fault of those that are to be registered
counts. -/
def Batch.fault? (flavor : Flavor) (batch : Batch) : Option Fault :=
  if none ∈ batch.declarations.map Declaration.name then some (.missing "provider")
  else (batch.marked flavor).findSome? flavor.fault?

/-- A batch makes no fault just when none of its declarations does. -/
theorem Batch.fault?_eq_none_iff {flavor : Flavor} {batch : Batch} :
    batch.fault? flavor = none ↔ (∀ d ∈ batch.declarations, d.name ≠ none) ∧
      ∀ d ∈ batch.marked flavor, flavor.fault? d = none := by
  rw [Batch.fault?]
  split
  · rename_i hmissing
    obtain ⟨d, hd, hname⟩ := List.mem_map.mp hmissing
    exact iff_of_false (Option.some_ne_none _) fun h => h.1 d hd hname
  · rename_i hnamed
    rw [List.findSome?_eq_none_iff]
    refine (and_iff_right fun d hd hname => hnamed ?_).symm
    exact List.mem_map.mpr ⟨d, hd, hname⟩

/-- No fault comes of a complete declaration. -/
theorem Declaration.Complete.fault?_eq_none {flavor : Flavor} {d : Declaration}
    (h : d.Complete flavor) : flavor.fault? d = none := by
  rw [Flavor.fault?]
  cases flavor.objection? d with
  | some objection => simp [h.1]
  | none =>
    refine List.findSome?_eq_none_iff.mpr fun target htarget => ?_
    refine Flavor.faultUnder?_eq_none_iff.mpr ⟨h.1, fun _ => ⟨?_, h.2.1⟩⟩
    rintro rfl
    exact h.2.2 htarget

/-- **No fault** comes of a complete batch. -/
theorem Batch.Complete.fault?_eq_none {flavor : Flavor} {batch : Batch}
    (h : batch.Complete flavor) : batch.fault? flavor = none :=
  Batch.fault?_eq_none_iff.mpr
    ⟨fun d hd => (h.declarations d hd).1, fun d hd => (h.marked d hd).fault?_eq_none⟩

/-- Nothing is reported of a flush. -/
structure Report.Unflushed (report : Report) : Prop where
  modified : report.modified = false
  written : report.written = []
  deleted : report.deleted = false
  failures : report.failures = []

namespace Batch

/-- What becomes of the declarations that are to be registered. -/
def verdicts (flavor : Flavor) (batch : Batch) : List Verdict :=
  (batch.marked flavor).flatMap flavor.verdicts

/-- What a round over the batch does to a registry. -/
def turn (flavor : Flavor) (batch : Batch) : Turn where
  stripped := batch.declarations.filterMap Declaration.name
  registered := (batch.verdicts flavor).filterMap Verdict.registration?

/-- What a round over the batch reports before anything is written. -/
def report (flavor : Flavor) (number : ℕ) (batch : Batch) : Report where
  number := number
  elements := batch.declarations.length
  removed := (batch.turn flavor).stripped
  registered := (batch.turn flavor).registered
  rejected := (batch.verdicts flavor).filterMap Verdict.rejection?
  final := batch.final

/-- The report of a round tells of no flush. -/
theorem unflushed_report (flavor : Flavor) (number : ℕ) (batch : Batch) :
    (batch.report flavor number).Unflushed :=
  ⟨rfl, rfl, rfl, rfl⟩

/-- A round takes from all entries what it declares. -/
theorem mem_stripped_iff {flavor : Flavor} {batch : Batch} {provider : String} :
    provider ∈ (batch.turn flavor).stripped ↔ ∃ d ∈ batch.declarations, d.name = some provider :=
  List.mem_filterMap

/-- A complete batch registers nothing that has no name. -/
theorem Complete.ne_empty_of_mem_registered {flavor : Flavor} {batch : Batch}
    (h : batch.Complete flavor) {pair : String × String}
    (hpair : pair ∈ (batch.turn flavor).registered) : pair.2 ≠ "" := by
  obtain ⟨verdict, hverdict, hregistration⟩ := List.mem_filterMap.mp hpair
  obtain ⟨d, hd, hverdict⟩ := List.mem_flatMap.mp hverdict
  obtain ⟨name, hname, hne⟩ := (h.marked d hd).exists_name
  rwa [Flavor.snd_of_registration hverdict hregistration, hname]

end Batch

/-- The registry after a verdict. -/
def Registry.follow (text : String → Option String) (registry : Registry) : Verdict → Registry
  | .registered target provider => registry.register text target provider
  | .rejected _ => registry

/-- Following verdicts is registering what they let in, in the same order. -/
theorem Registry.foldl_follow (text : String → Option String) (verdicts : List Verdict)
    (registry : Registry) :
    verdicts.foldl (follow text) registry =
      (verdicts.filterMap Verdict.registration?).foldl
        (fun registry pair => registry.register text pair.1 pair.2) registry := by
  induction verdicts generalizing registry with
  | nil => rfl
  | cons verdict verdicts ih => cases verdict <;> exact ih _

/-! ### The work of a round -/

namespace Work

variable {σ : Type} {storage : σ} {before : Registry} {flavor : Flavor} {d : Declaration}

/-- A rejection is told and leaves the registry. -/
theorem settles_reject (hd : d.name ≠ none) (objection : Objection) :
    (reject d objection : Work σ Verdict).Settles storage before
      (.rejected (objection.diagnostic d)) before [objection.diagnostic d] := by
  obtain ⟨name, hname⟩ := Option.ne_none_iff_exists'.mp hd
  have hrejection : Rejection.of d objection = .ok ⟨simpleName name, objection⟩ := by
    rw [Rejection.of, hname]
  rw [reject, hrejection, Objection.diagnostic, hname]
  exact (settles_ofExcept _).then ((settles_tell _).bind (settles_pure _))

/-- At the start of a round its declarations are removed, and nothing is told of that to the
user. -/
theorem settles_strip {declarations : List Declaration}
    (h : ∀ d ∈ declarations, d.name ≠ none) :
    (strip declarations : Work σ Unit).Settles storage before ()
      ((declarations.filterMap Declaration.name).foldl Registry.remove before) [] := by
  induction declarations generalizing before with
  | nil => exact settles_pure ()
  | cons d ds ih =>
    obtain ⟨name, hname⟩ := Option.ne_none_iff_exists'.mp (h d List.mem_cons_self)
    rw [List.filterMap_cons_some hname, List.foldl_cons]
    change (remove d.name >>= fun _ => strip ds : Work σ Unit).Settles storage before () _ []
    rw [hname]
    exact (settles_remove name).then (ih fun d' hd' => h d' (List.mem_cons_of_mem d hd'))

variable [Storage σ] {names : List String} {text : String → Option String}

/-- A declaration is registered under a target, or rejected with a reason, as its verdict has
it. -/
theorem settles_registerUnder (h : Storage.Offers storage names text) {target : Option String}
    (hfault : flavor.faultUnder? d target = none) :
    (registerUnder flavor d target : Work σ Verdict).Settles storage before
      (flavor.verdictUnder d target) (before.follow text (flavor.verdictUnder d target))
      (flavor.verdictUnder d target).rejection?.toList := by
  obtain ⟨hnamed, hgiven⟩ := Flavor.faultUnder?_eq_none_iff.mp hfault
  rw [registerUnder, Flavor.verdictUnder]
  cases hobjection : flavor.targetObjection? d target with
  | some objection => exact settles_reject hnamed objection
  | none =>
    obtain ⟨htarget, hempty⟩ := hgiven hobjection
    obtain ⟨name, rfl⟩ := Option.ne_none_iff_exists'.mp htarget
    obtain ⟨provider, hprovider⟩ := Option.ne_none_iff_exists'.mp hnamed
    rw [hprovider] at hempty ⊢
    have hne : provider ≠ "" := fun heq => hempty (congrArg some heq)
    exact (settles_add h name hne).then (settles_pure _)

/-- A declaration that comes to no fault is registered or rejected as the flavor decides. -/
theorem settles_register (h : Storage.Offers storage names text)
    (hfault : flavor.fault? d = none) :
    (register flavor d : Work σ (List Verdict)).Settles storage before (flavor.verdicts d)
      ((flavor.verdicts d).foldl (Registry.follow text) before)
      ((flavor.verdicts d).filterMap Verdict.rejection?) := by
  rw [Flavor.fault?] at hfault
  rw [register, Flavor.verdicts]
  cases hobjection : flavor.objection? d with
  | some objection =>
    have hnamed : d.name ≠ none := by simpa [hobjection] using hfault
    exact (settles_reject hnamed objection).bind (settles_pure _)
  | none =>
    rw [hobjection] at hfault
    rw [List.foldl_map, List.filterMap_map, List.filterMap_eq_flatMap_toList]
    exact settles_mapM fun target htarget _ =>
      settles_registerUnder h (List.findSome?_eq_none_iff.mp hfault target htarget)

/-- **A round over a batch without a fault** settles on the turn of its batch, and reports it. -/
theorem settles_reconcile (h : Storage.Offers storage names text) {batch : Batch}
    (hbatch : batch.fault? flavor = none) (number duration : ℕ) :
    (reconcile flavor { number, final := batch.final } batch.declarations (batch.marked flavor)
        duration : Work σ Report).Settles storage before (batch.report flavor number)
      (before.turn text (batch.turn flavor))
      ((batch.verdicts flavor).filterMap Verdict.rejection?) := by
  have hregistry : before.turn text (batch.turn flavor) =
      (batch.marked flavor).foldl (fun registry d =>
        (flavor.verdicts d).foldl (Registry.follow text) registry)
        ((batch.turn flavor).stripped.foldl Registry.remove before) := by
    rw [Registry.turn, Batch.turn, ← Registry.foldl_follow, Batch.verdicts, List.foldl_flatMap]
  have hdiagnosed : (batch.verdicts flavor).filterMap Verdict.rejection? =
      (batch.marked flavor).flatMap fun d => (flavor.verdicts d).filterMap Verdict.rejection? := by
    rw [Batch.verdicts, List.filterMap_flatMap]
  rw [hregistry, hdiagnosed]
  obtain ⟨hnamed, hfault⟩ := Batch.fault?_eq_none_iff.mp hbatch
  refine (settles_tell_of_eq_nil rfl).then ((settles_strip hnamed).then ?_)
  refine Settles.last (settles_mapM fun d hd _ => settles_register h (hfault d hd)) ?_
  exact (settles_tell_of_eq_nil rfl).then (settles_pure _)

/-- A round over a batch without a fault goes through the turn of its batch, and ends with a flush
if it is the last. -/
theorem round_eq (h : Storage.Offers storage names text) {batch : Batch}
    (hbatch : batch.fault? flavor = none) (options : Options) (number duration : ℕ)
    (told : List Event) :
    ∃ more, round flavor options { number, final := batch.final } batch.declarations
          (batch.marked flavor) duration ⟨before, storage, told⟩ =
        (if batch.final then flush options (batch.report flavor number)
          else pure (batch.report flavor number))
          ⟨before.turn text (batch.turn flavor), storage, told ++ more⟩ ∧
      more.filterMap Event.diagnosis? = (batch.verdicts flavor).filterMap Verdict.rejection? := by
  obtain ⟨more, hrun, hmore⟩ := settles_reconcile h hbatch number duration told
  exact ⟨more, bind_of_ok hrun, hmore⟩

end Work

end ProviderRegistry
