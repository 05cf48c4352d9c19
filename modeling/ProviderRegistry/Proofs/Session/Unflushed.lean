import ProviderRegistry.Proofs.Session.Batch
import ProviderRegistry.Proofs.Workbench.Named

/-!
# A round before its flush

Until its flush a round **stays** (`Work.Stays`): it leaves the storage as it is, and the only
names that are new to the workbench are targets (`stays_reconcile`). It fails over a declaration
that is not complete, or over the listing of a target that cannot be asked for, and over nothing
else.
-/

namespace ProviderRegistry.Work

variable {σ : Type} {storage : σ} {Kind : String → Prop} {reason : Fault → Prop} {flavor : Flavor}
  {d : Declaration} {declarations annotated : List Declaration}

theorem stays_reject (h : d.name ≠ none ∨ ∀ fault, reason fault) (objection : Objection) :
    Stays storage Kind reason (reject d objection) := by
  have hrejection : ∀ fault, Rejection.of d objection = .error fault → reason fault := by
    intro fault hfault
    refine h.elim (fun hname => ?_) fun hall => hall fault
    rw [Rejection.of] at hfault
    split at hfault
    · exact absurd ‹_› hname
    · cases hfault
  refine (leads_ofExcept hrejection).bind fun _ => leads_of_and fun _ => ?_
  exact (leads_tell _).bind fun _ => stays_pure _

/-- What is declared is stripped without a look at the storage. -/
theorem stays_strip (h : (∀ d ∈ declarations, d.name ≠ none) ∨ ∀ fault, reason fault) :
    Stays storage Kind reason (strip declarations) := by
  refine @leads_forM _ _ _ _ _ (fun d : Declaration => remove d.name) _ fun d hd => ?_
  exact stays_remove (h.imp_left fun hnames => hnames d hd)

variable [Storage σ]

/-- A declaration is registered under names that it asks for. -/
theorem stays_register (hd : d.Complete flavor ∨ ∀ fault, reason fault)
    (h : ∀ target, some target ∈ flavor.targets d →
      Kind target ∧ Storage.FailsOnly storage reason target) :
    Stays storage Kind reason (register flavor d) := by
  have hreject := @stays_reject σ storage Kind reason d (hd.imp_left fun hcomplete => hcomplete.1)
  rw [register]
  cases flavor.objection? d with
  | some objection => exact (hreject objection).bind fun _ => stays_pure _
  | none =>
    refine leads_mapM fun target htarget => ?_
    rw [registerUnder]
    cases flavor.targetObjection? d target with
    | some objection => exact hreject objection
    | none =>
      refine (stays_add (fun asked hasked => h asked (hasked ▸ htarget)) ?_).bind fun _ =>
        stays_pure _
      refine hd.imp_left fun hcomplete => ⟨?_, hcomplete.1, hcomplete.2.1⟩
      rintro rfl
      exact hcomplete.2.2 htarget

/-- **Before the flush** a round touches no storage, and asks for no names but targets. -/
theorem stays_reconcile
    (hdeclarations : (∀ d ∈ declarations, d.name ≠ none) ∨ ∀ fault, reason fault)
    (hannotated : (∀ d ∈ annotated, d.Complete flavor) ∨ ∀ fault, reason fault)
    (h : ∀ d ∈ annotated, ∀ target, some target ∈ flavor.targets d →
      Kind target ∧ Storage.FailsOnly storage reason target) (report : Report) (duration : ℕ) :
    Stays storage Kind reason (reconcile flavor report declarations annotated duration) := by
  refine (leads_tell _).bind fun _ => (stays_strip hdeclarations).bind fun _ => ?_
  refine (leads_mapM fun d hd => ?_).bind fun _ => (leads_tell _).bind fun _ => stays_pure _
  exact stays_register (hannotated.imp_left fun hcomplete => hcomplete d hd) (h d hd)

/-- The same of any declarations: whatever comes of them, the storage is as it was. -/
theorem storage_reconcile (report : Report) (declarations annotated : List Declaration)
    (duration : ℕ) (bench : Workbench σ) :
    match reconcile flavor report declarations annotated duration bench with
    | .ok _ done | .error _ done => done.storage = bench.storage := by
  have hstays : Stays bench.storage (fun _ => True) (fun _ => True)
      (reconcile flavor report declarations annotated duration) :=
    stays_reconcile (Or.inr fun _ => trivial) (Or.inr fun _ => trivial)
      (fun _ _ _ _ => ⟨trivial, fun _ _ => trivial⟩) report duration
  have hdone := hstays bench ⟨rfl, fun _ _ => trivial⟩
  cases hrun : reconcile flavor report declarations annotated duration bench with
  | ok last done =>
    rw [hrun] at hdone
    exact hdone.storage
  | error fault failed =>
    rw [hrun] at hdone
    exact hdone.1.storage

end ProviderRegistry.Work
