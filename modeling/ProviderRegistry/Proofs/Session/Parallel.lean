import ProviderRegistry.Generation
import ProviderRegistry.Proofs.Journal
import ProviderRegistry.Proofs.Session.Life
import ProviderRegistry.Proofs.Workbench.Parallel

/-!
# Sessions in parallel

Two sessions of one flavor that are asked for the same rounds give the same answers, whatever their
options say of notes and logs, and however long their rounds take. Before its flush a session looks
at its options nowhere; the flush hands the log to the storage, after the listings were written and
as the last thing that the session does there. So it is enough that the storages answer the same up
to then (`Storage.PartOverLogs`), and what they differ in at the end is what a log makes of them.

This is carried from single pieces of work to the flush (`sameOutcome_flush`), to a round
(`sameOutcome_round`), to the life of a session (`parallel_attempts`), and to the session of a
generation (`sameOutcome_rounds`).
-/

namespace ProviderRegistry

/-- A storage has **just been written** when it is what a write left, whether that was refused or
not. -/
def Storage.JustWritten {σ : Type} [Storage σ] (storage : σ) : Prop :=
  ∃ (before : σ) (name content : String), storage = (Storage.write before name content).1

/-- Storages **part over logs** when they are parallel under `R`, and two logs that are kept under
two options just after a write are both kept without a word, and leave them related by `Q`. -/
structure Storage.PartOverLogs {σ τ : Type} [Storage σ] [Storage τ] (options options' : Options)
    (R Q : σ → τ → Prop) : Prop extends Storage.Parallel R where
  unparted : ∀ {s t}, R s t → Q s t
  keepLog : ∀ {s t}, R s t → Storage.JustWritten s → Storage.JustWritten t → ∀ {text text'},
    options.Logs text → options'.Logs text' → ∃ kept kept',
      Storage.keepLog s text = (kept, .silent (.ok ())) ∧
        Storage.keepLog t text' = (kept', .silent (.ok ())) ∧ Q kept kept'

namespace Work

variable {σ τ : Type} {R Q : σ → τ → Prop} {flavor : Flavor} {options options' : Options}

/-! ### A round before its flush -/

theorem parallel_reject (d : Declaration) (objection : Objection) :
    Parallel R (reject d objection) (reject d objection) :=
  (parallel_ofExcept _).bind fun _ => (parallel_tell _).bind fun _ => parallel_pure _

theorem parallel_strip (declarations : List Declaration) :
    Parallel R (strip declarations) (strip declarations) :=
  parallel_forM fun d _ => parallel_remove d.name

variable [Storage σ] [Storage τ]

theorem parallel_registerUnder (h : Storage.Parallel R) (d : Declaration)
    (target : Option String) :
    Parallel R (registerUnder flavor d target) (registerUnder flavor d target) := by
  rw [registerUnder, registerUnder]
  cases flavor.targetObjection? d target with
  | some objection => exact parallel_reject d objection
  | none => exact (parallel_add h target d.name).bind fun _ => parallel_pure _

theorem parallel_register (h : Storage.Parallel R) (d : Declaration) :
    Parallel R (register flavor d) (register flavor d) := by
  rw [register, register]
  cases flavor.objection? d with
  | some objection => exact (parallel_reject d objection).bind fun _ => parallel_pure _
  | none => exact parallel_mapM fun target _ => parallel_registerUnder h d target

variable (flavor) in
/-- **A round before its flush** is the same however long it takes. -/
theorem parallel_reconcile (h : Storage.Parallel R) (report : Report)
    (declarations annotated : List Declaration) (duration duration' : ℕ) :
    Parallel R (reconcile flavor report declarations annotated duration)
      (reconcile flavor report declarations annotated duration') := by
  refine (parallel_tell _).bind fun _ => (parallel_strip declarations).bind fun _ => ?_
  refine (parallel_mapM fun d _ => parallel_register h d).bind fun verdicts => ?_
  exact (parallel_tell_alike (.cons (.logged _ _) .nil)).bind fun _ => parallel_pure _

/-! ### The flush -/

theorem parallel_deleteListings (h : Storage.Parallel R) :
    Parallel R deleteListings deleteListings := by
  intro bench bench' hbench
  have hdelete := parallel_store h.delete bench bench' hbench
  rw [deleteListings, deleteListings]
  generalize store Storage.delete bench = outcome at hdelete ⊢
  generalize store Storage.delete bench' = outcome' at hdelete ⊢
  cases hdelete with
  | ok _ hdone => exact .ok true hdone
  | error fault hfailed =>
    cases fault with
    | storage failure =>
      exact ((parallel_tell _).bind fun _ => parallel_pure false) _ _ hfailed
    | _ => exact .error _ hfailed

theorem parallel_writeListing (h : Storage.Parallel R) (entry : Entry) :
    Parallel R (writeListing entry) (writeListing entry) := by
  intro bench bench' hbench
  have hwrite := parallel_store (fun hs => h.write hs entry.name entry.render) bench bench' hbench
  rw [writeListing, writeListing]
  generalize store (Storage.write · entry.name entry.render) bench = outcome at hwrite ⊢
  generalize store (Storage.write · entry.name entry.render) bench' = outcome' at hwrite ⊢
  cases hwrite with
  | ok _ hdone => exact .ok none hdone
  | error fault hfailed =>
    cases fault with
    | storage failure =>
      exact ((parallel_tell _).bind fun _ => parallel_pure (some _)) _ _ hfailed
    | _ => exact .error _ hfailed

theorem parallel_mapM_writeListing (h : Storage.Parallel R) (entries : List Entry) :
    Parallel R (entries.mapM fun entry => return (entry.name, ← writeListing entry))
      (entries.mapM fun entry => return (entry.name, ← writeListing entry)) :=
  parallel_mapM fun entry _ => (parallel_writeListing h entry).bind fun failure =>
    parallel_pure (entry.name, failure)

/-- To write a listing leaves a storage that was just written. -/
theorem storage_of_writeListing {entry : Entry} {failure : Option Diagnostic}
    {bench done : Workbench σ} (h : writeListing entry bench = .ok failure done) :
    done.storage = (Storage.write bench.storage entry.name entry.render).1 := by
  rw [writeListing, store_apply] at h
  cases houtcome : (Storage.write bench.storage entry.name entry.render).2.outcome with
  | ok value =>
    rw [houtcome] at h
    obtain ⟨-, rfl⟩ := EStateM.Result.ok.inj h
    rfl
  | error fault =>
    rw [houtcome] at h
    cases fault with
    | storage failure =>
      obtain ⟨-, rfl⟩ := EStateM.Result.ok.inj h
      rfl
    | _ => cases h

theorem justWritten_of_mapM_writeListing {entries : List Entry} (hentries : entries ≠ [])
    {outcomes : List (String × Option Diagnostic)} {bench done : Workbench σ}
    (h : (entries.mapM fun entry => return (entry.name, ← writeListing entry) : Work σ _) bench =
      .ok outcomes done) :
    Storage.JustWritten done.storage := by
  induction entries generalizing outcomes bench with
  | nil => exact absurd rfl hentries
  | cons entry entries ih =>
    rw [List.mapM_cons] at h
    obtain ⟨first, written, hfirst, h⟩ := bind_eq_ok h
    obtain ⟨rest, left, hrest, h⟩ := bind_eq_ok h
    obtain ⟨-, rfl⟩ := EStateM.Result.ok.inj h
    by_cases hlast : entries = []
    · subst hlast
      obtain ⟨-, rfl⟩ := EStateM.Result.ok.inj hrest
      obtain ⟨failure, between, hwrite, h⟩ := bind_eq_ok hfirst
      obtain ⟨-, rfl⟩ := EStateM.Result.ok.inj h
      exact ⟨_, _, _, storage_of_writeListing hwrite⟩
    · exact ih hlast hrest

/-- **The flush** comes to the same, and hands over the log at its very end. -/
theorem sameOutcome_flush (h : Storage.PartOverLogs options options' R Q) (report : Report)
    {bench : Workbench σ} {bench' : Workbench τ} (hbench : bench.Parallel R bench') :
    SameOutcome (Workbench.Parallel Q) (Workbench.Parallel R) (flush options report bench)
      (flush options' report bench') := by
  rw [flush, flush]
  refine (parallel_registry bench bench' hbench).bind fun registry bench bench' hbench => ?_
  cases hmodified : registry.isModified with
  | false => exact .ok report (hbench.mono h.unparted)
  | true =>
    refine (parallel_tell _ bench bench' hbench).bind fun _ bench bench' hbench => ?_
    dsimp only
    generalize registry.entries.filter (fun entry => !entry.providers.isEmpty) = entries
    by_cases hlisted : entries = []
    · rw [if_pos (List.isEmpty_iff.mpr hlisted), if_pos (List.isEmpty_iff.mpr hlisted)]
      refine (parallel_deleteListings h.toParallel bench bench' hbench).bind
        fun deleted bench bench' hbench => ?_
      exact .ok _ (hbench.mono h.unparted)
    · rw [if_neg (mt List.isEmpty_iff.mp hlisted), if_neg (mt List.isEmpty_iff.mp hlisted)]
      -- there is something to write, so the log is kept just after a write
      have hwrite := parallel_mapM_writeListing h.toParallel entries bench bench' hbench
      refine (hwrite.and_of_ok (fun _ _ hrun => justWritten_of_mapM_writeListing hlisted hrun)
        fun _ _ hrun => justWritten_of_mapM_writeListing hlisted hrun).bind ?_
      rintro outcomes bench bench' ⟨hbench, hwritten, hwritten'⟩
      obtain ⟨kept, kept', hkept, hkept', hparted⟩ :=
        h.keepLog hbench.storage hwritten hwritten' ⟨bench.told, rfl⟩ ⟨bench'.told, rfl⟩
      have hstore := @store_eq _ _ (Storage.keepLog · _) _ _ _ hkept bench.registry bench.told
      have hstore' := @store_eq _ _ (Storage.keepLog · _) _ _ _ hkept' bench'.registry bench'.told
      rw [bind_of_ok (logText_apply options bench), bind_of_ok (logText_apply options' bench'),
        bind_of_ok hstore, bind_of_ok hstore']
      exact .ok _ ⟨hbench.registry, hparted, hbench.told⟩

variable (flavor) in
/-- A round comes to the same. Its storages part only if it is the last and comes to an end. -/
theorem sameOutcome_round (h : Storage.PartOverLogs options options' R Q) (number : ℕ)
    (final : Bool) (declarations annotated : List Declaration) (duration duration' : ℕ)
    {bench : Workbench σ} {bench' : Workbench τ} (hbench : bench.Parallel R bench') :
    SameOutcome (Workbench.Parallel fun s t => Q s t ∧ (final = false → R s t))
      (Workbench.Parallel R)
      (round flavor options { number, final } declarations annotated duration bench)
      (round flavor options' { number, final } declarations annotated duration' bench') := by
  have hreconcile :=
    parallel_reconcile flavor h.toParallel { number, final } declarations annotated
    duration duration' bench bench' hbench
  have hfinal :
      ∀ report between, reconcile flavor { number, final } declarations annotated duration
      bench = .ok report between → report.final = final := fun _ _ hrun =>
    (number_of_reconcile hrun).2
  rw [round, round, bind_apply, bind_apply]
  generalize reconcile flavor { number, final } declarations annotated duration bench = outcome
    at hreconcile hfinal ⊢
  generalize reconcile flavor { number, final } declarations annotated duration' bench' = outcome'
    at hreconcile ⊢
  cases hreconcile with
  | error fault hfailed => exact .error fault hfailed
  | ok report hbetween =>
    obtain rfl := hfinal report _ rfl
    dsimp only
    -- the last round alone reaches the flush, so before it the storages have not parted
    cases hlast : report.final with
    | true =>
      rw [if_pos rfl, if_pos rfl]
      refine (sameOutcome_flush h report hbetween).mono (fun _ _ hdone => ?_) fun _ _ => id
      exact hdone.mono fun hstorage => ⟨hstorage, fun hnot => absurd hnot (by decide)⟩
    | false =>
      rw [if_neg Bool.false_ne_true, if_neg Bool.false_ne_true]
      exact .ok report (hbetween.mono fun hstorage => ⟨h.unparted hstorage, fun _ => hstorage⟩)

end Work

namespace Session

variable {σ τ : Type} {R Q : σ → τ → Prop} {options options' : Options}

/-- Two sessions are **parallel** when they are of one flavor and equally far, and their
workbenches are parallel: under `R` while they go on, and under `Q` also when they are over. -/
structure Parallel (options options' : Options) (R Q : σ → τ → Prop) (session : Session σ)
    (other : Session τ) : Prop where
  flavor : session.flavor = other.flavor
  options : session.options = options
  options' : other.options = options'
  rounds : session.rounds = other.rounds
  finished : session.finished = other.finished
  bench :
    session.bench.Parallel (fun s t => Q s t ∧ (session.finished = false → R s t)) other.bench

variable [Storage σ] [Storage τ]

/-- **A round** of parallel sessions gives one answer and leaves them parallel. -/
theorem sameOutcome_round (h : Storage.PartOverLogs options options' R Q)
    (hdisabled : options.disabled = options'.disabled) {session : Session σ} {other : Session τ}
    (hsession : session.Parallel options options' R Q other) (declarations : List Declaration)
    (annotated : Option (List Declaration)) (final : Bool) (duration duration' : ℕ) :
    SameOutcome (Parallel options options' R Q) (Parallel options options' R Q)
      (round declarations annotated final duration session)
      (round declarations annotated final duration' other) := by
  obtain ⟨flavor, given, bench, number, finished⟩ := session
  obtain ⟨flavor', given', bench', number', finished'⟩ := other
  obtain ⟨rfl, rfl, rfl, rfl, rfl, hbench⟩ := hsession
  dsimp only at hbench hdisabled h ⊢
  cases finished with
  | true =>
    rw [round_of_finished rfl, round_of_finished rfl]
    exact .error _ ⟨rfl, rfl, rfl, rfl, rfl, hbench⟩
  | false =>
    have hgoing := hbench.mono (Q := R) fun hstorage => hstorage.2 rfl
    cases hoff : given.disabled with
    | true =>
      rw [round_of_disabled rfl hoff, round_of_disabled rfl (hdisabled ▸ hoff)]
      exact .ok _ ⟨rfl, rfl, rfl, rfl, rfl,
        hgoing.mono fun hstorage => ⟨h.unparted hstorage, fun _ => hstorage⟩⟩
    | false =>
      rw [round_of_enabled rfl hoff, round_of_enabled rfl (hdisabled ▸ hoff)]
      have hround := Work.sameOutcome_round flavor h (number + 1) final declarations
        (annotated.getD (declarations.filter (·.hasMarker flavor.marker.name))) duration duration'
        hgoing
      dsimp only
      generalize Work.round flavor given _ declarations _ duration bench = outcome at hround ⊢
      generalize Work.round flavor given' _ declarations _ duration' bench' = outcome' at hround ⊢
      cases hround with
      | ok report hdone => exact .ok report ⟨rfl, rfl, rfl, rfl, rfl, hdone⟩
      | error fault hfailed =>
        exact .error fault ⟨rfl, rfl, rfl, rfl, rfl,
          hfailed.mono fun hstorage => ⟨h.unparted hstorage, fun _ => hstorage⟩⟩

/-- Parallel work on parallel sessions that go on. -/
theorem sameOutcome_work (h : Storage.PartOverLogs options options' R Q) {α : Type}
    {step : Work σ α} {step' : Work τ α} (hstep : Work.Parallel R step step') {session : Session σ}
    {other : Session τ} (hopen : session.finished = false)
    (hsession : session.Parallel options options' R Q other) :
    SameOutcome (fun s t => Parallel options options' R Q s t ∧ s.finished = false)
      (Parallel options options' R Q) (work step session) (work step' other) := by
  have hrun := hstep session.bench other.bench
    (hsession.bench.mono fun hstorage => hstorage.2 hopen)
  have hparted : ∀ {bench : Workbench σ} {bench' : Workbench τ}, bench.Parallel R bench' →
      Parallel options options' R Q { session with bench } { other with bench := bench' } :=
    fun hbench => ⟨hsession.flavor, hsession.options, hsession.options', hsession.rounds,
      hsession.finished, hbench.mono fun hstorage => ⟨h.unparted hstorage, fun _ => hstorage⟩⟩
  rw [work, work]
  generalize step session.bench = outcome at hrun ⊢
  generalize step' other.bench = outcome' at hrun ⊢
  cases hrun with
  | ok value hbench => exact .ok value ⟨hparted hbench, hopen⟩
  | error fault hbench => exact .error fault (hparted hbench)

/-- Sessions of one flavor over related storages **start** in parallel. -/
theorem sameOutcome_start (h : Storage.PartOverLogs options options' R Q)
    (hdisabled : options.disabled = options'.disabled) (flavor : Flavor) {storage : σ}
    {storage' : τ} (hstorage : R storage storage') :
    SameOutcome (fun s t => Parallel options options' R Q s t ∧ s.finished = false)
      (Parallel options options' R Q)
      (start (new flavor options storage)) (start (new flavor options' storage')) := by
  have hnew : Parallel options options' R Q (new flavor options storage)
      (new flavor options' storage') :=
    ⟨rfl, rfl, rfl, rfl, rfl, rfl, ⟨h.unparted hstorage, fun _ => hstorage⟩, .nil⟩
  cases hoff : options.disabled with
  | true =>
    rw [start_new_of_disabled flavor hoff, start_new_of_disabled flavor (hdisabled ▸ hoff)]
    exact .ok () ⟨hnew, rfl⟩
  | false =>
    have hwork := sameOutcome_work h (Work.parallel_openSession h.toParallel) rfl hnew
    simpa only [start, bind_apply, get_apply, new, hoff, ← hdisabled, Bool.not_false, if_true]
      using hwork

/-- **The rounds of a generation** come to the same. -/
theorem sameOutcome_rounds (h : Storage.PartOverLogs options options' R Q)
    (hdisabled : options.disabled = options'.disabled) {order order' : Order}
    (hsource : order.source = order'.source) (tree : FileTree) (duration duration' : ℕ)
    {session : Session σ} {other : Session τ} (hopen : session.finished = false)
    (hsession : session.Parallel options options' R Q other) :
    SameOutcome (Parallel options options' R Q) (Parallel options options' R Q)
      (order.rounds tree duration session) (order'.rounds tree duration' other) := by
  rw [Order.rounds, Order.rounds, hsource]
  refine (sameOutcome_work h (Work.parallel_ofExcept _) hopen hsession).bind ?_
  rintro round session other ⟨hsession, hopen⟩
  refine (sameOutcome_work h (Work.parallel_tell _) hopen hsession).bind ?_
  rintro _ session other ⟨hsession, -⟩
  refine (sameOutcome_round h hdisabled hsession round.declarations (some round.annotated) false
    duration duration').bind fun first session other hsession => ?_
  refine (sameOutcome_round h hdisabled hsession [] (some []) true duration duration').bind
    fun last session other hsession => ?_
  exact .ok [first, last] hsession

end Session

end ProviderRegistry
