import ProviderRegistry.Proofs.Journal
import ProviderRegistry.Proofs.Session.Life
import ProviderRegistry.Proofs.Session.Unflushed
import ProviderRegistry.Proofs.Storage.Directory

/-!
# What a session fails over

A storage may fail to write and to delete, and a session goes on. Any other failure ends a round.
Over complete declarations there are three places for it: before the flush the listing of a target
may be asked for in vain (`stays_reconcile_of_complete`), and the flush may be left with listings
that cannot be deleted, although not for a reason that a storage is supposed to have, or with a log
that cannot be kept (`flush_eq_error`).

In a directory the first two come of a path that is **too long**, and of nothing else
(`directory_fails_over_long_paths`): every other thing that may be wrong with a file or a directory
is an absent listing, or a failure that the session survives. A path that is too long is not,
although a failed reading should count as absence whatever the reason, and a failed deletion should
be a failure of the storage (`long_target_ends_round`).

The trees of this development hold files and directories that can be read, searched and written.
What comes of permissions, and of files of other kinds, is not said here.
-/

namespace ProviderRegistry

/-- A storage **writes or says why not** when a writing fails for reasons of the storage alone. -/
def Storage.WritesOrSays (σ : Type) [Storage σ] : Prop :=
  ∀ (storage : σ) (name content : String) (fault : Fault),
    (Storage.write storage name content).2.outcome = .error fault →
      ∃ failure, fault = .storage failure

namespace Work

variable {σ : Type} {storage : σ}

/-! ### Before the flush -/

section Round

variable [Storage σ] {flavor : Flavor} {d : Declaration}

/-- The listing of a target of a batch cannot be asked for, for some reason. -/
def Unreadable (flavor : Flavor) (batch : Batch) (storage : σ) (fault : Fault) : Prop :=
  ∃ d ∈ batch.marked flavor, ∃ target, some target ∈ flavor.targets d ∧
    (Storage.listing storage target).outcome = .error fault

variable (storage) in
/-- **Before the flush** a round over complete declarations fails only where the listing of a
target cannot be asked for. -/
theorem stays_reconcile_of_complete {batch : Batch} (hbatch : batch.Complete flavor)
    (report : Report) (duration : ℕ) :
    Stays storage (fun _ => True) (Unreadable flavor batch storage)
      (reconcile flavor report batch.declarations (batch.marked flavor) duration) :=
  stays_reconcile (Or.inl fun d hd => (hbatch.declarations d hd).1) (Or.inl hbatch.marked)
    (fun d hd target htarget => ⟨trivial, fun _ hfault => ⟨d, hd, target, htarget, hfault⟩⟩)
    report duration

section Unreadable

variable {registry : Registry} {target : String} {targets : List (Option String)} {fault : Fault}
  (hd : flavor.objection? d = none) (htargets : flavor.targets d = some target :: targets)
  (htarget : flavor.targetObjection? d (some target) = none) (hnew : target ∉ registry.names)
  (h : (Storage.listing storage target).outcome = .error fault)

include hd htargets htarget hnew h

theorem register_of_unreadable (told : List Event) :
    ∃ failed, register flavor d ⟨registry, storage, told⟩ = .error fault failed := by
  obtain ⟨failed, hadd⟩ := add_of_unreadable hnew h d.name told
  have hunder : registerUnder flavor d (some target) ⟨registry, storage, told⟩ =
      .error fault failed := by
    rw [registerUnder, htarget]
    exact bind_of_error hadd
  refine ⟨failed, ?_⟩
  rw [register, hd, htargets]
  simp only [List.mapM_cons, bind_of_error hunder]

/-- A new target whose listing cannot be asked for ends the round. -/
theorem reconcile_of_unreadable {declarations : List Declaration}
    (hdeclarations : ∀ d ∈ declarations, d.Complete flavor) (more : List Declaration)
    (report : Report) (duration : ℕ) (told : List Event) :
    ∃ failed, reconcile flavor report declarations (d :: more) duration
      ⟨registry, storage, told⟩ = .error fault failed := by
  obtain ⟨told', hstrip, -⟩ := @settles_strip σ storage registry _
    (fun d hd => (hdeclarations d hd).1)
    (told ++ [.logged s!"Starting round with {declarations.length} elements"])
  have hstripped : target ∉
      ((declarations.filterMap Declaration.name).foldl Registry.remove registry).names := by
    rwa [Registry.names_foldl_remove]
  obtain ⟨failed, hregister⟩ := register_of_unreadable hd htargets htarget hstripped h
    (told ++ [.logged s!"Starting round with {declarations.length} elements"] ++ told')
  refine ⟨failed, ?_⟩
  simp only [reconcile, tell, bind_apply, modify_apply, hstrip, List.mapM_cons, hregister]

end Unreadable

end Round

/-! ### The flush -/

section Flush

variable [Storage σ] {bench failed : Workbench σ} {fault : Fault}

theorem writeListing_eq_ok (h : Storage.WritesOrSays σ) (entry : Entry) (bench : Workbench σ) :
    ∃ failure done, writeListing entry bench = .ok failure done := by
  rw [writeListing, store_apply]
  cases houtcome : (Storage.write bench.storage entry.name entry.render).2.outcome with
  | ok value => exact ⟨none, _, rfl⟩
  | error fault =>
    obtain ⟨failure, rfl⟩ := h bench.storage entry.name entry.render fault houtcome
    exact ⟨_, _, rfl⟩

theorem mapM_writeListing_eq_ok (h : Storage.WritesOrSays σ) (entries : List Entry)
    (bench : Workbench σ) :
    ∃ outcomes done, (entries.mapM fun entry => return (entry.name, ← writeListing entry) :
      Work σ _) bench = .ok outcomes done := by
  induction entries generalizing bench with
  | nil => exact ⟨[], bench, rfl⟩
  | cons entry entries ih =>
    obtain ⟨failure, between, hwrite⟩ := writeListing_eq_ok h entry bench
    obtain ⟨outcomes, done, hrest⟩ := ih between
    have hfirst : (return (entry.name, ← writeListing entry) : Work σ _) bench =
        .ok (entry.name, failure) between := bind_of_ok hwrite
    refine ⟨(entry.name, failure) :: outcomes, done, ?_⟩
    rw [List.mapM_cons, bind_of_ok hfirst, bind_of_ok hrest]
    rfl

theorem deleteListings_eq_error (h : deleteListings bench = .error fault failed) :
    (Storage.delete bench.storage).2.outcome = .error fault := by
  rw [deleteListings, store_apply] at h
  cases houtcome : (Storage.delete bench.storage).2.outcome with
  | ok value =>
    rw [houtcome] at h
    cases h
  | error cause =>
    rw [houtcome] at h
    cases cause with
    | storage failure => cases h
    | _ =>
      obtain ⟨rfl, -⟩ := EStateM.Result.error.inj h
      rfl

/-- A storage **loses a log** of some options with a fault when it does not keep it. -/
def LosesLog (options : Options) (storage : σ) (fault : Fault) : Prop :=
  ∃ text, options.Logs text ∧ (Storage.keepLog storage text).2.outcome = .error fault

/-- **A flush** fails only over a deletion that fails, or over a log that cannot be kept. -/
theorem flush_eq_error (hwrite : Storage.WritesOrSays σ) {options : Options} {report : Report}
    (h : flush options report bench = .error fault failed) :
    (Storage.delete bench.storage).2.outcome = .error fault ∨
      ∃ written : σ, LosesLog options written fault := by
  rw [flush] at h
  rcases bind_eq_error h with hregistry | ⟨registry, between, hregistry, h⟩
  · cases hregistry
  obtain ⟨rfl, rfl⟩ := EStateM.Result.ok.inj hregistry
  split at h
  · cases h
  rcases bind_eq_error h with htell | ⟨_, told, htell, h⟩
  · cases htell
  obtain ⟨-, rfl⟩ := EStateM.Result.ok.inj htell
  simp only at h
  split at h
  · rcases bind_eq_error h with hdelete | ⟨deleted, left, -, hreport⟩
    · have hfailed := deleteListings_eq_error hdelete
      exact Or.inl hfailed
    · cases hreport
  · obtain ⟨outcomes, done, hwritten⟩ := mapM_writeListing_eq_ok hwrite
      (bench.registry.entries.filter fun entry => !entry.providers.isEmpty)
      { bench with told := bench.told ++ [.logged "Writing output"] }
    rw [bind_of_ok hwritten, bind_of_ok (logText_apply options done)] at h
    rcases bind_eq_error h with hkeep | ⟨_, kept, -, hreport⟩
    · exact Or.inr ⟨done.storage, _, ⟨done.told, rfl⟩, outcome_of_store_eq_error hkeep⟩
    · cases hreport

end Flush

end Work

namespace Session

variable {σ : Type} [Storage σ] {session failed : Session σ} {clock : ℕ → ℕ} {batch : Batch}
  {fault : Fault}

/-- **A round** of a session that goes on, over complete declarations, fails only where the listing
of a target cannot be asked for, or where it is the last and the listings cannot be deleted or the
log cannot be kept. -/
theorem process_eq_error (hwrite : Storage.WritesOrSays σ) (hopen : session.finished = false)
    (hbatch : batch.Complete session.flavor)
    (h : process clock batch session = .error fault failed) :
    Work.Unreadable session.flavor batch session.bench.storage fault ∨
      (batch.final = true ∧ ((Storage.delete session.bench.storage).2.outcome = .error fault ∨
        ∃ written : σ, Work.LosesLog session.options written fault)) := by
  cases hoff : session.options.disabled with
  | true =>
    rw [process, round_of_disabled hopen hoff] at h
    cases h
  | false =>
    rw [process, round_of_enabled hopen hoff, ← Batch.marked] at h
    have hfails := Work.stays_reconcile_of_complete session.bench.storage hbatch
      { number := session.rounds + 1, final := batch.final } (clock session.rounds)
      session.bench ⟨rfl, fun _ _ => trivial⟩
    cases hrun : Work.round session.flavor session.options
        { number := session.rounds + 1, final := batch.final } batch.declarations
        (batch.marked session.flavor) (clock session.rounds) session.bench with
    | ok report bench =>
      rw [hrun] at h
      cases h
    | error cause bench =>
      rw [hrun] at h
      obtain ⟨rfl, -⟩ := EStateM.Result.error.inj h
      rcases bind_eq_error hrun with hreconcile | ⟨report, settled, hreconcile, hflush⟩
      · rw [hreconcile] at hfails
        exact Or.inl hfails.2
      · rw [hreconcile] at hfails
        split at hflush
        · rename_i hfinal
          have hlast := Work.flush_eq_error hwrite hflush
          rw [hfails.storage] at hlast
          rw [(Work.number_of_reconcile hreconcile).2] at hfinal
          exact Or.inr ⟨hfinal, hlast⟩
        · cases hflush

/-- A new target whose listing cannot be asked for ends the round with that fault. -/
theorem process_of_unreadable {flavor : Flavor} {options : Options} {bench : Workbench σ}
    {number : ℕ} (hon : options.disabled = false) (hbatch : batch.Complete flavor)
    {d : Declaration} {more : List Declaration} (hmarked : batch.marked flavor = d :: more)
    {target : String} {targets : List (Option String)}
    (hd : flavor.objection? d = none)
    (htargets : flavor.targets d = some target :: targets)
    (htarget : flavor.targetObjection? d (some target) = none)
    (hnew : target ∉ bench.registry.names)
    (h : (Storage.listing bench.storage target).outcome = .error fault) :
    ∃ failed,
      process clock batch ⟨flavor, options, bench, number, false⟩ = .error fault failed := by
  obtain ⟨registry, storage, told⟩ := bench
  obtain ⟨failed, hfailed⟩ := Work.reconcile_of_unreadable hd htargets htarget hnew h
    hbatch.declarations more { number := number + 1, final := batch.final } (clock number) told
  rw [process_of_enabled hon, hmarked, Work.round, bind_of_error hfailed]
  exact ⟨_, rfl⟩

/-- What a directory **fails over**, whatever is asked of it. To read a listing fails just when its
path is too long, and a path that can be asked for never is. To write one fails as a storage may
fail, to keep a log only where its text has no octets. To delete the listings fails only when a
path is too long that is asked for on the way. -/
structure FailsOverLongPaths (directory : Directory) : Prop where
  askable (path : Path) (h : path.Askable) : ¬ directory.tree.TooLong path
  listing (name : String) (fault : Fault) :
    (Storage.listing directory name).outcome = .error fault ↔
      fault = .os ⟨.nameTooLong, directory.path name⟩ ∧
        directory.tree.TooLong (directory.path name)
  write (name content : String) (fault : Fault)
    (h : (Storage.write directory name content).2.outcome = .error fault) :
    ∃ failure, fault = .storage failure
  keepLog (text : RawText) (fault : Fault)
    (h : (Storage.keepLog directory text).2.outcome = .error fault) :
    text.isWhole = false ∧ fault = .encoding text.unencodable
  delete (fault : Fault) (h : (Storage.delete directory).2.outcome = .error fault) :
    ∃ path, directory.AsksFor path ∧ directory.tree.TooLong path ∧
      fault = .os ⟨.nameTooLong, path⟩

/-- **A directory fails over long paths alone**, but for logs that have no octets. So a round of a
session that goes on, over complete declarations, comes to an end unless a target has a path that
is too long, or the last round is left with listings to be deleted and one of those has, or it is
to keep a log and the options are not loggable. -/
theorem directory_fails_over_long_paths (directory : Directory) (clock : ℕ → ℕ)
    (session : Session Directory) (batch : Batch) (hopen : session.finished = false)
    (hbatch : batch.Complete session.flavor) :
    FailsOverLongPaths directory ∧
    match process clock batch session with
    | .ok _ _ => True
    | .error fault _ =>
      (∃ path, session.bench.storage.tree.TooLong path ∧ fault = .os ⟨.nameTooLong, path⟩ ∧
        ((∃ d ∈ batch.marked session.flavor, ∃ target, some target ∈ session.flavor.targets d ∧
            path = session.bench.storage.path target) ∨
          (batch.final = true ∧ session.bench.storage.AsksFor path))) ∨
      (batch.final = true ∧ session.options.log = true ∧ ¬ session.options.Loggable ∧
        ∃ cause, fault = .encoding cause) := by
  refine ⟨⟨fun path hask hlong => hlong.not_askable hask,
    fun name fault => Directory.outcome_listing_eq_error_iff,
    fun name content fault => Directory.outcome_write_eq_error,
    fun text fault => Directory.outcome_keepLog_eq_error,
    fun fault => Directory.outcome_delete_eq_error⟩, ?_⟩
  cases hrun : process clock batch session with
  | ok report after => trivial
  | error fault failed =>
    have hwrite : Storage.WritesOrSays Directory := fun directory name content fault =>
      Directory.outcome_write_eq_error
    rcases process_eq_error hwrite hopen hbatch hrun with
      ⟨d, hd, target, htarget, hlisting⟩ | ⟨hfinal, hdelete | ⟨written, text, htext, hkeep⟩⟩
    · obtain ⟨hfault, hlong⟩ := Directory.outcome_listing_eq_error_iff.mp hlisting
      exact Or.inl ⟨_, hlong, hfault, Or.inl ⟨d, hd, target, htarget, rfl⟩⟩
    · obtain ⟨path, hasks, hlong, hfault⟩ := Directory.outcome_delete_eq_error hdelete
      exact Or.inl ⟨path, hlong, hfault, Or.inr ⟨hfinal, hasks⟩⟩
    · obtain ⟨hnot, hfault⟩ := Directory.outcome_keepLog_eq_error hkeep
      have hlog : ¬ (session.options.log = true → session.options.Loggable) := fun hloggable =>
        Bool.false_ne_true (hnot.symm.trans (htext.isWhole hloggable))
      obtain ⟨hon, hunloggable⟩ := Classical.not_imp.mp hlog
      exact Or.inr ⟨hfinal, hon, hunloggable, _, hfault⟩

/-- A target that is longer than a name can be makes the reading of its listing fail, and with it
the round of a session that started. Listings beside a file with a path that is too long, here one
that goes down and up many times, cannot be deleted, and the failure is none of the storage. -/
theorem long_target_ends_round :
    let long := String.ofList (List.replicate 256 'n')
    let out : Directory := .below ⟨[], [(["out"], .directory)]⟩ (.ofString "out") "" toolName 0
    let adapter : Declaration :=
      { name := some "a.Adapter", markers := [("type_provider_for", [some long])] }
    let batch : Batch := ⟨[adapter], none, false⟩
    let below := String.ofList (List.replicate 250 'd')
    let beside := String.ofList (List.replicate 40 'n')
    let winding : Path := ⟨false, (List.replicate 15 [below, ".."]).flatten ++ [below]⟩
    let tree : FileTree :=
      ⟨[], [([below], .directory), ([below, beside], .file "a.Other\n".toUTF8)]⟩
    let directory : Directory := .below tree winding "" toolName 0
    (Storage.listing out long).outcome = .error (.os ⟨.nameTooLong, ⟨false, ["out", long]⟩⟩) ∧
    (∃ started, start (new .type ⟨toolName, []⟩ out) = .ok () started ∧
      started.finished = false ∧ batch.Complete .type ∧
      ∃ failed, process (fun _ => 0) batch started =
        .error (.os ⟨.nameTooLong, ⟨false, ["out", long]⟩⟩) failed) ∧
    ∃ path, (Storage.delete directory).2.outcome = .error (.os ⟨.nameTooLong, path⟩) := by
  intro long out adapter batch below beside winding tree directory
  have hname : Path.IsName long := by
    refine ⟨?_, by decide +kernel, by decide +kernel⟩
    rw [String.toList_ofList]
    exact fun hslash => absurd (List.eq_of_mem_replicate hslash) (by decide)
  have hpath : out.path long = ⟨false, ["out", long]⟩ := Path.child_of_isName hname out.resources
  have hlisting : (Storage.listing out long).outcome =
      .error (.os ⟨.nameTooLong, ⟨false, ["out", long]⟩⟩) := by
    have hlocation : out.tree.resolve out.resources = .ok ["out"] := by decide +kernel
    have hdirectory : out.tree.HasDirectory ["out"] := rfl
    rw [← hpath]
    exact Directory.outcome_listing_of_long_name hname hlocation hdirectory (by decide +kernel)
  refine ⟨hlisting, ?_, ?_⟩
  · have hnames : (Storage.names out).Gives [] := by
      have hempty : out.names = .ok [] := by decide +kernel
      rw [Directory.told_names hempty]
      exact ⟨rfl, rfl⟩
    have hon : (⟨toolName, []⟩ : Options).disabled = false := by decide
    obtain ⟨told, hstart, -⟩ := @start_new_of_listed _ _ .type _ _ _ (fun _ => none) hon hnames
      fun name hmem => absurd hmem List.not_mem_nil
    have htargets : Flavor.type.targets adapter = [some long] := rfl
    have hcomplete : batch.Complete .type := by
      rintro d hd
      obtain rfl : d = adapter := List.mem_singleton.mp hd
      refine ⟨by decide, by decide, ?_⟩
      simp [htargets]
    have hnew : long ∉ (Registry.opened (fun _ => none) []).names := by
      rw [Registry.mem_names_opened]
      exact List.not_mem_nil
    exact ⟨_, hstart, rfl, hcomplete,
      process_of_unreadable hon hcomplete rfl rfl htargets rfl hnew hlisting⟩
  · have hfails : (Storage.delete directory).2.outcome.toOption = none := by decide +kernel
    cases hdelete : (Storage.delete directory).2.outcome with
    | ok value =>
      rw [hdelete] at hfails
      cases hfails
    | error fault =>
      obtain ⟨path, -, -, rfl⟩ := Directory.outcome_delete_eq_error hdelete
      exact ⟨path, rfl⟩

/-- A round over a target with a path that can be asked for comes to an end. -/
theorem directory_fails_over_long_paths_of_short_target :
    let out : Directory := .below ⟨[], [(["out"], .directory)]⟩ (.ofString "out") "" toolName 0
    let session : Session Directory := new .type ⟨toolName, []⟩ out
    let batch : Batch :=
      ⟨[{ name := some "a.Adapter", markers := [("type_provider_for", [some "a.Port"])] }], none,
        false⟩
    session.finished = false ∧ batch.Complete session.flavor ∧ (out.path "a.Port").Askable ∧
      (∀ fault, (Storage.listing out "a.Port").outcome ≠ .error fault) ∧
      ∃ report after, process (fun _ => 0) batch session = .ok report after := by
  intro out session batch
  have hbatch : batch.Complete session.flavor := by decide
  have htargets : ∀ d ∈ batch.marked session.flavor, ∀ target ∈ session.flavor.targets d,
      target = some "a.Port" := by decide +kernel
  have hask : (out.path "a.Port").Askable := by decide +kernel
  obtain ⟨hfails, hround⟩ :=
    directory_fails_over_long_paths out (fun _ => 0) session batch rfl hbatch
  refine ⟨rfl, hbatch, hask, fun fault hfault => ?_, ?_⟩
  · exact hfails.askable _ hask ((hfails.listing _ fault).mp hfault).2
  cases hrun : process (fun _ => 0) batch session with
  | ok report after => exact ⟨report, after, rfl⟩
  | error fault failed =>
    rw [hrun] at hround
    obtain ⟨path, hlong, -, ⟨d, hd, target, htarget, rfl⟩ | ⟨hfinal, -⟩⟩ | ⟨hfinal, -⟩ := hround
    · rw [Option.some.inj (htargets d hd _ htarget)] at hlong
      exact absurd hlong (hfails.askable _ hask)
    · cases hfinal
    · cases hfinal

end Session

end ProviderRegistry
