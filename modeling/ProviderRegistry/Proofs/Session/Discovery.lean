import Mathlib.Logic.Relation
import ProviderRegistry.Proofs.Session.LastRound
import ProviderRegistry.Proofs.Storage.Directory

/-!
# What was written can be found and deleted

A storage **received** a name when a listing was written under it and nothing was deleted since,
whatever else was asked of it (`Storage.Received`). It **discovers** the name (`Storage.Discovers`)
when the name is among the names that it tells, a deletion that succeeds takes it away, and a new
session remembers it. Both storages discover what they received, and so what a session reports as
written, but for the names of logs (`received_is_discovered`).

Those are passed over on purpose, whoever wrote them, so a listing under such a name is neither
found nor deleted; and a directory with a file whose path is too long to be asked for does not tell
its names at all (`log_name_is_hidden`). That is all that keeps a name from being told in a tree
whose files and directories can be read, searched and written, as they can in every tree here.
-/

namespace ProviderRegistry

namespace Storage

variable {σ : Type} [Storage σ] {storage before after : σ} {name : String}

/-! ### Storages that received a name -/

/-- One call that does not delete the listings. -/
inductive Spares : σ → σ → Prop
  | write (storage : σ) (name content : String) :
    Spares storage (Storage.write storage name content).1
  | keepLog (storage : σ) (text : RawText) : Spares storage (Storage.keepLog storage text).1
  | refused {storage : σ} (h : (Storage.delete storage).2.outcome ≠ .ok ()) :
    Spares storage (Storage.delete storage).1

/-- From one state of a storage to a later one nothing is deleted. -/
def Undeleted : σ → σ → Prop := Relation.ReflTransGen Spares

/-- A storage **received** a name when it was written and nothing was deleted since. -/
def Received (storage : σ) (name : String) : Prop :=
  ∃ (before : σ) (content : String), (Storage.write before name content).2.outcome = .ok () ∧
    Undeleted (Storage.write before name content).1 storage

theorem Received.of_undeleted (h : Received before name) (hlater : Undeleted before after) :
    Received after name := by
  obtain ⟨first, content, hwrite, hundeleted⟩ := h
  exact ⟨first, content, hwrite, hundeleted.trans hlater⟩

/-- What a write brings about and no other call undoes is so when the name was received. -/
theorem Received.induction {P : σ → Prop} (h : Received storage name)
    (hwrite : ∀ (before : σ) (content : String),
      (Storage.write before name content).2.outcome = .ok () →
        P (Storage.write before name content).1)
    (hspares : ∀ before after : σ, Spares before after → P before → P after) : P storage := by
  obtain ⟨before, content, hok, hundeleted⟩ := h
  induction hundeleted with
  | refl => exact hwrite before content hok
  | tail _ hstep ih => exact hspares _ _ hstep ih

/-! ### Storages that discover a name -/

/-- A storage **discovers** a name when the name is told, deleted, and remembered by a new session.
A session that is on fails to start only where the names are not told. -/
structure Discovers (storage : σ) (name : String) : Prop where
  listed : ∀ names, (Storage.names storage).outcome = .ok names → name ∈ names
  deleted : (Storage.delete storage).2.outcome = .ok () →
    (Storage.listing (Storage.delete storage).1 name).outcome = .ok none ∧
      ∀ names, (Storage.names (Storage.delete storage).1).outcome = .ok names → name ∉ names
  remembered : ∀ (flavor : Flavor) (options : Options), options.disabled = false →
    match Session.start (Session.new flavor options storage) with
    | .ok () started =>
      ∃ entry ∈ started.bench.registry.snapshot.getD [], entry.name = name
    | .error fault _ => (Storage.names storage).outcome = .error fault

/-- A storage **answers** for its names when it gives the texts of all names that it tells. -/
def Answers (storage : σ) : Prop :=
  ∀ names, (Storage.names storage).outcome = .ok names →
    (Storage.names storage).Gives names ∧
      ∀ name ∈ names, ∃ text, (Storage.listing storage name).Gives text

/-- A new session remembers the names that are told. -/
theorem Answers.remembered (h : Answers storage)
    (hlisted : ∀ names, (Storage.names storage).outcome = .ok names → name ∈ names)
    (flavor : Flavor) {options : Options} (hon : options.disabled = false) :
    match Session.start (Session.new flavor options storage) with
    | .ok () started =>
      ∃ entry ∈ started.bench.registry.snapshot.getD [], entry.name = name
    | .error fault _ => (Storage.names storage).outcome = .error fault := by
  cases hnames : (Storage.names storage).outcome with
  | error fault =>
    have hopen : ∀ bench : Workbench σ, bench.storage = storage → ∃ failed,
        (Work.openSession : Work σ Unit) bench = .error fault failed := by
      rintro bench rfl
      refine ⟨{ bench with told := bench.told ++ (Storage.names bench.storage).told }, ?_⟩
      simp only [Work.openSession, Work.take, hnames, bind_apply, get_apply]
      rfl
    obtain ⟨failed, hfailed⟩ := hopen (.new storage) rfl
    have hstart : Session.start (Session.new flavor options storage) =
        .error fault { Session.new flavor options storage with bench := failed } := by
      simp only [Session.start, bind_apply, get_apply, Session.new, hon, Bool.not_false, if_true,
        Session.work, hfailed]
    rw [hstart]
  | ok names =>
    obtain ⟨hgives, htexts⟩ := h names hnames
    choose! text htext using htexts
    obtain ⟨told, hstart, -⟩ := Session.start_new_of_listed flavor hon hgives htext
    have hname : name ∈ (Registry.opened text names).names :=
      Registry.mem_names_opened.mpr (hlisted names hnames)
    rw [hstart]
    exact List.mem_map.mp hname

end Storage

/-! ### Storage in memory -/

namespace Memory

variable {memory : Memory} {name : String}

open Storage

theorem answers (memory : Memory) : Answers memory := by
  intro names hnames
  obtain rfl := Except.ok.inj hnames
  exact ⟨memory.offers.names, fun name _ => ⟨_, memory.offers.listing name⟩⟩

theorem mem_map_fst_of_received (h : Received memory name) :
    name ∈ memory.resources.map Prod.fst := by
  refine Received.induction (P := fun memory => name ∈ memory.resources.map Prod.fst) h
    (fun before content hok => ?_) fun before after hspares hbefore => ?_
  · change (before.write name content).2 = .ok () at hok
    change name ∈ (before.write name content).1.resources.map Prod.fst
    by_cases hrefused : name ∈ before.refusedWrites
    · rw [Memory.write, if_pos hrefused] at hok
      cases hok
    · rw [Memory.write, if_neg hrefused]
      exact List.mem_map_of_mem (mem_put.mpr (Or.inl rfl))
  · cases hspares with
    | write other content =>
      change name ∈ (before.write other content).1.resources.map Prod.fst
      rw [Memory.write]
      split
      · exact hbefore
      · rw [map_fst_put]
        split
        · exact hbefore
        · exact List.mem_append_left _ hbefore
    | keepLog text =>
      change name ∈ (before.keepLog text).resources.map Prod.fst
      rwa [keepLog_eq]
    | refused hrefused =>
      change before.delete.2 ≠ .ok () at hrefused
      change name ∈ before.delete.1.resources.map Prod.fst
      by_cases hrefuses : before.refusesDelete = true
      · rwa [Memory.delete, if_pos hrefuses]
      · rw [Memory.delete, if_neg hrefuses] at hrefused
        exact absurd rfl hrefused

/-- A memory discovers what it received. -/
theorem discovers_of_received (h : Received memory name) (hlog : Listing.isLogName name = false) :
    Discovers memory name := by
  have hlisted : ∀ names, (Storage.names memory).outcome = .ok names → name ∈ names := by
    intro names hnames
    obtain rfl := Except.ok.inj hnames
    exact mem_names_iff.mpr ⟨mem_map_fst_of_received h, hlog⟩
  refine ⟨hlisted, fun hdelete => ?_,
    fun flavor options hon => (answers memory).remembered hlisted flavor hon⟩
  change memory.delete.2 = .ok () at hdelete
  have hgone : memory.delete.1.listing? name = none := by
    by_cases hrefuses : memory.refusesDelete = true
    · rw [Memory.delete, if_pos hrefuses] at hdelete
      cases hdelete
    · rw [Memory.delete, if_neg hrefuses, Memory.listing?, lookup_filter, hlog,
        if_neg Bool.false_ne_true]
  refine ⟨congrArg Except.ok hgone, fun names hnames hname => ?_⟩
  obtain rfl := Except.ok.inj hnames
  obtain ⟨pair, hpair, hfst⟩ := List.mem_map.mp (mem_names_iff.mp hname).1
  have hnone := List.lookup_eq_none_iff.mp hgone pair hpair
  simp [hfst] at hnone

end Memory

/-! ### Storage in a directory -/

namespace Directory

variable {directory : Directory} {name : String}

open Storage

theorem answers (directory : Directory) : Answers directory := by
  intro names hnames
  have htold := outcome_names_eq_ok_iff.mp hnames
  refine ⟨⟨hnames, ?_⟩, fun name hname => ?_⟩
  · simp [told_names htold, discovered, Event.logged, Event.diagnosis?]
  · obtain ⟨text, told, hlisting, hquiet⟩ :=
      exists_listing_of_isFile_true (isFile_of_mem_names htold hname)
    refine ⟨text, ?_⟩
    change (directory.listing name).Gives text
    rw [hlisting]
    refine ⟨rfl, ?_⟩
    rcases hquiet with rfl | ⟨note, rfl⟩
    · rfl
    · rfl

theorem holds_of_received (h : Received directory name) (hname : Path.IsName name) :
    directory.Holds name := by
  refine Received.induction (P := fun directory => directory.Holds name) h
    (fun before content hok => ?_) fun before after hspares hbefore => ?_
  · refine holds_of_writeFile hname ?_
    change (before.writeFile name (Listing.header before.tool ++ content : String)).2.mapError _ =
      .ok () at hok
    cases hwrite : (before.writeFile name (Listing.header before.tool ++ content : String)).2 with
    | ok value => rfl
    | error failure =>
      rw [hwrite] at hok
      cases hok
  · cases hspares with
    | write other content => exact hbefore.of_extends (extends_writeFile before other _)
    | keepLog text => exact hbefore.of_extends (extends_keepLog before text)
    | refused hrefused =>
      change before.delete.2.outcome ≠ .ok () at hrefused
      change before.delete.1.Holds name
      cases hnames : before.names with
      | error failure => rwa [delete_of_failure hnames]
      | ok names =>
        rw [delete_of_names hnames] at hrefused
        exact absurd (removeFiles_of_names hnames) hrefused

/-- A directory discovers what it holds. -/
theorem Holds.discovers (h : directory.Holds name) (hlog : Listing.isLogName name = false) :
    Discovers directory name := by
  have hlisted : ∀ names, (Storage.names directory).outcome = .ok names → name ∈ names :=
    fun names hnames => h.mem_names hlog (outcome_names_eq_ok_iff.mp hnames)
  refine ⟨hlisted, fun hdelete => ?_,
    fun flavor options hon => (answers directory).remembered hlisted flavor hon⟩
  have hgone := h.isFile_delete hlog hdelete
  constructor
  · change (directory.delete.1.listing name).outcome = .ok none
    rw [listing_of_isFile_false hgone]
    rfl
  · intro names hnames hmem
    have hfile := isFile_of_mem_names (outcome_names_eq_ok_iff.mp hnames) hmem
    exact Bool.false_ne_true (Except.ok.inj (hgone.symm.trans hfile))

/-- What a directory holds does not depend on who opens it and when. -/
theorem Holds.reopened (h : directory.Holds name) (tool : String) (clock : ℕ) :
    Holds { directory with tool, clock } name := h

end Directory

/-! ### What a session writes -/

namespace Work

variable {σ : Type} [Storage σ] {bench done : Workbench σ} {name : String}

open Storage

/-- Writing the listing of an entry is one call; where no failure comes of it the storage received
the name. -/
theorem received_of_writeListing {entry : Entry} {failure : Option Diagnostic}
    (h : writeListing entry bench = .ok failure done) :
    Undeleted bench.storage done.storage ∧
      (failure = none → Received done.storage entry.name) := by
  have hcall : Spares bench.storage (Storage.write bench.storage entry.name entry.render).1 :=
    .write ..
  rw [writeListing, store_apply] at h
  cases houtcome : (Storage.write bench.storage entry.name entry.render).2.outcome with
  | ok value =>
    rw [houtcome] at h
    obtain ⟨rfl, rfl⟩ := EStateM.Result.ok.inj h
    exact ⟨.single hcall, fun _ => ⟨bench.storage, entry.render, houtcome, .refl⟩⟩
  | error fault =>
    rw [houtcome] at h
    cases fault with
    | storage cause =>
      obtain ⟨rfl, rfl⟩ := EStateM.Result.ok.inj h
      exact ⟨.single hcall, fun hnone => absurd hnone (Option.some_ne_none _)⟩
    | _ => cases h

/-- Listings are written one after the other, and no writing undoes another. -/
theorem received_of_mapM_writeListing {entries : List Entry}
    {outcomes : List (String × Option Diagnostic)}
    (h : (entries.mapM fun entry => return (entry.name, ← writeListing entry) : Work σ _) bench =
      .ok outcomes done) :
    Undeleted bench.storage done.storage ∧
      ∀ name, (name, none) ∈ outcomes → Received done.storage name := by
  induction entries generalizing bench outcomes with
  | nil =>
    obtain ⟨rfl, rfl⟩ := EStateM.Result.ok.inj h
    exact ⟨.refl, fun name hname => absurd hname List.not_mem_nil⟩
  | cons entry entries ih =>
    rw [List.mapM_cons] at h
    obtain ⟨first, between, hfirst, hrest⟩ := bind_eq_ok h
    obtain ⟨later, last, hlater, hpure⟩ := bind_eq_ok hrest
    obtain ⟨rfl, rfl⟩ := EStateM.Result.ok.inj hpure
    obtain ⟨failure, written, hwrite, hreturn⟩ := bind_eq_ok hfirst
    obtain ⟨rfl, rfl⟩ := EStateM.Result.ok.inj hreturn
    obtain ⟨hundeleted, hreceived⟩ := received_of_writeListing hwrite
    -- the writings that follow delete nothing, so what the first one brought stays received
    obtain ⟨hundeleted', hreceived'⟩ := ih hlater
    refine ⟨hundeleted.trans hundeleted', fun name hname => ?_⟩
    rcases List.mem_cons.mp hname with heq | hname
    · obtain ⟨rfl, rfl⟩ := Prod.mk.inj heq
      exact (hreceived rfl).of_undeleted hundeleted'
    · exact hreceived' name hname

/-- **What a flush reports** as written the storage received. -/
theorem received_of_flush {options : Options} {report last : Report}
    (h : flush options report bench = .ok last done) (hreport : report.written = [])
    (hname : name ∈ last.written) : Received done.storage name := by
  have hnone : name ∉ report.written := by
    rw [hreport]
    exact List.not_mem_nil
  rw [flush] at h
  obtain ⟨registry, bench', hregistry, h⟩ := bind_eq_ok h
  obtain ⟨rfl, rfl⟩ := EStateM.Result.ok.inj hregistry
  split at h
  · obtain ⟨rfl, -⟩ := EStateM.Result.ok.inj h
    exact absurd hname hnone
  obtain ⟨-, told, -, h⟩ := bind_eq_ok h
  simp only at h
  split at h
  · obtain ⟨deleted, last', -, h⟩ := bind_eq_ok h
    obtain ⟨rfl, -⟩ := EStateM.Result.ok.inj h
    exact absurd hname hnone
  · obtain ⟨outcomes, written, hwritten, h⟩ := bind_eq_ok h
    obtain ⟨text, written', htext, h⟩ := bind_eq_ok h
    obtain ⟨-, rfl⟩ := EStateM.Result.ok.inj htext
    obtain ⟨value, kept, hkept, h⟩ := bind_eq_ok h
    obtain ⟨rfl, rfl⟩ := EStateM.Result.ok.inj h
    obtain ⟨⟨found, failure⟩, hmem, hsome⟩ := List.mem_filterMap.mp hname
    cases failure with
    | some diagnostic => cases hsome
    | none =>
      obtain rfl := Option.some.inj hsome
      rw [storage_of_store_eq_ok hkept]
      exact ((received_of_mapM_writeListing hwritten).2 found hmem).of_undeleted
        (.single (.keepLog _ _))

end Work

namespace Session

variable {σ : Type} [Storage σ] {clock : ℕ → ℕ} {session after : Session σ} {name : String}

open Storage

/-- A round that reports something as written is the last one, and the storage received it. -/
theorem received_of_process {batch : Batch} {report : Report}
    (h : process clock batch session = .ok report after) (hname : name ∈ report.written) :
    Received after.bench.storage name ∧ after.finished = true := by
  rw [process] at h
  cases hopen : session.finished with
  | true =>
    rw [round_of_finished hopen] at h
    cases h
  | false =>
    cases hoff : session.options.disabled with
    | true =>
      rw [round_of_disabled hopen hoff] at h
      obtain ⟨rfl, -⟩ := EStateM.Result.ok.inj h
      exact absurd hname List.not_mem_nil
    | false =>
      rw [round_of_enabled hopen hoff] at h
      have hround := @Work.round_final σ session.flavor _ session.options (session.rounds + 1)
        (clock session.rounds) batch.declarations
        (batch.annotated.getD
          (batch.declarations.filter (·.hasMarker session.flavor.marker.name))) session.bench
      split at h
      · rename_i last bench hrun
        obtain ⟨rfl, rfl⟩ := EStateM.Result.ok.inj h
        cases hfinal : batch.final with
        | false =>
          rw [hfinal] at hrun
          rw [hrun] at hround
          rw [hround.2.2.written] at hname
          exact absurd hname List.not_mem_nil
        | true =>
          rw [hfinal] at hrun
          split at hround
          · rw [hround] at hrun
            cases hrun
          · obtain ⟨hflush, -, hreport⟩ := hround
            rw [hflush] at hrun
            exact ⟨Work.received_of_flush hrun hreport.written hname, rfl⟩
      · cases h

/-- **What a session reports** as written its storage received, however the session went on. -/
theorem received_of_play (clock : ℕ → ℕ) (batches : List Batch) (session : Session σ) :
    ∀ round ∈ (play clock batches session).1, ∀ name ∈ round.2.written,
      Received (play clock batches session).2.bench.storage name := by
  induction batches generalizing session with
  | nil => exact fun round hround => absurd hround List.not_mem_nil
  | cons batch batches ih =>
    cases hprocess : process clock batch session with
    | error fault next =>
      rw [play_cons_of_error hprocess]
      exact ih next
    | ok report next =>
      rw [play_cons_of_ok hprocess]
      refine List.forall_mem_cons.mpr ⟨fun name hname => ?_, ih next⟩
      -- after a round that wrote something the session is over, so its storage stays as it is
      obtain ⟨hreceived, hfinished⟩ := received_of_process hprocess hname
      rwa [play_of_finished hfinished]

/-! ### Discovery -/

/-- **What was written is discovered.** A listing that was written under a name that is not that of
a log is told until the listings are deleted, is gone when they are, and is remembered by every
session that starts in between; so is every listing that a session reports as written. In a
directory, which may be opened anew, this holds of names that a file can have, and of every time
that the names are told, which they are unless something in the directory has a path that cannot be
asked for. -/
theorem received_is_discovered :
    (∀ (memory : Memory) (name : String), Received memory name → Listing.isLogName name = false →
      Discovers memory name ∧ ∃ names, (Storage.names memory).outcome = .ok names) ∧
    (∀ (directory : Directory) (name : String), Path.IsName name → Received directory name →
      Listing.isLogName name = false →
      (∀ tool clock, Discovers { directory with tool, clock } name) ∧
        (directory.Listable → ∃ names, (Storage.names directory).outcome = .ok names)) ∧
    (∀ (clock : ℕ → ℕ) (batches : List Batch) (session : Session Memory),
      ∀ round ∈ (play clock batches session).1, ∀ name ∈ round.2.written,
        Listing.isLogName name = false →
        ∀ later, Undeleted (play clock batches session).2.bench.storage later →
          Discovers later name) ∧
    (∀ (clock : ℕ → ℕ) (batches : List Batch) (session : Session Directory),
      ∀ round ∈ (play clock batches session).1, ∀ name ∈ round.2.written, Path.IsName name →
        Listing.isLogName name = false →
        ∀ later, Undeleted (play clock batches session).2.bench.storage later →
          ∀ tool clock, Discovers { later with tool, clock } name) := by
  refine ⟨fun memory name hreceived hlog => ?_, fun directory name hname hreceived hlog => ?_,
    fun clock batches session round hround name hname hlog later hlater => ?_,
    fun clock batches session round hround name hwritten hname hlog later hlater tool clock' => ?_⟩
  · exact ⟨Memory.discovers_of_received hreceived hlog, memory.names, rfl⟩
  · have hholds := Directory.holds_of_received hreceived hname
    refine ⟨fun tool clock => (hholds.reopened tool clock).discovers hlog, fun hlistable => ?_⟩
    obtain ⟨names, hnames⟩ := hholds.exists_names hlistable
    exact ⟨names, Directory.outcome_names_eq_ok_iff.mpr hnames⟩
  · have hreceived := received_of_play clock batches session round hround name hname
    exact Memory.discovers_of_received (hreceived.of_undeleted hlater) hlog
  · have hreceived := received_of_play clock batches session round hround name hwritten
    have hholds := Directory.holds_of_received (hreceived.of_undeleted hlater) hname
    exact (hholds.reopened tool clock').discovers hlog

/-- A listing under the name of a log is not told and not deleted. A listing in a directory is not
told either while something beside it has a path that is too long, here one that goes down and up
many times. -/
theorem log_name_is_hidden :
    let memory : Memory := (Storage.write ({ resources := [] } : Memory) "audit.Log" "a.Sink\n").1
    let below := String.ofList (List.replicate 250 'd')
    let beside := String.ofList (List.replicate 40 'n')
    let winding : Path := ⟨false, (List.replicate 15 [below, ".."]).flatten ++ [below]⟩
    let tree : FileTree :=
      ⟨[], [([below], .directory), ([below, beside], .file "a.Other\n".toUTF8)]⟩
    let directory : Directory :=
      (Storage.write (Directory.below tree winding "" toolName 0) "p" "a.B\n").1
    (Received memory "audit.Log" ∧ (Storage.names memory).outcome = .ok [] ∧
      (Storage.delete memory).2.outcome = .ok () ∧
      (Storage.listing (Storage.delete memory).1 "audit.Log").outcome =
        .ok (some "# Generated by provreg (0.3.0)\na.Sink\n")) ∧
    Path.IsName "p" ∧ Received directory "p" ∧
      ∀ names, (Storage.names directory).outcome ≠ .ok names := by
  intro memory below beside winding tree directory
  have hname : Path.IsName "p" := by decide
  let empty := Directory.below tree winding "" toolName 0
  obtain ⟨hwrite, hlocation, hbeside, hfails⟩ :
      (Storage.write empty "p" "a.B\n").2.outcome = .ok () ∧
        directory.tree.resolve directory.resources = .ok [below] ∧
        beside ∈ directory.tree.namesIn [below] ∧
        (directory.tree.isFile (directory.path beside)).toOption = none := by decide +kernel
  have hreceived : Received directory "p" := ⟨empty, "a.B\n", hwrite, .refl⟩
  refine ⟨⟨⟨_, _, rfl, .refl⟩, by decide +kernel, by decide +kernel, by decide +kernel⟩, hname,
    hreceived, fun names hnames => ?_⟩
  obtain ⟨-, location, hresources, hdirectory, -, -⟩ := Directory.holds_of_received hreceived hname
  obtain rfl := Except.ok.inj (hlocation.symm.trans hresources)
  obtain ⟨isFile, hisFile⟩ := (Directory.exists_names_iff hresources hdirectory).mp
    ⟨names, Directory.outcome_names_eq_ok_iff.mp hnames⟩ beside hbeside
  rw [hisFile] at hfails
  cases hfails

/-- A name that a session wrote, to a memory or to a directory, is discovered. -/
theorem received_is_discovered_of_one_round :
    let adapter : Declaration :=
      { name := some "a.Adapter", markers := [("type_provider_for", [some "a.Port"])] }
    let batches : List Batch := [⟨[adapter], none, true⟩]
    let folder : Directory := .below ⟨[], []⟩ (.ofString "out") "" toolName 0
    let first : Session Memory := new .type ⟨toolName, []⟩ { resources := [] }
    let second : Session Directory := new .type ⟨toolName, []⟩ folder
    let kept := play (fun _ => 0) batches first
    let filed := play (fun _ => 0) batches second
    Listing.isLogName "a.Port" = false ∧ Path.IsName "a.Port" ∧
      Received kept.2.bench.storage "a.Port" ∧ Discovers kept.2.bench.storage "a.Port" ∧
      Received filed.2.bench.storage "a.Port" ∧
      (∀ tool clock, Discovers { filed.2.bench.storage with tool, clock } "a.Port") ∧
      filed.2.bench.storage.Listable ∧
      ∃ names, (Storage.names filed.2.bench.storage).outcome = .ok names := by
  intro adapter batches folder first second kept filed
  have hlog : Listing.isLogName "a.Port" = false := by decide
  have hname : Path.IsName "a.Port" := by decide
  obtain ⟨round, hround, hwritten⟩ : ∃ round ∈ kept.1, "a.Port" ∈ round.2.written := by
    decide +kernel
  obtain ⟨round', hround', hwritten'⟩ : ∃ round ∈ filed.1, "a.Port" ∈ round.2.written := by
    decide +kernel
  have hkept := received_of_play (fun _ => 0) batches first round hround _ hwritten
  have hfiled := received_of_play (fun _ => 0) batches second round' hround' _ hwritten'
  have hlistable : filed.2.bench.storage.Listable := by
    intro location hresources
    have hout : filed.2.bench.storage.tree.resolve filed.2.bench.storage.resources =
        .ok ["out"] := by decide +kernel
    obtain rfl := Except.ok.inj (hout.symm.trans hresources)
    decide +kernel
  obtain ⟨-, hdirectories, hsessions, -⟩ := received_is_discovered
  obtain ⟨hdiscovers, hnames⟩ :=
    hdirectories filed.2.bench.storage "a.Port" hname hfiled hlog
  exact ⟨hlog, hname, hkept,
    hsessions (fun _ => 0) batches first round hround _ hwritten hlog _ .refl, hfiled,
    hdiscovers, hlistable, hnames hlistable⟩

end Session

end ProviderRegistry
