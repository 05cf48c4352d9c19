import ProviderRegistry.Generation
import ProviderRegistry.Proofs.Session.Life
import ProviderRegistry.Proofs.Session.Unflushed
import ProviderRegistry.Proofs.Storage.Confined

/-!
# How far an option reaches

A workbench over a directory is **confined** to what the directory reaches when it is asked for
some names (`Workbench.Confined`): nothing else has changed, and its entries are for these names
and for names of files. Every piece of work keeps this, whether it comes to an end or fails: the
listings that a directory tells have names of files, and a round asks for targets besides. So does
every call of a session (`Session.keeps_process`), a whole life, and a generation.

So it is the place of the directory that matters. An option names it by components below the root
of the output, and these may lead out of the root again: the place is below every root just when
they come down to no step out (`directory_reaches`). Nothing holds them back, and a session over
such a directory deletes and overwrites what it finds there (`directory_leaves_root`).
-/

namespace ProviderRegistry

open FileTree

/-- The names that a batch **asks for**: the targets of what is to be registered. -/
def Batch.Asks (flavor : Flavor) (batch : Batch) (name : String) : Prop :=
  ∃ d ∈ batch.marked flavor, some name ∈ flavor.targets d

/-- The names under which a directory has listings that is asked for some names: those of files,
and the names themselves. -/
def Directory.NameFor (asked : String → Prop) (name : String) : Prop :=
  Path.IsName name ∨ asked name

/-- A workbench over a directory is **confined** when what has become of the directory is, and its
entries have names for which the directory has listings. -/
structure Workbench.Confined (directory : Directory) (asked : String → Prop)
    (bench : Workbench Directory) : Prop where
  storage : directory.Confined asked bench.storage
  names : ∀ name ∈ bench.registry.names, Directory.NameFor asked name

/-! ### Rounds -/

namespace Work

variable {α : Type} {directory : Directory} {asked : String → Prop} {flavor : Flavor}

/-- Work that leaves every storage as it is, and asks for no other names, keeps a workbench
confined. -/
theorem keeps_of_stays {work : Work Directory α}
    (h : ∀ storage, Stays storage (Directory.NameFor asked) (fun _ => True) work) :
    Keeps (Workbench.Confined directory asked) work := by
  intro bench hbench
  have hdone := h bench.storage bench ⟨rfl, hbench.names⟩
  cases hrun : work bench with
  | ok value done =>
    rw [hrun] at hdone
    exact ⟨hdone.storage ▸ hbench.storage, hdone.names⟩
  | error fault failed =>
    rw [hrun] at hdone
    exact ⟨hdone.1.storage ▸ hbench.storage, hdone.1.names⟩

theorem keeps_tell (events : List Event) :
    Keeps (Workbench.Confined directory asked) (tell events) :=
  fun _ hbench => ⟨hbench.storage, hbench.names⟩

/-- Work that uses the storage for one step, and makes anything of the outcome, keeps what the step
keeps. -/
theorem keeps_of_step {β : Type} {step : Directory → Directory × Answer α}
    (h : ∀ directory : Directory, directory.Confined asked (step directory).1)
    {work : Work Directory β}
    (hwork : ∀ bench, match work bench with
      | .ok _ done | .error _ done =>
        done.storage = (step bench.storage).1 ∧ done.registry = bench.registry) :
    Keeps (Workbench.Confined directory asked) work := by
  intro bench hbench
  have hdone := hwork bench
  have hstorage := hbench.storage.trans (h bench.storage)
  cases hrun : work bench with
  | ok value done =>
    rw [hrun] at hdone
    exact ⟨hdone.1 ▸ hstorage, hdone.2 ▸ hbench.names⟩
  | error fault failed =>
    rw [hrun] at hdone
    exact ⟨hdone.1 ▸ hstorage, hdone.2 ▸ hbench.names⟩

/-- What a storage does without leaving its reach. -/
theorem keeps_store {step : Directory → Directory × Answer α}
    (h : ∀ directory : Directory, directory.Confined asked (step directory).1) :
    Keeps (Workbench.Confined directory asked) (store step) := by
  refine keeps_of_step h fun bench => ?_
  rw [store_apply]
  cases (step bench.storage).2.outcome with
  | ok value => exact ⟨rfl, rfl⟩
  | error fault => exact ⟨rfl, rfl⟩

theorem keeps_writeListing {entry : Entry} (h : Directory.NameFor asked entry.name) :
    Keeps (Workbench.Confined directory asked) (writeListing entry) := by
  refine keeps_of_step (fun directory => Directory.confined_write h directory entry.render)
    fun bench => ?_
  rw [writeListing, store_apply]
  cases (Storage.write bench.storage entry.name entry.render).2.outcome with
  | ok value => exact ⟨rfl, rfl⟩
  | error fault => cases fault <;> exact ⟨rfl, rfl⟩

theorem keeps_deleteListings :
    Keeps (Workbench.Confined directory asked) deleteListings := by
  refine keeps_of_step (Directory.confined_delete asked) fun bench => ?_
  rw [deleteListings, store_apply]
  cases (Storage.delete bench.storage).2.outcome with
  | ok value => exact ⟨rfl, rfl⟩
  | error fault => cases fault <;> exact ⟨rfl, rfl⟩

/-- **The flush** is confined, since all entries have names for which there may be listings. -/
theorem keeps_flush (options : Options) (report : Report) :
    Keeps (Workbench.Confined directory asked) (flush options report) := by
  have hregistry : Leads (Workbench.Confined directory asked) registry
      (fun registry done => done.Confined directory asked ∧
        ∀ name ∈ registry.names, Directory.NameFor asked name)
      fun _ => Workbench.Confined directory asked :=
    leads_get.bind fun _ => leads_pure fun _ hbench => ⟨hbench.1, hbench.2.names⟩
  refine hregistry.bind fun registry => leads_of_and fun hnames => ?_
  split
  · exact leads_pure fun _ => id
  refine (keeps_tell _).bind fun _ => ?_
  dsimp only
  split
  · exact keeps_deleteListings.bind fun _ => leads_pure fun _ => id
  refine (leads_mapM fun entry hentry => ?_).bind fun _ => ?_
  · have hname : entry.name ∈ registry.names :=
      List.mem_map_of_mem (List.mem_of_mem_filter hentry)
    exact (keeps_writeListing (hnames _ hname)).bind fun _ => leads_pure fun _ => id
  · have htext : Keeps (Workbench.Confined directory asked) (logText (σ := Directory) options) :=
      leads_get.bind fun _ => leads_pure fun _ hbench => hbench.1
    refine htext.bind fun text => Leads.bind ?_ fun _ => leads_pure fun _ => id
    exact keeps_store fun directory => Directory.confined_keepLog directory text

/-- **A round** that asks for targets of some kind is confined, whether it is the last or not. -/
theorem keeps_round (options : Options) {annotated : List Declaration}
    (h : ∀ d ∈ annotated, ∀ target, some target ∈ flavor.targets d → asked target)
    (report : Report) (declarations : List Declaration) (duration : ℕ) :
    Keeps (Workbench.Confined directory asked)
      (round flavor options report declarations annotated duration) := by
  have hreconcile : ∀ storage : Directory, Stays storage (Directory.NameFor asked) (fun _ => True)
      (reconcile flavor report declarations annotated duration) := fun storage =>
    stays_reconcile (Or.inr fun _ => trivial) (Or.inr fun _ => trivial)
      (fun d hd target htarget => ⟨Or.inr (h d hd target htarget), fun _ _ => trivial⟩)
      report duration
  refine (keeps_of_stays hreconcile).bind fun settled => ?_
  split
  · exact keeps_flush options settled
  · exact leads_pure fun _ => id

end Work

/-! ### Sessions -/

namespace Session

variable {directory : Directory} {asked : String → Prop} {flavor : Flavor}
  {session : Session Directory} {clock : ℕ → ℕ}

/-- A session over a directory is **confined** when its workbench is. -/
structure Confined (directory : Directory) (asked : String → Prop) (flavor : Flavor)
    (session : Session Directory) : Prop where
  flavor : session.flavor = flavor
  bench : session.bench.Confined directory asked

/-- Work that keeps the workbench confined keeps the session so. -/
theorem keeps_work {α : Type} {step : Work Directory α}
    (h : Keeps (Workbench.Confined directory asked) step) :
    Keeps (Confined directory asked flavor) (work step) := by
  intro session hsession
  have hstep := h session.bench hsession.bench
  rw [work]
  cases hrun : step session.bench with
  | ok value done =>
    rw [hrun] at hstep
    exact ⟨hsession.flavor, hstep⟩
  | error fault failed =>
    rw [hrun] at hstep
    exact ⟨hsession.flavor, hstep⟩

/-- A session that starts has entries for the names that the directory tells. -/
theorem confined_of_start {options : Options} {started : Session Directory}
    (h : start (new flavor options directory) = .ok () started) :
    started.Confined directory asked flavor := by
  have hnew : (new flavor options directory).Confined directory asked flavor :=
    ⟨rfl, .refl asked directory, fun name hname => absurd hname List.not_mem_nil⟩
  have hopen : ∀ storage, Work.Stays storage (Directory.NameFor asked) (fun _ => True)
      Work.openSession := fun storage => Work.stays_openSession fun names hnames name hname =>
    Or.inl (Directory.isName_of_mem_names (Directory.outcome_names_eq_ok_iff.mp hnames) hname)
  have hstart : Keeps (Confined directory asked flavor) start := by
    refine leads_get.bind fun session => Leads.imp (P := Confined directory asked flavor) ?_
      (fun _ hsession => hsession.1) (fun _ _ => id) fun _ _ => id
    split
    · exact keeps_work (Work.keeps_of_stays hopen)
    · exact leads_pure fun _ => id
  have hstarted := hstart _ hnew
  rwa [h] at hstarted

/-- **Every call** keeps a session confined, also one that fails. -/
theorem keeps_process {batch : Batch} (h : ∀ name, batch.Asks flavor name → asked name)
    (clock : ℕ → ℕ) : Keeps (Confined directory asked flavor) (process clock batch) := by
  rintro ⟨flavor, options, bench, number, finished⟩ ⟨rfl, hbench⟩
  cases finished with
  | true =>
    rw [process, round_of_finished rfl]
    exact ⟨rfl, hbench⟩
  | false =>
    cases hoff : options.disabled with
    | true =>
      rw [process, round_of_disabled rfl hoff]
      exact ⟨rfl, hbench⟩
    | false =>
      have hround := Work.keeps_round options (fun d hd target htarget =>
        h target ⟨d, hd, htarget⟩) { number := number + 1, final := batch.final }
        batch.declarations (clock number) bench hbench
      rw [process_of_enabled hoff]
      cases hrun : Work.round flavor options { number := number + 1, final := batch.final }
          batch.declarations (batch.marked flavor) (clock number) bench with
      | ok report done =>
        rw [hrun] at hround
        exact ⟨rfl, hround⟩
      | error fault failed =>
        rw [hrun] at hround
        exact ⟨rfl, hround⟩

/-- **A whole life** is confined. -/
theorem confined_of_mem_attempts {batches : List Batch}
    (h : ∀ batch ∈ batches, ∀ name, batch.Asks flavor name → asked name)
    (hsession : session.Confined directory asked flavor) {call : Attempt Directory}
    (hcall : call ∈ attempts clock session batches) :
    call.after.Confined directory asked flavor := by
  induction batches generalizing session with
  | nil => exact absurd hcall List.not_mem_nil
  | cons batch batches ih =>
    obtain ⟨hbatch, hbatches⟩ := List.forall_mem_cons.mp h
    have hafter : (session.attempt clock batch).after.Confined directory asked flavor := by
      have hprocess := keeps_process hbatch clock session hsession
      cases hrun : process clock batch session with
      | ok report after =>
        rw [hrun] at hprocess
        rwa [attempt_of_ok hrun]
      | error fault failed =>
        rw [hrun] at hprocess
        rwa [attempt_of_error hrun]
    rcases List.mem_cons.mp hcall with rfl | hcall
    · exact hafter
    · exact ih hbatches hafter hcall

end Session

/-! ### Generations -/

namespace Order

variable {order : Order} {tree : FileTree} {directory : Directory} {asked : String → Prop}

/-- The names that a generation **asks for**: the targets of what its sources mark. -/
def Asks (order : Order) (tree : FileTree) (name : String) : Prop :=
  ∃ round, Source.Round.ofTree tree order.source = .ok round ∧
    ∃ d ∈ round.annotated, some name ∈ order.flavor.targets d

/-- **The rounds of a generation** are confined. -/
theorem keeps_rounds (duration : ℕ) (h : ∀ name, order.Asks tree name → asked name) :
    Keeps (Session.Confined directory asked order.flavor) (order.rounds tree duration) := by
  rw [rounds]
  cases hround : Source.Round.ofTree tree order.source with
  | error fault => exact fun session hsession => hsession
  | ok round =>
    have hfirst : ∀ name, Batch.Asks order.flavor
        ⟨round.declarations, some round.annotated, false⟩ name → asked name :=
      fun name hasks => h name ⟨round, hround, hasks⟩
    -- the last call declares nothing
    have hlast : ∀ name, Batch.finish.Asks order.flavor name → asked name := by
      rintro name ⟨d, hd, -⟩
      exact absurd hd List.not_mem_nil
    have hrounds : Keeps (Session.Confined directory asked order.flavor)
          (Session.round round.declarations (some round.annotated) false duration) ∧
        Keeps (Session.Confined directory asked order.flavor) (Session.finish duration) :=
      ⟨Session.keeps_process hfirst fun _ => duration,
        Session.keeps_process hlast fun _ => duration⟩
    have hafter : Keeps (Session.Confined directory asked order.flavor) (do
        Session.work (Work.tell (round.syntaxErrors.map skipped))
        let first ← Session.round round.declarations (some round.annotated) false duration
        let last ← Session.finish duration
        return [first, last]) := by
      refine (Session.keeps_work (Work.keeps_tell _)).bind fun _ => ?_
      exact hrounds.1.bind fun first => hrounds.2.bind fun last => leads_pure fun _ => id
    exact hafter

/-- **A generation** changes the tree within the reach of its directory. -/
theorem changesWithin_run (order : Order) (tree : FileTree) (clock duration : ℕ) :
    ChangesWithin ((order.storage tree clock).Reach (order.Asks tree)) tree
      (order.run tree clock duration).1 := by
  rw [run]
  split
  · exact .refl _ tree
  split
  · exact .refl _ tree
  dsimp only
  cases hstart : Session.start (.new order.flavor order.options (order.storage tree clock)) with
  | error fault failed => cases fault <;> exact .refl _ tree
  | ok value session =>
    have hrounds := @keeps_rounds order tree (order.storage tree clock) (order.Asks tree) duration
      (fun _ => id) session (Session.confined_of_start hstart)
    dsimp only
    cases hdone : order.rounds tree duration session with
    | error fault failed =>
      rw [hdone] at hrounds
      exact hrounds.bench.storage.tree
    | ok reports ended =>
      rw [hdone] at hrounds
      exact hrounds.bench.storage.tree

/-- The text that names the directory of the listings: the one of the option as it was given,
unless there is nothing but slashes in it, or else the one of the flavor. -/
def namedDirectory (order : Order) : String :=
  if order.options.dir.isEmpty then order.flavor.defaultDir
  else (order.options.dirValue?.map RawText.mended).getD ""

theorem normalDirectory_namedDirectory (order : Order) :
    normalDirectory (some order.namedDirectory) = order.dir := by
  rw [namedDirectory, dir]
  split
  · cases order.flavor <;> decide
  · rw [Options.dir, normalDirectory, normalDirectory, Option.getD_some]

/-- The directory that is told of a generation is the one of its storage. -/
theorem storage_eq (order : Order) (tree : FileTree) (clock : ℕ) :
    order.storage tree clock =
        .below tree order.output order.namedDirectory toolName clock ∧
      order.blank.resources = (order.storage tree clock).resources := by
  have hdir : normalDirectory (some order.dir) = order.dir := by
    rw [← normalDirectory_namedDirectory, normalDirectory_normalDirectory]
  constructor
  · rw [storage, Directory.below, Directory.below, normalDirectory_namedDirectory, hdir]
  · rw [blank, storage, Directory.resources, Directory.below, hdir]

end Order

/-! ### What an option can bring about -/

/-- **What a directory reaches** that a text names below a root, which lies at `start`. The text
leads `steps.1` steps out of the root, and then to the names `steps.2`.

The directory lies where the text leads to: as many components of the root are given up, and the
names that follow are put in their place. That is at the root or below it just when these names
start with what was given up; it is so for every root just when the text leads no step out. Names
of files do not lead out of the place. The listings that are told are files right there. No call of
a session, also one that fails, changes anything but there and where targets lead that are no names
of files; it may make directories where there was nothing. The same is so of generations, which use
and tell of this very directory. -/
structure Directory.Reaches (tree : FileTree) (root : Path) (raw : String) (directory : Directory)
    (start : Location) (steps : ℕ × List String) : Prop where
  place : directory.place = start.take (start.length - steps.1) ++ steps.2
  below_root_iff : start <+: directory.place ↔ start.drop (start.length - steps.1) <+: steps.2
  below_every_root_iff :
    (∀ other : Path, other.lexical tree.cwd <+:
        (Directory.below tree other raw directory.tool directory.clock).place) ↔
      steps.1 = 0
  reach_iff (asked : String → Prop) (hasked : ∀ name, asked name → Path.IsName name)
    (location : Location) : directory.Reach asked location ↔ directory.place <+: location
  listed (names : List String) (h : directory.names = .ok names) (name : String)
    (hname : name ∈ names) : tree.HasFile (directory.place ++ [name])
  session (flavor : Flavor) (options : Options) (times : ℕ → ℕ) (batches : List Batch)
    (session : Session Directory)
    (hstart : Session.start (.new flavor options directory) = .ok () session)
    (call : Session.Attempt Directory) (hcall : call ∈ session.attempts times batches) :
    ChangesWithin (directory.Reach fun name => ∃ batch ∈ batches, batch.Asks flavor name) tree
      call.after.bench.storage.tree
  generation (order : Order) (houtput : order.output = root) (hnamed : order.namedDirectory = raw)
    (time duration : ℕ) :
    order.storage tree time = .below tree root raw toolName time ∧
      order.blank.resources = directory.resources ∧
      ChangesWithin (directory.Reach (order.Asks tree)) tree (order.run tree time duration).1

/-- **How far a directory reaches** that a text names below a root, for any text, root and tree. -/
theorem directory_reaches (tree : FileTree) (root : Path) (raw tool : String) (clock : ℕ) :
    Directory.Reaches tree root raw (.below tree root raw tool clock) (root.lexical tree.cwd)
      (net (slashedParts raw)) := by
  have hplace : (Directory.below tree root raw tool clock).place =
      walk (root.lexical tree.cwd) (slashedParts raw) := Directory.place_below ..
  refine ⟨hplace.trans (walk_eq _ _), ?_, ?_, fun asked hasked location =>
    Directory.reach_iff_of_isName hasked, fun names hnames name hname =>
      Directory.hasFile_of_mem_names hnames hname, ?_, ?_⟩
  · rw [hplace]
    exact prefix_walk_iff
  · simp only [Directory.place_below]
    exact Path.forall_prefix_walk_iff
  · intro flavor options times batches session hstart call hcall
    exact (Session.confined_of_mem_attempts (fun batch hbatch name hname =>
      ⟨batch, hbatch, hname⟩) (Session.confined_of_start hstart) hcall).bench.storage.tree
  · rintro order rfl rfl time duration
    obtain ⟨hstorage, hresources⟩ := order.storage_eq tree time
    have hrun := order.changesWithin_run tree time duration
    rw [hstorage] at hresources hrun
    exact ⟨hstorage, hresources, hrun⟩

/-- A text with dots and backslashes that comes down to no step out: the directory is below the
root, whatever the root is, and a session that finds nothing left to list deletes the listing
there, but not the file of the same name in the root. -/
theorem directory_reaches_of_winding_text :
    let tree : FileTree :=
      ⟨[], [(["out"], .directory), (["out", "a"], .directory), (["out", "b"], .directory),
        (["out", "b", "m.Port"], .file "m.Old\n".toUTF8),
        (["out", "m.Port"], .file "m.Old\n".toUTF8)]⟩
    let directory := Directory.below tree (.ofString "out") "/.\\a\\..//b" toolName 0
    let batches : List Batch := [⟨[{ name := some "m.Old" }], none, false⟩, .finish]
    directory.place = ["out", "b"] ∧
    (∀ other : Path, other.lexical tree.cwd <+:
      (Directory.below tree other "/.\\a\\..//b" toolName 0).place) ∧
    directory.names = .ok ["m.Port"] ∧ tree.HasFile ["out", "b", "m.Port"] ∧
    ∃ session, Session.start (.new .type ⟨toolName, []⟩ directory) = .ok () session ∧
      (session.attempts (fun _ => 0) batches).map (fun call =>
        (call.after.bench.storage.tree.node? ["out", "b", "m.Port"]).isSome) = [true, false] ∧
      ∀ call ∈ session.attempts (fun _ => 0) batches,
        call.after.bench.storage.tree.node? ["out", "m.Port"] = some (.file "m.Old\n".toUTF8) := by
  intro tree directory batches
  have hsteps : net (slashedParts "/.\\a\\..//b") = (0, ["b"]) := by decide +kernel
  have hnames : directory.names = .ok ["m.Port"] := by decide +kernel
  have hreaches := directory_reaches tree (.ofString "out") "/.\\a\\..//b" toolName 0
  have hlies : directory.place = ["out", "b"] := by
    rw [hreaches.place, hsteps]
    decide +kernel
  refine ⟨hlies, hreaches.below_every_root_iff.mpr (congrArg Prod.fst hsteps), hnames, ?_, ?_⟩
  · have hfile := hreaches.listed _ hnames "m.Port" (List.mem_singleton_self _)
    rwa [hlies] at hfile
  have hdeletes : (match Session.start (.new .type ⟨toolName, []⟩ directory) with
      | .ok _ session => (session.attempts (fun _ => 0) batches).map fun call =>
          (call.after.bench.storage.tree.node? ["out", "b", "m.Port"]).isSome
      | .error _ _ => []) = [true, false] := by decide +kernel
  cases hstart : Session.start (.new .type ⟨toolName, []⟩ directory) with
  | error fault failed =>
    rw [hstart] at hdeletes
    cases hdeletes
  | ok value session =>
    rw [hstart] at hdeletes
    refine ⟨session, rfl, hdeletes, fun call hcall => ?_⟩
    have hasked : ∀ name, (∃ batch ∈ batches, batch.Asks .type name) → Path.IsName name := by
      rintro name ⟨batch, hbatch, d, hd, -⟩
      have hnone : ∀ batch ∈ batches, batch.marked .type = [] := by decide +kernel
      rw [hnone batch hbatch] at hd
      exact absurd hd List.not_mem_nil
    have hout : ¬ directory.Reach (fun name => ∃ batch ∈ batches, batch.Asks .type name)
        ["out", "m.Port"] := by
      rw [hreaches.reach_iff _ hasked]
      change ¬ directory.place <+: _
      rw [hlies]
      decide
    exact ((hreaches.session _ _ _ _ session hstart call hcall).file_iff hout _).mpr rfl

/-- **A directory out of the root** is used as any other. The file that is there is listed and
overwritten, and a session that finds nothing left to list deletes it, though the directory is
neither the root of the output nor below it. -/
theorem directory_leaves_root :
    let tree : FileTree :=
      ⟨[], [(["out"], .directory), (["victim"], .directory),
        (["victim", "a.Port"], .file "m.Old\n".toUTF8)]⟩
    let order : Order :=
      { source := .ofString "src", output := .ofString "out", flavor := .type
        options := ⟨toolName, [("dir", some "..\\victim")]⟩ }
    let directory := order.storage tree 0
    let start := order.output.lexical tree.cwd
    order.blank.resources = ⟨false, ["out", "..", "victim"]⟩ ∧
    start = ["out"] ∧ directory.place = ["victim"] ∧ ¬ start <+: directory.place ∧
    directory.names = .ok ["a.Port"] ∧
    ((directory.write "a.Port" "m.New\n").1.tree.readText (.ofString "victim/a.Port")).toOption =
      some (Listing.header toolName ++ "m.New\n") ∧
    (match Session.start (.new order.flavor order.options directory) with
      | .ok _ session =>
        (session.attempts (fun _ => 0) [⟨[{ name := some "m.Old" }], none, false⟩, .finish]).map
          fun call => (call.after.bench.storage.tree.node? ["victim", "a.Port"]).isSome
      | .error _ _ => []) = [true, false] := by
  intro tree order directory start
  have hplace : directory.place = ["victim"] := by decide +kernel
  have hstart : start = ["out"] := by decide +kernel
  refine ⟨by decide +kernel, hstart, hplace, ?_, by decide +kernel, by decide +kernel,
    by decide +kernel⟩
  rw [hplace, hstart]
  decide

end ProviderRegistry
