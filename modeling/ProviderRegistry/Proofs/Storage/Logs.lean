import ProviderRegistry.Proofs.Session.Parallel
import ProviderRegistry.Proofs.Storage.Agreement
import ProviderRegistry.Proofs.Storage.Watched

/-!
# What logs leave in a storage

Two storages that were the same until each was handed a log differ in what they made of it, and in
nothing else (`Storage.PartOverLogs`). A memory has other logs (`Memory.partOverLogs`). A directory
has another file at the location of its log (`Directory.IsLog`), even if it keeps it at another
time (`Directory.partOverLogs`). What keeps a log may have to make the directory first, but not
just after a listing was written: whatever could be made is there then
(`Directory.made_of_justWritten`).

With a record of what was asked of them the storages differ in the texts of the logs alone
(`Storage.PartOverLogs.watched`). Where the options turn the log off there is no such text.
-/

namespace ProviderRegistry

variable {options options' : Options}

/-! ### In memory -/

namespace Memory

/-- A memory without its logs. -/
def withoutLogs (memory : Memory) : Memory := { memory with logs := [] }

theorem withoutLogs_keepLog (memory : Memory) (text : RawText) :
    (memory.keepLog text).withoutLogs = memory.withoutLogs := by
  rw [keepLog]
  split <;> rfl

/-- Memories that were the same at the start **differ in logs** when the rest is the same, and a
run whose options turn the log off has only the logs of the start. -/
structure DifferInLogs (options options' : Options) (start memory memory' : Memory) : Prop where
  rest : memory.withoutLogs = memory'.withoutLogs
  off : options.log = false → memory.logs = start.logs
  off' : options'.log = false → memory'.logs = start.logs

/-- **Memories** part over logs. -/
theorem partOverLogs (options options' : Options) (start : Memory) :
    Storage.PartOverLogs options options'
      (fun memory memory' => memory = memory' ∧ memory.logs = start.logs)
      (DifferInLogs options options' start) where
  names := by
    rintro memory _ ⟨rfl, -⟩
    rfl
  listing := by
    rintro memory _ ⟨rfl, -⟩ name
    rfl
  write := by
    rintro memory _ ⟨rfl, hlogs⟩ name content
    refine ⟨⟨rfl, ?_⟩, rfl⟩
    change (memory.write name content).1.logs = start.logs
    rw [write]
    split <;> exact hlogs
  delete := by
    rintro memory _ ⟨rfl, hlogs⟩
    refine ⟨⟨rfl, ?_⟩, rfl⟩
    change memory.delete.1.logs = start.logs
    rw [delete]
    split <;> exact hlogs
  unparted := by
    rintro memory _ ⟨rfl, hlogs⟩
    exact ⟨rfl, fun _ => hlogs, fun _ => hlogs⟩
  keepLog := by
    rintro memory _ ⟨rfl, hlogs⟩ - - text text' htext htext'
    refine ⟨_, _, rfl, rfl, ?_, fun hoff => ?_, fun hoff => ?_⟩
    · exact (withoutLogs_keepLog memory text).trans (withoutLogs_keepLog memory text').symm
    · rw [htext.eq_empty hoff]
      exact hlogs
    · rw [htext'.eq_empty hoff]
      exact hlogs

end Memory

/-! ### In a directory -/

/-- Trees **agree but** at some locations when they have the same node at every other one. -/
structure FileTree.AgreesBut (exempt : Location → Prop) (tree tree' : FileTree) : Prop where
  cwd : tree.cwd = tree'.cwd
  node? : ∀ location, ¬ exempt location → tree.node? location = tree'.node? location

namespace FileTree.AgreesBut

variable {tree tree' tree'' : FileTree} {P Q : Location → Prop}

theorem refl (P : Location → Prop) (tree : FileTree) : tree.AgreesBut P tree :=
  ⟨rfl, fun _ _ => rfl⟩

theorem symm (h : tree.AgreesBut P tree') : tree'.AgreesBut P tree :=
  ⟨h.cwd.symm, fun location hnot => (h.node? location hnot).symm⟩

theorem trans (h : tree.AgreesBut P tree') (h' : tree'.AgreesBut Q tree'') :
    tree.AgreesBut (fun location => P location ∨ Q location) tree'' :=
  ⟨h.cwd.trans h'.cwd, fun location hnot =>
    (h.node? location (mt Or.inl hnot)).trans (h'.node? location (mt Or.inr hnot))⟩

theorem mono (h : tree.AgreesBut P tree') (himp : ∀ location, P location → Q location) :
    tree.AgreesBut Q tree' :=
  ⟨h.cwd, fun location hnot => h.node? location (mt (himp location) hnot)⟩

/-- To write a file changes the node where its path leads, and no other. -/
theorem of_writeOctets {path : Path} {octets : ByteArray}
    (h : tree.writeOctets path octets = .ok tree') :
    ∃ location, tree.resolve path = .ok location ∧ tree.AgreesBut (· = location) tree' := by
  obtain ⟨location, hresolve, hput⟩ := bind_eq_ok_iff.mp h
  refine ⟨location, hresolve, ?_⟩
  split at hput
  · cases hput
  · obtain rfl := Except.ok.inj hput
    exact ⟨(cwd_put _).symm, fun other hne => (node?_put_of_ne hne _).symm⟩

end FileTree.AgreesBut

namespace Directory

variable {directory : Directory}

/-- The name of the log that is kept at a time. -/
def logName (clock : ℕ) : String := s!"log{clock}.log"

/-- A location is that of **the log** when it leads to the name of the log in the directory. -/
def IsLog (directory : Directory) (location : Location) : Prop :=
  ∃ above, directory.tree.resolve directory.resources = .ok above ∧
    location = above ++ [logName directory.clock]

/-- A directory with another tree. -/
def onTree (directory : Directory) (tree : FileTree) : Directory := { directory with tree }

/-- A directory at another time. -/
def atTime (directory : Directory) (clock : ℕ) : Directory := { directory with clock }

theorem onTree_of_kept {base : Directory} (h : directory = base.onTree directory.tree)
    (tree : FileTree) : directory.onTree tree = base.onTree tree := by
  rw [h]
  rfl

theorem atTime_of_kept {base : Directory} (h : directory = base.onTree directory.tree)
    (clock : ℕ) :
    directory.atTime clock = (base.atTime clock).onTree (directory.atTime clock).tree := by
  rw [h]
  rfl

/-- Whatever is asked of a directory changes its tree alone. -/
theorem ask_fst (directory : Directory) (request : Request) :
    (Storage.ask directory request).1 =
      directory.onTree (Storage.ask directory request).1.tree := by
  obtain ⟨tree, htree⟩ := exists_tree_ask directory request
  rw [htree]
  rfl

/-- A file is written in the same way at any time. -/
theorem writeFile_atTime (directory : Directory) (clock : ℕ) (name : String) (text : RawText) :
    (directory.atTime clock).writeFile name text =
      ((directory.writeFile name text).1.atTime clock, (directory.writeFile name text).2) := by
  have htree : (directory.atTime clock).tree = directory.tree := rfl
  have hresources : (directory.atTime clock).resources = directory.resources := rfl
  have hpath : (directory.atTime clock).path name = directory.path name := rfl
  rw [writeFile, writeFile, htree, hresources, hpath]
  split
  · rfl
  · rfl

/-- Files are taken away in the same way at any time. -/
theorem removeFiles_atTime (directory : Directory) (clock : ℕ) (names : List String) :
    (directory.atTime clock).removeFiles names =
      ((directory.removeFiles names).1.atTime clock, (directory.removeFiles names).2) := by
  induction names generalizing directory with
  | nil => rfl
  | cons name names ih =>
    have htree : (directory.atTime clock).tree = directory.tree := rfl
    have hpath : (directory.atTime clock).path name = directory.path name := rfl
    rw [removeFiles, removeFiles, htree, hpath]
    cases directory.tree.removeFile (directory.path name) with
    | error cause => rfl
    | ok tree => exact ih { directory with tree }

/-- The listings are deleted in the same way at any time. -/
theorem delete_atTime (directory : Directory) (clock : ℕ) :
    (directory.atTime clock).delete = (directory.delete.1.atTime clock, directory.delete.2) := by
  have hsame : (directory.atTime clock).names = directory.names := rfl
  cases hnames : directory.names with
  | ok names =>
    rw [delete_of_names hnames, delete_of_names (hsame.trans hnames), removeFiles_atTime]
  | error failure => rw [delete_of_failure hnames, delete_of_failure (hsame.trans hnames)]

/-- **Just after a write** there is nothing left to be made: the directory is there, or it could
not be made. -/
theorem made_of_justWritten (h : Storage.JustWritten directory) :
    (directory.tree.makeDirectories directory.resources).1 = directory.tree := by
  obtain ⟨before, name, content, rfl⟩ := h
  change
    ((before.writeFile name _).1.tree.makeDirectories (before.writeFile name _).1.resources).1 =
    (before.writeFile name _).1.tree
  rw [(extends_writeFile before name _).resources, writeFile]
  have hagain := FileTree.makeDirectories_again before.tree before.resources
  split
  · rename_i hmade
    rwa [hmade] at hagain
  · rename_i made hmade
    rw [hmade] at hagain
    dsimp only
    rcases FileTree.writeText_cases made (before.path name)
        (Listing.header before.tool ++ content : String) with
      ⟨failure, hfailed⟩ | ⟨octets, written, hwrite, hwritten⟩
    · rw [hfailed]
      exact hagain
    · rw [hwritten]
      -- the directory that was made is still there under the written file
      obtain ⟨-, -, -, hextends⟩ := FileTree.writeOctets_eq_ok hwrite
      obtain ⟨location, hresolve, hdirectory⟩ := FileTree.isDirectory_eq_ok_true_iff.mp
        (FileTree.isDirectory_of_makeDirectories hmade)
      have hthere := FileTree.isDirectory_of_resolve (hextends.supports.resolve hresolve)
        (hextends.directory location hdirectory)
      rw [FileTree.makeDirectories_of_isDirectory hthere]

/-- A log that is kept just after a write changes no file but that of the log. -/
theorem agreesBut_keepLog (h : Storage.JustWritten directory) (text : RawText) :
    directory.tree.AgreesBut (directory.keepLog text).1.IsLog (directory.keepLog text).1.tree := by
  rw [keepLog]
  split
  · exact .refl _ _
  · have hmade := made_of_justWritten h
    rw [writeFile]
    generalize directory.tree.makeDirectories directory.resources = made at hmade ⊢
    obtain ⟨tree, outcome⟩ := made
    obtain rfl : tree = directory.tree := hmade
    cases outcome with
    | error failure => exact .refl _ _
    | ok _ =>
      dsimp only
      rcases FileTree.writeText_cases directory.tree (directory.path s!"log{directory.clock}.log")
          text with ⟨failure, hfailed⟩ | ⟨octets, written, hwrite, hwritten⟩
      · rw [hfailed]
        exact .refl _ _
      · rw [hwritten]
        obtain ⟨location, hresolve, hagrees⟩ := FileTree.AgreesBut.of_writeOctets hwrite
        obtain ⟨above, habove, -, rfl⟩ :=
          FileTree.resolve_child (isName_log directory.clock) hresolve
        -- the directory of the log is where it was
        obtain ⟨-, -, -, hextends⟩ := FileTree.writeOctets_eq_ok hwrite
        exact hagrees.mono fun other heq => ⟨above, hextends.supports.resolve habove, heq⟩

/-- The same of a log that is empty where the options turn it off. -/
theorem agreesBut_keepLog_of_logs (h : Storage.JustWritten directory) {text : RawText}
    (htext : options.Logs text) :
    directory.tree.AgreesBut
      (fun location => options.log = true ∧ (directory.keepLog text).1.IsLog location)
      (directory.keepLog text).1.tree := by
  cases hlog : options.log with
  | true => exact (agreesBut_keepLog h text).mono fun location his => ⟨rfl, his⟩
  | false =>
    rw [htext.eq_empty hlog]
    exact .refl _ _

/-- A log with octets is kept without a word, whatever the system makes of it. -/
theorem keepLog_of_isWhole (directory : Directory) {text : RawText} (h : text.isWhole = true) :
    directory.keepLog text = ((directory.keepLog text).1, .silent (.ok ())) := by
  have hsilent : (directory.keepLog text).2 = .silent (directory.keepLog text).2.outcome := by
    rw [keepLog]
    split <;> rfl
  cases houtcome : (directory.keepLog text).2.outcome with
  | ok value => exact Prod.ext rfl (hsilent.trans (congrArg Answer.silent houtcome))
  | error fault =>
    obtain ⟨hnot, -⟩ := outcome_keepLog_eq_error houtcome
    exact absurd (hnot.symm.trans h) Bool.false_ne_true

/-- Two directories are **abreast** when they are one directory with one tree at two times. -/
structure Abreast (base : Directory) (clock' : ℕ) (directory directory' : Directory) : Prop where
  kept : directory = base.onTree directory.tree
  time : directory' = directory.atTime clock'

/-- One directory at two times **differs in logs** when its trees agree but at the locations of the
logs, which are exempt only where the options ask for a log. -/
structure DifferInLogs (options options' : Options) (base : Directory) (clock' : ℕ)
    (directory directory' : Directory) : Prop where
  kept : directory = base.onTree directory.tree
  kept' : directory' = (base.atTime clock').onTree directory'.tree
  tree : directory.tree.AgreesBut
    (fun location => (options.log = true ∧ directory.IsLog location) ∨
      (options'.log = true ∧ directory'.IsLog location)) directory'.tree

/-- **Directories** part over logs of loggable options. -/
theorem partOverLogs (hloggable : options.Loggable) (hloggable' : options'.Loggable)
    (base : Directory) (clock' : ℕ) :
    Storage.PartOverLogs options options' (Abreast base clock')
      (DifferInLogs options options' base clock') where
  names := by
    rintro directory _ ⟨-, rfl⟩
    rfl
  listing := by
    rintro directory _ ⟨-, rfl⟩ name
    rfl
  write := by
    rintro directory _ ⟨hkept, rfl⟩ name content
    have htime : (directory.atTime clock').write name content =
        ((directory.write name content).1.atTime clock', (directory.write name content).2) := by
      rw [write, writeFile_atTime]
      rfl
    refine ⟨⟨?_, congrArg Prod.fst htime⟩, (congrArg Prod.snd htime).symm⟩
    exact (ask_fst directory (.write name content)).trans (onTree_of_kept hkept _)
  delete := by
    rintro directory _ ⟨hkept, rfl⟩
    have htime := delete_atTime directory clock'
    refine ⟨⟨?_, congrArg Prod.fst htime⟩, (congrArg Prod.snd htime).symm⟩
    exact (ask_fst directory .delete).trans (onTree_of_kept hkept _)
  unparted := by
    rintro directory _ ⟨hkept, rfl⟩
    exact ⟨hkept, atTime_of_kept hkept clock', .refl _ _⟩
  keepLog := by
    rintro directory _ ⟨hkept, rfl⟩ hwritten hwritten' text text' htext htext'
    have hagrees := agreesBut_keepLog_of_logs hwritten htext
    have hagrees' := agreesBut_keepLog_of_logs hwritten' htext'
    refine ⟨_, _, keepLog_of_isWhole _ (htext.isWhole fun _ => hloggable),
      keepLog_of_isWhole _ (htext'.isWhole fun _ => hloggable'), ?_⟩
    exact ⟨(ask_fst directory (.keepLog text)).trans (onTree_of_kept hkept _),
      (ask_fst _ (.keepLog text')).trans (onTree_of_kept (atTime_of_kept hkept clock') _),
      hagrees.symm.trans hagrees'⟩

end Directory

/-! ### Under watch -/

/-- Does a call change the listings? -/
def Call.changes : Call → Bool
  | .write .. | .delete => true
  | .keepLog _ => false

namespace Watched

variable {σ τ : Type} {R Q : σ → τ → Prop}

/-- The calls that change the listings. -/
def changes (watched : Watched σ) : List Call := watched.calls.filter Call.changes

/-- Every log that was handed over is empty. -/
def NoLog (watched : Watched σ) : Prop :=
  ∀ text : RawText, .keepLog text ∈ watched.calls → text = ""

/-- Watched storages **differ in logs** when those under them are related and were changed by the
same calls, and no log was handed over where the options turn it off. -/
structure DifferInLogs (options options' : Options) (R : σ → τ → Prop) (watched : Watched σ)
    (other : Watched τ) : Prop where
  storage : R watched.storage other.storage
  changes : watched.changes = other.changes
  off : options.log = false → watched.NoLog
  off' : options'.log = false → other.NoLog

theorem noLog_append {storage storage' : σ} {calls : List Call} {call : Call}
    (h : NoLog ⟨storage, calls⟩) (hcall : ∀ text : RawText, call = .keepLog text → text = "") :
    NoLog ⟨storage', calls ++ [call]⟩ := by
  intro text htext
  rcases List.mem_append.mp htext with hbefore | hlast
  · exact h text hbefore
  · exact hcall text (List.mem_singleton.mp hlast).symm

/-- After one call each, which is the same but for the text of a log. -/
theorem DifferInLogs.call {storage : σ} {storage' : τ} {watched : Watched σ} {other : Watched τ}
    {call call' : Call} (h : DifferInLogs options options' R watched other)
    (hQ : Q storage storage') (hchanges : [call].filter Call.changes = [call'].filter Call.changes)
    (hoff : options.log = false → ∀ text : RawText, call = .keepLog text → text = "")
    (hoff' : options'.log = false → ∀ text : RawText, call' = .keepLog text → text = "") :
    DifferInLogs options options' Q ⟨storage, watched.calls ++ [call]⟩
      ⟨storage', other.calls ++ [call']⟩ := by
  refine ⟨hQ, ?_, fun hlog => noLog_append (h.off hlog) (hoff hlog),
    fun hlog => noLog_append (h.off' hlog) (hoff' hlog)⟩
  have hbefore : watched.calls.filter Call.changes = other.calls.filter Call.changes := h.changes
  rw [Watched.changes, Watched.changes, List.filter_append, List.filter_append, hbefore, hchanges]

theorem noLog_nil (storage : σ) : NoLog ⟨storage, []⟩ :=
  fun _ h => absurd h List.not_mem_nil

/-- Related storages that were not watched yet. -/
theorem differInLogs_nil {storage : σ} {storage' : τ} (h : R storage storage') :
    DifferInLogs options options' R ⟨storage, []⟩ ⟨storage', []⟩ :=
  ⟨h, rfl, fun _ => noLog_nil storage, fun _ => noLog_nil storage'⟩

end Watched

/-- **Watched storages** part over logs if those under them do. -/
theorem Storage.PartOverLogs.watched {σ τ : Type} [Storage σ] [Storage τ] {R Q : σ → τ → Prop}
    (h : PartOverLogs options options' R Q) :
    PartOverLogs options options' (Watched.DifferInLogs options options' R)
      (Watched.DifferInLogs options options' Q) where
  names hw := h.names hw.storage
  listing hw := h.listing hw.storage
  write hw name content := by
    obtain ⟨hstorage, hanswer⟩ := h.write hw.storage name content
    exact ⟨hw.call hstorage rfl (fun _ _ heq => Call.noConfusion heq)
      fun _ _ heq => Call.noConfusion heq, hanswer⟩
  delete hw := by
    obtain ⟨hstorage, hanswer⟩ := h.delete hw.storage
    exact ⟨hw.call hstorage rfl (fun _ _ heq => Call.noConfusion heq)
      fun _ _ heq => Call.noConfusion heq, hanswer⟩
  unparted hw := ⟨h.unparted hw.storage, hw.changes, hw.off, hw.off'⟩
  keepLog := by
    rintro s t hw ⟨before, name, content, rfl⟩ ⟨before', name', content', rfl⟩ text text' htext
      htext'
    obtain ⟨kept, kept', hkept, hkept', hparted⟩ :=
      h.keepLog hw.storage ⟨_, name, content, rfl⟩ ⟨_, name', content', rfl⟩ htext htext'
    refine ⟨_, _, Watched.keepLog_eq hkept, Watched.keepLog_eq hkept', ?_⟩
    exact hw.call hparted rfl (fun hoff _ heq => Call.keepLog.inj heq ▸ htext.eq_empty hoff)
      fun hoff _ heq => Call.keepLog.inj heq ▸ htext'.eq_empty hoff

end ProviderRegistry
