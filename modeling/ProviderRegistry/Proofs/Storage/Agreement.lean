import ProviderRegistry.Proofs.Listing.RoundTrip
import ProviderRegistry.Proofs.Session.Flush
import ProviderRegistry.Proofs.Storage.Flat

/-!
# The two storages agree

A directory and a memory are asked the same things one after the other (`Request`), and each gives
its replies. They are **paired** when they have the same texts under all names but those of logs
(`Directory.Mirrors`), the same tool, and nothing in the way of either: the directory is ready, and
the memory refuses nothing (`Paired`). One request gets replies that agree and leaves them paired
(`Paired.ask`), so all of them do (`directory_agrees_with_memory`).

The directory is asked for names that it accepts. One whose path is too long it cannot be asked
for, and a directory that is not there because of what stands before a double dot in its path may
turn out not to be empty once it is made (`directory_differs_from_memory`).
-/

namespace ProviderRegistry

/-! ### Requests and replies -/

/-- What a storage may be asked. -/
inductive Request where
  | names
  | listing (name : String)
  | write (name content : String)
  | delete
  | keepLog (text : RawText)
  deriving DecidableEq, Repr

/-- What comes back for a request. -/
inductive Reply where
  | names (outcome : Except Fault (List String))
  | text (outcome : Except Fault (Option String))
  | done (outcome : Except Fault Unit)
  deriving DecidableEq

/-- A request to a storage: the storage afterwards, and the reply. -/
def Storage.ask {σ : Type} [Storage σ] (storage : σ) : Request → σ × Reply
  | .names => (storage, .names (Storage.names storage).outcome)
  | .listing name => (storage, .text (Storage.listing storage name).outcome)
  | .write name content =>
    ((Storage.write storage name content).1, .done (Storage.write storage name content).2.outcome)
  | .delete => ((Storage.delete storage).1, .done (Storage.delete storage).2.outcome)
  | .keepLog text =>
    ((Storage.keepLog storage text).1, .done (Storage.keepLog storage text).2.outcome)

/-- A directory is asked some things one after the other, each at a time of its own. -/
def Directory.askAll : Directory → List (ℕ × Request) → List (Directory × Reply)
  | _, [] => []
  | directory, (clock, request) :: requests =>
    let asked := Storage.ask { directory with clock } request
    asked :: askAll asked.1 requests

/-- A memory is asked some things one after the other. -/
def Memory.askAll : Memory → List Request → List (Memory × Reply)
  | _, [] => []
  | memory, request :: requests =>
    let asked := Storage.ask memory request
    asked :: askAll asked.1 requests

/-- The replies of a directory and of a memory **agree** when neither is a fault and they say the
same. The directory tells its names in ascending order. -/
inductive Reply.Agree : Reply → Reply → Prop
  | names {filed kept : List String} (ascending : filed.Pairwise (· ≤ ·))
    (same : ∀ name, name ∈ filed ↔ name ∈ kept) : Agree (.names (.ok filed)) (.names (.ok kept))
  | text (text : Option String) : Agree (.text (.ok text)) (.text (.ok text))
  | done : Agree (.done (.ok ())) (.done (.ok ()))

/-- A request **fits** a directory when its name is one that the directory accepts and not that of
a log, there is no carriage return in its text, and a log is whole. -/
def Request.Fits (directory : Directory) : Request → Prop
  | .listing name => directory.Accepts name ∧ Listing.isLogName name = false
  | .write name content =>
    directory.Accepts name ∧ Listing.isLogName name = false ∧ '\r' ∉ content.toList
  | .keepLog text => text.isWhole = true
  | _ => True

instance (directory : Directory) : (request : Request) → Decidable (request.Fits directory)
  | .listing _ => inferInstanceAs (Decidable (_ ∧ _))
  | .write .. => inferInstanceAs (Decidable (_ ∧ _ ∧ _))
  | .keepLog _ => inferInstanceAs (Decidable (_ = true))
  | .names | .delete => .isTrue trivial

/-- What fits a directory fits it after its files changed. -/
theorem Request.Fits.of_path_eq {before after : Directory} {request : Request}
    (h : request.Fits before) (hpath : ∀ name, after.path name = before.path name) :
    request.Fits after := by
  have haccepts : ∀ name, before.Accepts name → after.Accepts name := by
    rintro name ⟨hname, hsize, hpathSize⟩
    exact ⟨hname, hsize, by rwa [hpath]⟩
  cases request with
  | listing name => exact ⟨haccepts name h.1, h.2⟩
  | write name content => exact ⟨haccepts name h.1, h.2⟩
  | names => exact h
  | delete => exact h
  | keepLog text => exact h

/-! ### What a directory is asked -/

namespace Directory

variable {directory : Directory}

/-- A write changes the tree alone. -/
theorem exists_tree_writeFile (directory : Directory) (name : String) (text : RawText) :
    ∃ tree, (directory.writeFile name text).1 = { directory with tree } := by
  rw [writeFile]
  split <;> exact ⟨_, rfl⟩

/-- Nothing that a directory is asked changes anything but its tree. -/
theorem exists_tree_ask (directory : Directory) (request : Request) :
    ∃ tree, (Storage.ask directory request).1 = { directory with tree } := by
  cases request with
  | names => exact ⟨directory.tree, rfl⟩
  | listing name => exact ⟨directory.tree, rfl⟩
  | write name content => exact exists_tree_writeFile directory name _
  | delete =>
    change ∃ tree, directory.delete.1 = { directory with tree }
    cases hnames : directory.names with
    | error failure => exact ⟨directory.tree, by rw [delete_of_failure hnames]⟩
    | ok names => exact ⟨_, by rw [delete_of_names hnames]; exact removeFiles_fst names⟩
  | keepLog text =>
    change ∃ tree, (directory.keepLog text).1 = { directory with tree }
    rw [Directory.keepLog]
    split
    · exact ⟨directory.tree, rfl⟩
    · exact exists_tree_writeFile directory _ text

/-- No request changes the tool. -/
theorem tool_ask (directory : Directory) (request : Request) :
    (Storage.ask directory request).1.tool = directory.tool := by
  obtain ⟨tree, htree⟩ := exists_tree_ask directory request
  rw [htree]

/-- No request moves the listings. -/
theorem path_ask (directory : Directory) (request : Request) (name : String) :
    (Storage.ask directory request).1.path name = directory.path name := by
  obtain ⟨tree, htree⟩ := exists_tree_ask directory request
  rw [htree]
  rfl

end Directory

/-! ### Memories that refuse nothing -/

namespace Memory

variable {memory : Memory} {name : String}

/-- A memory has a listing for each of its names. -/
theorem exists_listing_iff : (∃ text, memory.listing? name = some text) ↔
    name ∈ memory.resources.map Prod.fst := by
  rw [← Option.isSome_iff_exists, listing?, ← not_iff_not, Bool.not_eq_true,
    Option.isSome_eq_false_iff, Option.isNone_iff_eq_none, List.lookup_eq_none_iff, List.mem_map]
  constructor
  · rintro h ⟨pair, hpair, rfl⟩
    simpa using h pair hpair
  · intro h pair hpair
    rw [bne_iff_ne]
    exact fun heq => h ⟨pair, hpair, heq.symm⟩

/-- A memory that refuses nothing keeps what is written. -/
theorem write_of_unrefused (h : memory.refusedWrites = []) (name content : String) :
    Storage.write memory name content =
      ({ memory with
          resources := put memory.resources name (Listing.header memory.tool ++ content)
          written := memory.written ++ [name] }, .silent (.ok ())) := by
  change (memory.write name content).map id Answer.silent = _
  rw [Memory.write, h, if_neg List.not_mem_nil]
  rfl

/-- A memory that does not refuse to delete drops all listings but the logs. -/
theorem delete_of_unrefused (h : memory.refusesDelete = false) :
    Storage.delete memory =
      ({ memory with
          deleteCalls := memory.deleteCalls + 1
          resources := memory.resources.filter fun resource => Listing.isLogName resource.1 },
        .silent (.ok ())) := by
  change memory.delete.map id Answer.silent = _
  rw [Memory.delete, h, if_neg Bool.false_ne_true]
  rfl

end Memory

/-! ### A directory and a memory -/

/-- A directory **mirrors** a memory when its files hold the texts of the memory, but for logs. -/
def Directory.Mirrors (directory : Directory) (memory : Memory) : Prop :=
  ∀ name, Listing.isLogName name = false →
    directory.octets? name = (memory.listing? name).map String.toUTF8

/-- A directory and a memory are **paired** when they have the same texts, in which there is no
carriage return, under the same tool, and nothing is in the way of a request to either. -/
structure Paired (directory : Directory) (memory : Memory) : Prop where
  ready : directory.Ready
  mirrors : directory.Mirrors memory
  tool : directory.tool = memory.tool
  writes : memory.refusedWrites = []
  deletes : memory.refusesDelete = false
  plainTool : '\r' ∉ memory.tool.toList
  plainTexts : ∀ name text, Listing.isLogName name = false → memory.listing? name = some text →
    '\r' ∉ text.toList

namespace Paired

variable {directory : Directory} {memory : Memory} {name : String}

/-- Both list the same names. -/
theorem names (h : Paired directory memory) :
    Reply.Agree (.names (Storage.names directory).outcome)
      (.names (Storage.names memory).outcome) := by
  obtain ⟨names, hnames, hascending, hmem⟩ := h.ready.names
  rw [Directory.outcome_names_eq_ok_iff.mpr hnames]
  refine Reply.Agree.names hascending fun name => ?_
  rw [hmem, Memory.mem_names_iff, ← Memory.exists_listing_iff]
  refine and_congr_left fun hlog => ?_
  rw [h.mirrors name hlog]
  simp

/-- Both give the same text for a name. -/
theorem listing (h : Paired directory memory) (hname : directory.Accepts name)
    (hlog : Listing.isLogName name = false) :
    Reply.Agree (.text (Storage.listing directory name).outcome)
      (.text (Storage.listing memory name).outcome) := by
  rw [h.ready.listing hname (h.mirrors name hlog) fun text htext =>
    h.plainTexts name text hlog htext]
  exact Reply.Agree.text _

/-- Both keep the same text, if it has no carriage return that reading it back would change. -/
theorem write (h : Paired directory memory) (hname : directory.Accepts name) {content : String}
    (hplain : '\r' ∉ content.toList) :
    Reply.Agree (.done (Storage.write directory name content).2.outcome)
        (.done (Storage.write memory name content).2.outcome) ∧
      Paired (Storage.write directory name content).1 (Storage.write memory name content).1 := by
  rw [Memory.write_of_unrefused h.writes]
  change Reply.Agree (.done ((directory.writeFile name
      (Listing.header directory.tool ++ content : String)).2.mapError _)) _ ∧
    Paired (directory.writeFile name (Listing.header directory.tool ++ content : String)).1 _
  have htext : '\r' ∉ (Listing.header memory.tool ++ content).toList := by
    rw [String.toList_append, Listing.toList_header]
    have hplainTool := h.plainTool
    simp [hplain, hplainTool]
  rw [h.tool]
  generalize Listing.header memory.tool ++ content = text at htext ⊢
  obtain ⟨hready, hwritten, hother⟩ := h.ready.writeFile hname.1 text
  obtain ⟨hok, hself⟩ : (directory.writeFile name text).2 = .ok () ∧
      (directory.writeFile name text).1.octets? name = some text.toUTF8 := by
    split at hwritten
    · exact ⟨‹_›, hwritten⟩
    · exact absurd hname hwritten
  have htool : (directory.writeFile name text).1.tool = memory.tool := by
    obtain ⟨tree, htree⟩ := Directory.exists_tree_writeFile directory name text
    rw [htree]
    exact h.tool
  refine ⟨?_, hready, fun other hlogOther => ?_, htool, h.writes, h.deletes, h.plainTool,
    fun other text hlogOther hlookup => ?_⟩
  · rw [hok]
    exact Reply.Agree.done
  · by_cases heq : other = name
    · rw [heq, Memory.listing?, Memory.keeps_put.lookup, hself]
      rfl
    · rw [Memory.listing?, Memory.lookup_put_of_ne heq, hother other heq]
      exact h.mirrors other hlogOther
  · change Memory.listing? _ other = some text at hlookup
    by_cases heq : other = name
    · rw [heq, Memory.listing?, Memory.keeps_put.lookup] at hlookup
      exact Option.some.inj hlookup ▸ htext
    · rw [Memory.listing?, Memory.lookup_put_of_ne heq] at hlookup
      exact h.plainTexts other text hlogOther hlookup

/-- Both drop the same listings. -/
theorem delete (h : Paired directory memory) :
    Reply.Agree (.done (Storage.delete directory).2.outcome)
        (.done (Storage.delete memory).2.outcome) ∧
      Paired (Storage.delete directory).1 (Storage.delete memory).1 := by
  obtain ⟨hok, hready, hnone⟩ := h.ready.delete
  rw [hok, Memory.delete_of_unrefused h.deletes]
  have hlookup : ∀ name, Listing.isLogName name = false →
      (memory.resources.filter fun resource =>
        Listing.isLogName resource.1).lookup name = none := by
    intro name hlog
    rw [Memory.lookup_filter, hlog, if_neg Bool.false_ne_true]
  have htool := (Directory.tool_ask directory .delete).trans h.tool
  refine ⟨Reply.Agree.done, hready, fun name hlog => ?_, htool, h.writes, h.deletes, h.plainTool,
    fun name text hlog htext => ?_⟩
  · rw [hnone name hlog, Memory.listing?, hlookup name hlog]
    rfl
  · cases (hlookup name hlog).symm.trans htext

/-- Both keep a log that is whole. -/
theorem keepLog (h : Paired directory memory) {text : RawText} (hwhole : text.isWhole = true) :
    Reply.Agree (.done (Storage.keepLog directory text).2.outcome)
        (.done (Storage.keepLog memory text).2.outcome) ∧
      Paired (Storage.keepLog directory text).1 (Storage.keepLog memory text).1 := by
  obtain ⟨hok, hready, hsame⟩ := h.ready.keepLog hwhole
  have htool := (Directory.tool_ask directory (.keepLog text)).trans h.tool
  change Reply.Agree (.done (directory.keepLog text).2.outcome) _ ∧
    Paired (directory.keepLog text).1 (memory.keepLog text)
  rw [hok, Memory.keepLog_eq]
  exact ⟨Reply.Agree.done, hready, fun name hlog => (hsame name hlog).trans (h.mirrors name hlog),
    htool, h.writes, h.deletes, h.plainTool, h.plainTexts⟩

/-- **One request** gets replies that agree, and leaves the storages paired. -/
theorem ask (h : Paired directory memory) {request : Request} (hrequest : request.Fits directory) :
    Reply.Agree (Storage.ask directory request).2 (Storage.ask memory request).2 ∧
      Paired (Storage.ask directory request).1 (Storage.ask memory request).1 := by
  cases request with
  | names => exact ⟨h.names, h⟩
  | listing name => exact ⟨h.listing hrequest.1 hrequest.2, h⟩
  | write name content => exact h.write hrequest.1 hrequest.2.2
  | delete => exact h.delete
  | keepLog text => exact h.keepLog hrequest

end Paired

/-! ### Agreement -/

/-- **The directory and the memory agree.** Let both hold the same texts under all names but those
of logs, the directory as files or, if it is not there yet, none. Whatever fits the directory is
asked of both, one request after the other: no reply is a fault, every reading gives the same text
on both, the same names are told, by the directory in ascending order, and after every request both
hold the same texts again. -/
theorem directory_agrees_with_memory {directory : Directory} {memory : Memory}
    (h : Paired directory memory) {requests : List (ℕ × Request)}
    (hrequests : ∀ request ∈ requests, request.2.Fits directory) :
    List.Forall₂ (fun filed kept => Reply.Agree filed.2 kept.2 ∧ filed.1.Mirrors kept.1)
      (directory.askAll requests) (memory.askAll (requests.map Prod.snd)) := by
  induction requests generalizing directory memory with
  | nil => exact List.Forall₂.nil
  | cons request requests ih =>
    obtain ⟨clock, request⟩ := request
    obtain ⟨hrequest, hrequests⟩ := List.forall_mem_cons.mp hrequests
    -- the time is of no account to what the two have in common
    have hnow : Paired { directory with clock } memory :=
      ⟨h.ready.at_time clock, h.mirrors, h.tool, h.writes, h.deletes, h.plainTool, h.plainTexts⟩
    have hfits : request.Fits { directory with clock } := hrequest.of_path_eq fun _ => rfl
    obtain ⟨hagree, hafter⟩ := hnow.ask hfits
    refine List.Forall₂.cons ⟨hagree, hafter.mirrors⟩ (ih hafter fun later hlater => ?_)
    exact (hrequests later hlater).of_path_eq fun name =>
      Directory.path_ask { directory with clock } request name

namespace Directory

/-- A directory beside another that is missing, by a path that leads through the missing one. -/
def crooked : Directory :=
  .below ⟨[], [(["y"], .directory), (["y", "p"], .file "a.P\n".toUTF8)]⟩ (.ofString "x/../y") ""
    toolName 0

/-- A directory by a path that leads down and up many times. -/
def winding : Directory :=
  let below := String.ofList (List.replicate 250 'd')
  .below ⟨[], [([below], .directory)]⟩
    ⟨false, (List.replicate 15 [below, ".."]).flatten ++ [below]⟩ "" toolName 0

/-- The directory that was missing is made on the way, and nothing else. -/
theorem makeDirectories_crooked :
    crooked.tree.makeDirectories crooked.resources =
      (crooked.tree.put ["x"] .directory, .ok ()) := by
  let made : FileTree := crooked.tree.put ["x"] .directory
  have hresources : crooked.resources = ⟨false, ["x", "..", "y"]⟩ := by decide +kernel
  have hfirst : crooked.tree.makeDirectories ⟨false, ["x"]⟩ = (made, .ok ()) := by
    have hmade : crooked.tree.makeDirectory ⟨false, ["x"]⟩ = .ok made := rfl
    rw [FileTree.makeDirectories, hmade]
  have hsecond : crooked.tree.makeDirectories ⟨false, ["x", ".."]⟩ = (made, .ok ()) :=
    FileTree.makeDirectories_of_parent rfl (by decide) hfirst (by decide +kernel)
  rw [hresources]
  exact FileTree.makeDirectories_of_parent rfl (by decide) hsecond (by decide +kernel)

/-- A file that is written stands beside the one that was there. -/
theorem names_write_crooked :
    (Storage.write crooked "q" "b.Q\n").2.outcome = .ok () ∧
      (Storage.names (Storage.write crooked "q" "b.Q\n").1).outcome = .ok ["p", "q"] := by
  let text : String := Listing.header toolName ++ "b.Q\n"
  let made : FileTree := crooked.tree.put ["x"] .directory
  let written : Directory := { crooked with tree := made.put ["y", "q"] (.file text.toUTF8) }
  have hwritten : crooked.writeFile "q" text = (written, .ok ()) := by
    have hput : made.writeText (crooked.path "q") text = (written.tree, .ok ()) := by
      have hresolve : made.resolve (crooked.path "q") = .ok ["y", "q"] := by decide +kernel
      have hnot : ¬ made.HasDirectory ["y", "q"] := fun hdirectory => nomatch hdirectory
      rw [FileTree.writeText_coe, FileTree.writeOctets_of_resolve hresolve hnot text.toUTF8]
    rw [Directory.writeFile, makeDirectories_crooked]
    simp only [made, hput]
    rfl
  have hnames : written.names = .ok ["p", "q"] := by
    have hdirectory : written.tree.isDirectory written.resources = .ok true := by decide +kernel
    have hresolve : written.tree.resolve written.resources = .ok ["y"] := by decide +kernel
    have hsorted : Listing.ascending (written.tree.namesIn ["y"]) = ["p", "q"] :=
      List.mergeSort_of_pairwise (by decide)
    rw [Directory.names, bind_of_eq_ok hdirectory, if_pos rfl, bind_of_eq_ok hresolve, hsorted]
    decide +kernel
  change (((crooked.writeFile "q" text).2).mapError _ = .ok ()) ∧
    (Storage.names (crooked.writeFile "q" text).1).outcome = _
  rw [hwritten]
  exact ⟨rfl, outcome_names_eq_ok_iff.mpr hnames⟩

end Directory

/-- A directory that is not there only because nothing stands before a double dot in its path is
not empty once it is made; one whose path goes down and up many times cannot be asked for a name
that is not too long by itself; and one that is yet to be made cannot keep a log that is not
whole. -/
theorem directory_differs_from_memory :
    let memory : Memory := { resources := [] }
    let crooked := Directory.crooked
    let filed := Storage.write crooked "q" "b.Q\n"
    let kept := Storage.write memory "q" "b.Q\n"
    let winding := Directory.winding
    let name := String.ofList (List.replicate 40 'n')
    let missing : Directory := .below ⟨[], []⟩ (.ofString "out") "" toolName 0
    let halved : RawText := ⟨[.surrogate 0]⟩
    (crooked.tree.isDirectory crooked.resources = .ok false ∧
      (crooked.tree.makeDirectories crooked.resources).2 = .ok () ∧
      (Storage.names crooked).outcome = .ok [] ∧ filed.2.outcome = .ok () ∧
      (Storage.names filed.1).outcome = .ok ["p", "q"] ∧
      (Storage.names memory).outcome = .ok [] ∧ kept.2.outcome = .ok () ∧
      (Storage.names kept.1).outcome = .ok ["q"]) ∧
    (winding.tree.isDirectory winding.resources = .ok true ∧ Path.IsName name ∧
      name.utf8ByteSize ≤ FileTree.maxNameSize ∧ Listing.isLogName name = false ∧
      (Storage.listing winding name).outcome = .error (.os ⟨.nameTooLong, winding.path name⟩) ∧
      (Storage.listing memory name).outcome = .ok none) ∧
    (Storage.keepLog missing halved).2.outcome = .error (.encoding halved.unencodable) ∧
      (Storage.keepLog memory halved).2.outcome = .ok () := by
  intro memory crooked filed kept winding name missing halved
  obtain ⟨hfiled, hnames⟩ := Directory.names_write_crooked
  have hmade := congrArg Prod.snd Directory.makeDirectories_crooked
  have hlong : winding.tree.TooLong (winding.path name) := by
    have hsize : FileTree.maxPathSize < (winding.path name).toString.utf8ByteSize := by
      decide +kernel
    rw [FileTree.TooLong, FileTree.resolve, if_pos hsize]
    rfl
  refine ⟨⟨by decide +kernel, hmade, by decide +kernel, hfiled, hnames, by decide +kernel,
    by decide +kernel, by decide +kernel⟩,
    ⟨by decide +kernel, by decide +kernel, by decide +kernel,
    by decide +kernel, ?_, rfl⟩, by decide +kernel, rfl⟩
  exact Directory.outcome_listing_eq_error_iff.mpr ⟨rfl, hlong⟩

/-- A directory that is not there yet and an empty memory agree on a listing that is written, read
and deleted beside a log. -/
theorem directory_agrees_with_memory_of_missing_directory :
    let directory : Directory := .below ⟨[], []⟩ (.ofString "out") "" toolName 0
    let memory : Memory := { resources := [] }
    let requests : List (ℕ × Request) :=
      [(0, .names), (1, .write "a.Port" "x.A\n"), (2, .keepLog "done\n"), (3, .listing "a.Port"),
        (4, .names), (5, .delete), (6, .listing "a.Port")]
    Paired directory memory ∧ (∀ request ∈ requests, request.2.Fits directory) ∧
      List.Forall₂ (fun filed kept => Reply.Agree filed.2 kept.2 ∧ filed.1.Mirrors kept.1)
        (directory.askAll requests) (memory.askAll (requests.map Prod.snd)) := by
  intro directory memory requests
  have hunmade : directory.Unmade := by
    have hmade : directory.tree.makeDirectory directory.resources =
        .ok (directory.tree.put ["out"] .directory) := rfl
    refine ⟨by decide +kernel, directory.tree.put ["out"] .directory, ?_, ?_⟩
    · rw [FileTree.makeDirectories, hmade]
    intro location hlocation name
    have hout : (directory.tree.put ["out"] .directory).resolve directory.resources =
        .ok ["out"] := by decide +kernel
    obtain rfl := Except.ok.inj (hout.symm.trans hlocation)
    rfl
  have hpaired : Paired directory memory :=
    ⟨Or.inl hunmade, fun name _ => hunmade.octets?_eq_none name, rfl, rfl, rfl, by decide,
      fun name text _ htext => nomatch htext⟩
  have hfits : ∀ request ∈ requests, request.2.Fits directory := by decide +kernel
  exact ⟨hpaired, hfits, directory_agrees_with_memory hpaired hfits⟩

end ProviderRegistry
