import ProviderRegistry.Proofs.Session.Batch
import ProviderRegistry.Proofs.Storage.Memory

/-!
# The flush of a session

The last round of a session compares the registry with what it remembers, and brings the storage in
step with it. Over a memory that comes to one of three outcomes, and never fails: nothing changed
(`flush_of_unmodified`), nothing is left to list (`flush_of_empty`), or the entries that list
something are written, each of which the memory may refuse without harm to the others
(`flush_of_listed`).
-/

namespace ProviderRegistry

/-- The entries that hold a provider, in the order in which they came. -/
def Registry.listed (registry : Registry) : List Entry :=
  registry.entries.filter fun entry => !entry.providers.isEmpty

/-- No name is written twice by one flush. -/
theorem Registry.nodup_names_listed (registry : Registry) :
    (registry.listed.map Entry.name).Nodup :=
  registry.distinct.sublist (List.Sublist.map _ List.filter_sublist)

theorem ProviderSet.isEmpty_eq_false_iff {s : ProviderSet} : s.isEmpty = false ↔ ∃ p, p ∈ s := by
  rw [isEmpty, List.isEmpty_eq_false_iff_exists_mem]
  rfl

/-- Listed are the entries that hold a provider. -/
theorem Registry.mem_listed_iff {registry : Registry} {entry : Entry} :
    entry ∈ registry.listed ↔ entry ∈ registry.entries ∧ ∃ p, p ∈ entry.providers := by
  rw [listed, List.mem_filter, Bool.not_eq_true', ProviderSet.isEmpty_eq_false_iff]

namespace Memory

/-- A memory answers with what it holds: its names, and the listing of each of them. -/
theorem offers (memory : Memory) : Storage.Offers memory memory.names memory.listing? :=
  ⟨Answer.gives_silent _, fun _ => Answer.gives_silent _⟩

/-- The entries whose writing is not refused. -/
def accepted (memory : Memory) (entries : List Entry) : List Entry :=
  entries.filter fun entry => entry.name ∉ memory.refusedWrites

/-- The entries whose writing is refused. -/
def refused (memory : Memory) (entries : List Entry) : List Entry :=
  entries.filter fun entry => entry.name ∈ memory.refusedWrites

/-- What is said of an entry whose writing is refused. -/
def refusal (entry : Entry) : Diagnostic where
  severity := .error
  message := (StorageFailure.writeRefused entry.name).message
  declaration := entry.name

/-- What is told of the entries whose writing is refused. -/
def refusals (memory : Memory) (entries : List Entry) : List Event :=
  (memory.refused entries).map fun entry => .diagnosed (refusal entry)

/-- What is said of a deletion that is refused. -/
def deletionRefusalText : String :=
  s!"An error occurred while deleting data file: {StorageFailure.deleteRefused.message}"

/-- The warning that a deletion is refused. -/
def deletionRefusal : Diagnostic where
  severity := .warning
  message := deletionRefusalText

/-- The memory after some entries were written, but for those that are refused. -/
def writeAll (memory : Memory) (entries : List Entry) : Memory :=
  { memory with
    resources := putAll memory.tool memory.resources (memory.accepted entries)
    written := memory.written ++ (memory.accepted entries).map Entry.name }

/-- An entry's name, and what is said of it if its writing is refused. -/
def outcome (memory : Memory) (entry : Entry) : String × Option Diagnostic :=
  (entry.name, if entry.name ∈ memory.refusedWrites then some (refusal entry) else none)

/-- The texts of a memory after a flush. -/
def flushed (memory : Memory) (registry : Registry) : List (String × String) :=
  if registry.isModified then
    if registry.listed.isEmpty then memory.delete.1.resources
    else putAll memory.tool memory.resources (memory.accepted registry.listed)
  else memory.resources

/-- **What a flush leaves** of a memory: other texts, and the same tool and refusals. -/
structure Leaves (memory : Memory) (registry : Registry) (left : Memory) : Prop where
  resources : left.resources = memory.flushed registry
  tool : left.tool = memory.tool
  refusedWrites : left.refusedWrites = memory.refusedWrites
  refusesDelete : left.refusesDelete = memory.refusesDelete

/-- The registry of a session over the memory after some turns. -/
def registryAfter (memory : Memory) (turns : List Turn) : Registry :=
  Registry.after memory.listing? memory.names turns

variable {memory : Memory}

/-- Nothing changed, so nothing is written. -/
theorem flushed_of_unmodified {registry : Registry} (h : registry.isModified = false) :
    memory.flushed registry = memory.resources := by
  rw [flushed, h, if_neg Bool.false_ne_true]

/-- No entry holds a provider, so the listings are deleted, unless the memory refuses. -/
theorem flushed_of_empty {registry : Registry} (h : registry.isModified = true)
    (hlisted : registry.listed = []) :
    memory.flushed registry = if memory.refusesDelete then memory.resources
      else memory.resources.filter fun resource => Listing.isLogName resource.1 := by
  rw [flushed, if_pos h, hlisted, List.isEmpty_nil, if_pos rfl, delete]
  split <;> rfl

/-- The entries that hold a provider are written, each but those that the memory refuses. -/
theorem flushed_of_listed {registry : Registry} (h : registry.isModified = true)
    (hlisted : registry.listed ≠ []) :
    memory.flushed registry =
      putAll memory.tool memory.resources (memory.accepted registry.listed) := by
  rw [flushed, if_pos h, if_neg (by simpa using hlisted)]

/-- An empty log is not kept. -/
theorem keepLog_eq (memory : Memory) (text : RawText) :
    memory.keepLog text =
      { memory with logs := memory.logs ++ if text.isEmpty then [] else [text] } := by
  rw [keepLog]
  cases text.isEmpty <;> simp

theorem writeAll_append (entries more : List Entry) :
    memory.writeAll (entries ++ more) = (memory.writeAll entries).writeAll more := by
  simp [writeAll, accepted, putAll, List.foldl_append]

/-- Accepted are the entries whose name the memory does not refuse. -/
theorem mem_accepted_iff {entries : List Entry} {entry : Entry} :
    entry ∈ memory.accepted entries ↔ entry ∈ entries ∧ entry.name ∉ memory.refusedWrites := by
  rw [accepted, List.mem_filter, decide_eq_true_eq]

/-- No name is accepted twice. -/
theorem nodup_names_accepted (memory : Memory) (registry : Registry) :
    ((memory.accepted registry.listed).map Entry.name).Nodup :=
  registry.nodup_names_listed.sublist (List.Sublist.map _ List.filter_sublist)

/-- The write of a refused entry comes to a refusal. -/
theorem outcome_of_refused {entry : Entry} (h : entry.name ∈ memory.refusedWrites) :
    memory.outcome entry = (entry.name, some (refusal entry)) := by
  rw [outcome, if_pos h]

/-- The write of an accepted entry comes to no failure. -/
theorem outcome_of_accepted {entry : Entry} (h : entry.name ∉ memory.refusedWrites) :
    memory.outcome entry = (entry.name, none) := by
  rw [outcome, if_neg h]

theorem accepted_cons (entry : Entry) (entries : List Entry) :
    memory.accepted (entry :: entries) = memory.accepted [entry] ++ memory.accepted entries :=
  List.filter_append [entry] entries

theorem refused_cons (entry : Entry) (entries : List Entry) :
    memory.refused (entry :: entries) = memory.refused [entry] ++ memory.refused entries :=
  List.filter_append [entry] entries

theorem refusals_cons (entry : Entry) (entries : List Entry) :
    memory.refusals (entry :: entries) = memory.refusals [entry] ++ memory.refusals entries := by
  rw [refusals, refused_cons, List.map_append, ← refusals, ← refusals]

/-- Reported as written are the accepted entries. -/
theorem filterMap_outcome_written (entries : List Entry) :
    (entries.map memory.outcome).filterMap
        (fun (name, failure) => if failure.isNone then some name else none) =
      (memory.accepted entries).map Entry.name := by
  induction entries with
  | nil => rfl
  | cons entry entries ih =>
    rw [accepted_cons, List.map_append, ← ih, List.map_cons]
    by_cases h : entry.name ∈ memory.refusedWrites
    · rw [outcome_of_refused h]
      simp [accepted, h]
    · rw [outcome_of_accepted h]
      simp [accepted, h]

/-- Reported as failures are the refused entries. -/
theorem filterMap_outcome_failures (entries : List Entry) :
    (entries.map memory.outcome).filterMap (·.2) = (memory.refused entries).map refusal := by
  induction entries with
  | nil => rfl
  | cons entry entries ih =>
    rw [refused_cons, List.map_append, ← ih, List.map_cons]
    by_cases h : entry.name ∈ memory.refusedWrites
    · rw [outcome_of_refused h]
      simp [refused, h]
    · rw [outcome_of_accepted h]
      simp [refused, h]

end Memory

namespace Work

variable {memory : Memory} {registry : Registry} {told : List Event} {options : Options}
  {report : Report}

/-! ### Writing and deleting -/

/-- What a storage does in silence. -/
theorem store_eq {σ α : Type} {step : σ → σ × Answer α} {before after : σ}
    {outcome : Except Fault α} (h : step before = (after, Answer.silent outcome))
    (registry : Registry) (told : List Event) :
    store step ⟨registry, before, told⟩ = ofExcept outcome ⟨registry, after, told⟩ := by
  rw [store_apply, h, Answer.silent, List.append_nil]

/-- One write leaves the memory with the entry written unless it is refused, and a refusal is
told. -/
theorem writeListing_eq (entry : Entry) :
    writeListing entry ⟨registry, memory, told⟩ =
      .ok (memory.outcome entry).2 ⟨registry, memory.writeAll [entry],
        told ++ memory.refusals [entry]⟩ := by
  by_cases h : entry.name ∈ memory.refusedWrites
  · have hwrite : Storage.write memory entry.name entry.render =
        (memory.writeAll [entry],
          Answer.silent (.error (.storage (.writeRefused entry.name)))) := by
      change (memory.write entry.name entry.render).map id Answer.silent = _
      simp [Memory.write, Memory.writeAll, Memory.accepted, Memory.putAll, h]
    have hrefused : memory.refused [entry] = [entry] := by simp [Memory.refused, h]
    rw [writeListing, store_eq hwrite, Memory.outcome_of_refused h, Memory.refusals, hrefused]
    rfl
  · have hwrite : Storage.write memory entry.name entry.render =
        (memory.writeAll [entry], Answer.silent (.ok ())) := by
      change (memory.write entry.name entry.render).map id Answer.silent = _
      simp [Memory.write, Memory.writeAll, Memory.accepted, Memory.putAll, h]
    have hrefused : memory.refused [entry] = [] := by simp [Memory.refused, h]
    rw [writeListing, store_eq hwrite, Memory.outcome_of_accepted h, Memory.refusals, hrefused,
      List.map_nil, List.append_nil]
    rfl

/-- Each entry is written or refused on its own. -/
theorem mapM_writeListing (entries : List Entry) (memory : Memory) (told : List Event) :
    (entries.mapM fun entry => return (entry.name, ← writeListing entry) : Work Memory _)
        ⟨registry, memory, told⟩ =
      .ok (entries.map memory.outcome) ⟨registry, memory.writeAll entries,
        told ++ memory.refusals entries⟩ := by
  -- a write changes the memory that the rest is written to, but not what it refuses
  induction entries generalizing memory told with
  | nil =>
    simp [Memory.writeAll, Memory.accepted, Memory.putAll, Memory.refusals, Memory.refused]
    rfl
  | cons entry entries ih =>
    have hfirst : (return (entry.name, ← writeListing entry) : Work Memory _)
          ⟨registry, memory, told⟩ =
        .ok (memory.outcome entry) ⟨registry, memory.writeAll [entry],
          told ++ memory.refusals [entry]⟩ :=
      bind_of_ok (writeListing_eq entry)
    have hwriteAll : memory.writeAll (entry :: entries) =
        (memory.writeAll [entry]).writeAll entries := Memory.writeAll_append [entry] entries
    rw [List.mapM_cons, bind_of_ok hfirst, bind_of_ok (ih _ _),
      Memory.refusals_cons entry entries, hwriteAll, ← List.append_assoc]
    rfl

/-- One deletion leaves the memory without listings unless it is refused, and a refusal is told. -/
theorem deleteListings_eq :
    deleteListings ⟨registry, memory, told⟩ =
      .ok (!memory.refusesDelete) ⟨registry, memory.delete.1, told ++
        if memory.refusesDelete then [.warning .both Memory.deletionRefusalText] else []⟩ := by
  cases hrefuses : memory.refusesDelete with
  | true =>
    have hdelete : Storage.delete memory =
        (memory.delete.1, Answer.silent (.error (.storage .deleteRefused))) := by
      change memory.delete.map id Answer.silent = _
      rw [Memory.delete, if_pos hrefuses]
      rfl
    rw [deleteListings, store_eq hdelete]
    rfl
  | false =>
    have hdelete : Storage.delete memory = (memory.delete.1, Answer.silent (.ok ())) := by
      change memory.delete.map id Answer.silent = _
      rw [Memory.delete, if_neg (by simp [hrefuses])]
      rfl
    rw [deleteListings, store_eq hdelete, if_neg Bool.false_ne_true, List.append_nil]
    rfl

/-- A memory keeps every log. -/
theorem store_keepLog (text : RawText) :
    store (Storage.keepLog · text) ⟨registry, memory, told⟩ =
      .ok () ⟨registry, memory.keepLog text, told⟩ := by
  have hkeep : Storage.keepLog memory text = (memory.keepLog text, .silent (.ok ())) := rfl
  rw [store_eq hkeep]
  rfl

/-- The text of the log is a function of what was told; asking for it changes nothing. -/
theorem logText_apply {σ : Type} (options : Options) (bench : Workbench σ) :
    logText options bench = .ok ((Journal.start options).recordAll bench.told).logText bench :=
  rfl

/-! ### The three outcomes -/

/-- What a flush tells before it changes the storage. -/
def writing : Event := .logged "Writing output"

/-- A flush of a registry without changes does nothing on any storage. -/
theorem flush_of_unmodified {σ : Type} [Storage σ] {bench : Workbench σ}
    (h : bench.registry.isModified = false) : flush options report bench = .ok report bench := by
  simp only [flush, Work.registry, bind_apply, get_apply, pure_apply, h, Bool.not_false, if_true]

/-- A flush without anything to list deletes, and reports whether it could. -/
theorem flush_of_empty (h : registry.isModified = true) (hempty : registry.listed = []) :
    flush options report ⟨registry, memory, told⟩ =
      .ok { report with modified := true, deleted := !memory.refusesDelete }
        ⟨registry, memory.delete.1, told ++ [writing] ++
          if memory.refusesDelete then [.warning .both Memory.deletionRefusalText]
          else []⟩ := by
  rw [Registry.listed] at hempty
  simp only [flush, Work.registry, bind_apply, get_apply, pure_apply, h, hempty, Bool.not_true,
    Bool.false_eq_true, if_false, if_true, tell, modify_apply, List.isEmpty_nil, deleteListings_eq,
    writing]

/-- A flush with something to list writes, and reports what was written and what was refused. -/
theorem flush_of_listed (h : registry.isModified = true) (hlisted : registry.listed ≠ []) :
    flush options report ⟨registry, memory, told⟩ =
      let told' := told ++ [writing] ++ memory.refusals registry.listed
      .ok { report with
            modified := true
            written := (memory.accepted registry.listed).map Entry.name
            failures := (memory.refused registry.listed).map Memory.refusal }
        ⟨registry, (memory.writeAll registry.listed).keepLog
          ((Journal.start options).recordAll told').logText, told'⟩ := by
  have hrun := @mapM_writeListing registry registry.listed memory (told ++ [writing])
  have hsome : registry.listed.isEmpty = false := by simpa using hlisted
  rw [← Memory.filterMap_outcome_written, ← Memory.filterMap_outcome_failures]
  rw [Registry.listed, writing] at hrun ⊢
  rw [Registry.listed] at hsome
  simp only [flush, Work.registry, bind_apply, get_apply, pure_apply, h, hsome, Bool.not_true,
    Bool.false_eq_true, if_false, tell, modify_apply, hrun, logText_apply, store_keepLog]

/-- **A flush never fails.** It keeps the registry, and of the report what it says of the round. -/
theorem flush_memory (options : Options) (report : Report) (registry : Registry) (memory : Memory)
    (told : List Event) :
    ∃ last left told', flush options report ⟨registry, memory, told⟩ =
        .ok last ⟨registry, left, told'⟩ ∧
      last.registered = report.registered ∧ memory.Leaves registry left := by
  cases hmodified : registry.isModified with
  | false =>
    exact ⟨_, _, _, flush_of_unmodified hmodified, rfl,
      (Memory.flushed_of_unmodified hmodified).symm, rfl, rfl, rfl⟩
  | true =>
    by_cases hlisted : registry.listed = []
    · refine ⟨_, _, _, flush_of_empty hmodified hlisted, rfl, ?_, ?_, ?_, ?_⟩
      · rw [Memory.flushed_of_empty hmodified hlisted, Memory.delete]
        split <;> rfl
      all_goals
        rw [Memory.delete]
        cases memory.refusesDelete <;> rfl
    · refine ⟨_, _, _, flush_of_listed hmodified hlisted, rfl, ?_, ?_, ?_, ?_⟩
      · rw [Memory.flushed_of_listed hmodified hlisted, Memory.keepLog_eq]
        rfl
      all_goals
        rw [Memory.keepLog_eq]
        rfl

end Work

end ProviderRegistry
