import ProviderRegistry.Proofs.Session.Rerun

/-!
# Recovering from failures by running again

A memory may refuse to write some listings, or to delete them. Once it is **repaired**, the run
that met the refusals is simply done again: it leaves the names that it would have left without any
refusal, and under each of them the same providers (`run_again_recovers`). So nothing is lost and
nothing stays out of date, whichever of the writes were refused.

The reason is that a flush that is refused nothing leaves every listed name as the registry shows
it (`FlushesAll.stored_of_mem`) and no other name changed (`FlushesAll.listing?_of_notMem`), also
where it finds nothing to do. Only the order of the names may differ, as names that were refused
come last.
-/

namespace ProviderRegistry

/-- A name is listed when it holds a provider. -/
theorem Registry.mem_names_listed_iff {registry : Registry} (text : String → Option String)
    {name : String} :
    name ∈ registry.listed.map Entry.name ↔
      name ∈ registry.names ∧ ∃ p, p ∈ (registry.entryOf text name).providers := by
  constructor
  · intro h
    obtain ⟨entry, hentry, rfl⟩ := List.mem_map.mp h
    obtain ⟨hmem, hholds⟩ := Registry.mem_listed_iff.mp hentry
    obtain ⟨hname, hself⟩ := (Registry.mem_entries_iff text).mp hmem
    exact ⟨hname, by rwa [hself]⟩
  · rintro ⟨hname, hholds⟩
    exact List.mem_map.mpr ⟨registry.entryOf text name,
      Registry.mem_listed_iff.mpr ⟨Registry.entryOf_mem text hname, hholds⟩,
      Registry.name_entryOf name⟩

namespace Memory

variable {memory left : Memory} {turns : List Turn} {name : String}

/-- The memory once it is **repaired**: it refuses nothing any more. -/
def repaired (memory : Memory) : Memory :=
  { memory with refusedWrites := [], refusesDelete := false }

theorem registryAfter_repaired (memory : Memory) (turns : List Turn) :
    memory.repaired.registryAfter turns = memory.registryAfter turns := rfl

theorem accepted_of_accepting (h : memory.refusedWrites = []) (entries : List Entry) :
    memory.accepted entries = entries := by
  rw [accepted, List.filter_eq_self, h]
  exact fun entry _ => decide_eq_true List.not_mem_nil

/-- Some texts by name **list the same** as others when they have the same names, and under each
name the same providers. -/
structure ListsSame (resources others : List (String × String)) : Prop where
  names : ∀ name, name ∈ resources.map Prod.fst ↔ name ∈ others.map Prod.fst
  stored : ∀ name, Listing.stored (resources.lookup name) = Listing.stored (others.lookup name)

theorem ListsSame.of_eq {resources others : List (String × String)} (h : resources = others) :
    ListsSame resources others :=
  ⟨fun name => by rw [h], fun name => by rw [h]⟩

/-! ### Flushes that are refused nothing -/

/-- A memory **flushes all** after some turns when something is listed and nothing is refused. -/
structure FlushesAll (memory : Memory) (turns : List Turn) (left : Memory) : Prop where
  leaves : memory.Leaves (memory.registryAfter turns) left
  listed : (memory.registryAfter turns).listed ≠ []
  accepting : memory.refusedWrites = []

namespace FlushesAll

/-- Either nothing was to be done, or all that is listed was written. -/
theorem rewritten_or (h : memory.FlushesAll turns left) :
    ((memory.registryAfter turns).isModified = false ∧ left.resources = memory.resources) ∨
      memory.Rewritten turns left := by
  cases hmodified : (memory.registryAfter turns).isModified with
  | false => exact Or.inl ⟨rfl, h.leaves.resources.trans (flushed_of_unmodified hmodified)⟩
  | true => exact Or.inr ⟨h.leaves, hmodified, h.listed⟩

/-- The names are those that were there and those that are listed. -/
theorem mem_map_fst (h : memory.FlushesAll turns left) :
    name ∈ left.resources.map Prod.fst ↔ name ∈ memory.resources.map Prod.fst ∨
      name ∈ (memory.registryAfter turns).listed.map Entry.name := by
  rcases h.rewritten_or with ⟨hunmodified, hresources⟩ | hwritten
  · -- what is listed unchanged has a text already
    rw [hresources]
    refine ⟨Or.inl, fun hname => hname.elim id fun hlisted => ?_⟩
    have hname := ((Registry.mem_names_listed_iff memory.listing?).mp hlisted).1
    exact (mem_names_iff.mp
      (Registry.isModified_after_eq_false_iff.mp hunmodified name hname).1).1
  · rw [hwritten.mem_map_fst, accepted_of_accepting h.accepting]

/-- Other names keep their texts. -/
theorem listing?_of_notMem (h : memory.FlushesAll turns left)
    (hname : name ∉ (memory.registryAfter turns).listed.map Entry.name) :
    left.listing? name = memory.listing? name := by
  rcases h.rewritten_or with ⟨-, hresources⟩ | hwritten
  · rw [listing?, hresources, listing?]
  · exact hwritten.listing?_of_notMem (by rwa [accepted_of_accepting h.accepting])

/-- **What is listed** is stored as the registry shows it. -/
theorem stored_of_mem (h : memory.FlushesAll turns left) (htool : '\n' ∉ memory.tool.toList)
    (hclean : Turn.Clean turns)
    (hname : name ∈ (memory.registryAfter turns).listed.map Entry.name) :
    Listing.stored (left.listing? name) =
      ((memory.registryAfter turns).entryOf memory.listing? name).providers := by
  rcases h.rewritten_or with ⟨hunmodified, hresources⟩ | hwritten
  · have hname := ((Registry.mem_names_listed_iff memory.listing?).mp hname).1
    rw [listing?, hresources, ← listing?]
    exact (Registry.isModified_after_eq_false_iff.mp hunmodified name hname).2.symm
  · exact hwritten.stored_of_mem htool hclean (by rwa [accepted_of_accepting h.accepting])

end FlushesAll

/-! ### Two flushes, or one -/

section Recovery

variable {again once : Memory}

/-- After a flush that wrote what it was not refused, another one that is refused nothing lists the
same as if nothing had been refused in the first place. -/
theorem Rewritten.recovers (h : memory.Rewritten turns left) (htool : '\n' ∉ memory.tool.toList)
    (hclean : Turn.Clean turns) (hagain : left.repaired.Leaves (left.registryAfter turns) again)
    (honce : memory.repaired.Leaves (memory.registryAfter turns) once) :
    ListsSame again.resources once.resources := by
  have hlisted : ∀ name, name ∈ (left.registryAfter turns).listed.map Entry.name ↔
      name ∈ (memory.registryAfter turns).listed.map Entry.name := fun name => by
    simp only [List.mem_map, h.mem_listed_again htool hclean]
  have hsome : (left.registryAfter turns).listed ≠ [] := by
    obtain ⟨entry, hentry⟩ := List.exists_mem_of_ne_nil _ h.listed
    exact List.ne_nil_of_mem ((h.mem_listed_again htool hclean).mpr hentry)
  have hagain : left.repaired.FlushesAll turns again := ⟨hagain, hsome, rfl⟩
  have honce : memory.repaired.FlushesAll turns once := ⟨honce, h.listed, rfl⟩
  have hleftTool : '\n' ∉ left.tool.toList := h.leaves.tool ▸ htool
  have haccepted : ∀ name, name ∈ (memory.accepted (memory.registryAfter turns).listed).map
      Entry.name → name ∈ (memory.registryAfter turns).listed.map Entry.name :=
    fun name hname => List.map_subset Entry.name (List.filter_subset_self _) hname
  constructor
  · intro name
    rw [hagain.mem_map_fst, honce.mem_map_fst, registryAfter_repaired, registryAfter_repaired,
      hlisted, repaired, repaired, h.mem_map_fst, or_assoc]
    exact or_congr_right (or_iff_right_of_imp (haccepted name))
  · intro name
    by_cases hname : name ∈ (memory.registryAfter turns).listed.map Entry.name
    · have hstored := hagain.stored_of_mem hleftTool hclean ((hlisted name).mpr hname)
      have hstored' := honce.stored_of_mem htool hclean hname
      rw [← listing?, ← listing?, hstored, hstored']
      exact ProviderSet.ext fun p => h.mem_entryOf_again htool hclean
    · have hkept := hagain.listing?_of_notMem (mt (hlisted name).mp hname)
      have hkept' := honce.listing?_of_notMem hname
      rw [← listing?, ← listing?, hkept, hkept']
      exact congrArg Listing.stored (h.listing?_of_notMem (mt (haccepted name) hname))

/-- **A flush after failures.** Whatever the first flush was refused, a second one that is refused
nothing lists the same as if nothing had been refused in the first place. -/
theorem recovers (htool : '\n' ∉ memory.tool.toList) (hclean : Turn.Clean turns)
    (hleft : memory.Leaves (memory.registryAfter turns) left)
    (hagain : left.repaired.Leaves (left.registryAfter turns) again)
    (honce : memory.repaired.Leaves (memory.registryAfter turns) once) :
    ListsSame again.resources once.resources := by
  cases hmodified : (memory.registryAfter turns).isModified with
  | false =>
    -- nothing to do: the second flush starts where the first one started
    have hresources := hleft.resources.trans (flushed_of_unmodified hmodified)
    refine .of_eq ?_
    rw [hagain.resources, honce.resources, registryAfter_congr hresources,
      flushed_of_unmodified hmodified, flushed_of_unmodified hmodified]
    exact hresources
  | true =>
    by_cases hlisted : (memory.registryAfter turns).listed = []
    · refine .of_eq ?_
      rw [hagain.resources, honce.resources, flushed_of_empty hmodified hlisted]
      have hresources := hleft.resources.trans (flushed_of_empty hmodified hlisted)
      cases hrefuses : memory.refusesDelete with
      | true =>
        -- the deletion was refused, and is now done
        rw [hrefuses, if_pos rfl] at hresources
        rw [registryAfter_congr hresources, flushed_of_empty hmodified hlisted]
        change left.resources.filter _ = memory.resources.filter _
        rw [hresources]
      | false =>
        rw [hrefuses, if_neg Bool.false_ne_true] at hresources
        have hagain : left.repaired.flushed (left.repaired.registryAfter turns) =
            left.repaired.resources := flushed_again_of_emptied hresources hlisted rfl
        exact hagain.trans hresources
    · have hwritten : memory.Rewritten turns left := ⟨hleft, hmodified, hlisted⟩
      exact hwritten.recovers htool hclean hagain honce

end Recovery

end Memory

namespace Session

variable {flavor : Flavor} {options : Options} {batches : List Batch}

/-- **Recovery.** A whole run over a memory that may refuse to write and to delete, and the same
run over what it left once nothing is refused any more, end with the same names and with the same
providers under each name as the run over the memory as it was, had it refused nothing. All three
complete their rounds. The name of the tool must have no line break, and what is registered must be
clean. -/
theorem run_again_recovers {memory : Memory} {rounds : List (Batch × Report)}
    {ended : Session Memory} {clock : ℕ → ℕ} (clock' clock'' : ℕ → ℕ)
    (htool : '\n' ∉ memory.tool.toList) (hbatches : ∀ batch ∈ batches, batch.Complete flavor)
    (hrun : run clock flavor options batches memory = (rounds, ended))
    (hclean : ∀ round ∈ rounds, ∀ pair ∈ round.2.registered, Listing.Clean pair.2) :
    rounds.map Prod.fst = Batch.accepted (batches ++ [.finish]) ∧ ended.finished = true ∧
      ∃ rounds' again rounds'' once,
        run clock' flavor options batches ended.bench.storage.repaired = (rounds', again) ∧
        rounds'.map Prod.fst = Batch.accepted (batches ++ [.finish]) ∧ again.finished = true ∧
        run clock'' flavor options batches memory.repaired = (rounds'', once) ∧
        rounds''.map Prod.fst = Batch.accepted (batches ++ [.finish]) ∧ once.finished = true ∧
        Memory.ListsSame again.bench.storage.resources once.bench.storage.resources := by
  cases hon : options.disabled with
  | true =>
    obtain ⟨ended₁, hrun₁, hbench, hfinished⟩ := run_of_disabled flavor batches hon clock memory
    obtain ⟨rfl, rfl⟩ := Prod.mk.inj (hrun₁.symm.trans hrun)
    obtain ⟨again, hagain, hbenchAgain, hfinishedAgain⟩ :=
      run_of_disabled flavor batches hon clock' ended₁.bench.storage.repaired
    obtain ⟨once, honce, hbenchOnce, hfinishedOnce⟩ :=
      run_of_disabled flavor batches hon clock'' memory.repaired
    refine ⟨Batch.map_fst_idle 0 _, hfinished, _, again, _, once, hagain, Batch.map_fst_idle 0 _,
      hfinishedAgain, honce, Batch.map_fst_idle 0 _, hfinishedOnce, .of_eq ?_⟩
    rw [hbenchAgain, hbenchOnce, hbench]
    rfl
  | false =>
    obtain ⟨rounds₁, left, told, number, hrun₁, haccepted, hregistered, hleft⟩ :=
      run_memory hon hbatches clock memory
    obtain ⟨rfl, rfl⟩ := Prod.mk.inj (hrun₁.symm.trans hrun)
    have hturns : Turn.Clean (Batch.turns flavor batches) :=
      Batch.clean_turns hbatches ((forall_registered_iff hregistered).mp hclean)
    obtain ⟨rounds', again, told', number', hagain, haccepted', -, hleftAgain⟩ :=
      run_memory hon hbatches clock' left.repaired
    obtain ⟨rounds'', once, told'', number'', honce, haccepted'', -, hleftOnce⟩ :=
      run_memory hon hbatches clock'' memory.repaired
    exact ⟨haccepted, rfl, rounds', _, rounds'', _, hagain, haccepted', rfl, honce, haccepted'',
      rfl, Memory.recovers htool hturns hleft hleftAgain hleftOnce⟩

/-- A run that could write one of three listings only is made good by the next one, which finds one
listing up to date, one that is out of date and one that is missing. -/
theorem run_again_recovers_of_refused_writes :
    let memory : Memory :=
      { resources := [("a.Port", "a.Former"), ("b.Port", "a.Former")]
        refusedWrites := ["b.Port", "c.Port"] }
    let adapter : Declaration :=
      { name := some "a.Adapter"
        markers := [("type_provider_for", [some "a.Port", some "b.Port", some "c.Port"])] }
    let batches : List Batch := [{ declarations := [adapter] }]
    let first := run (fun _ => 0) .type ⟨toolName, []⟩ batches memory
    let again := run (fun _ => 1) .type ⟨toolName, []⟩ batches first.2.bench.storage.repaired
    let once := run (fun _ => 2) .type ⟨toolName, []⟩ batches memory.repaired
    (∀ round ∈ first.1, ∀ pair ∈ round.2.registered, Listing.Clean pair.2) ∧
      first.2.bench.storage.resources.map Prod.fst = ["a.Port", "b.Port"] ∧
      first.2.bench.storage.written = ["a.Port"] ∧
      Memory.ListsSame again.2.bench.storage.resources once.2.bench.storage.resources := by
  intro memory adapter batches first again once
  have hclean : ∀ round ∈ first.1, ∀ pair ∈ round.2.registered, Listing.Clean pair.2 := by
    decide +kernel
  obtain ⟨-, -, rounds', again', rounds'', once', hagain, -, -, honce, -, -, hsame⟩ :=
    run_again_recovers (fun _ => 1) (fun _ => 2) (by decide) (by decide) (Prod.eta first).symm
      hclean
  have hagain' : again = (rounds', again') := hagain
  have honce' : once = (rounds'', once') := honce
  rw [hagain', honce']
  exact ⟨hclean, by decide +kernel, by decide +kernel, hsame⟩

end Session

end ProviderRegistry
