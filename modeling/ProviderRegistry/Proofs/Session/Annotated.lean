import ProviderRegistry.Proofs.Session.Flush
import ProviderRegistry.Proofs.Session.Play
import ProviderRegistry.Proofs.Source.Round

/-!
# What a round over sources leaves of what is marked

A round of sources hands over two lists: the classes at the top level, which are taken from every
entry, and everything that is marked, which is registered under its targets. A marked class that
stands at the top level is in both, so afterwards it is listed where the round registered it and
nowhere else. A marked class inside another class or a function, and a marked function, is in the
second list only: what was listed of it before stays (`nested_class_stays_listed`).
`process_lists_annotated` says both.
-/

namespace ProviderRegistry

/-- The batch of a round of sources. -/
def Batch.ofRound (source : Source.Round) : Batch where
  declarations := source.declarations
  annotated := some source.annotated

theorem Batch.mem_stripped_ofRound_iff {flavor : Flavor} {modules : List Source.DeclaringModule}
    {provider : String} :
    provider ∈ ((ofRound (.ofModules modules)).turn flavor).stripped ↔
      Source.DeclaresTopLevel modules provider :=
  mem_stripped_iff.trans Source.exists_declaration_iff

/-- A module with a class inside of another one and a class at the top level that are both marked,
and with two names to register them under. -/
def Source.workshop : DeclaringModule :=
  let marked (line : ℕ) (target : String) : List Expr :=
    [.call line (.name line "type_provider_for") [.name line target] []]
  .ofBody "m" "" "m.py" [
    .importFrom 0 (some "provreg.markers") [⟨"type_provider_for", none⟩],
    .classDef 4 "Old" [] [] [] [.other], .classDef 8 "New" [] [] [] [.other],
    .classDef 12 "Outer" [] [] [] [.classDef 14 "Inner" [] [] (marked 13 "New") [.other]],
    .classDef 19 "Moved" [] [] (marked 18 "New") [.other]]

namespace Session

variable {σ : Type} [Storage σ] {flavor : Flavor} {options : Options} {storage : σ}
  {names : List String} {text : String → Option String}

/-- **What is listed of a marked declaration.** In a session over a storage whose texts can be
read, after any rounds that are not the last, a round over the sources of some modules completes.
Afterwards an entry lists a declaration that was marked just when the round registered it there, or
when no class at the top level has its name and the entry listed it before. -/
theorem process_lists_annotated (hoffers : Storage.Offers storage names text)
    (hon : options.disabled = false) (clock : ℕ → ℕ) {earlier : List Batch}
    (hearlier : ∀ batch ∈ earlier, batch.Complete flavor)
    (hfinal : ∀ batch ∈ earlier, batch.final = false) (modules : List Source.DeclaringModule)
    (hsource : (Batch.ofRound (.ofModules modules)).Complete flavor) :
    ∃ started rounds before report after,
      start (new flavor options storage) = .ok () started ∧
      play clock earlier started = (rounds, before) ∧ rounds.map Prod.fst = earlier ∧
      process clock (.ofRound (.ofModules modules)) before = .ok report after ∧
      ∀ d ∈ (Source.Round.ofModules modules).annotated, ∀ p, d.name = some p →
        ∀ entry ∈ after.bench.registry.entries,
          p ∈ entry.providers ↔
            (entry.name, p) ∈ report.registered ∨
            (¬ Source.DeclaresTopLevel modules p ∧
              Turn.Holds (earlier.map (·.turn flavor)) entry.name p
                (p ∈ Listing.stored (text entry.name))) := by
  obtain ⟨told, hstart, -⟩ := start_new flavor hon hoffers
  obtain ⟨before, told', hbefore, hplay⟩ := play_of_not_final clock hon hoffers hearlier hfinal
    (Registry.opened text names) told 0
  have hplay := hplay []
  rw [List.append_nil, play, List.append_nil] at hplay
  obtain ⟨more, hprocess, -⟩ := process_of_not_final hon hoffers hsource rfl
  rw [← hbefore] at hprocess
  refine ⟨_, _, before, _, _, hstart, hplay, Batch.map_fst_history .., hprocess, ?_⟩
  intro d _ p _ entry hentry
  have hself := ((Registry.mem_entries_iff text).mp hentry).2
  rw [← hself, Registry.mem_entryOf_turn, Registry.mem_entryOf_foldl_turn, Registry.entryOf_opened,
    Registry.name_entryOf, Batch.mem_stripped_ofRound_iff, and_comm]
  rfl

/-- A class inside of another one that is now registered under another name is still listed under
the old one. -/
theorem nested_class_stays_listed :
    let source := Source.Round.ofModules [Source.workshop]
    let memory : Memory := { resources := [("m.Old", "m.Outer.Inner\n")] }
    (Batch.ofRound source).Complete .type ∧
      (∃ d ∈ source.annotated, d.name = some "m.Outer.Inner") ∧
      ∃ started report after, start (new .type ⟨toolName, []⟩ memory) = .ok () started ∧
        process (fun _ => 0) (.ofRound source) started = .ok report after ∧
        ("m.New", "m.Outer.Inner") ∈ report.registered ∧
        ("m.Old", "m.Outer.Inner") ∉ report.registered ∧
        ∃ entry ∈ after.bench.registry.entries,
          entry.name = "m.Old" ∧ "m.Outer.Inner" ∈ entry.providers := by
  intro source memory
  have hon : Options.disabled ⟨toolName, []⟩ = false := by decide
  have hsource : (Batch.ofRound source).Complete .type := by decide +kernel
  let opened := Registry.opened memory.listing? memory.names
  let batch := Batch.ofRound source
  obtain ⟨told, hstart, -⟩ := start_new .type hon memory.offers
  obtain ⟨more, hprocess, -⟩ :=
    @process_of_not_final Memory _ (fun _ => 0) .type _ memory _ _ opened
    told 0 batch hon memory.offers hsource rfl
  have hname : "m.Old" ∈ (opened.turn memory.listing? (batch.turn .type)).names :=
    Registry.mem_names_turn.mpr (Or.inl (Registry.mem_names_opened.mpr (by decide +kernel)))
  refine ⟨hsource, by decide +kernel, _, _, _, hstart, hprocess, by decide +kernel,
    by decide +kernel, _, Registry.entryOf_mem memory.listing? hname, Registry.name_entryOf _, ?_⟩
  -- the round neither strips it nor registers it there
  rw [Registry.mem_entryOf_turn, Registry.entryOf_opened]
  exact Or.inr ⟨by decide +kernel, by decide +kernel⟩

/-- A marked class at the top level is listed where it is registered now and nowhere else, after a
session that found it elsewhere. -/
theorem process_lists_annotated_of_moved_class :
    let source := Source.Round.ofModules [Source.workshop]
    let memory : Memory := { resources := [("m.Old", "m.Moved\nm.Outer.Inner\n")] }
    (Batch.ofRound source).Complete .type ∧
      ∃ started report after, start (new .type ⟨toolName, []⟩ memory) = .ok () started ∧
        process (fun _ => 0) (.ofRound source) started = .ok report after ∧
        ∀ entry ∈ after.bench.registry.entries,
          ("m.Moved" ∈ entry.providers ↔ (entry.name, "m.Moved") ∈ report.registered) ∧
          ("m.Outer.Inner" ∈ entry.providers ↔
            (entry.name, "m.Outer.Inner") ∈ report.registered ∨
            "m.Outer.Inner" ∈ Listing.stored (memory.listing? entry.name)) := by
  intro source memory
  have hon : Options.disabled ⟨toolName, []⟩ = false := by decide
  have hsource : (Batch.ofRound source).Complete .type := by decide +kernel
  obtain ⟨started, rounds, before, report, after, hstart, hplay, -, hprocess, hlists⟩ :=
    process_lists_annotated memory.offers hon (fun _ => 0)
      (by decide : ∀ batch ∈ ([] : List Batch), batch.Complete .type) (by decide)
      [Source.workshop] hsource
  obtain ⟨-, rfl⟩ := Prod.mk.inj hplay
  have hmoved : ∃ d ∈ source.annotated, d.name = some "m.Moved" := by decide +kernel
  have hinner : ∃ d ∈ source.annotated, d.name = some "m.Outer.Inner" := by decide +kernel
  have htop : Source.DeclaresTopLevel [Source.workshop] "m.Moved" := by decide +kernel
  have hnested : ¬ Source.DeclaresTopLevel [Source.workshop] "m.Outer.Inner" := by decide +kernel
  obtain ⟨moved, hmoved, hmovedName⟩ := hmoved
  obtain ⟨inner, hinner, hinnerName⟩ := hinner
  refine ⟨hsource, started, report, after, hstart, hprocess, fun entry hentry => ⟨?_, ?_⟩⟩
  · rw [hlists moved hmoved _ hmovedName entry hentry]
    simp [htop]
  · rw [hlists inner hinner _ hinnerName entry hentry]
    simp [hnested]

end Session

end ProviderRegistry
