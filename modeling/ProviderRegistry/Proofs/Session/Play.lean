import ProviderRegistry.Proofs.Session.Batch

/-!
# Sessions from their start on

`Session.play` hands some batches to a session one after the other and keeps the rounds that come
to an end; a batch that is refused leaves no round. Over a storage that offers all its texts, a
session that starts holds what the storage lists (`start_new`); complete batches that are not the
last of the session take its registry from turn to turn and do not touch the storage
(`play_of_not_final`); and the first batch that is the last one ends the session with a flush
(`play_of_final`), after which every batch is refused (`play_of_finished`).
-/

namespace ProviderRegistry

namespace Batch

/-- The batches that a session accepts: all up to the first that is the last of the session. -/
def accepted : List Batch → List Batch
  | [] => []
  | batch :: batches => if batch.final then [batch] else batch :: accepted batches

theorem accepted_of_not_final {batches : List Batch} (h : ∀ batch ∈ batches, batch.final = false) :
    accepted batches = batches := by
  induction batches with
  | nil => rfl
  | cons batch batches ih =>
    rw [accepted, if_neg (by simp [h batch List.mem_cons_self]),
      ih fun b hb => h b (List.mem_cons_of_mem batch hb)]

theorem accepted_of_final {batches rest : List Batch} {last : Batch}
    (h : ∀ batch ∈ batches, batch.final = false) (hlast : last.final = true) :
    accepted (batches ++ last :: rest) = batches ++ [last] := by
  induction batches with
  | nil => rw [List.nil_append, accepted, if_pos hlast, List.nil_append]
  | cons batch batches ih =>
    rw [List.cons_append, accepted, if_neg (by simp [h batch List.mem_cons_self]),
      ih fun b hb => h b (List.mem_cons_of_mem batch hb), List.cons_append]

theorem accepted_subset (batches : List Batch) : accepted batches ⊆ batches := by
  induction batches with
  | nil => exact List.Subset.refl []
  | cons batch batches ih =>
    rw [accepted]
    split
    · exact List.cons_subset_cons batch (List.nil_subset batches)
    · exact List.cons_subset_cons batch ih

/-- Batches are none of them the last of a session, or there is a first one that is. -/
theorem forall_not_final_or_exists (batches : List Batch) :
    (∀ batch ∈ batches, batch.final = false) ∨
      ∃ earlier last rest, batches = earlier ++ last :: rest ∧
        (∀ batch ∈ earlier, batch.final = false) ∧ last.final = true := by
  induction batches with
  | nil => exact Or.inl fun batch hbatch => absurd hbatch List.not_mem_nil
  | cons batch batches ih =>
    cases hfinal : batch.final with
    | true =>
      exact Or.inr ⟨[], batch, batches, rfl, fun b hb => absurd hb List.not_mem_nil, hfinal⟩
    | false =>
      rcases ih with h | ⟨earlier, last, rest, rfl, hearlier, hlast⟩
      · exact Or.inl (List.forall_mem_cons.mpr ⟨hfinal, h⟩)
      · exact Or.inr ⟨batch :: earlier, last, rest, rfl,
          List.forall_mem_cons.mpr ⟨hfinal, hearlier⟩, hlast⟩

/-- The rounds over some batches that follow a number of rounds, each with its report. -/
def history (flavor : Flavor) : ℕ → List Batch → List (Batch × Report)
  | _, [] => []
  | number, batch :: batches =>
    (batch, batch.report flavor (number + 1)) :: history flavor (number + 1) batches

theorem map_fst_history (flavor : Flavor) (number : ℕ) (batches : List Batch) :
    (history flavor number batches).map Prod.fst = batches := by
  induction batches generalizing number with
  | nil => rfl
  | cons batch batches ih => rw [history, List.map_cons, ih]

theorem map_registered_history (flavor : Flavor) (number : ℕ) (batches : List Batch) :
    (history flavor number batches).map (·.2.registered) =
      (batches.map (·.turn flavor)).map Turn.registered := by
  induction batches generalizing number with
  | nil => rfl
  | cons batch batches ih =>
    rw [history, List.map_cons, ih, List.map_cons, List.map_cons, Batch.report]

theorem history_concat (flavor : Flavor) (number : ℕ) (batches : List Batch) (last : Batch) :
    history flavor number (batches ++ [last]) =
      history flavor number batches ++
        [(last, last.report flavor (number + batches.length + 1))] := by
  induction batches generalizing number with
  | nil => rfl
  | cons batch batches ih =>
    rw [List.cons_append, history, ih, history, List.cons_append, List.length_cons,
      Nat.add_right_comm number 1, Nat.add_assoc number]

theorem unflushed_of_mem_history {flavor : Flavor} {number : ℕ} {batches : List Batch}
    {round : Batch × Report} (h : round ∈ history flavor number batches) :
    round.2.final = round.1.final ∧ round.2.Unflushed := by
  induction batches generalizing number with
  | nil => exact absurd h List.not_mem_nil
  | cons batch batches ih =>
    rcases List.mem_cons.mp h with rfl | h
    · exact ⟨rfl, unflushed_report flavor (number + 1) batch⟩
    · exact ih h

/-- The rounds of a session that is turned off, which number themselves and do nothing else. -/
def idle : ℕ → List Batch → List (Batch × Report)
  | _, [] => []
  | number, batch :: batches =>
    (batch, { number := number + 1, final := batch.final }) ::
      if batch.final then [] else idle (number + 1) batches

theorem map_fst_idle (number : ℕ) (batches : List Batch) :
    (idle number batches).map Prod.fst = accepted batches := by
  induction batches generalizing number with
  | nil => rfl
  | cons batch batches ih =>
    rw [idle, accepted, List.map_cons]
    split
    · rfl
    · rw [ih]

theorem exists_eq_of_mem_idle {number : ℕ} {batches : List Batch} {round : Batch × Report}
    (h : round ∈ idle number batches) :
    ∃ k, round.2 = { number := k, final := round.1.final } := by
  induction batches generalizing number with
  | nil => exact absurd h List.not_mem_nil
  | cons batch batches ih =>
    rcases List.mem_cons.mp h with rfl | h
    · exact ⟨number + 1, rfl⟩
    · split at h
      · exact absurd h List.not_mem_nil
      · exact ih h

theorem unflushed_of_mem_idle {number : ℕ} {batches : List Batch} {round : Batch × Report}
    (h : round ∈ idle number batches) : round.2.final = round.1.final ∧ round.2.Unflushed := by
  obtain ⟨k, hreport⟩ := exists_eq_of_mem_idle h
  rw [hreport]
  exact ⟨rfl, rfl, rfl, rfl, rfl⟩

end Batch

namespace Work

variable {σ : Type} [Storage σ] {storage : σ} {names : List String} {text : String → Option String}

theorem snapshot_foldl_demand (names : List String) (registry : Registry) :
    (names.foldl (Registry.demand text) registry).snapshot = registry.snapshot := by
  induction names generalizing registry with
  | nil => rfl
  | cons name names ih => rw [List.foldl_cons, ih, Registry.snapshot_demand]

/-- A session opens with what the storage lists. -/
theorem settles_openSession_of_listed (hnames : (Storage.names storage).Gives names)
    (hlisting : ∀ name ∈ names, (Storage.listing storage name).Gives (text name)) :
    (openSession : Work σ Unit).Settles storage Registry.empty () (Registry.opened text names)
      [] := by
  refine Settles.get fun _ => (settles_take hnames).then ?_
  refine (settles_forM fun name hname registry =>
    (settles_entry_of_gives (hlisting name hname)).then (settles_pure ())).then
      (settles_registry.then ?_)
  have hcache : (names.foldl (Registry.demand text) Registry.empty).cache =
      .ok (Registry.opened text names) := by
    rw [Registry.cache, Registry.isCached, snapshot_foldl_demand]
    rfl
  rw [hcache]
  exact (settles_ofExcept _).then settles_setRegistry

end Work

namespace Session

variable {σ : Type} [Storage σ]

/-- A round over a batch, which takes as long as the clock says of the rounds before it. -/
def process (clock : ℕ → ℕ) (batch : Batch) : EStateM Fault (Session σ) Report := fun session =>
  round batch.declarations batch.annotated batch.final (clock session.rounds) session

/-- The rounds that a session completes when it is given some batches one after the other, each
with its batch and its report, and the session afterwards. -/
def play (clock : ℕ → ℕ) : List Batch → Session σ → List (Batch × Report) × Session σ
  | [], session => ([], session)
  | batch :: batches, session =>
    match process clock batch session with
    | .ok report session =>
      let (rounds, session) := play clock batches session
      ((batch, report) :: rounds, session)
    | .error _ session => play clock batches session

/-! ### One round -/

variable {session : Session σ} {clock : ℕ → ℕ}

/-- A session that has ended refuses every round. -/
theorem round_of_finished (h : session.finished = true) (declarations : List Declaration)
    (annotated : Option (List Declaration)) (final : Bool) (duration : ℕ) :
    round declarations annotated final duration session = .error .finished session := by
  simp only [round, bind_apply, get_apply, h, if_true, throw_apply]

/-- A session that is turned off counts its rounds and does nothing else. -/
theorem round_of_disabled (hopen : session.finished = false)
    (hoff : session.options.disabled = true) (declarations : List Declaration)
    (annotated : Option (List Declaration)) (final : Bool)
    (duration : ℕ) :
    round declarations annotated final duration session =
      .ok { number := session.rounds + 1, final }
        { session with rounds := session.rounds + 1, finished := final } := by
  obtain ⟨flavor, options, bench, rounds, finished⟩ := session
  subst hopen
  simp only [round, bind_apply, get_apply, modify_apply, pure_apply, Bool.false_eq_true, if_false,
    hoff, if_true]
  cases final <;> rfl

/-- A session that is on and has not ended leaves a round to its workbench. -/
theorem round_of_enabled (hopen : session.finished = false)
    (hon : session.options.disabled = false) (declarations : List Declaration)
    (annotated : Option (List Declaration)) (final : Bool)
    (duration : ℕ) :
    round declarations annotated final duration session =
      match Work.round session.flavor session.options { number := session.rounds + 1, final }
        declarations
        (annotated.getD (declarations.filter (·.hasMarker session.flavor.marker.name))) duration
        session.bench with
      | .ok report bench =>
        .ok report { session with bench, rounds := session.rounds + 1, finished := final }
      | .error fault bench =>
        .error fault { session with bench, rounds := session.rounds + 1 } := by
  obtain ⟨flavor, options, bench, rounds, finished⟩ := session
  subst hopen
  simp only [round, bind_apply, get_apply, modify_apply, Bool.false_eq_true, if_false, hon, work]
  cases Work.round flavor options { number := rounds + 1, final } declarations
      (annotated.getD (declarations.filter (·.hasMarker flavor.marker.name))) duration bench with
  | ok report bench => cases final <;> rfl
  | error fault bench => rfl

/-- A session that is turned off starts without loading anything. -/
theorem start_new_of_disabled (flavor : Flavor) {options : Options}
    (hoff : options.disabled = true)
    (storage : σ) : start (new flavor options storage) = .ok () (new flavor options storage) := by
  simp only [start, bind_apply, get_apply, new, hoff, Bool.not_true, Bool.false_eq_true, if_false,
    pure_apply]

/-! ### Rounds over complete batches -/

section Complete

variable {flavor : Flavor} {options : Options} {storage : σ} {names : List String}
  {text : String → Option String} {registry : Registry} {told : List Event} {number : ℕ}
  {batch : Batch}

variable (flavor) in
/-- A session that is on starts with what the storage lists, whatever it has under other names. -/
theorem start_new_of_listed (hon : options.disabled = false)
    (hnames : (Storage.names storage).Gives names)
    (hlisting : ∀ name ∈ names, (Storage.listing storage name).Gives (text name)) :
    ∃ told, start (new flavor options storage) =
        .ok () ⟨flavor, options, ⟨Registry.opened text names, storage, told⟩, 0, false⟩ ∧
      told.filterMap Event.diagnosis? = [] := by
  obtain ⟨told, hrun, htold⟩ := Work.settles_openSession_of_listed hnames hlisting []
  refine ⟨told, ?_, htold⟩
  simp only [start, bind_apply, get_apply, new, hon,
    Bool.not_false, if_true, work, Workbench.new, hrun]
  rfl

variable (flavor) in
/-- A session that is on starts with what the storage lists. -/
theorem start_new (hon : options.disabled = false) (h : Storage.Offers storage names text) :
    ∃ told, start (new flavor options storage) =
        .ok () ⟨flavor, options, ⟨Registry.opened text names, storage, told⟩, 0, false⟩ ∧
      told.filterMap Event.diagnosis? = [] :=
  start_new_of_listed flavor hon h.names fun name _ => h.listing name

theorem process_of_enabled (hon : options.disabled = false) (bench : Workbench σ) :
    process clock batch ⟨flavor, options, bench, number, false⟩ =
      match Work.round flavor options { number := number + 1, final := batch.final }
        batch.declarations (batch.marked flavor) (clock number) bench with
      | .ok report bench => .ok report ⟨flavor, options, bench, number + 1, batch.final⟩
      | .error fault bench => .error fault ⟨flavor, options, bench, number + 1, false⟩ :=
  round_of_enabled rfl hon batch.declarations batch.annotated batch.final (clock number)

/-- **A batch without a fault** takes the registry through its turn, and is then reported, after
the flush if it is the last. -/
theorem process_of_fault?_eq_none (hon : options.disabled = false)
    (h : Storage.Offers storage names text) (hbatch : batch.fault? flavor = none) :
    ∃ more, process clock batch ⟨flavor, options, ⟨registry, storage, told⟩, number, false⟩ =
        (match (if batch.final then Work.flush options (batch.report flavor (number + 1))
            else pure (batch.report flavor (number + 1)))
          ⟨registry.turn text (batch.turn flavor), storage, told ++ more⟩ with
        | .ok report bench => .ok report ⟨flavor, options, bench, number + 1, batch.final⟩
        | .error fault bench => .error fault ⟨flavor, options, bench, number + 1, false⟩) ∧
      more.filterMap Event.diagnosis? = (batch.verdicts flavor).filterMap Verdict.rejection? := by
  obtain ⟨more, hround, hmore⟩ := Work.round_eq h hbatch options (number + 1) (clock number) told
  exact ⟨more, by rw [process_of_enabled hon, hround], hmore⟩

/-- A complete batch that is not the last takes the registry through its turn. -/
theorem process_of_not_final (hon : options.disabled = false)
    (h : Storage.Offers storage names text) (hbatch : batch.Complete flavor)
    (hfinal : batch.final = false) :
    ∃ more, process clock batch ⟨flavor, options, ⟨registry, storage, told⟩, number, false⟩ =
        .ok (batch.report flavor (number + 1))
          ⟨flavor, options, ⟨registry.turn text (batch.turn flavor), storage, told ++ more⟩,
            number + 1, false⟩ ∧
      more.filterMap Event.diagnosis? = (batch.verdicts flavor).filterMap Verdict.rejection? := by
  obtain ⟨more, hprocess, hmore⟩ := process_of_fault?_eq_none hon h hbatch.fault?_eq_none
  refine ⟨more, ?_, hmore⟩
  rw [hprocess, hfinal, if_neg Bool.false_ne_true]
  rfl

/-- A complete batch that is the last takes the registry through its turn before the flush. -/
theorem process_of_final (hon : options.disabled = false)
    (h : Storage.Offers storage names text) (hbatch : batch.Complete flavor)
    (hfinal : batch.final = true) :
    ∃ more, process clock batch ⟨flavor, options, ⟨registry, storage, told⟩, number, false⟩ =
        (match Work.flush options (batch.report flavor (number + 1))
          ⟨registry.turn text (batch.turn flavor), storage, told ++ more⟩ with
        | .ok report bench => .ok report ⟨flavor, options, bench, number + 1, true⟩
        | .error fault bench => .error fault ⟨flavor, options, bench, number + 1, false⟩) ∧
      more.filterMap Event.diagnosis? = (batch.verdicts flavor).filterMap Verdict.rejection? := by
  obtain ⟨more, hprocess, hmore⟩ := process_of_fault?_eq_none hon h hbatch.fault?_eq_none
  exact ⟨more, by rw [hprocess, hfinal, if_pos rfl], hmore⟩

/-! ### Many rounds -/

theorem play_cons_of_ok {batches : List Batch} {report : Report} {next : Session σ}
    (h : process clock batch session = .ok report next) :
    play clock (batch :: batches) session =
      ((batch, report) :: (play clock batches next).1, (play clock batches next).2) := by
  rw [play, h]

theorem play_cons_of_error {batches : List Batch} {fault : Fault} {next : Session σ}
    (h : process clock batch session = .error fault next) :
    play clock (batch :: batches) session = play clock batches next := by
  rw [play, h]

/-- A session that has ended stays as it is. -/
theorem play_of_finished (h : session.finished = true) (batches : List Batch) :
    play clock batches session = ([], session) := by
  induction batches with
  | nil => rfl
  | cons batch batches ih =>
    have hrefused : process clock batch session = .error .finished session :=
      round_of_finished h ..
    rw [play_cons_of_error hrefused, ih]

variable (clock flavor) in
/-- A session that is turned off completes the batches that it accepts and leaves the workbench. -/
theorem play_of_disabled (hoff : options.disabled = true) (bench : Workbench σ) (number : ℕ)
    (batches : List Batch) :
    ∃ next, play clock batches ⟨flavor, options, bench, number, false⟩ =
        (Batch.idle number batches, next) ∧
      next.bench = bench ∧ next.finished = batches.any Batch.final := by
  induction batches generalizing number with
  | nil => exact ⟨_, rfl, rfl, rfl⟩
  | cons batch batches ih =>
    have hrun : process clock batch ⟨flavor, options, bench, number, false⟩ =
        .ok { number := number + 1, final := batch.final }
          ⟨flavor, options, bench, number + 1, batch.final⟩ :=
      round_of_disabled rfl hoff batch.declarations batch.annotated batch.final (clock number)
    rw [play_cons_of_ok hrun, Batch.idle, List.any_cons]
    cases batch.final with
    | true =>
      rw [play_of_finished rfl, if_pos rfl, Bool.true_or]
      exact ⟨_, rfl, rfl, rfl⟩
    | false =>
      obtain ⟨next, hplay, hbench, hfinished⟩ := ih (number + 1)
      rw [hplay, if_neg Bool.false_ne_true, Bool.false_or]
      exact ⟨next, rfl, hbench, hfinished⟩

variable (clock) in
/-- **Before the last round** the registry goes from turn to turn, and the storage stays as it
is. -/
theorem play_of_not_final (hon : options.disabled = false) (h : Storage.Offers storage names text)
    {batches : List Batch} (hbatches : ∀ batch ∈ batches, batch.Complete flavor)
    (hfinal : ∀ batch ∈ batches, batch.final = false) (registry : Registry) (told : List Event)
    (number : ℕ) :
    ∃ next : Session σ, ∃ told',
      next = ⟨flavor, options,
        ⟨(batches.map (·.turn flavor)).foldl (Registry.turn text) registry, storage, told'⟩,
        number + batches.length, false⟩ ∧
      ∀ rest, play clock (batches ++ rest)
          ⟨flavor, options, ⟨registry, storage, told⟩, number, false⟩ =
        (Batch.history flavor number batches ++ (play clock rest next).1,
          (play clock rest next).2) := by
  induction batches generalizing registry told number with
  | nil => exact ⟨_, told, rfl, fun rest => rfl⟩
  | cons batch batches ih =>
    obtain ⟨hbatch, hbatches⟩ := List.forall_mem_cons.mp hbatches
    obtain ⟨hnot, hfinal⟩ := List.forall_mem_cons.mp hfinal
    obtain ⟨more, hrun, -⟩ := process_of_not_final hon h hbatch hnot
    obtain ⟨next, told', hnext, hrest⟩ := ih hbatches hfinal
      (registry.turn text (batch.turn flavor)) (told ++ more) (number + 1)
    refine ⟨next, told', ?_, fun rest => ?_⟩
    · rw [hnext, List.map_cons, List.foldl_cons, List.length_cons, Nat.add_right_comm,
        Nat.add_assoc]
    · rw [List.cons_append, play_cons_of_ok hrun, hrest, Batch.history, List.cons_append]

variable (clock) in
/-- **The last round** goes through its turn, and then the flush ends the session. -/
theorem play_of_final (hon : options.disabled = false) (h : Storage.Offers storage names text)
    {batches : List Batch} (hbatches : ∀ batch ∈ batches, batch.Complete flavor)
    (hfinal : ∀ batch ∈ batches, batch.final = false) {last : Batch}
    (hcomplete : last.Complete flavor) (hlast : last.final = true) (rest : List Batch)
    (registry : Registry) (told : List Event) (number : ℕ) :
    ∃ told', ∀ report bench,
      Work.flush options (last.report flavor (number + batches.length + 1))
          ⟨((batches ++ [last]).map (·.turn flavor)).foldl (Registry.turn text) registry, storage,
            told'⟩ = .ok report bench →
        play clock (batches ++ last :: rest)
            ⟨flavor, options, ⟨registry, storage, told⟩, number, false⟩ =
          (Batch.history flavor number batches ++ [(last, report)],
            ⟨flavor, options, bench, number + batches.length + 1, true⟩) := by
  obtain ⟨next, told', hnext, hplay⟩ :=
    play_of_not_final clock hon h hbatches hfinal registry told number
  obtain ⟨more, hrun, -⟩ := process_of_final hon h hcomplete hlast
  refine ⟨told' ++ more, fun report bench hflush => ?_⟩
  rw [List.map_append, List.foldl_append] at hflush
  change Work.flush options _ ⟨Registry.turn text _ (last.turn flavor), _, _⟩ = _ at hflush
  rw [hflush] at hrun
  rw [hplay, hnext, play_cons_of_ok hrun, play_of_finished rfl]

end Complete

end Session

end ProviderRegistry
