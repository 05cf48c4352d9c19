import ProviderRegistry.Proofs.Session.LastRound

/-!
# The life of a session

A session may be asked for a round at any time, and not every round comes to an end: some fail over
a declaration, and after the last one all are refused. An **attempt** is one such call with what
came of it, and the **attempts** of a session are its life under a sequence of calls.

An attempt on a session that goes on counts as a round, whatever comes of it (`counts_attempt`),
and one on a session that has ended is refused and changes nothing (`refused_attempt`). Over a
memory only a round that **ends** its session may touch the storage (`storage_attempt`), and there
is at most one of them in a life (`countP_ends_attempts`).
-/

namespace ProviderRegistry

namespace Work

variable {σ : Type} [Storage σ] {flavor : Flavor} {options : Options} {report last : Report}
  {bench done : Workbench σ}

/-! ### Reports keep their number -/

theorem number_of_reconcile {declarations annotated : List Declaration} {duration : ℕ}
    (h : reconcile flavor report declarations annotated duration bench = .ok last done) :
    last.number = report.number ∧ last.final = report.final := by
  obtain ⟨-, told, -, h⟩ := bind_eq_ok h
  obtain ⟨-, stripped, -, h⟩ := bind_eq_ok h
  obtain ⟨verdicts, registered, -, h⟩ := bind_eq_ok h
  obtain ⟨-, told', -, h⟩ := bind_eq_ok h
  obtain ⟨rfl, -⟩ := EStateM.Result.ok.inj h
  exact ⟨rfl, rfl⟩

theorem number_of_flush (h : flush options report bench = .ok last done) :
    last.number = report.number := by
  rw [flush] at h
  obtain ⟨registry, between, -, h⟩ := bind_eq_ok h
  split at h
  · obtain ⟨rfl, -⟩ := EStateM.Result.ok.inj h
    rfl
  obtain ⟨-, told, -, h⟩ := bind_eq_ok h
  simp only at h
  split at h
  · obtain ⟨deleted, _, -, h⟩ := bind_eq_ok h
    obtain ⟨rfl, -⟩ := EStateM.Result.ok.inj h
    rfl
  · obtain ⟨outcomes, _, -, h⟩ := bind_eq_ok h
    obtain ⟨text, _, -, h⟩ := bind_eq_ok h
    obtain ⟨_, _, -, h⟩ := bind_eq_ok h
    obtain ⟨rfl, -⟩ := EStateM.Result.ok.inj h
    rfl

/-- A round that comes to an end reports its number. -/
theorem number_of_round {declarations annotated : List Declaration} {duration : ℕ}
    (h : round flavor options report declarations annotated duration bench = .ok last done) :
    last.number = report.number := by
  obtain ⟨settled, between, hreconcile, hflush⟩ := bind_eq_ok h
  have hsettled := (number_of_reconcile hreconcile).1
  split at hflush
  · exact (number_of_flush hflush).trans hsettled
  · obtain ⟨rfl, -⟩ := EStateM.Result.ok.inj hflush
    exact hsettled

/-- **Only a last round** that comes to an end touches a memory, for its flush never fails. -/
theorem storage_of_round (options : Options) (number : ℕ) (final : Bool)
    (declarations annotated : List Declaration) (duration : ℕ) (bench : Workbench Memory) :
    match round flavor options { number, final } declarations annotated duration bench with
    | .ok _ done => final = false → done.storage = bench.storage
    | .error _ failed => failed.storage = bench.storage := by
  have hstorage := @storage_reconcile Memory flavor _ { number, final } declarations annotated
    duration bench
  cases hrun : reconcile flavor { number, final } declarations annotated duration bench with
  | error fault failed =>
    rw [hrun] at hstorage
    rw [round, bind_of_error hrun]
    exact hstorage
  | ok report settled =>
    rw [hrun] at hstorage
    rw [round, bind_of_ok hrun, (number_of_reconcile hrun).2]
    cases final with
    | false => exact fun _ => hstorage
    | true =>
      obtain ⟨registry, memory, told⟩ := settled
      obtain ⟨last, left, told', hflush, -⟩ := flush_memory options report registry memory told
      rw [if_pos rfl, hflush]
      exact fun hfinal => absurd hfinal (by decide)

end Work

namespace Session

/-! ### Attempts -/

/-- A call for a round: the session before it, the batch, the answer, and the session after it. -/
structure Attempt (σ : Type) where
  before : Session σ
  batch : Batch
  answer : Except Fault Report
  after : Session σ

namespace Attempt

variable {σ : Type}

/-- Does the attempt end its session? A last round does that if it comes to an end. -/
def ends (attempt : Attempt σ) : Bool := attempt.batch.final && attempt.answer.toOption.isSome

/-- An attempt is **refused** when the session is over, and nothing of it changes. -/
structure Refused (attempt : Attempt σ) : Prop where
  answer : attempt.answer = .error .finished
  after : attempt.after = attempt.before

/-- An attempt **counts** when it makes one more round, whose number its report carries. -/
structure Counts (attempt : Attempt σ) : Prop where
  rounds : attempt.after.rounds = attempt.before.rounds + 1
  number : ∀ report, attempt.answer = .ok report → report.number = attempt.after.rounds

theorem Refused.ends_eq_false {attempt : Attempt σ} (h : attempt.Refused) :
    attempt.ends = false := by
  rw [ends, h.answer]
  exact Bool.and_false _

end Attempt

variable {σ : Type} [Storage σ] {session : Session σ} {clock : ℕ → ℕ}

/-- A session is asked for a round over a batch. -/
def attempt (clock : ℕ → ℕ) (session : Session σ) (batch : Batch) : Attempt σ where
  before := session
  batch := batch
  answer := match process clock batch session with
    | .ok report _ => .ok report
    | .error fault _ => .error fault
  after := match process clock batch session with
    | .ok _ after | .error _ after => after

/-- A session is asked for rounds one after the other, whatever came of the ones before. -/
def attempts (clock : ℕ → ℕ) : Session σ → List Batch → List (Attempt σ)
  | _, [] => []
  | session, batch :: batches =>
    session.attempt clock batch :: attempts clock (session.attempt clock batch).after batches

/-! ### One attempt -/

theorem attempt_of_ok {batch : Batch} {report : Report} {after : Session σ}
    (h : process clock batch session = .ok report after) :
    session.attempt clock batch = ⟨session, batch, .ok report, after⟩ := by
  rw [attempt, h]

theorem attempt_of_error {batch : Batch} {fault : Fault} {after : Session σ}
    (h : process clock batch session = .error fault after) :
    session.attempt clock batch = ⟨session, batch, .error fault, after⟩ := by
  rw [attempt, h]

/-- **A session that is over** refuses every call. -/
theorem refused_attempt (h : session.finished = true) (batch : Batch) :
    (session.attempt clock batch).Refused := by
  have hrefused : process clock batch session = .error .finished session :=
    round_of_finished h batch.declarations batch.annotated batch.final (clock session.rounds)
  rw [attempt_of_error hrefused]
  exact ⟨rfl, rfl⟩

/-- What a call comes to that is not refused: one more round, and the end of the session if the
round is the last and does not fail. -/
theorem process_of_open (h : session.finished = false) (batch : Batch) :
    match process clock batch session with
    | .ok report after =>
      report.number = session.rounds + 1 ∧ after.rounds = session.rounds + 1 ∧
        after.finished = batch.final
    | .error _ after => after.rounds = session.rounds + 1 ∧ after.finished = false := by
  rw [process]
  cases hoff : session.options.disabled with
  | true =>
    rw [round_of_disabled h hoff]
    exact ⟨rfl, rfl, rfl⟩
  | false =>
    rw [round_of_enabled h hoff]
    cases hrun : Work.round session.flavor session.options
        { number := session.rounds + 1, final := batch.final } batch.declarations
        (batch.annotated.getD
          (batch.declarations.filter (·.hasMarker session.flavor.marker.name)))
        (clock session.rounds) session.bench with
    | ok report bench => exact ⟨Work.number_of_round hrun, rfl, rfl⟩
    | error fault bench => exact ⟨rfl, h⟩

/-- **A session that goes on** counts every call. -/
theorem counts_attempt (h : session.finished = false) (batch : Batch) :
    (session.attempt clock batch).Counts := by
  have hprocess := @process_of_open σ _ session clock h batch
  cases hrun : process clock batch session with
  | ok report after =>
    rw [hrun] at hprocess
    obtain ⟨hnumber, hrounds, -⟩ := hprocess
    rw [attempt_of_ok hrun]
    refine ⟨hrounds, fun last hlast => ?_⟩
    obtain rfl := Except.ok.inj hlast
    exact hnumber.trans hrounds.symm
  | error fault after =>
    rw [hrun] at hprocess
    rw [attempt_of_error hrun]
    exact ⟨hprocess.1, fun last hlast => nomatch hlast⟩

/-- A session is over after a call if it was over before, or the call ends it. -/
theorem finished_attempt (batch : Batch) :
    (session.attempt clock batch).after.finished =
      (session.finished || (session.attempt clock batch).ends) := by
  cases hopen : session.finished with
  | true =>
    rw [(refused_attempt hopen batch).after, Bool.true_or]
    exact hopen
  | false =>
    have hprocess := @process_of_open σ _ session clock hopen batch
    rw [Bool.false_or, Attempt.ends]
    cases hrun : process clock batch session with
    | ok report after =>
      rw [hrun] at hprocess
      rw [attempt_of_ok hrun]
      exact hprocess.2.2.trans (Bool.and_true _).symm
    | error fault after =>
      rw [hrun] at hprocess
      rw [attempt_of_error hrun]
      exact hprocess.2.trans (Bool.and_false _).symm

/-- No call changes the options of a session. -/
theorem options_attempt (batch : Batch) :
    (session.attempt clock batch).after.options = session.options := by
  cases hopen : session.finished with
  | true => rw [(refused_attempt hopen batch).after, attempt]
  | false =>
    cases hoff : session.options.disabled with
    | true => rw [attempt_of_ok (round_of_disabled hopen hoff ..)]
    | false =>
      have hround := round_of_enabled hopen hoff batch.declarations batch.annotated batch.final
        (clock session.rounds)
      split at hround
      · rw [attempt_of_ok hround]
      · rw [attempt_of_error hround]

/-- **Only the round that ends a session** touches its memory, and only if the session is on. -/
theorem storage_attempt {session : Session Memory} {batch : Batch}
    (h : (session.attempt clock batch).ends = false ∨ session.options.disabled = true) :
    (session.attempt clock batch).after.bench.storage = session.bench.storage := by
  cases hopen : session.finished with
  | true => rw [(refused_attempt hopen batch).after, attempt]
  | false =>
    cases hoff : session.options.disabled with
    | true => rw [attempt_of_ok (round_of_disabled hopen hoff ..)]
    | false =>
      have hround := round_of_enabled hopen hoff batch.declarations batch.annotated batch.final
        (clock session.rounds)
      have hstorage := @Work.storage_of_round session.flavor session.options (session.rounds + 1)
        batch.final batch.declarations
        (batch.annotated.getD (batch.declarations.filter (·.hasMarker session.flavor.marker.name)))
        (clock session.rounds) session.bench
      split at hround
      · rename_i report bench hrun
        rw [hrun] at hstorage
        rw [attempt_of_ok hround] at h ⊢
        rcases h with h | h
        · exact hstorage ((Bool.and_true _).symm.trans h)
        · exact absurd (hoff.symm.trans h) Bool.false_ne_true
      · rename_i fault bench hrun
        rw [hrun] at hstorage
        rwa [attempt_of_error hround]

/-! ### A whole life -/

/-- Every attempt is one on the session that it found, of which everything holds that no call
undoes. -/
theorem attempts_induction {P : Session σ → Prop}
    (hstep : ∀ (session : Session σ) (batch : Batch), P session →
      P (session.attempt clock batch).after)
    (h : P session) {batches : List Batch} {call : Attempt σ}
    (hcall : call ∈ attempts clock session batches) :
    call = call.before.attempt clock call.batch ∧ P call.before := by
  induction batches generalizing session with
  | nil => exact absurd hcall List.not_mem_nil
  | cons batch batches ih =>
    rcases List.mem_cons.mp hcall with rfl | hcall
    · exact ⟨rfl, h⟩
    · exact ih (hstep session batch h) hcall

/-- **A session is over** just when one of the attempts so far has ended it. -/
theorem finished_of_attempts_eq {batches : List Batch} {earlier later : List (Attempt σ)}
    {call : Attempt σ} (h : attempts clock session batches = earlier ++ call :: later) :
    call.before.finished = (session.finished || earlier.any Attempt.ends) := by
  induction batches generalizing session earlier with
  | nil => exact absurd (congrArg List.length h) (by simp [attempts])
  | cons batch batches ih =>
    rw [attempts] at h
    cases earlier with
    | nil =>
      obtain ⟨rfl, -⟩ := List.cons.inj h
      exact (Bool.or_false _).symm
    | cons first earlier =>
      obtain ⟨rfl, hrest⟩ := List.cons.inj h
      rw [ih hrest, finished_attempt, List.any_cons, Bool.or_assoc]

/-- At most one attempt ends a session, and none does when the session is over. -/
theorem countP_ends_attempts (session : Session σ) (batches : List Batch) :
    (attempts clock session batches).countP Attempt.ends ≤ if session.finished then 0 else 1 := by
  induction batches generalizing session with
  | nil => exact Nat.zero_le _
  | cons batch batches ih =>
    have hrest := ih (session.attempt clock batch).after
    rw [finished_attempt] at hrest
    rw [attempts, List.countP_cons]
    cases hopen : session.finished with
    | true =>
      rw [(refused_attempt hopen batch).ends_eq_false] at hrest ⊢
      simpa [hopen] using hrest
    | false =>
      rw [hopen, Bool.false_or] at hrest
      cases hends : (session.attempt clock batch).ends with
      | true => simpa [hends] using hrest
      | false => simpa [hends] using hrest

/-- A session over a memory starts, whether it is on or off. -/
theorem start_new_of_memory (flavor : Flavor) (options : Options) (memory : Memory) :
    ∃ started, start (new flavor options memory) = .ok () started ∧
      started.bench.storage = memory ∧ started.rounds = 0 ∧ started.options = options ∧
        started.finished = false := by
  cases hoff : options.disabled with
  | true => exact ⟨_, start_new_of_disabled flavor hoff memory, rfl, rfl, rfl, rfl⟩
  | false =>
    obtain ⟨told, hstart, -⟩ := start_new flavor hoff memory.offers
    exact ⟨_, hstart, rfl, rfl, rfl, rfl⟩

/-- A session that is off never touches its memory. -/
theorem storage_of_disabled {session : Session Memory} (hoff : session.options.disabled = true)
    {batches : List Batch} {call : Attempt Memory}
    (hcall : call ∈ attempts clock session batches) :
    call.after.bench.storage = session.bench.storage := by
  let kept (later : Session Memory) : Prop :=
    later.options = session.options ∧ later.bench.storage = session.bench.storage
  have hstep : ∀ (later : Session Memory) (batch : Batch), kept later →
      kept (later.attempt clock batch).after := by
    rintro later batch ⟨hoptions, hstorage⟩
    have hstill : later.options.disabled = true := by rw [hoptions, hoff]
    exact ⟨(options_attempt batch).trans hoptions,
      (storage_attempt (Or.inr hstill)).trans hstorage⟩
  obtain ⟨hattempt, hbefore⟩ := attempts_induction hstep ⟨rfl, rfl⟩ hcall
  rw [hattempt]
  exact (hstep call.before call.batch hbefore).2

/-- **The life of a session** over a memory, whether it is on or off, and whatever it is asked for:
a call that does not end the session leaves the memory as it is, and at most one ends it. Before
that every call counts, also one that fails; after that every call is refused. A session that is
turned off never touches the memory. -/
theorem attempts_end_at_most_once (flavor : Flavor) (options : Options) (memory : Memory)
    (clock : ℕ → ℕ) (batches : List Batch) :
    ∃ started, start (new flavor options memory) = .ok () started ∧
      started.bench.storage = memory ∧ started.rounds = 0 ∧
      (attempts clock started batches).countP Attempt.ends ≤ 1 ∧
      ∀ earlier call later, attempts clock started batches = earlier ++ call :: later →
        (call.ends = false → call.after.bench.storage = call.before.bench.storage) ∧
        (options.disabled = true → call.after.bench.storage = memory) ∧
        if earlier.any Attempt.ends then call.Refused else call.Counts := by
  obtain ⟨started, hstart, hstorage, hrounds, hoptions, hopen⟩ :=
    start_new_of_memory flavor options memory
  refine ⟨started, hstart, hstorage, hrounds, ?_, fun earlier call later hlife => ?_⟩
  · have hcount := @countP_ends_attempts Memory _ clock started batches
    rwa [hopen, if_neg Bool.false_ne_true] at hcount
  have hmem : call ∈ attempts clock started batches := by
    rw [hlife]
    exact List.mem_append_right earlier List.mem_cons_self
  obtain ⟨hcall, -⟩ := attempts_induction (P := fun _ => True) (fun _ _ h => h) trivial hmem
  have hover : call.before.finished = earlier.any Attempt.ends := by
    rw [finished_of_attempts_eq hlife, hopen, Bool.false_or]
  refine ⟨fun hends => ?_, fun hoff => ?_, ?_⟩
  · rw [hcall] at hends ⊢
    exact storage_attempt (Or.inl hends)
  · have hstarted : started.options.disabled = true := by rw [hoptions, hoff]
    exact (storage_of_disabled hstarted hmem).trans hstorage
  · rw [hcall, ← hover]
    split
    · rename_i hfinished
      exact refused_attempt hfinished call.batch
    · rename_i hfinished
      exact counts_attempt (Bool.eq_false_iff.mpr hfinished) call.batch

/-- A last round that fails over a declaration without a name does not end the session; the next
one does, and the one after that is refused. -/
example :
    let session : Session Memory := new .type ⟨toolName, []⟩ { resources := [] }
    (attempts (fun _ => 0) session [⟨[{ name := none }], none, true⟩, .finish, .finish]).map
      (fun call => (call.ends, call.after.rounds)) = [(false, 1), (true, 2), (false, 2)] := by
  decide

end Session

end ProviderRegistry
