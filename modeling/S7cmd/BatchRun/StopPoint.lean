import S7cmd.BatchRun.Threshold

/-!
# Where a streaming run ends

At its stop point a streaming executor launches nothing more, and what it will
return is settled. It does not return yet: the drain goes on receiving until the
reader has dropped its sender, and by itself the executor gets no further than
an empty channel.
-/

namespace S7cmd.BatchRun

open Foundation

variable {Cmd : Type}

/-- The steps of the executor task itself: it needs no other party to take one. -/
def Action.Own : Action Cmd → Prop
  | .exec => True
  | .join _ => True
  | _ => False

/-- The counters of executed lines count the codes of their bucket. -/
structure Summary.Executed (summary : Summary) (codes : List ExitCode) : Prop where
  ok : summary.ok = codes.countP fun code => code = 0
  warning : summary.warning = codes.countP fun code => code = 3 ∨ code = 4
  failed : summary.failed =
    codes.countP fun code => code ≠ 0 ∧ code ≠ 3 ∧ code ≠ 4 ∧ code ≠ 130

theorem Summary.executed_tally {codes order : List ExitCode} (hperm : order.Perm codes)
    (dropped : Nat) : ((tally order).skip dropped).Executed codes := by
  rw [tally_perm hperm]
  have hcounts := tally_counts codes
  exact ⟨hcounts.ok, hcounts.warning, hcounts.failed⟩

/-! ## The sequential streaming executor -/

namespace SequentialStreaming

variable {opts : ExecutorOptions} {dispatch : Nat → DispatchResult} {state next : State Cmd}

/-- What the drain has left to do. -/
def drainWork (state : State Cmd) : Nat :=
  state.channel.queue.length + if state.pc = .done then 0 else 1

theorem drain_progress (opts : ExecutorOptions) (dispatch : Nat → DispatchResult)
    (hstopped : Stopped state) (hclosed : state.channel.closed = true)
    (hreturned : state.pc ≠ .done) : ∃ next, step opts dispatch state .exec = some next := by
  have hpc := hstopped.resolve_right hreturned
  obtain ⟨item, hrecv⟩ := Channel.exists_recv_of_closed hclosed
  exact ⟨drained state item, by simp only [step, hpc, hrecv, Option.map_some]⟩

theorem drain_step {action : Action Cmd} (hstopped : Stopped state) (hown : action.Own)
    (hstep : step opts dispatch state action = some next) :
    Stopped next ∧ next.channel.closed = state.channel.closed ∧
      drainWork next < drainWork state := by
  cases step_moves hstep with
  | sigint => cases hown
  | sent line channel hsend => cases hown
  | closed => cases hown
  | interrupted line channel hpc hrecv hinterrupt =>
      rcases hstopped with hold | hold
      · cases hpc.symm.trans hold
      · cases hpc.symm.trans hold
  | launched line channel hpc hrecv hinterrupt =>
      rcases hstopped with hold | hold
      · cases hpc.symm.trans hold
      · cases hpc.symm.trans hold
  | dropped line channel hpc hrecv =>
      obtain ⟨rest, hqueue, rfl⟩ := Channel.recv_message hrecv
      refine ⟨Or.inl hpc, rfl, ?_⟩
      simp [drainWork, hqueue, hpc]
  | ended hpc hrecv =>
      have hdrain : state.pc ≠ .done := by
        rcases hpc with hpc | hpc <;> simp [hpc]
      refine ⟨Or.inr rfl, rfl, ?_⟩
      simp [drainWork, hdrain]
  | settled index line hpc hflight => cases hown

/-- A stopped executor returns by itself exactly when the channel is closed. -/
theorem inevitably_returned_iff
    (hreach : ((runSequentialStreaming Cmd opts).system dispatch).Reachable state)
    (hstopped : Stopped state) :
    ((runSequentialStreaming Cmd opts).system dispatch).Inevitably Action.Own
      (fun state => (runSequentialStreaming Cmd opts).returned state = true) state ↔
        state.channel.closed = true := by
  apply System.Inevitably.iff_of_measure
    (fun later => ((runSequentialStreaming Cmd opts).system dispatch).Reachable later ∧
      Stopped later) (fun later : State Cmd => later.channel.closed = true) drainWork
  · intro later hlater hclosed hreturned
    obtain ⟨next, hstep⟩ := drain_progress opts dispatch hlater.2 hclosed
      (by simpa [runSequentialStreaming] using hreturned)
    exact ⟨.exec, next, trivial, hstep⟩
  · intro later action next hlater hown hstep
    obtain ⟨hkept, hsame, hless⟩ := drain_step hlater.2 hown hstep
    exact ⟨⟨hlater.1.step hstep, hkept⟩, by rw [hsame], hless⟩
  · intro later hlater hreturned
    have hdone : later.pc = .done := by simpa [runSequentialStreaming] using hreturned
    exact ((inv_reachable hlater.1).ended hdone).1
  · exact ⟨hreach, hstopped⟩

/-- What a stopped executor returns is fixed by the lines launched so far. -/
theorem result_of_stopped
    (hreach : ((runSequentialStreaming Cmd opts).system dispatch).Reachable state)
    (hstopped : Stopped state) {actions : List (Action Cmd)} {final : State Cmd}
    (hrun : ((runSequentialStreaming Cmd opts).system dispatch).run state actions = some final)
    {code : ExitCode} {summary : Summary}
    (hresult : (runSequentialStreaming Cmd opts).result final = some (code, summary)) :
    code = worstOf (lineCodes dispatch state.books.inFlight) ∧
      summary.Executed (lineCodes dispatch state.books.inFlight) := by
  have hsame : final.books.inFlight = state.books.inFlight :=
    System.run_observe (fun state : State Cmd => state.books.inFlight) Stopped
      (fun _ _ _ hpc hstep => stopped_step hpc hstep) hstopped hrun
  obtain ⟨hreturned, hworst, hsummary⟩ := Machine.result_eq_some hresult
  have hdone : final.pc = .done := by simpa [runSequentialStreaming] using hreturned
  obtain ⟨dropped, -, -, -, hdrain⟩ := (inv_reachable (hreach.run hrun)).received
  have hquiet := hdrain (Or.inr hdone)
  have hcodes := hquiet.coded.joinedCodes_eq hquiet.joined
  obtain ⟨hsummary', hworst'⟩ := hquiet.tallied
  rw [hcodes, hsame] at hsummary' hworst'
  refine ⟨hworst.symm.trans hworst', ?_⟩
  rw [hsummary.symm.trans hsummary']
  exact Summary.executed_tally (List.Perm.refl _) _

end SequentialStreaming

/-! ## The parallel streaming executor -/

namespace ParallelStreaming

variable {opts : ExecutorOptions} {dispatch : Nat → DispatchResult} {state next : State Cmd}

/-- The spawn loop has been left. -/
def Stopped (state : State Cmd) : Prop := spawning state.pc = false

/-- The spawn loop has been left and every task has come to its end. -/
def AtStop (state : State Cmd) : Prop :=
  Stopped state ∧ state.pool.books.unfinished = 0

theorem stopped_step {action : Action Cmd} (hstopped : Stopped state)
    (hstep : step opts dispatch state action = some next) :
    Stopped next ∧ next.pool.books.inFlight = state.pool.books.inFlight := by
  unfold Stopped at hstopped ⊢
  cases step_moves hstep with
  | sigint => exact ⟨hstopped, rfl⟩
  | sent line channel hsend => exact ⟨hstopped, rfl⟩
  | closed => exact ⟨hstopped, rfl⟩
  | stopped hpc hflag => exact ⟨rfl, rfl⟩
  | waiting hpc hinterrupt hcancel => simp [hpc, spawning] at hstopped
  | parked line channel hpc hrecv => simp [hpc, spawning] at hstopped
  | exhausted hpc hrecv => exact ⟨rfl, rfl⟩
  | interrupted line hpc hinterrupt => exact ⟨rfl, rfl⟩
  | spawned line hpc hpermits hinterrupt => simp [hpc, spawning] at hstopped
  | dropped line channel hpc hrecv => exact ⟨hstopped, rfl⟩
  | drained hpc hrecv => exact ⟨rfl, rfl⟩
  | returned hpc hall => exact ⟨rfl, rfl⟩
  | joined index pool hpc hjoin => exact ⟨hstopped, Pool.inFlight_join hjoin⟩
  | task action pool htask => exact ⟨hstopped, Pool.inFlight_task htask⟩

/-- How many tasks are left to join. -/
def unjoined (books : Books Cmd) : Nat := books.flights.countP fun flight => !flight.isJoined

/-- What the drain and the join loop have left to do. -/
def drainWork (state : State Cmd) : Nat :=
  state.channel.queue.length + unjoined state.pool.books +
    match state.pc with
    | .join => 1
    | .done => 0
    | _ => 2

theorem unfinished_join {pool joined : Pool Cmd} {index : Nat}
    (hjoin : pool.join index = some joined) :
    joined.books.unfinished = pool.books.unfinished ∧
      unjoined joined.books + 1 = unjoined pool.books := by
  obtain ⟨line, result, hflight, rfl⟩ := Pool.join_eq_some hjoin
  have hflights := Books.flights_join pool.books result index line
  constructor
  · rw [Books.unfinished, Books.unfinished, hflights]
    exact countP_set_of_eq hflight _ rfl
  · have hcount := countP_set_add hflight ⟨line, .joined (joinedCode result)⟩
      fun flight : Flight Cmd => !flight.isJoined
    have hbefore : (!(⟨line, .finished result⟩ : Flight Cmd).isJoined) = true := rfl
    have hafter : (!(⟨line, .joined (joinedCode result)⟩ : Flight Cmd).isJoined) = false := rfl
    simp only [hbefore, hafter, if_true, Bool.false_eq_true, if_false] at hcount
    rw [unjoined, unjoined, hflights]
    omega

/-- A task that has come to its end but is not joined can be joined. -/
theorem exists_join {pool : Pool Cmd} (hfinished : pool.books.unfinished = 0)
    (hleft : pool.books.allJoined = false) : ∃ index joined, pool.join index = some joined := by
  obtain ⟨⟨line, phase⟩, hmem, hphase⟩ := List.all_eq_false.mp hleft
  obtain ⟨index, hflight⟩ := List.getElem?_of_mem hmem
  have hended := List.countP_eq_zero.mp hfinished _ hmem
  cases phase with
  | running => simp [Flight.isOpen, Phase.ended?] at hended
  | recorded code => simp [Flight.isOpen, Phase.ended?] at hended
  | finished result =>
      exact ⟨index, { pool with books := pool.books.join result index line },
        by simp only [Pool.join, hflight]⟩
  | joined code => simp [Flight.isJoined, Phase.joined?] at hphase

theorem drain_progress (hstop : AtStop state) (hclosed : state.channel.closed = true)
    (hreturned : state.pc ≠ .done) :
    ∃ action next, action.Own ∧ step opts dispatch state action = some next := by
  obtain ⟨hstopped, hfinished⟩ := hstop
  unfold Stopped at hstopped
  cases hpc : state.pc with
  | top => simp [hpc, spawning] at hstopped
  | recv => simp [hpc, spawning] at hstopped
  | acquire line => simp [hpc, spawning] at hstopped
  | drain =>
      obtain ⟨item, hrecv⟩ := Channel.exists_recv_of_closed hclosed
      exact ⟨.exec, drained state item, trivial,
        by simp only [step, exec, hpc, hrecv, Option.map_some]⟩
  | join =>
      cases hall : state.pool.books.allJoined with
      | true =>
          exact ⟨.exec, { state with pc := .done }, trivial, by simp [step, exec, hpc, hall]⟩
      | false =>
          obtain ⟨index, joined, hjoin⟩ := exists_join hfinished hall
          exact ⟨.join index, { state with pool := joined }, trivial,
            by simp only [step, hpc, hjoin, Option.map_some]⟩
  | done => exact absurd hpc hreturned

theorem drain_step {action : Action Cmd} (hstop : AtStop state) (hown : action.Own)
    (hstep : step opts dispatch state action = some next) :
    AtStop next ∧ next.channel.closed = state.channel.closed ∧
      drainWork next < drainWork state := by
  obtain ⟨hstopped, hfinished⟩ := hstop
  have hkept := (stopped_step hstopped hstep).1
  unfold Stopped at hstopped
  cases step_moves hstep with
  | sigint => cases hown
  | sent line channel hsend => cases hown
  | closed => cases hown
  | stopped hpc hflag => simp [hpc, spawning] at hstopped
  | waiting hpc hinterrupt hcancel => simp [hpc, spawning] at hstopped
  | parked line channel hpc hrecv => simp [hpc, spawning] at hstopped
  | exhausted hpc hrecv => simp [hpc, spawning] at hstopped
  | interrupted line hpc hinterrupt => simp [hpc, spawning] at hstopped
  | spawned line hpc hpermits hinterrupt => simp [hpc, spawning] at hstopped
  | dropped line channel hpc hrecv =>
      obtain ⟨rest, hqueue, rfl⟩ := Channel.recv_message hrecv
      refine ⟨⟨hkept, hfinished⟩, rfl, ?_⟩
      simp [drainWork, hpc, hqueue, Pool.skip, unjoined]
  | drained hpc hrecv => exact ⟨⟨hkept, hfinished⟩, rfl, by simp [drainWork, hpc]⟩
  | returned hpc hall => exact ⟨⟨hkept, hfinished⟩, rfl, by simp [drainWork, hpc]⟩
  | joined index pool hpc hjoin =>
      obtain ⟨hsame, hless⟩ := unfinished_join hjoin
      refine ⟨⟨hkept, hsame.trans hfinished⟩, rfl, ?_⟩
      simp only [drainWork, hpc]
      omega
  -- the steps of a task are not the executor's own
  | task action pool htask => cases action <;> simp_all [Action.Own, Pool.task]

/-- An executor at its stop point returns by itself exactly when the channel is
closed. -/
theorem inevitably_returned_iff
    (hreach : ((runParallelStreaming Cmd opts).system dispatch).Reachable state)
    (hstop : AtStop state) :
    ((runParallelStreaming Cmd opts).system dispatch).Inevitably Action.Own
      (fun state => (runParallelStreaming Cmd opts).returned state = true) state ↔
        state.channel.closed = true := by
  have hdone : ∀ later : State Cmd,
      (runParallelStreaming Cmd opts).returned later = true ↔ later.pc = .done := by
    intro later
    cases hpc : later.pc <;> simp [runParallelStreaming, hpc]
  apply System.Inevitably.iff_of_measure
    (fun later => ((runParallelStreaming Cmd opts).system dispatch).Reachable later ∧
      AtStop later) (fun later : State Cmd => later.channel.closed = true) drainWork
  · intro later hlater hclosed hreturned
    exact drain_progress hlater.2 hclosed fun hpc => hreturned ((hdone later).mpr hpc)
  · intro later action next hlater hown hstep
    obtain ⟨hkept, hsame, hless⟩ := drain_step hlater.2 hown hstep
    exact ⟨⟨hlater.1.step hstep, hkept⟩, by rw [hsame], hless⟩
  · intro later hlater hreturned
    have hpc := (hdone later).mp hreturned
    exact ((inv_reachable hlater.1).ended (by rw [hpc]; rfl)).1
  · exact ⟨hreach, hstop⟩

/-- What an executor returns once its spawn loop has been left is fixed, up to
the order of joining, by the lines launched so far. -/
theorem result_of_stopped
    (hreach : ((runParallelStreaming Cmd opts).system dispatch).Reachable state)
    (hstopped : Stopped state) {actions : List (Action Cmd)} {final : State Cmd}
    (hrun : ((runParallelStreaming Cmd opts).system dispatch).run state actions = some final)
    {code : ExitCode} {summary : Summary}
    (hresult : (runParallelStreaming Cmd opts).result final = some (code, summary)) :
    (∃ order, order.Perm (lineCodes dispatch state.pool.books.inFlight) ∧
        code = worstOf order) ∧
      summary.Executed (lineCodes dispatch state.pool.books.inFlight) := by
  have hsame : final.pool.books.inFlight = state.pool.books.inFlight :=
    System.run_observe (fun state : State Cmd => state.pool.books.inFlight) Stopped
      (fun _ _ _ hpc hstep => stopped_step hpc hstep) hstopped hrun
  obtain ⟨hreturned, hworst, hsummary⟩ := Machine.result_eq_some hresult
  obtain ⟨order, hperm, hsummary', hworst'⟩ :=
    ((runParallelStreaming_sound opts).settled dispatch final (hreach.run hrun) hreturned).tallied
  have hcodes : order.Perm (lineCodes dispatch state.pool.books.inFlight) :=
    hsame ▸ hperm
  refine ⟨⟨order, hcodes, hworst.symm.trans hworst'⟩, ?_⟩
  rw [hsummary.symm.trans hsummary']
  exact Summary.executed_tally hcodes _

end ParallelStreaming

/-! ## A streaming run at its stop point -/

/-- After the threshold is reached, and for the parallel executor once its spawn
loop has been left and its tasks have ended, a streaming executor returns by its
own steps, with what the lines launched so far determine, exactly if the reader
has already dropped its sender. -/
theorem returns_at_stop_point_iff (opts : ExecutorOptions) (dispatch : Nat → DispatchResult) :
    (∀ (threshold : Nat) (state : SequentialStreaming.State Cmd),
      opts.errorThreshold = some threshold → 1 ≤ threshold →
      ((runSequentialStreaming Cmd opts).system dispatch).Reachable state →
      threshold ≤ state.books.stopWorthyCount opts →
      (((runSequentialStreaming Cmd opts).system dispatch).Inevitably Action.Own
            (fun final => (runSequentialStreaming Cmd opts).returned final = true) state ∧
          (∀ actions final code summary,
            ((runSequentialStreaming Cmd opts).system dispatch).run state actions = some final →
            (runSequentialStreaming Cmd opts).result final = some (code, summary) →
            code = worstOf (lineCodes dispatch state.books.inFlight) ∧
              summary.Executed (lineCodes dispatch state.books.inFlight)) ↔
        state.channel.closed = true)) ∧
    (∀ state : ParallelStreaming.State Cmd,
      ((runParallelStreaming Cmd opts).system dispatch).Reachable state →
      ParallelStreaming.AtStop state →
      (((runParallelStreaming Cmd opts).system dispatch).Inevitably Action.Own
            (fun final => (runParallelStreaming Cmd opts).returned final = true) state ∧
          (∀ actions final code summary,
            ((runParallelStreaming Cmd opts).system dispatch).run state actions = some final →
            (runParallelStreaming Cmd opts).result final = some (code, summary) →
            (∃ order, order.Perm (lineCodes dispatch state.pool.books.inFlight) ∧
                code = worstOf order) ∧
              summary.Executed (lineCodes dispatch state.pool.books.inFlight)) ↔
        state.channel.closed = true)) := by
  constructor
  · intro threshold state hthreshold hpositive hreach hcount
    have htripped :=
      (SequentialStreaming.inv_reachable hreach).coded.tripped hthreshold hpositive hcount
    have hstopped := SequentialStreaming.stopped_of_tripped hreach htripped
    rw [SequentialStreaming.inevitably_returned_iff hreach hstopped, and_iff_left]
    intro actions final code summary hrun hresult
    exact SequentialStreaming.result_of_stopped hreach hstopped hrun hresult
  · intro state hreach hstop
    rw [ParallelStreaming.inevitably_returned_iff hreach hstop, and_iff_left]
    intro actions final code summary hrun hresult
    exact ParallelStreaming.result_of_stopped hreach hstop.1 hrun hresult

/-- The only line of a stream fails after the reader has dropped its sender. -/
theorem returns_at_stop_point_of_closed :
    ∃ state : SequentialStreaming.State Unit, state.books.inFlight = sampleScript 1 ∧
      ((runSequentialStreaming Unit ⟨1, some 1, false⟩).system fun _ => .code 1).Inevitably
        Action.Own
        (fun final => (runSequentialStreaming Unit ⟨1, some 1, false⟩).returned final = true)
        state := by
  obtain ⟨state, hreach, htest⟩ := System.exists_reachable
    ((runSequentialStreaming Unit ⟨1, some 1, false⟩).system fun _ => .code 1)
    [.send ⟨1, "ls".toList, .cmd ()⟩, .close, .exec, .complete 0]
    (fun state : SequentialStreaming.State Unit => state.channel.closed &&
      decide (1 ≤ state.books.stopWorthyCount ⟨1, some 1, false⟩) &&
      decide (state.books.inFlight = sampleScript 1))
    (by decide +kernel)
  simp only [Bool.and_eq_true, decide_eq_true_eq] at htest
  obtain ⟨⟨hclosed, hcount⟩, hinFlight⟩ := htest
  have hreturns := (returns_at_stop_point_iff ⟨1, some 1, false⟩ fun _ => .code 1).1 1 state rfl
    (by decide) hreach hcount
  exact ⟨state, hinFlight, (hreturns.mpr hclosed).1⟩

/-- The first line of a stream fails, and the reader, who has nothing more to
send for now, keeps its sender: the executor waits. -/
theorem waits_for_reader_after_threshold :
    ¬ ∀ (opts : ExecutorOptions) (dispatch : Nat → DispatchResult) (threshold : Nat)
        (state : SequentialStreaming.State Unit),
      opts.errorThreshold = some threshold → 1 ≤ threshold →
      ((runSequentialStreaming Unit opts).system dispatch).Reachable state →
      threshold ≤ state.books.stopWorthyCount opts →
      ((runSequentialStreaming Unit opts).system dispatch).Inevitably Action.Own
        (fun final => (runSequentialStreaming Unit opts).returned final = true) state := by
  intro hclaim
  obtain ⟨state, hreach, htest⟩ := System.exists_reachable
    ((runSequentialStreaming Unit ⟨1, some 1, false⟩).system fun _ => .code 1)
    [.send ⟨1, "ls".toList, .cmd ()⟩, .exec, .complete 0]
    (fun state : SequentialStreaming.State Unit => !state.channel.closed &&
      decide (1 ≤ state.books.stopWorthyCount ⟨1, some 1, false⟩) && decide (state.pc = .drain))
    (by decide +kernel)
  simp only [Bool.and_eq_true, Bool.not_eq_true', decide_eq_true_eq] at htest
  obtain ⟨⟨hopen, hcount⟩, hpc⟩ := htest
  have hreturns := hclaim ⟨1, some 1, false⟩ (fun _ => .code 1) 1 state rfl (by decide) hreach
    hcount
  rw [SequentialStreaming.inevitably_returned_iff hreach (Or.inl hpc), hopen] at hreturns
  cases hreturns

end S7cmd.BatchRun
