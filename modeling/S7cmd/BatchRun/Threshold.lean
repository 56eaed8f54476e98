import S7cmd.BatchRun.Accounting

/-!
# The failure threshold

The spawn loops of the parallel executors read the cancel flag at their head
only. Once the flag is set, the loop stops at its head; a loop that waits
further on, for a line or for a permit, spawns the line it gets unless the
interrupt flag is set by then. A sequential executor counts a failure before it
looks at the next line, and so stops at once.
-/

namespace S7cmd.BatchRun

open Foundation

variable {Cmd : Type}

/-- At least one recorded stop-worthy outcome for each of the threshold. -/
theorem Books.Coded.tripped {opts : ExecutorOptions} {dispatch : Nat → DispatchResult}
    {books : Books Cmd} (hcoded : books.Coded opts dispatch) {threshold : Nat}
    (hthreshold : opts.errorThreshold = some threshold) (hpositive : 1 ≤ threshold)
    (hcount : threshold ≤ books.stopWorthyCount opts) : books.Tripped opts := by
  rw [← hcoded.failCount_eq] at hcount
  exact ⟨ExecutorOptions.reached_iff.mpr ⟨threshold, hthreshold, hcount⟩, by omega⟩

/-! ## The parallel executor -/

namespace Parallel

variable {opts : ExecutorOptions} {script : List (PreparedLine Cmd)}
  {dispatch : Nat → DispatchResult} {state next : State Cmd}

/-- The spawn loop holds a line and will not read the cancel flag again before
it spawns it. -/
def ParkedPastCheck (state : State Cmd) : Prop := ∃ line, state.pc = .acquire line

/-- With the cancel flag set, a loop that is not parked past its check launches
nothing, and stays so. -/
theorem halted_step {total : Nat} {action : Action Cmd} (hcancel : state.pool.failCancel = true)
    (hhalted : state.interrupt = true ∨ ¬ ParkedPastCheck state)
    (hstep : step opts total dispatch state action = some next) :
    (next.pool.failCancel = true ∧ (next.interrupt = true ∨ ¬ ParkedPastCheck next)) ∧
      next.pool.books.inFlight = state.pool.books.inFlight := by
  cases step_moves hstep with
  | sigint => exact ⟨⟨hcancel, Or.inl rfl⟩, rfl⟩
  | exhausted hpc hlines => exact ⟨⟨hcancel, Or.inr nofun⟩, rfl⟩
  | stopped line rest hpc hlines hflag => exact ⟨⟨hcancel, Or.inr nofun⟩, rfl⟩
  | parked line rest hpc hlines hinterrupt hclear =>
      rw [hcancel] at hclear
      cases hclear
  | interrupted line hpc hinterrupt => exact ⟨⟨hcancel, Or.inl hinterrupt⟩, rfl⟩
  | spawned line hpc hpermits hinterrupt =>
      rcases hhalted with hset | hfree
      · rw [hinterrupt] at hset
        cases hset
      · exact absurd ⟨line, hpc⟩ hfree
  | returned hpc hall => exact ⟨⟨hcancel, Or.inr nofun⟩, rfl⟩
  | joined index pool hpc hjoin =>
      exact ⟨⟨(Pool.failCancel_join hjoin).trans hcancel, hhalted⟩, Pool.inFlight_join hjoin⟩
  | task action pool htask =>
      exact ⟨⟨Pool.failCancel_task hcancel htask, hhalted⟩, Pool.inFlight_task htask⟩

/-- A loop parked past its check can always go on to spawn the line it holds. -/
theorem exists_launch (hinv : Inv opts script dispatch state) (hworkers : 1 ≤ opts.workers)
    (hparked : ParkedPastCheck state) (hinterrupt : state.interrupt = false) :
    ∃ actions final, ((runParallel opts script).system dispatch).run state actions = some final ∧
      final.pool.books.inFlight ≠ state.pool.books.inFlight := by
  obtain ⟨line, hpc⟩ := hparked
  obtain ⟨actions, pool, hrun, hpermits, hsame⟩ := hinv.pool.exists_release hworkers
  have hspawn : ((runParallel opts script).system dispatch).run { state with pool := pool }
      [.exec] = some (acquired line { state with pool := pool }) := by
    apply System.run_single _
    simp only [Machine.system, runParallel, step, exec, hpc, if_neg hpermits]
  have htasks := Pool.run_tasks ((runParallel opts script).system dispatch)
    (fun pool => { state with pool := pool }) (fun _ _ => rfl) (fun _ _ => rfl) hrun
  refine ⟨actions ++ [.exec], _, System.run_append _ htasks hspawn, ?_⟩
  simp [acquired, hinterrupt, Pool.spawn, hsame]

theorem launches_nothing_iff (hinv : Inv opts script dispatch state) (hworkers : 1 ≤ opts.workers)
    (hcancel : state.pool.failCancel = true) :
    (∀ actions final, ((runParallel opts script).system dispatch).run state actions = some final →
        final.pool.books.inFlight = state.pool.books.inFlight) ↔
      state.interrupt = true ∨ ¬ ParkedPastCheck state := by
  refine (System.run_observe_iff (fun state : State Cmd => state.pool.books.inFlight)
    (fun state => state.pool.failCancel = true ∧
      (state.interrupt = true ∨ ¬ ParkedPastCheck state)) ?_ ?_).trans (and_iff_right hcancel)
  · intro state action next hguard hstep
    exact halted_step hguard.1 hguard.2 hstep
  · intro hlate
    obtain ⟨hclear, hparked⟩ := not_or.mp fun hhalted => hlate ⟨hcancel, hhalted⟩
    exact exists_launch hinv hworkers (not_not.mp hparked) (by simpa using hclear)

end Parallel

/-! ## The parallel streaming executor -/

namespace ParallelStreaming

variable {opts : ExecutorOptions} {dispatch : Nat → DispatchResult} {state next : State Cmd}

/-- The spawn loop holds a line, or waits for one that can still come, and will
not read the cancel flag again before it spawns it. -/
def ParkedPastCheck (state : State Cmd) : Prop :=
  (∃ line, state.pc = .acquire line) ∨
    state.pc = .recv ∧ ¬ (state.channel.closed = true ∧ state.channel.queue = [])

theorem not_parked_of_pc {state : State Cmd} (hacquire : ∀ line, state.pc ≠ .acquire line)
    (hrecv : state.pc ≠ .recv) : ¬ ParkedPastCheck state := by
  rintro (⟨line, hpc⟩ | ⟨hpc, -⟩)
  · exact hacquire line hpc
  · exact hrecv hpc

/-- With the cancel flag set, a loop that is not parked past its check launches
nothing, and stays so. -/
theorem halted_step {action : Action Cmd} (hcancel : state.pool.failCancel = true)
    (hhalted : state.interrupt = true ∨ ¬ ParkedPastCheck state)
    (hstep : step opts dispatch state action = some next) :
    (next.pool.failCancel = true ∧ (next.interrupt = true ∨ ¬ ParkedPastCheck next)) ∧
      next.pool.books.inFlight = state.pool.books.inFlight := by
  cases step_moves hstep with
  | sigint => exact ⟨⟨hcancel, Or.inl rfl⟩, rfl⟩
  | sent line channel hsend =>
      obtain ⟨hopen, rfl⟩ := Channel.send_eq_some hsend
      refine ⟨⟨hcancel, hhalted.imp id fun hfree => ?_⟩, rfl⟩
      -- a loop parked on an open channel would have been parked past its check
      refine not_parked_of_pc (fun other hpc => hfree (Or.inl ⟨other, hpc⟩)) fun hpc => ?_
      refine hfree (Or.inr ⟨hpc, fun hended => ?_⟩)
      exact absurd (hopen.symm.trans hended.1) Bool.false_ne_true
  | closed =>
      refine ⟨⟨hcancel, hhalted.imp id fun hfree hparked => hfree ?_⟩, rfl⟩
      rcases hparked with hacquire | ⟨hpc, hwaiting⟩
      · exact Or.inl hacquire
      · exact Or.inr ⟨hpc, fun hended => hwaiting ⟨rfl, hended.2⟩⟩
  | stopped hpc hflag => exact ⟨⟨hcancel, Or.inr (not_parked_of_pc nofun nofun)⟩, rfl⟩
  | waiting hpc hinterrupt hclear =>
      rw [hcancel] at hclear
      cases hclear
  | parked line channel hpc hrecv =>
      obtain ⟨rest, hqueue, rfl⟩ := Channel.recv_message hrecv
      refine ⟨⟨hcancel, hhalted.imp id fun hfree => absurd ?_ hfree⟩, rfl⟩
      exact Or.inr ⟨hpc, fun hended => by simp [hqueue] at hended⟩
  | exhausted hpc hrecv => exact ⟨⟨hcancel, Or.inr (not_parked_of_pc nofun nofun)⟩, rfl⟩
  | interrupted line hpc hinterrupt => exact ⟨⟨hcancel, Or.inl hinterrupt⟩, rfl⟩
  | spawned line hpc hpermits hinterrupt =>
      rcases hhalted with hset | hfree
      · rw [hinterrupt] at hset
        cases hset
      · exact absurd (Or.inl ⟨line, hpc⟩) hfree
  | dropped line channel hpc hrecv =>
      refine ⟨⟨hcancel, Or.inr (not_parked_of_pc ?_ ?_)⟩, rfl⟩
      · simp [hpc]
      · simp [hpc]
  | drained hpc hrecv => exact ⟨⟨hcancel, Or.inr (not_parked_of_pc nofun nofun)⟩, rfl⟩
  | returned hpc hall => exact ⟨⟨hcancel, Or.inr (not_parked_of_pc nofun nofun)⟩, rfl⟩
  | joined index pool hpc hjoin =>
      exact ⟨⟨(Pool.failCancel_join hjoin).trans hcancel, hhalted⟩, Pool.inFlight_join hjoin⟩
  | task action pool htask =>
      exact ⟨⟨Pool.failCancel_task hcancel htask, hhalted⟩, Pool.inFlight_task htask⟩

/-- A loop that waits for a permit can always go on to spawn the line it holds. -/
theorem exists_spawn (hinv : Inv opts dispatch state) (hworkers : 1 ≤ opts.workers)
    {line : PreparedLine Cmd} (hpc : state.pc = .acquire line)
    (hinterrupt : state.interrupt = false) :
    ∃ actions final, ((runParallelStreaming Cmd opts).system dispatch).run state actions =
        some final ∧ final.pool.books.inFlight ≠ state.pool.books.inFlight := by
  obtain ⟨dropped, hpool, -, -⟩ := hinv.received
  obtain ⟨actions, pool, hrun, hpermits, hsame⟩ := hpool.exists_release hworkers
  have hspawn : ((runParallelStreaming Cmd opts).system dispatch).run
      { state with pool := pool } [.exec] = some (acquired line { state with pool := pool }) := by
    apply System.run_single _
    simp only [Machine.system, runParallelStreaming, step, exec, hpc, if_neg hpermits]
  have htasks := Pool.run_tasks ((runParallelStreaming Cmd opts).system dispatch)
    (fun pool => { state with pool := pool }) (fun _ _ => rfl) (fun _ _ => rfl) hrun
  refine ⟨actions ++ [.exec], _, System.run_append _ htasks hspawn, ?_⟩
  simp [acquired, hinterrupt, Pool.spawn, hsame]

/-- A loop that waits for a line receives it and goes on to spawn it. -/
theorem exists_spawn_of_queue (hinv : Inv opts dispatch state) (hworkers : 1 ≤ opts.workers)
    {line : PreparedLine Cmd} {rest : List (PreparedLine Cmd)} (hpc : state.pc = .recv)
    (hqueue : state.channel.queue = line :: rest) (hinterrupt : state.interrupt = false) :
    ∃ actions final, ((runParallelStreaming Cmd opts).system dispatch).run state actions =
        some final ∧ final.pool.books.inFlight ≠ state.pool.books.inFlight := by
  have hstep : step opts dispatch state .exec = some
      (received state (.message line,
        { state.channel with received := state.channel.received ++ [line], queue := rest })) := by
    simp only [step, exec, hpc, Channel.recv_of_cons hqueue, Option.map_some]
  obtain ⟨actions, final, hrun, hlaunched⟩ :=
    exists_spawn (inv_step hinv hstep) hworkers rfl hinterrupt
  exact ⟨.exec :: actions, final, System.run_cons_eq_some _ |>.mpr ⟨_, hstep, hrun⟩, hlaunched⟩

/-- A loop parked past its check can always go on to spawn a line. -/
theorem exists_launch (hinv : Inv opts dispatch state) (hworkers : 1 ≤ opts.workers)
    (hparked : ParkedPastCheck state) (hinterrupt : state.interrupt = false) :
    ∃ actions final, ((runParallelStreaming Cmd opts).system dispatch).run state actions =
        some final ∧ final.pool.books.inFlight ≠ state.pool.books.inFlight := by
  rcases hparked with ⟨line, hpc⟩ | ⟨hpc, hwaiting⟩
  · exact exists_spawn hinv hworkers hpc hinterrupt
  · cases hqueue : state.channel.queue with
    | cons line rest => exact exists_spawn_of_queue hinv hworkers hpc hqueue hinterrupt
    | nil =>
        have hopen : state.channel.closed = false := by
          simpa [hqueue] using hwaiting
        -- the reader sends one more line
        let line : PreparedLine Cmd := ⟨0, [], .invalid .empty []⟩
        have hsend : step opts dispatch state (.send line) = some
            { state with channel := { state.channel with queue := [line] } } := by
          simp [step, Channel.send, hopen, hqueue]
        obtain ⟨actions, final, hrun, hlaunched⟩ :=
          exists_spawn_of_queue (inv_step hinv hsend) hworkers hpc rfl hinterrupt
        exact ⟨.send line :: actions, final,
          System.run_cons_eq_some _ |>.mpr ⟨_, hsend, hrun⟩, hlaunched⟩

theorem launches_nothing_iff (hinv : Inv opts dispatch state) (hworkers : 1 ≤ opts.workers)
    (hcancel : state.pool.failCancel = true) :
    (∀ actions final, ((runParallelStreaming Cmd opts).system dispatch).run state actions =
        some final → final.pool.books.inFlight = state.pool.books.inFlight) ↔
      state.interrupt = true ∨ ¬ ParkedPastCheck state := by
  refine (System.run_observe_iff (fun state : State Cmd => state.pool.books.inFlight)
    (fun state => state.pool.failCancel = true ∧
      (state.interrupt = true ∨ ¬ ParkedPastCheck state)) ?_ ?_).trans (and_iff_right hcancel)
  · intro state action next hguard hstep
    exact halted_step hguard.1 hguard.2 hstep
  · intro hlate
    obtain ⟨hclear, hparked⟩ := not_or.mp fun hhalted => hlate ⟨hcancel, hhalted⟩
    exact exists_launch hinv hworkers (not_not.mp hparked) (by simpa using hclear)

end ParallelStreaming

/-! ## The sequential executors -/

namespace Sequential

variable {opts : ExecutorOptions} {script : List (PreparedLine Cmd)}
  {dispatch : Nat → DispatchResult} {state next : State Cmd}

/-- The loop is left as soon as the threshold is reached. -/
theorem done_of_tripped (hreach : ((runSequential opts script).system dispatch).Reachable state)
    (htripped : state.books.Tripped opts) : state.pc = .done := by
  refine hreach.invariant (fun state : State Cmd => state.books.Tripped opts → state.pc = .done)
    ?_ ?_ htripped
  · intro hinitial
    exact absurd hinitial.2 (Nat.lt_irrefl 0)
  · intro state action next hdone hstep
    cases step_moves hstep with
    | sigint => exact hdone
    | ended hpc hlines => exact fun _ => rfl
    | interrupted hpc hlines hinterrupt => exact fun _ => rfl
    | launched line rest hpc hlines hinterrupt =>
        intro htripped
        have hold := hdone htripped
        rw [hpc] at hold
        cases hold
    | settled index line hpc hflight =>
        unfold afterLine
        dsimp only
        split
        next htrips => exact fun _ => rfl
        next hgoing =>
          intro htripped
          rcases (Books.tripped_iff (Books.failCount_settle _ _ _ _ _)).mp htripped with hold | hnow
          · have hpc' := hdone hold
            rw [hpc] at hpc'
            cases hpc'
          · exact absurd hnow hgoing

theorem done_step {total : Nat} {action : Action Cmd} (hpc : state.pc = .done)
    (hstep : step opts total dispatch state action = some next) :
    next.pc = .done ∧ next.books.inFlight = state.books.inFlight := by
  cases step_moves hstep with
  | sigint => exact ⟨hpc, rfl⟩
  | ended hpc' hlines => exact ⟨rfl, rfl⟩
  | interrupted hpc' hlines hinterrupt => exact ⟨rfl, rfl⟩
  | launched line rest hpc' hlines hinterrupt => cases hpc.symm.trans hpc'
  | settled index line hpc' hflight => cases hpc.symm.trans hpc'

end Sequential

namespace SequentialStreaming

variable {opts : ExecutorOptions} {dispatch : Nat → DispatchResult} {state next : State Cmd}

/-- The loop has been left, though lines may still be drained. -/
def Stopped (state : State Cmd) : Prop := state.pc = .drain ∨ state.pc = .done

/-- The loop is left as soon as the threshold is reached. -/
theorem stopped_of_tripped
    (hreach : ((runSequentialStreaming Cmd opts).system dispatch).Reachable state)
    (htripped : state.books.Tripped opts) : Stopped state := by
  refine hreach.invariant (fun state : State Cmd => state.books.Tripped opts → Stopped state)
    ?_ ?_ htripped
  · intro hinitial
    exact absurd hinitial.2 (Nat.lt_irrefl 0)
  · intro state action next hstopped hstep
    cases step_moves hstep with
    | sigint => exact hstopped
    | sent line channel hsend => exact hstopped
    | closed => exact hstopped
    | interrupted line channel hpc hrecv hinterrupt => exact fun _ => Or.inl rfl
    | launched line channel hpc hrecv hinterrupt =>
        intro htripped
        rcases hstopped htripped with hold | hold
        · cases hpc.symm.trans hold
        · cases hpc.symm.trans hold
    | dropped line channel hpc hrecv => exact fun _ => Or.inl hpc
    | ended hpc hrecv => exact fun _ => Or.inr rfl
    | settled index line hpc hflight =>
        unfold afterLine
        dsimp only
        split
        next htrips => exact fun _ => Or.inl rfl
        next hgoing =>
          intro htripped
          rcases (Books.tripped_iff (Books.failCount_settle _ _ _ _ _)).mp htripped with hold | hnow
          · rcases hstopped hold with hold | hold
            · cases hpc.symm.trans hold
            · cases hpc.symm.trans hold
          · exact absurd hnow hgoing

theorem stopped_step {action : Action Cmd} (hstopped : Stopped state)
    (hstep : step opts dispatch state action = some next) :
    Stopped next ∧ next.books.inFlight = state.books.inFlight := by
  cases step_moves hstep with
  | sigint => exact ⟨hstopped, rfl⟩
  | sent line channel hsend => exact ⟨hstopped, rfl⟩
  | closed => exact ⟨hstopped, rfl⟩
  | interrupted line channel hpc hrecv hinterrupt => exact ⟨Or.inl rfl, rfl⟩
  | launched line channel hpc hrecv hinterrupt =>
      rcases hstopped with hold | hold
      · cases hpc.symm.trans hold
      · cases hpc.symm.trans hold
  | dropped line channel hpc hrecv => exact ⟨Or.inl hpc, rfl⟩
  | ended hpc hrecv => exact ⟨Or.inr rfl, rfl⟩
  | settled index line hpc hflight =>
      rcases hstopped with hold | hold
      · cases hpc.symm.trans hold
      · cases hpc.symm.trans hold

end SequentialStreaming

/-! ## No new work after the threshold -/

/-- The executor waits at a point from which it launches a line without reading
the cancel flag again. A sequential executor never does: it counts a failure in
the same step in which it decides to go on. -/
def Executor.ParkedPastCheck {opts : ExecutorOptions} {script : List (PreparedLine Cmd)} :
    (executor : Executor) → (executor.machine opts script).State → Prop
  | .sequential, _ => False
  | .parallel, state => Parallel.ParkedPastCheck state
  | .sequentialStreaming, _ => False
  | .parallelStreaming, state => ParallelStreaming.ParkedPastCheck state

/-- Once as many stop-worthy outcomes are recorded as the threshold asks for, an
executor puts no further line in flight, whatever happens next, exactly if it is
interrupted or not parked past its check at that moment. -/
theorem launches_after_threshold_iff (executor : Executor) (opts : ExecutorOptions)
    (hworkers : 1 ≤ opts.workers) (threshold : Nat)
    (hthreshold : opts.errorThreshold = some threshold) (hpositive : 1 ≤ threshold)
    (script : List (PreparedLine Cmd)) (dispatch : Nat → DispatchResult)
    (state : (executor.machine opts script).State)
    (hreach : ((executor.machine opts script).system dispatch).Reachable state)
    (hcount : threshold ≤ ((executor.machine opts script).books state).stopWorthyCount opts) :
    (∀ actions final,
        ((executor.machine opts script).system dispatch).run state actions = some final →
        (executor.machine opts script).inFlight final =
          (executor.machine opts script).inFlight state) ↔
      (executor.machine opts script).interrupt state = true ∨
        ¬ executor.ParkedPastCheck state := by
  cases executor with
  | sequential =>
      refine iff_of_true (fun actions final hrun => ?_) (Or.inr id)
      have hdone := Sequential.done_of_tripped hreach
        ((Sequential.inv_reachable hreach).coded.tripped hthreshold hpositive hcount)
      exact System.run_observe (fun state : Sequential.State Cmd => state.books.inFlight)
        (fun state => state.pc = .done)
        (fun state action next hpc hstep => Sequential.done_step hpc hstep) hdone hrun
  | sequentialStreaming =>
      refine iff_of_true (fun actions final hrun => ?_) (Or.inr id)
      have hstopped := SequentialStreaming.stopped_of_tripped hreach
        ((SequentialStreaming.inv_reachable hreach).coded.tripped hthreshold hpositive hcount)
      exact System.run_observe (fun state : SequentialStreaming.State Cmd => state.books.inFlight)
        SequentialStreaming.Stopped
        (fun state action next hpc hstep => SequentialStreaming.stopped_step hpc hstep)
        hstopped hrun
  | parallel =>
      have hinv := Parallel.inv_reachable hreach
      have htripped := hinv.pool.coded.tripped hthreshold hpositive hcount
      exact Parallel.launches_nothing_iff hinv hworkers (hinv.pool.failCancel.mpr htripped)
  | parallelStreaming =>
      have hinv := ParallelStreaming.inv_reachable hreach
      obtain ⟨dropped, hpool, -, -⟩ := hinv.received
      have htripped := hpool.coded.tripped hthreshold hpositive hcount
      exact ParallelStreaming.launches_nothing_iff hinv hworkers (hpool.failCancel.mpr htripped)

/-- The second of two lines fails while the spawn loop is at its head. -/
theorem launches_nothing_from_loop_head :
    ∃ state, ((sampleMachine .parallel 2 (some 1) 3).inFlight state).length = 2 ∧
      ∀ actions final, ((sampleMachine .parallel 2 (some 1) 3).system
          fun index => .code index).run state actions = some final →
        (sampleMachine .parallel 2 (some 1) 3).inFlight final =
          (sampleMachine .parallel 2 (some 1) 3).inFlight state := by
  obtain ⟨state, hreach, htest⟩ := System.exists_reachable
    ((sampleMachine .parallel 2 (some 1) 3).system fun index => .code index)
    [.exec, .exec, .exec, .exec, .complete 1]
    (fun state : Parallel.State Unit => decide (state.pc = .top) &&
      decide (1 ≤ state.pool.books.stopWorthyCount ⟨2, some 1, false⟩) &&
      decide (state.pool.books.inFlight.length = 2))
    (by decide +kernel)
  simp only [Bool.and_eq_true, decide_eq_true_eq] at htest
  obtain ⟨⟨hpc, hcount⟩, hlength⟩ := htest
  refine ⟨state, hlength, (launches_after_threshold_iff .parallel ⟨2, some 1, false⟩ (by decide) 1
    rfl (by decide) (sampleScript 3) _ state hreach hcount).mpr (Or.inr ?_)⟩
  rintro ⟨line, hacquire⟩
  cases hpc.symm.trans hacquire

/-- The first of three lines fails while the spawn loop waits for a permit with
the third: the permit that the failing task drops launches it. -/
theorem line_launched_after_threshold :
    ¬ ∀ (executor : Executor) (opts : ExecutorOptions) (threshold : Nat)
        (script : List (PreparedLine Unit)) (dispatch : Nat → DispatchResult)
        (state : (executor.machine opts script).State),
      1 ≤ opts.workers → opts.errorThreshold = some threshold → 1 ≤ threshold →
      ((executor.machine opts script).system dispatch).Reachable state →
      threshold ≤ ((executor.machine opts script).books state).stopWorthyCount opts →
      ∀ actions final,
        ((executor.machine opts script).system dispatch).run state actions = some final →
        (executor.machine opts script).inFlight final =
          (executor.machine opts script).inFlight state := by
  intro hclaim
  obtain ⟨state, hreach, htest⟩ := System.exists_reachable
    ((sampleMachine .parallel 2 (some 1) 3).system fun _ => .code 1)
    [.exec, .exec, .exec, .exec, .exec, .complete 0]
    (fun state => decide (1 ≤ ((sampleMachine .parallel 2 (some 1) 3).books
        state).stopWorthyCount ⟨2, some 1, false⟩) &&
      (((sampleMachine .parallel 2 (some 1) 3).system fun _ => .code 1).run state
        [.finish 0, .exec]).any fun final =>
          decide ((sampleMachine .parallel 2 (some 1) 3).inFlight final ≠
            (sampleMachine .parallel 2 (some 1) 3).inFlight state))
    (by decide +kernel)
  obtain ⟨hcount, hsome⟩ := Bool.and_eq_true_iff.mp htest
  obtain ⟨final, hrun, hlaunched⟩ := (Option.any_eq_true _ _).mp hsome
  exact of_decide_eq_true hlaunched (hclaim .parallel ⟨2, some 1, false⟩ 1 _ _ state (by decide)
    rfl (by decide) hreach (of_decide_eq_true hcount) _ final hrun)

end S7cmd.BatchRun
