import S7cmd.BatchRun.StopPoint

/-!
# Every run comes to an end

An executor and its tasks have only so much left to do: each step of theirs
lowers a measure, and the reader and the SIGINT listener can raise it by a bounded
amount. As long as an executor that waits for no more lines has not returned, one
of them can move. So it returns under every schedule.
-/

namespace S7cmd.BatchRun

open Foundation

variable {Cmd : Type}

/-- The steps of the executor task and of the tasks it has spawned. -/
def Action.Working : Action Cmd → Prop
  | .exec => True
  | .complete _ => True
  | .finish _ => True
  | .join _ => True
  | _ => False

/-- An executor that comes to its return by itself once no more lines can be sent
to it. -/
structure Machine.Driven (machine : Machine Cmd) (closed : machine.State → Bool)
    (work : machine.State → Nat) (cost : Nat) : Prop where
  progress : ∀ dispatch state, (machine.system dispatch).Reachable state →
    closed state = true → machine.returned state = false →
      ∃ action next, action.Working ∧ machine.step dispatch state action = some next
  closed_working : ∀ dispatch state action next, action.Working →
    machine.step dispatch state action = some next → closed next = closed state
  work_working : ∀ dispatch state action next, action.Working →
    machine.step dispatch state action = some next → work next < work state
  /-- what another party adds to the work in one step -/
  work_other : ∀ dispatch state action next, ¬ action.Working →
    machine.step dispatch state action = some next → work next ≤ work state + cost

/-- Whatever the order of its steps, such an executor returns. -/
theorem Machine.Driven.inevitably_returned {machine : Machine Cmd} {closed : machine.State → Bool}
    {work : machine.State → Nat} {cost : Nat} (hdriven : machine.Driven closed work cost)
    {dispatch : Nat → DispatchResult} {state : machine.State}
    (hreach : (machine.system dispatch).Reachable state) (hclosed : closed state = true) :
    (machine.system dispatch).Inevitably Action.Working
      (fun final => machine.returned final = true) state := by
  apply System.Inevitably.of_measure
    (fun later => (machine.system dispatch).Reachable later ∧ closed later = true) work
  · intro later hlater hreturned
    exact hdriven.progress dispatch later hlater.1 hlater.2 (by simpa using hreturned)
  · intro later action next hlater hworking hstep
    have hkept := hdriven.closed_working dispatch later action next hworking hstep
    exact ⟨⟨hlater.1.step hstep, hkept.trans hlater.2⟩,
      hdriven.work_working dispatch later action next hworking hstep⟩
  · exact ⟨hreach, hclosed⟩

/-- An executor that takes lines until its sender is dropped, and does not return
before. -/
structure Machine.Fed (machine : Machine Cmd) (closed : machine.State → Bool) : Prop where
  given_initial : machine.given machine.initial = []
  closed_initial : closed machine.initial = false
  send : ∀ dispatch state line, closed state = false → ∃ next,
    machine.step dispatch state (.send line) = some next ∧
      machine.given next = machine.given state ++ [line] ∧ closed next = false
  close : ∀ dispatch state, ∃ next, machine.step dispatch state .close = some next ∧
    machine.given next = machine.given state ∧ closed next = true
  sigint : ∀ dispatch state, ∃ next, machine.step dispatch state .sigint = some next ∧
    machine.given next = machine.given state ∧ closed next = closed state
  given_working : ∀ dispatch state action next, action.Working →
    machine.step dispatch state action = some next → machine.given next = machine.given state
  closed_of_returned : ∀ dispatch state, (machine.system dispatch).Reachable state →
    machine.returned state = true → closed state = true

/-! ## What a pool has left to do -/

/-- How many steps a line in flight is from being joined. -/
def Phase.work : Phase → Nat
  | .running => 3
  | .recorded _ => 2
  | .finished _ => 1
  | .joined _ => 0

namespace Pool

variable {opts : ExecutorOptions} {dispatch : Nat → DispatchResult} {pool next : Pool Cmd}

def work (pool : Pool Cmd) : Nat := weigh (fun flight => flight.phase.work) pool.books.flights

@[simp] theorem work_skip (count : Nat) (pool : Pool Cmd) : (pool.skip count).work = pool.work :=
  rfl

@[simp] theorem work_spawn (line : PreparedLine Cmd) (pool : Pool Cmd) :
    (pool.spawn line).work = pool.work + 3 := by
  simp only [work, spawn, Books.flights_launch, weigh_append]
  rfl

theorem work_set {index : Nat} {line : PreparedLine Cmd} {before after : Phase}
    (hold : pool.books.flights[index]? = some ⟨line, before⟩)
    (hflights : next.books.flights = pool.books.flights.set index ⟨line, after⟩)
    (hless : after.work < before.work) : next.work < pool.work := by
  rw [work, work, hflights]
  exact weigh_set_lt hold hless

theorem working_of_task {action : Action Cmd}
    (hnext : pool.task opts dispatch action = some next) : action.Working := by
  cases action with
  | complete index => trivial
  | finish index => trivial
  | _ => cases hnext

theorem work_task {action : Action Cmd} (hnext : pool.task opts dispatch action = some next) :
    next.work < pool.work := by
  cases action with
  | complete index =>
      obtain ⟨line, hflight, rfl⟩ := complete_eq_some hnext
      exact work_set hflight (Books.flights_complete _ _ _ _ _) (by simp [Phase.work])
  | finish index =>
      obtain ⟨line, code, hflight, rfl⟩ := finish_eq_some hnext
      exact work_set hflight (Books.flights_finish _ _ _ _) (by simp [Phase.work])
  | _ => cases hnext

theorem work_join {index : Nat} (hnext : pool.join index = some next) : next.work < pool.work := by
  obtain ⟨line, result, hflight, rfl⟩ := join_eq_some hnext
  exact work_set hflight (Books.flights_join _ _ _ _) (by simp [Phase.work])

/-- A line that occupies a worker has a task that can move. -/
theorem exists_task_of_unfinished (opts : ExecutorOptions) (dispatch : Nat → DispatchResult)
    (hopen : 0 < pool.books.unfinished) :
    ∃ (action : Action Cmd) (next : Pool Cmd), action.Working ∧
      pool.task opts dispatch action = some next := by
  obtain ⟨⟨line, phase⟩, hmem, hphase⟩ := List.countP_pos_iff.mp hopen
  obtain ⟨index, hflight⟩ := List.getElem?_of_mem hmem
  cases phase with
  | running =>
      obtain ⟨next, code, hnext, -⟩ := complete_of_running opts dispatch hflight
      exact ⟨.complete index, next, trivial, hnext⟩
  | recorded code =>
      obtain ⟨next, hnext, -⟩ := finish_of_recorded opts dispatch hflight
      exact ⟨.finish index, next, trivial, hnext⟩
  | finished result => cases hphase
  | joined code => cases hphase

/-- As long as a line is left to join, a task can move or be joined. -/
theorem exists_task_or_join (opts : ExecutorOptions) (dispatch : Nat → DispatchResult)
    (hleft : pool.books.allJoined = false) :
    (∃ (action : Action Cmd) (next : Pool Cmd), action.Working ∧
      pool.task opts dispatch action = some next) ∨
        ∃ index joined, pool.join index = some joined := by
  rcases Nat.eq_zero_or_pos pool.books.unfinished with hfinished | hopen
  · exact Or.inr (ParallelStreaming.exists_join hfinished hleft)
  · exact Or.inl (exists_task_of_unfinished opts dispatch hopen)

/-- When no permit is free, some task can move. -/
theorem Inv.exists_task_of_full {dropped : Nat} (hinv : Inv opts dispatch dropped pool)
    (hworkers : 1 ≤ opts.workers) (hpermits : pool.permits = 0) :
    ∃ (action : Action Cmd) (next : Pool Cmd), action.Working ∧
      pool.task opts dispatch action = some next := by
  have htotal := hinv.permits
  exact exists_task_of_unfinished opts dispatch (by omega)

end Pool

/-! ## The executors of a script -/

namespace Sequential

variable {opts : ExecutorOptions} {dispatch : Nat → DispatchResult} {state next : State Cmd}

/-- Two steps for each line left. -/
def work (state : State Cmd) : Nat :=
  2 * state.lines.length +
    match state.pc with
    | .top => 1
    | .running => 2
    | .done => 0

theorem work_working {total : Nat} {action : Action Cmd} (hworking : action.Working)
    (hstep : step opts total dispatch state action = some next) : work next < work state := by
  cases step_moves hstep with
  | sigint => cases hworking
  | ended hpc hlines => simp [work, hpc]
  | interrupted hpc hlines hinterrupt => simp [work, hpc]
  | launched line rest hpc hlines hinterrupt =>
      simp only [work, hpc, hlines, List.length_cons]
      omega
  | settled index line hpc hflight =>
      simp only [afterLine]
      split <;> simp [work, hpc]

theorem progress {script : List (PreparedLine Cmd)} (hinv : Inv opts script dispatch state)
    (hreturned : state.pc ≠ .done) : ∃ action next, action.Working ∧
      step opts script.length dispatch state action = some next := by
  cases hpc : state.pc with
  | top => exact ⟨.exec, loopHead script.length state, trivial, by simp [step, hpc]⟩
  | running =>
      obtain ⟨line, hawaiting⟩ := hinv.running hpc
      exact ⟨.complete state.idx,
        afterLine opts script.length (dispatch state.idx) state.idx line state, trivial,
        by simp only [step, hpc, hawaiting.getElem?]⟩
  | done => exact absurd hpc hreturned

end Sequential

theorem runSequential_driven (opts : ExecutorOptions) (script : List (PreparedLine Cmd)) :
    (runSequential opts script).Driven (fun _ => true) Sequential.work 0 where
  progress := by
    intro dispatch state hreach _ hreturned
    exact Sequential.progress (Sequential.inv_reachable hreach)
      (by simpa [runSequential] using hreturned)
  closed_working := fun _ _ _ _ _ _ => rfl
  work_working := fun _ _ _ _ hworking hstep => Sequential.work_working hworking hstep
  work_other := by
    intro dispatch state action next hother hstep
    cases Sequential.step_moves hstep with
    | sigint => exact Nat.le_refl _
    | settled index line hpc hflight => exact absurd trivial hother
    | _ => exact absurd trivial hother

namespace Parallel

variable {opts : ExecutorOptions} {dispatch : Nat → DispatchResult} {state next : State Cmd}

/-- A line left costs a turn of the spawn loop and the steps of its task. -/
def work (state : State Cmd) : Nat :=
  6 * state.lines.length + state.pool.work +
    match state.pc with
    | .top => 2
    | .acquire _ => 6
    | .join => 1
    | .done => 0

theorem work_working {total : Nat} {action : Action Cmd} (hworking : action.Working)
    (hstep : step opts total dispatch state action = some next) : work next < work state := by
  cases step_moves hstep with
  | sigint => cases hworking
  | exhausted hpc hlines => simp [work, hpc]
  | stopped line rest hpc hlines hflag =>
      simp only [work, hpc, hlines, List.length_cons]
      omega
  | parked line rest hpc hlines hinterrupt hcancel =>
      simp only [work, hpc, hlines, List.length_cons]
      omega
  | interrupted line hpc hinterrupt => simp [work, hpc]
  | spawned line hpc hpermits hinterrupt =>
      simp only [work, hpc, Pool.work_spawn]
      omega
  | returned hpc hall => simp [work, hpc]
  | joined index pool hpc hjoin =>
      have hless := Pool.work_join hjoin
      simp only [work, hpc]
      omega
  | task action pool htask =>
      have hless := Pool.work_task htask
      simp only [work]
      omega

theorem exists_step_of_task {total : Nat} (hmoves : ∃ (action : Action Cmd) (pool : Pool Cmd),
    action.Working ∧ state.pool.task opts dispatch action = some pool) :
    ∃ action next, action.Working ∧ step opts total dispatch state action = some next := by
  obtain ⟨action, pool, hworking, htask⟩ := hmoves
  cases action with
  | complete index =>
      exact ⟨.complete index, { state with pool := pool }, trivial,
        by simp only [step, htask, Option.map_some]⟩
  | finish index =>
      exact ⟨.finish index, { state with pool := pool }, trivial,
        by simp only [step, htask, Option.map_some]⟩
  | _ => cases htask

theorem progress {script : List (PreparedLine Cmd)} (hworkers : 1 ≤ opts.workers)
    (hinv : Inv opts script dispatch state) (hreturned : state.pc ≠ .done) :
    ∃ action next, action.Working ∧
      step opts script.length dispatch state action = some next := by
  cases hpc : state.pc with
  | top => exact ⟨.exec, loopHead state, trivial, by simp only [step, exec, hpc]⟩
  | acquire line =>
      by_cases hpermits : state.pool.permits = 0
      · exact exists_step_of_task (hinv.pool.exists_task_of_full hworkers hpermits)
      · exact ⟨.exec, acquired line state, trivial,
          by simp only [step, exec, hpc, if_neg hpermits]⟩
  | join =>
      cases hall : state.pool.books.allJoined with
      | true =>
          exact ⟨.exec, { state with
              pool := state.pool.skip (script.length - state.spawned)
              pc := .done }, trivial, by simp only [step, exec, hpc, hall, if_true]⟩
      | false =>
          rcases Pool.exists_task_or_join opts dispatch hall with hmoves | ⟨index, pool, hjoin⟩
          · exact exists_step_of_task hmoves
          · exact ⟨.join index, { state with pool := pool }, trivial,
              by simp only [step, hpc, hjoin, Option.map_some]⟩
  | done => exact absurd hpc hreturned

end Parallel

theorem runParallel_driven (opts : ExecutorOptions) (hworkers : 1 ≤ opts.workers)
    (script : List (PreparedLine Cmd)) :
    (runParallel opts script).Driven (fun _ => true) Parallel.work 0 where
  progress := by
    intro dispatch state hreach _ hreturned
    apply Parallel.progress hworkers (Parallel.inv_reachable hreach)
    intro hpc
    simp [runParallel, hpc] at hreturned
  closed_working := fun _ _ _ _ _ _ => rfl
  work_working := fun _ _ _ _ hworking hstep => Parallel.work_working hworking hstep
  work_other := by
    intro dispatch state action next hother hstep
    cases Parallel.step_moves hstep with
    | sigint => exact Nat.le_refl _
    | task action pool htask => exact absurd (Pool.working_of_task htask) hother
    | _ => exact absurd trivial hother

/-! ## The executors of a stream -/

namespace SequentialStreaming

variable {opts : ExecutorOptions} {dispatch : Nat → DispatchResult} {state next : State Cmd}

/-- Two steps for each line in the channel. -/
def work (state : State Cmd) : Nat :=
  2 * state.channel.queue.length +
    match state.pc with
    | .recv => 1
    | .running => 2
    | .drain => 1
    | .done => 0

theorem work_working {action : Action Cmd} (hworking : action.Working)
    (hstep : step opts dispatch state action = some next) :
    next.channel.closed = state.channel.closed ∧ next.channel.sent = state.channel.sent ∧
      work next < work state := by
  cases step_moves hstep with
  | sigint => cases hworking
  | sent line channel hsend => cases hworking
  | closed => cases hworking
  | interrupted line channel hpc hrecv hinterrupt =>
      have hsent := Channel.sent_recv hrecv
      obtain ⟨rest, hqueue, rfl⟩ := Channel.recv_message hrecv
      exact ⟨rfl, hsent, by simp only [work, hpc, hqueue, List.length_cons]; omega⟩
  | launched line channel hpc hrecv hinterrupt =>
      have hsent := Channel.sent_recv hrecv
      obtain ⟨rest, hqueue, rfl⟩ := Channel.recv_message hrecv
      exact ⟨rfl, hsent, by simp only [work, hpc, hqueue, List.length_cons]; omega⟩
  | dropped line channel hpc hrecv =>
      have hsent := Channel.sent_recv hrecv
      obtain ⟨rest, hqueue, rfl⟩ := Channel.recv_message hrecv
      exact ⟨rfl, hsent, by simp only [work, hpc, hqueue, List.length_cons]; omega⟩
  | ended hpc hrecv => rcases hpc with hpc | hpc <;> simp [work, hpc]
  | settled index line hpc hflight =>
      simp only [afterLine]
      split <;> simp [work, hpc]

theorem progress (hinv : Inv opts dispatch state) (hclosed : state.channel.closed = true)
    (hreturned : state.pc ≠ .done) :
    ∃ action next, action.Working ∧ step opts dispatch state action = some next := by
  obtain ⟨item, hrecv⟩ := Channel.exists_recv_of_closed hclosed
  cases hpc : state.pc with
  | recv =>
      exact ⟨.exec, received state item, trivial, by simp only [step, hpc, hrecv, Option.map_some]⟩
  | running =>
      obtain ⟨dropped, -, -, hrunning, -⟩ := hinv.received
      obtain ⟨-, index, line, hawaiting⟩ := hrunning hpc
      exact ⟨.complete index, afterLine opts (dispatch index) index line state, trivial,
        by simp only [step, hpc, hawaiting.getElem?]⟩
  | drain =>
      exact ⟨.exec, drained state item, trivial, by simp only [step, hpc, hrecv, Option.map_some]⟩
  | done => exact absurd hpc hreturned

end SequentialStreaming

theorem runSequentialStreaming_driven (opts : ExecutorOptions) :
    (runSequentialStreaming Cmd opts).Driven (fun state => state.channel.closed)
      SequentialStreaming.work 2 where
  progress := by
    intro dispatch state hreach hclosed hreturned
    exact SequentialStreaming.progress (SequentialStreaming.inv_reachable hreach) hclosed
      (by simpa [runSequentialStreaming] using hreturned)
  closed_working := fun _ _ _ _ hworking hstep =>
    (SequentialStreaming.work_working hworking hstep).1
  work_working := fun _ _ _ _ hworking hstep =>
    (SequentialStreaming.work_working hworking hstep).2.2
  work_other := by
    intro dispatch state action next hother hstep
    cases SequentialStreaming.step_moves hstep with
    | sigint => exact Nat.le_add_right _ _
    | sent line channel hsend =>
        obtain ⟨-, rfl⟩ := Channel.send_eq_some hsend
        simp only [SequentialStreaming.work, List.length_append, List.length_singleton]
        omega
    | closed => exact Nat.le_add_right _ _
    | _ => exact absurd trivial hother

theorem runSequentialStreaming_fed (opts : ExecutorOptions) :
    (runSequentialStreaming Cmd opts).Fed (fun state => state.channel.closed) where
  given_initial := rfl
  closed_initial := rfl
  send := by
    intro dispatch state line hopen
    obtain ⟨channel, hsend⟩ := Channel.exists_send hopen line
    refine ⟨{ state with channel := channel }, ?_, Channel.sent_send hsend, ?_⟩
    · simp only [runSequentialStreaming, SequentialStreaming.step, hsend, Option.map_some]
    · obtain ⟨-, rfl⟩ := Channel.send_eq_some hsend
      exact hopen
  close := fun _ state => ⟨{ state with channel := state.channel.close }, rfl, rfl, rfl⟩
  sigint := fun _ state => ⟨{ state with interrupt := true }, rfl, rfl, rfl⟩
  given_working := fun _ _ _ _ hworking hstep =>
    (SequentialStreaming.work_working hworking hstep).2.1
  closed_of_returned := by
    intro dispatch state hreach hreturned
    have hpc : state.pc = .done := by simpa [runSequentialStreaming] using hreturned
    exact ((SequentialStreaming.inv_reachable hreach).ended hpc).1

namespace ParallelStreaming

variable {opts : ExecutorOptions} {dispatch : Nat → DispatchResult} {state next : State Cmd}

/-- A line in the channel costs a turn of the spawn loop and the steps of its task. -/
def work (state : State Cmd) : Nat :=
  6 * state.channel.queue.length + state.pool.work +
    match state.pc with
    | .top => 4
    | .recv => 3
    | .acquire _ => 8
    | .drain => 2
    | .join => 1
    | .done => 0

theorem work_working {action : Action Cmd} (hworking : action.Working)
    (hstep : step opts dispatch state action = some next) :
    next.channel.closed = state.channel.closed ∧ next.channel.sent = state.channel.sent ∧
      work next < work state := by
  cases step_moves hstep with
  | sigint => cases hworking
  | sent line channel hsend => cases hworking
  | closed => cases hworking
  | stopped hpc hflag => simp [work, hpc]
  | waiting hpc hinterrupt hcancel => simp [work, hpc]
  | parked line channel hpc hrecv =>
      have hsent := Channel.sent_recv hrecv
      obtain ⟨rest, hqueue, rfl⟩ := Channel.recv_message hrecv
      exact ⟨rfl, hsent, by simp only [work, hpc, hqueue, List.length_cons]; omega⟩
  | exhausted hpc hrecv => simp [work, hpc]
  | interrupted line hpc hinterrupt => simp [work, hpc]
  | spawned line hpc hpermits hinterrupt =>
      exact ⟨rfl, rfl, by simp only [work, hpc, Pool.work_spawn]; omega⟩
  | dropped line channel hpc hrecv =>
      have hsent := Channel.sent_recv hrecv
      obtain ⟨rest, hqueue, rfl⟩ := Channel.recv_message hrecv
      exact ⟨rfl, hsent, by simp only [work, hpc, hqueue, List.length_cons, Pool.work_skip]; omega⟩
  | drained hpc hrecv => simp [work, hpc]
  | returned hpc hall => simp [work, hpc]
  | joined index pool hpc hjoin =>
      have hless := Pool.work_join hjoin
      exact ⟨rfl, rfl, by simp only [work, hpc]; omega⟩
  | task action pool htask =>
      have hless := Pool.work_task htask
      exact ⟨rfl, rfl, by simp only [work]; omega⟩

theorem exists_step_of_task (hmoves : ∃ (action : Action Cmd) (pool : Pool Cmd),
    action.Working ∧ state.pool.task opts dispatch action = some pool) :
    ∃ action next, action.Working ∧ step opts dispatch state action = some next := by
  obtain ⟨action, pool, hworking, htask⟩ := hmoves
  cases action with
  | complete index =>
      exact ⟨.complete index, { state with pool := pool }, trivial,
        by simp only [step, htask, Option.map_some]⟩
  | finish index =>
      exact ⟨.finish index, { state with pool := pool }, trivial,
        by simp only [step, htask, Option.map_some]⟩
  | _ => cases htask

theorem progress (hworkers : 1 ≤ opts.workers) (hinv : Inv opts dispatch state)
    (hclosed : state.channel.closed = true) (hreturned : state.pc ≠ .done) :
    ∃ action next, action.Working ∧ step opts dispatch state action = some next := by
  obtain ⟨item, hrecv⟩ := Channel.exists_recv_of_closed hclosed
  cases hpc : state.pc with
  | top => exact ⟨.exec, loopHead state, trivial, by simp only [step, exec, hpc]⟩
  | recv =>
      exact ⟨.exec, received state item, trivial,
        by simp only [step, exec, hpc, hrecv, Option.map_some]⟩
  | acquire line =>
      by_cases hpermits : state.pool.permits = 0
      · obtain ⟨dropped, hpool, -⟩ := hinv.received
        exact exists_step_of_task (hpool.exists_task_of_full hworkers hpermits)
      · exact ⟨.exec, acquired line state, trivial,
          by simp only [step, exec, hpc, if_neg hpermits]⟩
  | drain =>
      exact ⟨.exec, drained state item, trivial,
        by simp only [step, exec, hpc, hrecv, Option.map_some]⟩
  | join =>
      cases hall : state.pool.books.allJoined with
      | true =>
          exact ⟨.exec, { state with pc := .done }, trivial,
            by simp only [step, exec, hpc, hall, if_true]⟩
      | false =>
          rcases Pool.exists_task_or_join opts dispatch hall with hmoves | ⟨index, pool, hjoin⟩
          · exact exists_step_of_task hmoves
          · exact ⟨.join index, { state with pool := pool }, trivial,
              by simp only [step, hpc, hjoin, Option.map_some]⟩
  | done => exact absurd hpc hreturned

end ParallelStreaming

theorem runParallelStreaming_driven (opts : ExecutorOptions) (hworkers : 1 ≤ opts.workers) :
    (runParallelStreaming Cmd opts).Driven (fun state => state.channel.closed)
      ParallelStreaming.work 6 where
  progress := by
    intro dispatch state hreach hclosed hreturned
    apply ParallelStreaming.progress hworkers (ParallelStreaming.inv_reachable hreach) hclosed
    intro hpc
    simp [runParallelStreaming, hpc] at hreturned
  closed_working := fun _ _ _ _ hworking hstep =>
    (ParallelStreaming.work_working hworking hstep).1
  work_working := fun _ _ _ _ hworking hstep =>
    (ParallelStreaming.work_working hworking hstep).2.2
  work_other := by
    intro dispatch state action next hother hstep
    cases ParallelStreaming.step_moves hstep with
    | sigint => exact Nat.le_add_right _ _
    | sent line channel hsend =>
        obtain ⟨-, rfl⟩ := Channel.send_eq_some hsend
        simp only [ParallelStreaming.work, List.length_append, List.length_singleton]
        omega
    | closed => exact Nat.le_add_right _ _
    | task action pool htask => exact absurd (Pool.working_of_task htask) hother
    | _ => exact absurd trivial hother

theorem runParallelStreaming_fed (opts : ExecutorOptions) :
    (runParallelStreaming Cmd opts).Fed (fun state => state.channel.closed) where
  given_initial := rfl
  closed_initial := rfl
  send := by
    intro dispatch state line hopen
    obtain ⟨channel, hsend⟩ := Channel.exists_send hopen line
    refine ⟨{ state with channel := channel }, ?_, Channel.sent_send hsend, ?_⟩
    · simp only [runParallelStreaming, ParallelStreaming.step, hsend, Option.map_some]
    · obtain ⟨-, rfl⟩ := Channel.send_eq_some hsend
      exact hopen
  close := fun _ state => ⟨{ state with channel := state.channel.close }, rfl, rfl, rfl⟩
  sigint := fun _ state => ⟨{ state with interrupt := true }, rfl, rfl, rfl⟩
  given_working := fun _ _ _ _ hworking hstep =>
    (ParallelStreaming.work_working hworking hstep).2.1
  closed_of_returned := by
    intro dispatch state hreach hreturned
    have hpc : state.pc = .done := by
      cases hstate : state.pc <;> simp_all [runParallelStreaming]
    exact ((ParallelStreaming.inv_reachable hreach).ended (by rw [hpc]; rfl)).1

/-! ## All four -/

namespace Executor

variable (opts : ExecutorOptions) (script : List (PreparedLine Cmd))

/-- Whether the executor can be sent no more lines. -/
def closed : (executor : Executor) → (executor.machine opts script).State → Bool
  | .sequential => fun _ => true
  | .parallel => fun _ => true
  | .sequentialStreaming => fun state : SequentialStreaming.State Cmd => state.channel.closed
  | .parallelStreaming => fun state : ParallelStreaming.State Cmd => state.channel.closed

theorem fed (executor : Executor) (hstreams : executor.streams = true) :
    (executor.machine opts script).Fed (executor.closed opts script) := by
  cases executor with
  | sequential => cases hstreams
  | parallel => cases hstreams
  | sequentialStreaming => exact runSequentialStreaming_fed opts
  | parallelStreaming => exact runParallelStreaming_fed opts

theorem driven (executor : Executor) (hworkers : 1 ≤ opts.workers) :
    ∃ work cost, (executor.machine opts script).Driven (executor.closed opts script) work cost := by
  cases executor with
  | sequential => exact ⟨_, _, runSequential_driven opts script⟩
  | parallel => exact ⟨_, _, runParallel_driven opts hworkers script⟩
  | sequentialStreaming => exact ⟨_, _, runSequentialStreaming_driven opts⟩
  | parallelStreaming => exact ⟨_, _, runParallelStreaming_driven opts hworkers⟩

end Executor

/-- An executor that can be sent no more lines returns, whatever the order of its steps
and those of its tasks. -/
theorem executor_returns (executor : Executor) (opts : ExecutorOptions)
    (hworkers : 1 ≤ opts.workers) (script : List (PreparedLine Cmd))
    (dispatch : Nat → DispatchResult) (state : (executor.machine opts script).State)
    (hreach : ((executor.machine opts script).system dispatch).Reachable state)
    (hclosed : executor.closed opts script state = true) :
    ((executor.machine opts script).system dispatch).Inevitably Action.Working
      (fun final => (executor.machine opts script).returned final = true) state := by
  obtain ⟨work, cost, hdriven⟩ := executor.driven opts script hworkers
  exact hdriven.inevitably_returned hreach hclosed

/-- Two workers, three lines. -/
theorem executor_returns_two_workers :
    ((sampleMachine .parallel 2 (some 1) 3).system fun _ => .code 1).Inevitably Action.Working
      (fun final => (sampleMachine .parallel 2 (some 1) 3).returned final = true)
      (sampleMachine .parallel 2 (some 1) 3).initial :=
  executor_returns .parallel ⟨2, some 1, false⟩ (by decide) _ _ _ System.reachable_initial rfl

end S7cmd.BatchRun
