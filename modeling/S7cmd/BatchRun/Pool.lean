import S7cmd.BatchRun.Machine

/-!
# The task pool of the parallel executors

Both parallel executors spawn one task for each line, bounded by a semaphore.
The tasks share a failure counter and a cancel flag, which the spawn loop reads;
their results wait in a join set until the join loop records them, in any order.
-/

namespace S7cmd.BatchRun

open Foundation

variable {Cmd : Type}

structure Pool (Cmd : Type) where
  books : Books Cmd := {}
  /-- free permits of the semaphore -/
  permits : Nat
  failCancel : Bool := false
  deriving DecidableEq, Repr

namespace Pool

/-- Spawn the task of a line; the task owns a permit until it returns. -/
def spawn (line : PreparedLine Cmd) (pool : Pool Cmd) : Pool Cmd :=
  { pool with books := pool.books.launch line, permits := pool.permits - 1 }

/-- A task from the return of `execute_line` to the await of the progress lock. -/
def complete (opts : ExecutorOptions) (result : DispatchResult) (index : Nat)
    (pool : Pool Cmd) : Option (Pool Cmd) :=
  match pool.books.flights[index]? with
  | some ⟨line, .running⟩ =>
      let books := pool.books.complete opts result index line
      some { pool with
        books := books
        failCancel := pool.failCancel || books.trips opts (lineCode line result) }
  | _ => none

/-- A task from the progress lock to its end, where its permit is dropped. -/
def finish (index : Nat) (pool : Pool Cmd) : Option (Pool Cmd) :=
  match pool.books.flights[index]? with
  | some ⟨line, .recorded code⟩ =>
      some { pool with
        books := pool.books.finish code index line
        permits := pool.permits + 1 }
  | _ => none

/-- `joinset.join_next()` yields this task. -/
def join (index : Nat) (pool : Pool Cmd) : Option (Pool Cmd) :=
  match pool.books.flights[index]? with
  | some ⟨line, .finished result⟩ =>
      some { pool with books := pool.books.join result index line }
  | _ => none

def skip (count : Nat) (pool : Pool Cmd) : Pool Cmd :=
  { pool with books := pool.books.skip count }

/-- The steps of the spawned tasks. -/
def task (opts : ExecutorOptions) (dispatch : Nat → DispatchResult) (pool : Pool Cmd) :
    Action Cmd → Option (Pool Cmd)
  | .complete index => pool.complete opts (dispatch index) index
  | .finish index => pool.finish index
  | _ => none

variable {opts : ExecutorOptions} {dispatch : Nat → DispatchResult} {pool next : Pool Cmd}

theorem complete_eq_some {result : DispatchResult} {index : Nat}
    (hnext : pool.complete opts result index = some next) :
    ∃ line, pool.books.flights[index]? = some ⟨line, .running⟩ ∧ next =
      { pool with
        books := pool.books.complete opts result index line
        failCancel := pool.failCancel ||
          (pool.books.complete opts result index line).trips opts (lineCode line result) } := by
  unfold complete at hnext
  split at hnext
  next line hflight => exact ⟨line, hflight, (Option.some.inj hnext).symm⟩
  next => cases hnext

theorem finish_eq_some {index : Nat} (hnext : pool.finish index = some next) :
    ∃ line code, pool.books.flights[index]? = some ⟨line, .recorded code⟩ ∧ next =
      { pool with
        books := pool.books.finish code index line
        permits := pool.permits + 1 } := by
  unfold finish at hnext
  split at hnext
  next line code hflight => exact ⟨line, code, hflight, (Option.some.inj hnext).symm⟩
  next => cases hnext

theorem join_eq_some {index : Nat} (hnext : pool.join index = some next) :
    ∃ line result, pool.books.flights[index]? = some ⟨line, .finished result⟩ ∧
      next = { pool with books := pool.books.join result index line } := by
  unfold join at hnext
  split at hnext
  next line result hflight => exact ⟨line, result, hflight, (Option.some.inj hnext).symm⟩
  next => cases hnext

/-! ## The invariant of the pool -/

structure Inv (opts : ExecutorOptions) (dispatch : Nat → DispatchResult) (dropped : Nat)
    (pool : Pool Cmd) : Prop where
  coded : pool.books.Coded opts dispatch
  tallied : ∃ order, order.Perm pool.books.joinedCodes ∧
    Books.Tallied order dropped pool.books
  /-- every permit is free or owned by an unfinished task -/
  permits : pool.permits + pool.books.unfinished = opts.workers
  /-- the cancel flag is set exactly when the recorded failures reach the threshold -/
  failCancel : pool.failCancel = true ↔ pool.books.Tripped opts

theorem inv_initial : Inv opts dispatch 0 ({ permits := opts.workers } : Pool Cmd) where
  coded := Books.coded_empty
  tallied := ⟨[], List.Perm.refl _, Books.tallied_empty⟩
  permits := rfl
  failCancel := by simp [Books.Tripped]

variable {dropped : Nat}

theorem Inv.spawn (hinv : Inv opts dispatch dropped pool) (hpermits : 0 < pool.permits)
    (line : PreparedLine Cmd) : Inv opts dispatch dropped (pool.spawn line) where
  coded := hinv.coded.launch line
  tallied := by
    obtain ⟨order, hperm, htallied⟩ := hinv.tallied
    refine ⟨order, ?_, htallied⟩
    have hcodes : (pool.books.launch line).joinedCodes = pool.books.joinedCodes := by
      simp [Books.joinedCodes, Phase.joined?]
    exact hcodes ▸ hperm
  permits := by
    have hopen : (pool.books.launch line).unfinished = pool.books.unfinished + 1 := by
      simp [Books.unfinished, Flight.isOpen, Phase.ended?]
    have htotal := hinv.permits
    simp only [Pool.spawn, hopen]
    omega
  failCancel := hinv.failCancel

/-- The phase of a line changes without the line being joined. -/
theorem joinedCodes_set {books after : Books Cmd} {index : Nat} {line : PreparedLine Cmd}
    {phase phase' : Phase} (hold : books.flights[index]? = some ⟨line, phase⟩)
    (hflights : after.flights = books.flights.set index ⟨line, phase'⟩)
    (hjoined : phase'.joined? = phase.joined?) : after.joinedCodes = books.joinedCodes := by
  rw [Books.joinedCodes, Books.joinedCodes, hflights]
  exact filterMap_set_of_eq hold ⟨line, phase'⟩ hjoined

theorem Inv.complete (hinv : Inv opts dispatch dropped pool) {index : Nat}
    (hnext : pool.complete opts (dispatch index) index = some next) :
    Inv opts dispatch dropped next := by
  obtain ⟨line, hflight, rfl⟩ := complete_eq_some hnext
  have hflights := Books.flights_complete opts pool.books (dispatch index) index line
  constructor
  · exact hinv.coded.returned hflight rfl hflights (Books.failCount_complete _ _ _ _ _)
  · obtain ⟨order, hperm, htallied⟩ := hinv.tallied
    refine ⟨order, ?_, Books.tallied_complete htallied _ _ _⟩
    rw [joinedCodes_set hflight hflights rfl]
    exact hperm
  · have hopen : (pool.books.complete opts (dispatch index) index line).unfinished =
        pool.books.unfinished := by
      rw [Books.unfinished, Books.unfinished, hflights]
      exact countP_set_of_eq hflight _ rfl
    rw [hopen]
    exact hinv.permits
  · rw [Books.tripped_iff (Books.failCount_complete opts pool.books (dispatch index) index line),
      Bool.or_eq_true, hinv.failCancel]

theorem Inv.finish (hinv : Inv opts dispatch dropped pool) {index : Nat}
    (hnext : pool.finish index = some next) : Inv opts dispatch dropped next := by
  obtain ⟨line, code, hflight, rfl⟩ := finish_eq_some hnext
  have hflights := Books.flights_finish pool.books code index line
  constructor
  · exact hinv.coded.advanced hflight hflights rfl rfl
  · obtain ⟨order, hperm, htallied⟩ := hinv.tallied
    refine ⟨order, ?_, htallied⟩
    rw [joinedCodes_set hflight hflights rfl]
    exact hperm
  · -- the task leaves the worker in the step in which it gives its permit back
    have hopen := countP_set_add hflight ⟨line, .finished (.ok (line.lineNo, code))⟩
      Flight.isOpen
    simp only [Flight.isOpen, Phase.ended?, Option.isNone_none, Option.isNone_some, if_true,
      Bool.false_eq_true, if_false] at hopen
    have htotal := hinv.permits
    simp only [Books.unfinished, hflights] at htotal ⊢
    omega
  · exact hinv.failCancel

theorem Inv.join (hinv : Inv opts dispatch dropped pool) {index : Nat}
    (hnext : pool.join index = some next) : Inv opts dispatch dropped next := by
  obtain ⟨line, result, hflight, rfl⟩ := join_eq_some hnext
  have hflights := Books.flights_join pool.books result index line
  constructor
  · exact hinv.coded.advanced hflight hflights rfl (Books.failCount_join _ _ _ _)
  · obtain ⟨order, hperm, htallied⟩ := hinv.tallied
    refine ⟨order ++ [joinedCode result], ?_,
      htallied.recorded (Books.summary_join _ _ _) (Books.worst_join _ _ _)⟩
    have hadded : (pool.books.join result index line).joinedCodes.Perm
        (pool.books.joinedCodes ++ [joinedCode result]) := by
      rw [Books.joinedCodes, Books.joinedCodes, hflights]
      exact filterMap_set_perm hflight _ rfl rfl
    exact (hperm.append_right _).trans hadded.symm
  · have hopen : (pool.books.join result index line).unfinished = pool.books.unfinished := by
      rw [Books.unfinished, Books.unfinished, hflights]
      exact countP_set_of_eq hflight _ rfl
    rw [hopen]
    exact hinv.permits
  · simpa only [Books.Tripped, Books.failCount_join] using hinv.failCancel

theorem Inv.skip (hinv : Inv opts dispatch dropped pool) (count : Nat) :
    Inv opts dispatch (dropped + count) (pool.skip count) where
  coded := ⟨hinv.coded.code_eq, hinv.coded.failCount_eq⟩
  tallied := by
    obtain ⟨order, hperm, htallied⟩ := hinv.tallied
    exact ⟨order, hperm, htallied.skip count⟩
  permits := hinv.permits
  failCancel := hinv.failCancel

theorem Inv.task (hinv : Inv opts dispatch dropped pool) {action : Action Cmd}
    (hnext : pool.task opts dispatch action = some next) : Inv opts dispatch dropped next := by
  cases action with
  | complete index => exact hinv.complete hnext
  | finish index => exact hinv.finish hnext
  | _ => cases hnext

/-- When every task is joined the pool accounts for all its lines. -/
theorem Inv.account (hinv : Inv opts dispatch dropped pool)
    (hall : pool.books.allJoined = true) :
    ∃ order, order.Perm (lineCodes dispatch pool.books.inFlight) ∧
      Books.Tallied order dropped pool.books := by
  obtain ⟨order, hperm, htallied⟩ := hinv.tallied
  rw [hinv.coded.joinedCodes_eq hall] at hperm
  exact ⟨order, hperm, htallied⟩

/-- When every task is joined and the cancel flag is set, the codes of the lines
reach the threshold. -/
theorem Inv.failCancel_account (hinv : Inv opts dispatch dropped pool)
    (hall : pool.books.allJoined = true) (hcancel : pool.failCancel = true) :
    opts.Tripped (lineCodes dispatch pool.books.inFlight) := by
  have htripped := hinv.failCancel.mp hcancel
  rwa [Books.Tripped, hinv.coded.failCount_eq_stopWorthyOf hall] at htripped

/-! ## Task steps and the lines in flight -/

theorem inFlight_task {action : Action Cmd} (hnext : pool.task opts dispatch action = some next) :
    next.books.inFlight = pool.books.inFlight := by
  cases action with
  | complete index =>
      obtain ⟨line, hflight, rfl⟩ := complete_eq_some hnext
      exact Books.inFlight_set hflight (Books.flights_complete _ _ _ _ _)
  | finish index =>
      obtain ⟨line, code, hflight, rfl⟩ := finish_eq_some hnext
      exact Books.inFlight_set hflight (Books.flights_finish _ _ _ _)
  | _ => cases hnext

theorem inFlight_join {index : Nat} (hnext : pool.join index = some next) :
    next.books.inFlight = pool.books.inFlight := by
  obtain ⟨line, result, hflight, rfl⟩ := join_eq_some hnext
  exact Books.inFlight_set hflight (Books.flights_join _ _ _ _)

theorem length_eq_of_inFlight_eq {books after : Books Cmd}
    (hsame : after.inFlight = books.inFlight) : after.flights.length = books.flights.length := by
  simpa only [Books.inFlight, List.length_map] using congrArg List.length hsame

/-- No task runs on once every task has been joined. -/
theorem allJoined_task {action : Action Cmd} (hall : pool.books.allJoined = true)
    (hnext : pool.task opts dispatch action = some next) : next.books.allJoined = true := by
  have hjoined : ∀ {index : Nat} {line : PreparedLine Cmd} {phase : Phase},
      pool.books.flights[index]? = some ⟨line, phase⟩ → phase.joined?.isSome = true :=
    fun hflight => List.all_eq_true.mp hall _ (List.mem_of_getElem? hflight)
  cases action with
  | complete index =>
      obtain ⟨line, hflight, rfl⟩ := complete_eq_some hnext
      cases hjoined hflight
  | finish index =>
      obtain ⟨line, code, hflight, rfl⟩ := finish_eq_some hnext
      cases hjoined hflight
  | _ => cases hnext

theorem failCancel_task {action : Action Cmd} (hcancel : pool.failCancel = true)
    (hnext : pool.task opts dispatch action = some next) : next.failCancel = true := by
  cases action with
  | complete index =>
      obtain ⟨line, hflight, rfl⟩ := complete_eq_some hnext
      simp only [hcancel, Bool.true_or]
  | finish index =>
      obtain ⟨line, code, hflight, rfl⟩ := finish_eq_some hnext
      exact hcancel
  | _ => cases hnext

theorem failCancel_join {index : Nat} (hnext : pool.join index = some next) :
    next.failCancel = pool.failCancel := by
  obtain ⟨line, result, hflight, rfl⟩ := join_eq_some hnext
  rfl

/-- Task steps are steps of the ledger: a line lands when its task returns. -/
theorem ledger_task {bound : Nat} {given : List (PreparedLine Cmd)} {interrupt : Bool}
    {action : Action Cmd} (hnext : pool.task opts dispatch action = some next) :
    Ledger.Step bound (pool.books.ledger given interrupt) (next.books.ledger given interrupt) := by
  cases action with
  | complete index =>
      obtain ⟨line, hflight, rfl⟩ := complete_eq_some hnext
      exact Books.ledger_idle hflight (Books.flights_complete _ _ _ _ _) rfl
  | finish index =>
      obtain ⟨line, code, hflight, rfl⟩ := finish_eq_some hnext
      exact Books.ledger_land hflight (Books.flights_finish _ _ _ _) rfl rfl
  | _ => cases hnext

theorem ledger_join {bound : Nat} {given : List (PreparedLine Cmd)} {interrupt : Bool}
    {index : Nat} (hnext : pool.join index = some next) :
    Ledger.Step bound (pool.books.ledger given interrupt) (next.books.ledger given interrupt) := by
  obtain ⟨line, result, hflight, rfl⟩ := join_eq_some hnext
  exact Books.ledger_idle hflight (Books.flights_join _ _ _ _) rfl

/-! ## Runs of the tasks alone -/

/-- The tasks of a pool, without the executor task. -/
def tasks (opts : ExecutorOptions) (dispatch : Nat → DispatchResult) :
    System (Pool Cmd) (Action Cmd) where
  initial := { permits := opts.workers }
  step := task opts dispatch

theorem finish_of_recorded (opts : ExecutorOptions) (dispatch : Nat → DispatchResult)
    {index : Nat} {line : PreparedLine Cmd} {code : ExitCode}
    (hflight : pool.books.flights[index]? = some ⟨line, .recorded code⟩) :
    ∃ next, pool.task opts dispatch (.finish index) = some next ∧ next.permits ≠ 0 ∧
      next.books.inFlight = pool.books.inFlight := by
  refine ⟨{ pool with
      books := pool.books.finish code index line
      permits := pool.permits + 1 }, ?_, Nat.succ_ne_zero _, ?_⟩
  · simp only [task, finish, hflight]
  · exact Books.inFlight_set hflight (Books.flights_finish _ _ _ _)

theorem complete_of_running (opts : ExecutorOptions) (dispatch : Nat → DispatchResult)
    {index : Nat} {line : PreparedLine Cmd}
    (hflight : pool.books.flights[index]? = some ⟨line, .running⟩) :
    ∃ next code, pool.task opts dispatch (.complete index) = some next ∧
      next.books.flights[index]? = some ⟨line, .recorded code⟩ ∧
      next.books.inFlight = pool.books.inFlight := by
  refine ⟨{ pool with
      books := pool.books.complete opts (dispatch index) index line
      failCancel := pool.failCancel ||
        (pool.books.complete opts (dispatch index) index line).trips opts
          (lineCode line (dispatch index)) }, lineCode line (dispatch index), ?_, ?_, ?_⟩
  · simp only [task, complete, hflight]
  · have hlt := (List.getElem?_eq_some_iff.mp hflight).1
    rw [Books.flights_complete, List.getElem?_set_self hlt]
  · exact Books.inFlight_set hflight (Books.flights_complete _ _ _ _ _)

/-- When every permit is taken, some task can run to its end and free one. -/
theorem Inv.exists_release_of_full (hinv : Inv opts dispatch dropped pool)
    (hworkers : 1 ≤ opts.workers) (hpermits : pool.permits = 0) :
    ∃ actions released, (tasks opts dispatch).run pool actions = some released ∧
      released.permits ≠ 0 ∧ released.books.inFlight = pool.books.inFlight := by
  have hopen : 0 < pool.books.flights.countP Flight.isOpen := by
    have htotal := hinv.permits
    rw [hpermits, Nat.zero_add, Books.unfinished] at htotal
    omega
  obtain ⟨⟨line, phase⟩, hmem, hphase⟩ := List.countP_pos_iff.mp hopen
  obtain ⟨index, hflight⟩ := List.getElem?_of_mem hmem
  cases phase with
  | running =>
      obtain ⟨recorded, code, hcomplete, hrecorded, hsame⟩ :=
        complete_of_running opts dispatch hflight
      obtain ⟨released, hfinish, hfree, hkept⟩ :=
        finish_of_recorded opts dispatch hrecorded
      have hfirst : (tasks opts dispatch).run pool [.complete index] = some recorded :=
        System.run_single _ hcomplete
      have hsecond : (tasks opts dispatch).run recorded [.finish index] = some released :=
        System.run_single _ hfinish
      exact ⟨[.complete index] ++ [.finish index], released, System.run_append _ hfirst hsecond,
        hfree, hkept.trans hsame⟩
  | recorded code =>
      obtain ⟨released, hfinish, hfree, hkept⟩ :=
        finish_of_recorded opts dispatch hflight
      have hrun : (tasks opts dispatch).run pool [.finish index] = some released :=
        System.run_single _ hfinish
      exact ⟨[.finish index], released, hrun, hfree, hkept⟩
  | finished result => cases hphase
  | joined code => cases hphase

/-- The tasks can always come to a point where a permit is free. -/
theorem Inv.exists_release (hinv : Inv opts dispatch dropped pool) (hworkers : 1 ≤ opts.workers) :
    ∃ actions released, (tasks opts dispatch).run pool actions = some released ∧
      released.permits ≠ 0 ∧ released.books.inFlight = pool.books.inFlight := by
  by_cases hpermits : pool.permits = 0
  · exact hinv.exists_release_of_full hworkers hpermits
  · exact ⟨[], pool, rfl, hpermits, rfl⟩

/-- What the tasks do alone, they do in an executor that lets them run. -/
theorem run_tasks {State : Type} (system : System State (Action Cmd)) (embed : Pool Cmd → State)
    (hcomplete : ∀ pool index, system.step (embed pool) (.complete index) =
      (pool.complete opts (dispatch index) index).map embed)
    (hfinish : ∀ pool index, system.step (embed pool) (.finish index) =
      (pool.finish index).map embed)
    {actions : List (Action Cmd)} (hrun : (tasks opts dispatch).run pool actions = some next) :
    system.run (embed pool) actions = some (embed next) := by
  have hembed := system.run_embed embed id ?_ hrun
  · rwa [List.map_id] at hembed
  · intro pool action next hstep
    cases action with
    | complete index => exact (hcomplete pool index).trans (congrArg (Option.map embed) hstep)
    | finish index => exact (hfinish pool index).trans (congrArg (Option.map embed) hstep)
    | _ => cases hstep

end Pool

end S7cmd.BatchRun
