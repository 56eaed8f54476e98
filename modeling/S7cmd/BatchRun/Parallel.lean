import S7cmd.BatchRun.Pool

/-!
# The parallel executor over a script

The spawn loop of `run_parallel` reads both flags at its head, waits for a
permit, and reads only the interrupt flag again before it spawns. Lines leave
the iterator at the loop head, so a break drops the line in hand; the lines
never spawned are counted at the end.
-/

namespace S7cmd.BatchRun

open Foundation

variable {Cmd : Type}

namespace Parallel

inductive Pc (Cmd : Type) where
  /-- at the head of `for line in lines` -/
  | top
  /-- parked on the semaphore with a line in hand -/
  | acquire (line : PreparedLine Cmd)
  /-- in the join loop -/
  | join
  | done
  deriving DecidableEq, Repr

structure State (Cmd : Type) where
  pool : Pool Cmd
  /-- what the iterator has left -/
  lines : List (PreparedLine Cmd)
  spawned : Nat := 0
  pc : Pc Cmd := .top
  interrupt : Bool := false
  deriving DecidableEq, Repr

/-- From the loop head to the semaphore, or out of the loop. -/
def loopHead (state : State Cmd) : State Cmd :=
  match state.lines with
  | [] => { state with pc := .join }
  | line :: rest =>
      -- a break drops the line, which is counted by `total - spawned` after the join loop
      if state.interrupt then { state with lines := rest, pc := .join }
      else if state.pool.failCancel then { state with lines := rest, pc := .join }
      else { state with lines := rest, pc := .acquire line }

/-- From the semaphore back to the loop head, or out of the loop. The permit of
a break is dropped at once. -/
def acquired (line : PreparedLine Cmd) (state : State Cmd) : State Cmd :=
  -- the cancel flag is not read again here
  if state.interrupt then { state with pc := .join }
  else
    { state with
      pool := state.pool.spawn line
      spawned := state.spawned + 1
      pc := .top }

/-- One step of the executor task. It waits while no permit is free, and while
tasks are left to join. -/
def exec (total : Nat) (state : State Cmd) : Option (State Cmd) :=
  match state.pc with
  | .top => some (loopHead state)
  | .acquire line => if state.pool.permits = 0 then none else some (acquired line state)
  | .join =>
      if state.pool.books.allJoined then
        some { state with pool := state.pool.skip (total - state.spawned), pc := .done }
      else none
  | .done => none

def step (opts : ExecutorOptions) (total : Nat) (dispatch : Nat → DispatchResult)
    (state : State Cmd) (action : Action Cmd) : Option (State Cmd) :=
  match action with
  | .exec => exec total state
  | .join index =>
      match state.pc with
      | .join => (state.pool.join index).map fun pool => { state with pool := pool }
      | _ => none
  | .sigint => some { state with interrupt := true }
  | action => (state.pool.task opts dispatch action).map fun pool => { state with pool := pool }

end Parallel

/-- `run_parallel` -/
def runParallel (opts : ExecutorOptions) (script : List (PreparedLine Cmd)) : Machine Cmd where
  State := Parallel.State Cmd
  initial := { pool := { permits := opts.workers }, lines := script }
  step := Parallel.step opts script.length
  books := fun state => state.pool.books
  given := fun _ => script
  interrupt := Parallel.State.interrupt
  poised := fun state => match state.pc with
    | .acquire _ => state.pool.permits ≠ 0
    | _ => false
  returned := fun state => match state.pc with
    | .done => true
    | _ => false

namespace Parallel

variable {opts : ExecutorOptions} {script : List (PreparedLine Cmd)}
  {dispatch : Nat → DispatchResult} {state next : State Cmd}

/-- What a step can do. -/
inductive Moves (opts : ExecutorOptions) (total : Nat) (dispatch : Nat → DispatchResult)
    (state : State Cmd) : Action Cmd → State Cmd → Prop
  | sigint : Moves opts total dispatch state .sigint { state with interrupt := true }
  | exhausted (hpc : state.pc = .top) (hlines : state.lines = []) :
      Moves opts total dispatch state .exec { state with pc := .join }
  | stopped (line : PreparedLine Cmd) (rest : List (PreparedLine Cmd)) (hpc : state.pc = .top)
      (hlines : state.lines = line :: rest)
      (hflag : state.interrupt = true ∨ state.pool.failCancel = true) :
      Moves opts total dispatch state .exec { state with lines := rest, pc := .join }
  | parked (line : PreparedLine Cmd) (rest : List (PreparedLine Cmd)) (hpc : state.pc = .top)
      (hlines : state.lines = line :: rest) (hinterrupt : state.interrupt = false)
      (hcancel : state.pool.failCancel = false) :
      Moves opts total dispatch state .exec { state with lines := rest, pc := .acquire line }
  | interrupted (line : PreparedLine Cmd) (hpc : state.pc = .acquire line)
      (hinterrupt : state.interrupt = true) :
      Moves opts total dispatch state .exec { state with pc := .join }
  | spawned (line : PreparedLine Cmd) (hpc : state.pc = .acquire line)
      (hpermits : state.pool.permits ≠ 0) (hinterrupt : state.interrupt = false) :
      Moves opts total dispatch state .exec
        { state with
          pool := state.pool.spawn line
          spawned := state.spawned + 1
          pc := .top }
  | returned (hpc : state.pc = .join) (hall : state.pool.books.allJoined = true) :
      Moves opts total dispatch state .exec
        { state with pool := state.pool.skip (total - state.spawned), pc := .done }
  | joined (index : Nat) (pool : Pool Cmd) (hpc : state.pc = .join)
      (hpool : state.pool.join index = some pool) :
      Moves opts total dispatch state (.join index) { state with pool := pool }
  | task (action : Action Cmd) (pool : Pool Cmd)
      (hpool : state.pool.task opts dispatch action = some pool) :
      Moves opts total dispatch state action { state with pool := pool }

theorem step_moves {total : Nat} {action : Action Cmd}
    (hstep : step opts total dispatch state action = some next) :
    Moves opts total dispatch state action next := by
  cases action with
  | exec =>
      simp only [step, exec] at hstep
      split at hstep
      next hpc =>
        cases hstep
        unfold loopHead
        split
        next hlines => exact .exhausted hpc hlines
        next line rest hlines =>
          split
          next hinterrupt => exact .stopped line rest hpc hlines (Or.inl hinterrupt)
          next hinterrupt =>
            split
            next hcancel => exact .stopped line rest hpc hlines (Or.inr hcancel)
            next hcancel =>
              exact .parked line rest hpc hlines (by simpa using hinterrupt)
                (by simpa using hcancel)
      next line hpc =>
        split at hstep
        next => cases hstep
        next hpermits =>
          cases hstep
          unfold acquired
          split
          next hinterrupt => exact .interrupted line hpc hinterrupt
          next hinterrupt => exact .spawned line hpc hpermits (by simpa using hinterrupt)
      next hpc =>
        split at hstep
        next hall =>
          cases hstep
          exact .returned hpc hall
        next => cases hstep
      next => cases hstep
  | join index =>
      simp only [step] at hstep
      split at hstep
      next hpc =>
        obtain ⟨pool, hpool, rfl⟩ := Option.map_eq_some_iff.mp hstep
        exact .joined index pool hpc hpool
      next => cases hstep
  | sigint =>
      cases hstep
      exact .sigint
  | complete index =>
      obtain ⟨pool, hpool, rfl⟩ := Option.map_eq_some_iff.mp hstep
      exact .task _ pool hpool
  | finish index =>
      obtain ⟨pool, hpool, rfl⟩ := Option.map_eq_some_iff.mp hstep
      exact .task _ pool hpool
  | send line => simp [step, Pool.task] at hstep
  | close => simp [step, Pool.task] at hstep

/-- The line the spawn loop holds while it waits. -/
def hand : Pc Cmd → List (PreparedLine Cmd)
  | .acquire line => [line]
  | _ => []

/-- The lines counted as skipped without having been spawned. -/
def dropped (total : Nat) (state : State Cmd) : Nat :=
  match state.pc with
  | .done => total - state.spawned
  | _ => 0

/-- The spawn loop is still running. -/
def spawning : Pc Cmd → Bool
  | .top => true
  | .acquire _ => true
  | _ => false

/-- The invariant of the spawn loop and the join loop. -/
structure Inv (opts : ExecutorOptions) (script : List (PreparedLine Cmd))
    (dispatch : Nat → DispatchResult) (state : State Cmd) : Prop where
  pool : state.pool.Inv opts dispatch (dropped script.length state)
  given : state.pool.books.inFlight <+: script
  rest : spawning state.pc = true →
    state.pool.books.inFlight ++ hand state.pc ++ state.lines = script
  spawned : state.spawned = state.pool.books.flights.length
  /-- why the spawn loop was left -/
  cause : spawning state.pc = false → state.pool.books.inFlight = script ∨
    state.interrupt = true ∨ state.pool.failCancel = true
  joined : state.pc = .done → state.pool.books.allJoined = true

theorem Inv.at_spawning (hpc : spawning state.pc = true) (hpool : state.pool.Inv opts dispatch 0)
    (hrest : state.pool.books.inFlight ++ hand state.pc ++ state.lines = script)
    (hspawned : state.spawned = state.pool.books.flights.length) :
    Inv opts script dispatch state where
  pool := by cases hstate : state.pc <;> simp_all [spawning, dropped]
  given := ⟨hand state.pc ++ state.lines, by rw [← List.append_assoc, hrest]⟩
  rest := fun _ => hrest
  spawned := hspawned
  cause := by simp [hpc]
  joined := fun hdone => by simp [hdone, spawning] at hpc

theorem Inv.at_join (hpc : state.pc = .join) (hpool : state.pool.Inv opts dispatch 0)
    (hgiven : state.pool.books.inFlight <+: script)
    (hspawned : state.spawned = state.pool.books.flights.length)
    (hcause : state.pool.books.inFlight = script ∨ state.interrupt = true ∨
      state.pool.failCancel = true) : Inv opts script dispatch state where
  pool := by simpa only [dropped, hpc] using hpool
  given := hgiven
  rest := by simp [hpc, spawning]
  spawned := hspawned
  cause := fun _ => hcause
  joined := by simp [hpc]

theorem Inv.at_done (hpc : state.pc = .done)
    (hpool : state.pool.Inv opts dispatch (script.length - state.spawned))
    (hgiven : state.pool.books.inFlight <+: script)
    (hspawned : state.spawned = state.pool.books.flights.length)
    (hcause : state.pool.books.inFlight = script ∨ state.interrupt = true ∨
      state.pool.failCancel = true) (hall : state.pool.books.allJoined = true) :
    Inv opts script dispatch state where
  pool := by simpa only [dropped, hpc] using hpool
  given := hgiven
  rest := by simp [hpc, spawning]
  spawned := hspawned
  cause := fun _ => hcause
  joined := fun _ => hall

theorem inv_initial :
    Inv opts script dispatch { pool := { permits := opts.workers }, lines := script } :=
  Inv.at_spawning rfl Pool.inv_initial rfl rfl

theorem inv_step {action : Action Cmd} (hinv : Inv opts script dispatch state)
    (hstep : step opts script.length dispatch state action = some next) :
    Inv opts script dispatch next := by
  have hpool := hinv.pool
  cases step_moves hstep with
  | sigint =>
      refine ⟨hpool, hinv.given, hinv.rest, hinv.spawned, fun hpc => ?_, hinv.joined⟩
      exact Or.inr (Or.inl rfl)
  | exhausted hpc hlines =>
      have hall := hinv.rest (by rw [hpc]; rfl)
      simp only [hpc, hand, hlines, List.append_nil] at hall
      simp only [dropped, hpc] at hpool
      exact Inv.at_join rfl hpool hinv.given hinv.spawned (Or.inl hall)
  | stopped line rest hpc hlines hflag =>
      simp only [dropped, hpc] at hpool
      exact Inv.at_join rfl hpool hinv.given hinv.spawned (Or.inr hflag)
  | parked line rest hpc hlines hinterrupt hcancel =>
      have hall := hinv.rest (by rw [hpc]; rfl)
      simp only [hpc, hand, hlines, List.append_nil] at hall
      simp only [dropped, hpc] at hpool
      refine Inv.at_spawning rfl hpool ?_ hinv.spawned
      rw [hand, List.append_assoc, List.singleton_append]
      exact hall
  | interrupted line hpc hinterrupt =>
      simp only [dropped, hpc] at hpool
      exact Inv.at_join rfl hpool hinv.given hinv.spawned (Or.inr (Or.inl hinterrupt))
  | spawned line hpc hpermits hinterrupt =>
      have hall := hinv.rest (by rw [hpc]; rfl)
      simp only [hpc, hand] at hall
      simp only [dropped, hpc] at hpool
      refine Inv.at_spawning rfl (hpool.spawn (Nat.pos_of_ne_zero hpermits) line) ?_ ?_
      · simpa only [Pool.spawn, Books.inFlight_launch, hand, List.append_nil] using hall
      · simp [Pool.spawn, hinv.spawned]
  | returned hpc hall =>
      have hcause := hinv.cause (by rw [hpc]; rfl)
      simp only [dropped, hpc] at hpool
      have hskip := hpool.skip (script.length - state.spawned)
      rw [Nat.zero_add] at hskip
      exact Inv.at_done rfl hskip hinv.given hinv.spawned hcause hall
  | joined index pool hpc hjoin =>
      have hsame := Pool.inFlight_join hjoin
      have hlength := Pool.length_eq_of_inFlight_eq hsame
      have hcancel := Pool.failCancel_join hjoin
      simp only [dropped, hpc] at hpool
      refine ⟨?_, hsame ▸ hinv.given, ?_, ?_, ?_, ?_⟩
      · simpa only [dropped, hpc] using hpool.join hjoin
      · simp [hpc, spawning]
      · exact hinv.spawned.trans hlength.symm
      · simpa only [hsame, hcancel] using hinv.cause
      · simp [hpc]
  | task action pool htask =>
      have hsame := Pool.inFlight_task htask
      have hlength := Pool.length_eq_of_inFlight_eq hsame
      refine ⟨hpool.task htask, hsame ▸ hinv.given, ?_, ?_, fun hpc => ?_, fun hpc => ?_⟩
      · simpa only [hsame] using hinv.rest
      · exact hinv.spawned.trans hlength.symm
      · rcases hinv.cause hpc with hall | hinterrupt | hcancel
        · exact Or.inl (hsame.trans hall)
        · exact Or.inr (Or.inl hinterrupt)
        · exact Or.inr (Or.inr (Pool.failCancel_task hcancel htask))
      · exact Pool.allJoined_task (hinv.joined hpc) htask

theorem inv_reachable
    (hreach : ((runParallel opts script).system dispatch).Reachable state) :
    Inv opts script dispatch state :=
  hreach.invariant (Inv opts script dispatch) inv_initial
    fun _ _ _ hinv hstep => inv_step hinv hstep

end Parallel

/-- Where `run_parallel` puts lines in flight. -/
theorem runParallel_lawful (opts : ExecutorOptions) (script : List (PreparedLine Cmd)) :
    (runParallel opts script).Lawful where
  inFlight_step := by
    intro dispatch state action next hstep
    cases Parallel.step_moves hstep with
    | spawned line hpc hpermits hinterrupt =>
        refine Or.inr ⟨rfl, ?_, hinterrupt, line, Books.inFlight_launch _ _⟩
        simpa [runParallel, hpc] using hpermits
    | joined index pool hpc hjoin => exact Or.inl (Pool.inFlight_join hjoin)
    | task action pool htask => exact Or.inl (Pool.inFlight_task htask)
    | _ => exact Or.inl rfl
  launch := by
    intro dispatch state hpoised hinterrupt
    simp only [runParallel] at hpoised hinterrupt
    split at hpoised
    next line hpc =>
      have hpermits : state.pool.permits ≠ 0 := by simpa using hpoised
      refine ⟨Parallel.acquired line state, line, ?_, ?_⟩
      · simp only [runParallel, Parallel.step, Parallel.exec, hpc, if_neg hpermits]
      · simp [Machine.inFlight, runParallel, Parallel.acquired, hinterrupt, Pool.spawn]
    next => cases hpoised
  interrupt_step := by
    intro dispatch state action next hstep
    cases Parallel.step_moves hstep with
    | task action pool htask => cases action <;> simp_all [runParallel, Pool.task]
    | _ => simp [runParallel]

/-- `run_parallel` is an in-order dispatcher and accounts for its lines. -/
theorem runParallel_sound (opts : ExecutorOptions) (script : List (PreparedLine Cmd)) :
    (runParallel opts script).Sound opts where
  toLawful := runParallel_lawful opts script
  simulates := by
    intro dispatch
    constructor
    intro state action next hreach hstep
    have hinv := Parallel.inv_reachable hreach
    cases Parallel.step_moves hstep with
    | sigint => exact Ledger.Step.halt _
    | spawned line hpc hpermits hinterrupt =>
        have hall := hinv.rest (by rw [hpc]; rfl)
        have htotal := hinv.pool.permits
        simp only [hpc, Parallel.hand] at hall
        have hroom : state.pool.books.unfinished < opts.workers := by omega
        exact Books.ledger_launch hinterrupt ⟨state.lines, hall⟩ hroom
    | joined index pool hpc hjoin => exact Pool.ledger_join hjoin
    | task action pool htask => exact Pool.ledger_task htask
    | _ => exact Ledger.Step.idle _
  settled := by
    intro dispatch state hreach hreturned
    have hinv := Parallel.inv_reachable hreach
    have hpc : state.pc = .done := by
      simp only [runParallel] at hreturned
      split at hreturned
      next hpc => exact hpc
      next => cases hreturned
    have hall := hinv.joined hpc
    obtain ⟨order, hperm, htallied⟩ := hinv.pool.account hall
    refine ⟨Books.countP_isOpen_of_isJoined hall, ⟨order, hperm, ?_⟩, ?_⟩
    · simpa only [Machine.inFlight, runParallel, Books.inFlight, List.length_map,
        Parallel.dropped, hpc, hinv.spawned] using htallied
    · rcases hinv.cause (by rw [hpc]; rfl) with hgiven | hinterrupt | hcancel
      · exact Or.inl hgiven
      · exact Or.inr (Or.inl hinterrupt)
      · exact Or.inr (Or.inr (hinv.pool.failCancel_account hall hcancel))
  ledger_initial := ⟨List.nil_prefix, Nat.zero_le _⟩

end S7cmd.BatchRun
