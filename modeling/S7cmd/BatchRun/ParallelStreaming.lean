import S7cmd.BatchRun.Pool
import S7cmd.Foundation.Channel

/-!
# The parallel executor over a stream

The spawn loop of `run_parallel_streaming` waits twice in an iteration, for the
next line and for a permit. A line received but not spawned is counted as
skipped on the spot, and so is every line the drain receives; the drain goes on
until the reader has dropped its sender.
-/

namespace S7cmd.BatchRun

open Foundation

variable {Cmd : Type}

namespace ParallelStreaming

inductive Pc (Cmd : Type) where
  /-- at the head of the spawn loop -/
  | top
  /-- parked on the channel -/
  | recv
  /-- parked on the semaphore with a line in hand -/
  | acquire (line : PreparedLine Cmd)
  /-- draining the channel after the spawn loop -/
  | drain
  /-- in the join loop -/
  | join
  | done
  deriving DecidableEq, Repr

structure State (Cmd : Type) where
  pool : Pool Cmd
  channel : Channel (PreparedLine Cmd) := {}
  pc : Pc Cmd := .top
  interrupt : Bool := false
  deriving DecidableEq, Repr

/-- From the loop head to the channel, or out of the loop. -/
def loopHead (state : State Cmd) : State Cmd :=
  if state.interrupt then { state with pc := .drain }
  else if state.pool.failCancel then { state with pc := .drain }
  else { state with pc := .recv }

/-- From the channel to the semaphore, or out of the loop. -/
def received (state : State Cmd) :
    Received (PreparedLine Cmd) × Channel (PreparedLine Cmd) → State Cmd
  | (.message line, channel) => { state with channel := channel, pc := .acquire line }
  | (.closed, channel) => { state with channel := channel, pc := .drain }

/-- From the semaphore back to the loop head, or out of the loop. The permit of
a break is dropped at once. -/
def acquired (line : PreparedLine Cmd) (state : State Cmd) : State Cmd :=
  -- the cancel flag is not read again here
  if state.interrupt then { state with pool := state.pool.skip 1, pc := .drain }
  else { state with pool := state.pool.spawn line, pc := .top }

/-- One iteration of the drain. -/
def drained (state : State Cmd) :
    Received (PreparedLine Cmd) × Channel (PreparedLine Cmd) → State Cmd
  | (.message _, channel) => { state with channel := channel, pool := state.pool.skip 1 }
  | (.closed, channel) => { state with channel := channel, pc := .join }

/-- One step of the executor task. It waits while the channel is open and
empty, while no permit is free, and while tasks are left to join. -/
def exec (state : State Cmd) : Option (State Cmd) :=
  match state.pc with
  | .top => some (loopHead state)
  | .recv => state.channel.recv.map (received state)
  | .acquire line => if state.pool.permits = 0 then none else some (acquired line state)
  | .drain => state.channel.recv.map (drained state)
  | .join => if state.pool.books.allJoined then some { state with pc := .done } else none
  | .done => none

def step (opts : ExecutorOptions) (dispatch : Nat → DispatchResult)
    (state : State Cmd) (action : Action Cmd) : Option (State Cmd) :=
  match action with
  | .exec => exec state
  | .join index =>
      match state.pc with
      | .join => (state.pool.join index).map fun pool => { state with pool := pool }
      | _ => none
  | .sigint => some { state with interrupt := true }
  | .send line =>
      (state.channel.send line).map fun channel => { state with channel := channel }
  | .close => some { state with channel := state.channel.close }
  | action => (state.pool.task opts dispatch action).map fun pool => { state with pool := pool }

end ParallelStreaming

/-- `run_parallel_streaming` -/
def runParallelStreaming (Cmd : Type) (opts : ExecutorOptions) : Machine Cmd where
  State := ParallelStreaming.State Cmd
  initial := { pool := { permits := opts.workers } }
  step := ParallelStreaming.step opts
  books := fun state => state.pool.books
  given := fun state => state.channel.sent
  interrupt := ParallelStreaming.State.interrupt
  poised := fun state => match state.pc with
    | .acquire _ => state.pool.permits ≠ 0
    | _ => false
  returned := fun state => match state.pc with
    | .done => true
    | _ => false

namespace ParallelStreaming

variable {opts : ExecutorOptions} {dispatch : Nat → DispatchResult} {state next : State Cmd}

/-- What a step can do. -/
inductive Moves (opts : ExecutorOptions) (dispatch : Nat → DispatchResult)
    (state : State Cmd) : Action Cmd → State Cmd → Prop
  | sigint : Moves opts dispatch state .sigint { state with interrupt := true }
  | sent (line : PreparedLine Cmd) (channel : Channel (PreparedLine Cmd))
      (hsend : state.channel.send line = some channel) :
      Moves opts dispatch state (.send line) { state with channel := channel }
  | closed : Moves opts dispatch state .close { state with channel := state.channel.close }
  | stopped (hpc : state.pc = .top)
      (hflag : state.interrupt = true ∨ state.pool.failCancel = true) :
      Moves opts dispatch state .exec { state with pc := .drain }
  | waiting (hpc : state.pc = .top) (hinterrupt : state.interrupt = false)
      (hcancel : state.pool.failCancel = false) :
      Moves opts dispatch state .exec { state with pc := .recv }
  | parked (line : PreparedLine Cmd) (channel : Channel (PreparedLine Cmd))
      (hpc : state.pc = .recv) (hrecv : state.channel.recv = some (.message line, channel)) :
      Moves opts dispatch state .exec { state with channel := channel, pc := .acquire line }
  | exhausted (hpc : state.pc = .recv)
      (hrecv : state.channel.recv = some (.closed, state.channel)) :
      Moves opts dispatch state .exec { state with pc := .drain }
  | interrupted (line : PreparedLine Cmd) (hpc : state.pc = .acquire line)
      (hinterrupt : state.interrupt = true) :
      Moves opts dispatch state .exec { state with pool := state.pool.skip 1, pc := .drain }
  | spawned (line : PreparedLine Cmd) (hpc : state.pc = .acquire line)
      (hpermits : state.pool.permits ≠ 0) (hinterrupt : state.interrupt = false) :
      Moves opts dispatch state .exec
        { state with pool := state.pool.spawn line, pc := .top }
  | dropped (line : PreparedLine Cmd) (channel : Channel (PreparedLine Cmd))
      (hpc : state.pc = .drain) (hrecv : state.channel.recv = some (.message line, channel)) :
      Moves opts dispatch state .exec
        { state with channel := channel, pool := state.pool.skip 1 }
  | drained (hpc : state.pc = .drain)
      (hrecv : state.channel.recv = some (.closed, state.channel)) :
      Moves opts dispatch state .exec { state with pc := .join }
  | returned (hpc : state.pc = .join) (hall : state.pool.books.allJoined = true) :
      Moves opts dispatch state .exec { state with pc := .done }
  | joined (index : Nat) (pool : Pool Cmd) (hpc : state.pc = .join)
      (hpool : state.pool.join index = some pool) :
      Moves opts dispatch state (.join index) { state with pool := pool }
  | task (action : Action Cmd) (pool : Pool Cmd)
      (hpool : state.pool.task opts dispatch action = some pool) :
      Moves opts dispatch state action { state with pool := pool }

theorem exec_moves (hstep : exec state = some next) :
    Moves opts dispatch state .exec next := by
  unfold exec at hstep
  split at hstep
  next hpc =>
    cases hstep
    unfold loopHead
    split
    next hinterrupt => exact .stopped hpc (Or.inl hinterrupt)
    next hinterrupt =>
      split
      next hcancel => exact .stopped hpc (Or.inr hcancel)
      next hcancel => exact .waiting hpc (by simpa using hinterrupt) (by simpa using hcancel)
  next hpc =>
    obtain ⟨⟨item, channel⟩, hrecv, rfl⟩ := Option.map_eq_some_iff.mp hstep
    cases item with
    | message line => exact .parked line channel hpc hrecv
    | closed =>
        obtain ⟨-, -, rfl⟩ := Channel.recv_closed hrecv
        exact .exhausted hpc hrecv
  next line hpc =>
    split at hstep
    next => cases hstep
    next hpermits =>
      cases hstep
      unfold acquired
      split
      next hinterrupt => exact .interrupted line hpc hinterrupt
      next hinterrupt => exact .spawned line hpc hpermits (by simpa using hinterrupt)
  next hpc =>
    obtain ⟨⟨item, channel⟩, hrecv, rfl⟩ := Option.map_eq_some_iff.mp hstep
    cases item with
    | message line => exact .dropped line channel hpc hrecv
    | closed =>
        obtain ⟨-, -, rfl⟩ := Channel.recv_closed hrecv
        exact .drained hpc hrecv
  next hpc =>
    split at hstep
    next hall =>
      cases hstep
      exact .returned hpc hall
    next => cases hstep
  next => cases hstep

theorem step_moves {action : Action Cmd} (hstep : step opts dispatch state action = some next) :
    Moves opts dispatch state action next := by
  cases action with
  | exec => exact exec_moves hstep
  | join index =>
      simp only [step] at hstep
      split at hstep
      next hpc =>
        obtain ⟨pool, hpool, rfl⟩ := Option.map_eq_some_iff.mp hstep
        exact .joined index pool hpc hpool
      next => cases hstep
  | sigint =>
      cases hstep
      exact .sigint
  | send line =>
      obtain ⟨channel, hsend, rfl⟩ := Option.map_eq_some_iff.mp hstep
      exact .sent line channel hsend
  | close =>
      cases hstep
      exact .closed
  | complete index =>
      obtain ⟨pool, hpool, rfl⟩ := Option.map_eq_some_iff.mp hstep
      exact .task _ pool hpool
  | finish index =>
      obtain ⟨pool, hpool, rfl⟩ := Option.map_eq_some_iff.mp hstep
      exact .task _ pool hpool

/-- The line the spawn loop holds while it waits for a permit. -/
def hand : Pc Cmd → List (PreparedLine Cmd)
  | .acquire line => [line]
  | _ => []

/-- The spawn loop is still running. -/
def spawning : Pc Cmd → Bool
  | .top => true
  | .recv => true
  | .acquire _ => true
  | _ => false

/-- The drain has seen the end of the channel. -/
def pastDrain : Pc Cmd → Bool
  | .join => true
  | .done => true
  | _ => false

/-- The invariant of the three loops. -/
structure Inv (opts : ExecutorOptions) (dispatch : Nat → DispatchResult)
    (state : State Cmd) : Prop where
  /-- a received line is in flight, dropped, or in the loop's hand -/
  received : ∃ dropped, state.pool.Inv opts dispatch dropped.length ∧
    state.channel.received = state.pool.books.inFlight ++ dropped ++ hand state.pc ∧
    (spawning state.pc = true → dropped = [])
  /-- why the spawn loop was left -/
  cause : spawning state.pc = false →
    state.channel.closed = true ∧ state.channel.sent = state.pool.books.inFlight ∨
      state.interrupt = true ∨ state.pool.failCancel = true
  ended : pastDrain state.pc = true →
    state.channel.closed = true ∧ state.channel.queue = []
  joined : state.pc = .done → state.pool.books.allJoined = true

/-- Why the spawn loop was left. -/
def Left (state : State Cmd) : Prop :=
  state.channel.closed = true ∧ state.channel.sent = state.pool.books.inFlight ∨
    state.interrupt = true ∨ state.pool.failCancel = true

theorem Inv.at_spawning (hpc : spawning state.pc = true) (hpool : state.pool.Inv opts dispatch 0)
    (hreceived : state.channel.received = state.pool.books.inFlight ++ hand state.pc) :
    Inv opts dispatch state where
  received := ⟨[], hpool, by rw [List.append_nil, hreceived], fun _ => rfl⟩
  cause := by simp [hpc]
  ended := fun hpast => by cases hstate : state.pc <;> simp_all [spawning, pastDrain]
  joined := fun hdone => by simp [hdone, spawning] at hpc

theorem Inv.at_drain (hpc : state.pc = .drain) {dropped : List (PreparedLine Cmd)}
    (hpool : state.pool.Inv opts dispatch dropped.length)
    (hreceived : state.channel.received = state.pool.books.inFlight ++ dropped)
    (hcause : Left state) : Inv opts dispatch state where
  received := ⟨dropped, hpool, by simp only [hpc, hand, List.append_nil, hreceived],
    by simp [hpc, spawning]⟩
  cause := fun _ => hcause
  ended := by simp [hpc, pastDrain]
  joined := by simp [hpc]

theorem Inv.at_end (hpc : pastDrain state.pc = true) {dropped : List (PreparedLine Cmd)}
    (hpool : state.pool.Inv opts dispatch dropped.length)
    (hreceived : state.channel.received = state.pool.books.inFlight ++ dropped)
    (hcause : Left state) (hended : state.channel.closed = true ∧ state.channel.queue = [])
    (hjoined : state.pc = .done → state.pool.books.allJoined = true) : Inv opts dispatch state where
  received := by
    refine ⟨dropped, hpool, ?_, ?_⟩ <;>
      cases hstate : state.pc <;> simp_all [spawning, pastDrain, hand]
  cause := fun _ => hcause
  ended := fun _ => hended
  joined := hjoined

theorem inv_initial :
    Inv opts dispatch ({ pool := { permits := opts.workers } } : State Cmd) :=
  Inv.at_spawning rfl Pool.inv_initial rfl

theorem inv_step {action : Action Cmd} (hinv : Inv opts dispatch state)
    (hstep : step opts dispatch state action = some next) : Inv opts dispatch next := by
  obtain ⟨dropped, hpool, hreceived, hkept⟩ := hinv.received
  cases step_moves hstep with
  | sigint =>
      exact ⟨hinv.received, fun _ => Or.inr (Or.inl rfl), hinv.ended, hinv.joined⟩
  | sent line channel hsend =>
      obtain ⟨hopen, rfl⟩ := Channel.send_eq_some hsend
      refine ⟨⟨dropped, hpool, hreceived, hkept⟩, fun hpc => ?_, fun hpc => ?_, hinv.joined⟩
      · rcases hinv.cause hpc with ⟨hclosed, -⟩ | hflag
        · exact absurd (hopen.symm.trans hclosed) Bool.false_ne_true
        · exact Or.inr hflag
      · exact absurd (hopen.symm.trans (hinv.ended hpc).1) Bool.false_ne_true
  | closed =>
      refine ⟨⟨dropped, hpool, hreceived, hkept⟩, fun hpc => ?_, fun hpc => ?_, hinv.joined⟩
      · rcases hinv.cause hpc with ⟨-, hsent⟩ | hflag
        · exact Or.inl ⟨rfl, hsent⟩
        · exact Or.inr hflag
      · exact ⟨rfl, (hinv.ended hpc).2⟩
  | stopped hpc hflag =>
      simp only [hpc, hand, List.append_nil] at hreceived
      exact Inv.at_drain rfl hpool hreceived (Or.inr hflag)
  | waiting hpc hinterrupt hcancel =>
      rw [hpc] at hreceived hkept
      obtain rfl := hkept rfl
      rw [List.append_nil] at hreceived
      exact Inv.at_spawning rfl hpool hreceived
  | parked line channel hpc hrecv =>
      obtain ⟨rest, hqueue, rfl⟩ := Channel.recv_message hrecv
      rw [hpc] at hreceived hkept
      obtain rfl := hkept rfl
      refine Inv.at_spawning rfl hpool ?_
      simp only [hreceived, hand, List.append_nil]
  | exhausted hpc hrecv =>
      obtain ⟨hqueue, hclosed, -⟩ := Channel.recv_closed hrecv
      rw [hpc] at hreceived hkept
      obtain rfl := hkept rfl
      simp only [hand, List.append_nil] at hreceived
      refine @Inv.at_drain _ _ _ _ rfl [] hpool ?_ (Or.inl ⟨hclosed, ?_⟩)
      · rw [List.append_nil, hreceived]
      · simp only [Channel.sent, hqueue, hreceived, List.append_nil]
  | interrupted line hpc hinterrupt =>
      rw [hpc, hand, List.append_assoc] at hreceived
      refine Inv.at_drain rfl ?_ hreceived (Or.inr (Or.inl hinterrupt))
      rw [List.length_append, List.length_singleton]
      exact hpool.skip 1
  | spawned line hpc hpermits hinterrupt =>
      rw [hpc] at hreceived hkept
      obtain rfl := hkept rfl
      refine Inv.at_spawning rfl (hpool.spawn (Nat.pos_of_ne_zero hpermits) line) ?_
      simpa only [Pool.spawn, Books.inFlight_launch, hand, List.append_nil] using hreceived
  | dropped line channel hpc hrecv =>
      obtain ⟨rest, hqueue, rfl⟩ := Channel.recv_message hrecv
      have hcause := hinv.cause (by rw [hpc]; rfl)
      simp only [hpc, hand, List.append_nil] at hreceived
      refine ⟨⟨dropped ++ [line], ?_, ?_, ?_⟩, fun _ => ?_, ?_, ?_⟩
      · rw [List.length_append, List.length_singleton]
        exact hpool.skip 1
      · simp only [hpc, hand, List.append_nil, hreceived, List.append_assoc]
        rfl
      · simp [hpc, spawning]
      · rcases hcause with ⟨hclosed, hsent⟩ | hflag
        · exact Or.inl ⟨hclosed, (Channel.sent_recv hrecv).trans hsent⟩
        · exact Or.inr hflag
      · simp [hpc, pastDrain]
      · simp [hpc]
  | drained hpc hrecv =>
      obtain ⟨hqueue, hclosed, -⟩ := Channel.recv_closed hrecv
      have hcause := hinv.cause (by rw [hpc]; rfl)
      simp only [hpc, hand, List.append_nil] at hreceived
      exact Inv.at_end rfl hpool hreceived hcause ⟨hclosed, hqueue⟩ (by simp)
  | returned hpc hall =>
      have hcause := hinv.cause (by rw [hpc]; rfl)
      have hended := hinv.ended (by rw [hpc]; rfl)
      simp only [hpc, hand, List.append_nil] at hreceived
      exact Inv.at_end rfl hpool hreceived hcause hended fun _ => hall
  | joined index pool hpc hjoin =>
      have hsame := Pool.inFlight_join hjoin
      have hcancel := Pool.failCancel_join hjoin
      refine ⟨⟨dropped, hpool.join hjoin, hsame ▸ hreceived, hkept⟩, ?_, hinv.ended, ?_⟩
      · simpa only [hsame, hcancel] using hinv.cause
      · simp [hpc]
  | task action pool htask =>
      have hsame := Pool.inFlight_task htask
      refine ⟨⟨dropped, hpool.task htask, hsame ▸ hreceived, hkept⟩, fun hpc => ?_, hinv.ended,
        fun hpc => Pool.allJoined_task (hinv.joined hpc) htask⟩
      rcases hinv.cause hpc with hall | hinterrupt | hcancel
      · exact Or.inl (hsame ▸ hall)
      · exact Or.inr (Or.inl hinterrupt)
      · exact Or.inr (Or.inr (Pool.failCancel_task hcancel htask))

theorem inv_reachable
    (hreach : ((runParallelStreaming Cmd opts).system dispatch).Reachable state) :
    Inv opts dispatch state :=
  hreach.invariant (Inv opts dispatch) inv_initial
    fun _ _ _ hinv hstep => inv_step hinv hstep

end ParallelStreaming

/-- Where `run_parallel_streaming` puts lines in flight. -/
theorem runParallelStreaming_lawful (opts : ExecutorOptions) :
    (runParallelStreaming Cmd opts).Lawful where
  inFlight_step := by
    intro dispatch state action next hstep
    cases ParallelStreaming.step_moves hstep with
    | spawned line hpc hpermits hinterrupt =>
        refine Or.inr ⟨rfl, ?_, hinterrupt, line, Books.inFlight_launch _ _⟩
        simpa [runParallelStreaming, hpc] using hpermits
    | joined index pool hpc hjoin => exact Or.inl (Pool.inFlight_join hjoin)
    | task action pool htask => exact Or.inl (Pool.inFlight_task htask)
    | _ => exact Or.inl rfl
  launch := by
    intro dispatch state hpoised hinterrupt
    simp only [runParallelStreaming] at hpoised hinterrupt
    split at hpoised
    next line hpc =>
      have hpermits : state.pool.permits ≠ 0 := by simpa using hpoised
      refine ⟨ParallelStreaming.acquired line state, line, ?_, ?_⟩
      · simp only [runParallelStreaming, ParallelStreaming.step, ParallelStreaming.exec, hpc,
          if_neg hpermits]
      · simp [Machine.inFlight, runParallelStreaming, ParallelStreaming.acquired, hinterrupt,
          Pool.spawn]
    next => cases hpoised
  interrupt_step := by
    intro dispatch state action next hstep
    cases ParallelStreaming.step_moves hstep with
    | task action pool htask => cases action <;> simp_all [runParallelStreaming, Pool.task]
    | _ => simp [runParallelStreaming]

/-- `run_parallel_streaming` is an in-order dispatcher and accounts for its lines. -/
theorem runParallelStreaming_sound (opts : ExecutorOptions) :
    (runParallelStreaming Cmd opts).Sound opts where
  toLawful := runParallelStreaming_lawful opts
  simulates := by
    intro dispatch
    constructor
    intro state action next hreach hstep
    have hinv := ParallelStreaming.inv_reachable hreach
    cases ParallelStreaming.step_moves hstep with
    | sigint => exact Ledger.Step.halt _
    | sent line channel hsend =>
        simp only [Machine.ledger, runParallelStreaming, Channel.sent_send hsend]
        exact Ledger.Step.give _ line
    | parked line channel hpc hrecv =>
        have hsent := Channel.sent_recv hrecv
        simp only [Machine.ledger, runParallelStreaming, hsent]
        exact Ledger.Step.idle _
    | dropped line channel hpc hrecv =>
        have hsent := Channel.sent_recv hrecv
        simp only [Machine.ledger, runParallelStreaming, hsent]
        exact Ledger.Step.idle _
    | spawned line hpc hpermits hinterrupt =>
        obtain ⟨dropped, hpool, hreceived, hkept⟩ := hinv.received
        have htotal := hpool.permits
        have hroom : state.pool.books.unfinished < opts.workers := by omega
        rw [hpc] at hreceived hkept
        rw [hkept rfl, List.append_nil, ParallelStreaming.hand] at hreceived
        refine Books.ledger_launch hinterrupt ⟨state.channel.queue, ?_⟩ hroom
        exact congrArg (· ++ state.channel.queue) hreceived.symm
    | joined index pool hpc hjoin => exact Pool.ledger_join hjoin
    | task action pool htask => exact Pool.ledger_task htask
    | _ => exact Ledger.Step.idle _
  settled := by
    intro dispatch state hreach hreturned
    have hinv := ParallelStreaming.inv_reachable hreach
    have hpc : state.pc = .done := by
      simp only [runParallelStreaming] at hreturned
      split at hreturned
      next hpc => exact hpc
      next => cases hreturned
    obtain ⟨dropped, hpool, hreceived, -⟩ := hinv.received
    have hall := hinv.joined hpc
    obtain ⟨order, hperm, htallied⟩ := hpool.account hall
    have hqueue := (hinv.ended (by rw [hpc]; rfl)).2
    have hsent : state.channel.sent = state.pool.books.inFlight ++ dropped := by
      simp only [Channel.sent, hqueue, hreceived, hpc, ParallelStreaming.hand, List.append_nil]
    refine ⟨Books.countP_isOpen_of_isJoined hall, ⟨order, hperm, ?_⟩, ?_⟩
    · simpa only [Machine.inFlight, runParallelStreaming, hsent, List.length_append,
        Nat.add_sub_cancel_left] using htallied
    · rcases hinv.cause (by rw [hpc]; rfl) with hgiven | hinterrupt | hcancel
      · exact Or.inl hgiven.2.symm
      · exact Or.inr (Or.inl hinterrupt)
      · exact Or.inr (Or.inr (hpool.failCancel_account hall hcancel))
  ledger_initial := ⟨List.nil_prefix, Nat.zero_le _⟩

end S7cmd.BatchRun
