import S7cmd.BatchRun.Sequential
import S7cmd.Foundation.Channel

/-!
# The sequential executor over a stream

`run_sequential_streaming` is the loop of `run_sequential` over a channel. At a
stop it does not count the lines that are left: it receives and drops lines
until the reader has dropped its sender.
-/

namespace S7cmd.BatchRun

open Foundation

variable {Cmd : Type}

namespace SequentialStreaming

inductive Pc where
  /-- parked on the channel -/
  | recv
  /-- awaiting `execute_line` -/
  | running
  /-- draining the channel after a stop -/
  | drain
  | done
  deriving DecidableEq, Repr

structure State (Cmd : Type) where
  books : Books Cmd := {}
  channel : Channel (PreparedLine Cmd) := {}
  pc : Pc := .recv
  interrupt : Bool := false
  deriving DecidableEq, Repr

/-- From the channel to the await of the line received, or out of the loop. -/
def received (state : State Cmd) :
    Received (PreparedLine Cmd) × Channel (PreparedLine Cmd) → State Cmd
  | (.message line, channel) =>
      if state.interrupt then
        -- this line has left the channel, so the drain would miss it
        { state with books := state.books.skip 1, channel := channel, pc := .drain }
      else
        { state with books := state.books.launch line, channel := channel, pc := .running }
  | (.closed, channel) => { state with channel := channel, pc := .done }

/-- One iteration of either drain loop. -/
def drained (state : State Cmd) :
    Received (PreparedLine Cmd) × Channel (PreparedLine Cmd) → State Cmd
  | (.message _, channel) => { state with books := state.books.skip 1, channel := channel }
  | (.closed, channel) => { state with channel := channel, pc := .done }

/-- From the return of `execute_line` back to the channel, or into the drain. -/
def afterLine (opts : ExecutorOptions) (result : DispatchResult) (index : Nat)
    (line : PreparedLine Cmd) (state : State Cmd) : State Cmd :=
  let books := state.books.settle opts result index line
  if books.trips opts (lineCode line result) then { state with books := books, pc := .drain }
  else { state with books := books, pc := .recv }

def step (opts : ExecutorOptions) (dispatch : Nat → DispatchResult) (state : State Cmd) :
    Action Cmd → Option (State Cmd)
  | .exec =>
      match state.pc with
      | .recv => state.channel.recv.map (received state)
      | .drain => state.channel.recv.map (drained state)
      | _ => none
  | .complete index =>
      match state.pc, state.books.flights[index]? with
      | .running, some ⟨line, .running⟩ =>
          some (afterLine opts (dispatch index) index line state)
      | _, _ => none
  | .sigint => some { state with interrupt := true }
  | .send line =>
      (state.channel.send line).map fun channel => { state with channel := channel }
  | .close => some { state with channel := state.channel.close }
  | _ => none

end SequentialStreaming

/-- `run_sequential_streaming` -/
def runSequentialStreaming (Cmd : Type) (opts : ExecutorOptions) : Machine Cmd where
  State := SequentialStreaming.State Cmd
  initial := {}
  step := SequentialStreaming.step opts
  books := SequentialStreaming.State.books
  given := fun state => state.channel.sent
  interrupt := SequentialStreaming.State.interrupt
  poised := fun state => state.pc = .recv && !state.channel.queue.isEmpty
  returned := fun state => state.pc = .done

namespace SequentialStreaming

variable {opts : ExecutorOptions} {dispatch : Nat → DispatchResult} {state next : State Cmd}

/-- What a step can do. -/
inductive Moves (opts : ExecutorOptions) (dispatch : Nat → DispatchResult)
    (state : State Cmd) : Action Cmd → State Cmd → Prop
  | sigint : Moves opts dispatch state .sigint { state with interrupt := true }
  | sent (line : PreparedLine Cmd) (channel : Channel (PreparedLine Cmd))
      (hsend : state.channel.send line = some channel) :
      Moves opts dispatch state (.send line) { state with channel := channel }
  | closed : Moves opts dispatch state .close { state with channel := state.channel.close }
  | interrupted (line : PreparedLine Cmd) (channel : Channel (PreparedLine Cmd))
      (hpc : state.pc = .recv) (hrecv : state.channel.recv = some (.message line, channel))
      (hinterrupt : state.interrupt = true) :
      Moves opts dispatch state .exec
        { state with books := state.books.skip 1, channel := channel, pc := .drain }
  | launched (line : PreparedLine Cmd) (channel : Channel (PreparedLine Cmd))
      (hpc : state.pc = .recv) (hrecv : state.channel.recv = some (.message line, channel))
      (hinterrupt : state.interrupt = false) :
      Moves opts dispatch state .exec
        { state with books := state.books.launch line, channel := channel, pc := .running }
  | dropped (line : PreparedLine Cmd) (channel : Channel (PreparedLine Cmd))
      (hpc : state.pc = .drain) (hrecv : state.channel.recv = some (.message line, channel)) :
      Moves opts dispatch state .exec
        { state with books := state.books.skip 1, channel := channel }
  | ended (hpc : state.pc = .recv ∨ state.pc = .drain)
      (hrecv : state.channel.recv = some (.closed, state.channel)) :
      Moves opts dispatch state .exec { state with pc := .done }
  | settled (index : Nat) (line : PreparedLine Cmd) (hpc : state.pc = .running)
      (hflight : state.books.flights[index]? = some ⟨line, .running⟩) :
      Moves opts dispatch state (.complete index)
        (afterLine opts (dispatch index) index line state)

theorem step_moves {action : Action Cmd} (hstep : step opts dispatch state action = some next) :
    Moves opts dispatch state action next := by
  cases action with
  | exec =>
      simp only [step] at hstep
      split at hstep
      next hpc =>
        obtain ⟨⟨item, channel⟩, hrecv, rfl⟩ := Option.map_eq_some_iff.mp hstep
        cases item with
        | message line =>
            simp only [received]
            by_cases hinterrupt : state.interrupt = true
            · rw [if_pos hinterrupt]
              exact .interrupted line channel hpc hrecv hinterrupt
            · rw [if_neg hinterrupt]
              exact .launched line channel hpc hrecv (by simpa using hinterrupt)
        | closed =>
            obtain ⟨-, -, rfl⟩ := Channel.recv_closed hrecv
            exact .ended (Or.inl hpc) hrecv
      next hpc =>
        obtain ⟨⟨item, channel⟩, hrecv, rfl⟩ := Option.map_eq_some_iff.mp hstep
        cases item with
        | message line => exact .dropped line channel hpc hrecv
        | closed =>
            obtain ⟨-, -, rfl⟩ := Channel.recv_closed hrecv
            exact .ended (Or.inr hpc) hrecv
      next => cases hstep
  | complete index =>
      simp only [step] at hstep
      split at hstep
      next line hpc hflight =>
        cases hstep
        exact .settled index line hpc hflight
      next => cases hstep
  | sigint =>
      cases hstep
      exact .sigint
  | send line =>
      obtain ⟨channel, hsend, rfl⟩ := Option.map_eq_some_iff.mp hstep
      exact .sent line channel hsend
  | close =>
      cases hstep
      exact .closed
  | finish index => cases hstep
  | join index => cases hstep

/-- The invariant of the loop and of the drains. -/
structure Inv (opts : ExecutorOptions) (dispatch : Nat → DispatchResult)
    (state : State Cmd) : Prop where
  /-- a received line is in flight or dropped -/
  received : ∃ dropped, state.channel.received = state.books.inFlight ++ dropped ∧
    (state.pc = .recv → dropped = [] ∧ state.books.Quiet opts dispatch 0) ∧
    (state.pc = .running → dropped = [] ∧
      ∃ index line, state.books.Awaiting opts dispatch index line) ∧
    (state.pc = .drain ∨ state.pc = .done → state.books.Quiet opts dispatch dropped.length)
  ended : state.pc = .done → state.channel.closed = true ∧ state.channel.queue = []
  /-- why the loop was left -/
  cause : state.pc = .drain ∨ state.pc = .done →
    state.channel.closed = true ∧ state.channel.sent = state.books.inFlight ∨
      state.interrupt = true ∨ state.books.Tripped opts

theorem Inv.at_recv (hpc : state.pc = .recv)
    (hreceived : state.channel.received = state.books.inFlight)
    (hquiet : state.books.Quiet opts dispatch 0) : Inv opts dispatch state where
  received := ⟨[], by rw [List.append_nil, hreceived], fun _ => ⟨rfl, hquiet⟩, by simp [hpc],
    by simp [hpc]⟩
  ended := by simp [hpc]
  cause := by simp [hpc]

theorem Inv.at_running (hpc : state.pc = .running)
    (hreceived : state.channel.received = state.books.inFlight) {index : Nat}
    {line : PreparedLine Cmd} (hawaiting : state.books.Awaiting opts dispatch index line) :
    Inv opts dispatch state where
  received := ⟨[], by rw [List.append_nil, hreceived], by simp [hpc],
    fun _ => ⟨rfl, index, line, hawaiting⟩, by simp [hpc]⟩
  ended := by simp [hpc]
  cause := by simp [hpc]

theorem Inv.at_drain (hpc : state.pc = .drain) {dropped : List (PreparedLine Cmd)}
    (hreceived : state.channel.received = state.books.inFlight ++ dropped)
    (hquiet : state.books.Quiet opts dispatch dropped.length)
    (hcause : state.channel.closed = true ∧ state.channel.sent = state.books.inFlight ∨
      state.interrupt = true ∨ state.books.Tripped opts) : Inv opts dispatch state where
  received := ⟨dropped, hreceived, by simp [hpc], by simp [hpc], fun _ => hquiet⟩
  ended := by simp [hpc]
  cause := fun _ => hcause

theorem Inv.at_done (hpc : state.pc = .done) {dropped : List (PreparedLine Cmd)}
    (hreceived : state.channel.received = state.books.inFlight ++ dropped)
    (hquiet : state.books.Quiet opts dispatch dropped.length)
    (hcause : state.channel.closed = true ∧ state.channel.sent = state.books.inFlight ∨
      state.interrupt = true ∨ state.books.Tripped opts)
    (hended : state.channel.closed = true ∧ state.channel.queue = []) :
    Inv opts dispatch state where
  received := ⟨dropped, hreceived, by simp [hpc], by simp [hpc], fun _ => hquiet⟩
  ended := fun _ => hended
  cause := fun _ => hcause

theorem inv_initial : Inv opts dispatch ({} : State Cmd) :=
  Inv.at_recv rfl rfl Books.quiet_empty

theorem inv_step {action : Action Cmd} (hinv : Inv opts dispatch state)
    (hstep : step opts dispatch state action = some next) : Inv opts dispatch next := by
  obtain ⟨dropped, hreceived, hrecvPc, hrunning, hdrain⟩ := hinv.received
  cases step_moves hstep with
  | sigint => exact ⟨hinv.received, hinv.ended, fun _ => Or.inr (Or.inl rfl)⟩
  | sent line channel hsend =>
      obtain ⟨hopen, rfl⟩ := Channel.send_eq_some hsend
      refine ⟨⟨dropped, hreceived, hrecvPc, hrunning, hdrain⟩, fun hpc => ?_, fun hpc => ?_⟩
      · exact absurd (hopen.symm.trans (hinv.ended hpc).1) Bool.false_ne_true
      · refine Or.inr ((hinv.cause hpc).resolve_left fun hclosed => ?_)
        exact absurd (hopen.symm.trans hclosed.1) Bool.false_ne_true
  | closed =>
      exact ⟨⟨dropped, hreceived, hrecvPc, hrunning, hdrain⟩,
        fun hpc => ⟨rfl, (hinv.ended hpc).2⟩,
        fun hpc => (hinv.cause hpc).imp (fun hsent => ⟨rfl, hsent.2⟩) id⟩
  | interrupted line channel hpc hrecv hinterrupt =>
      obtain ⟨rest, hqueue, rfl⟩ := Channel.recv_message hrecv
      obtain ⟨rfl, hquiet⟩ := hrecvPc hpc
      refine @Inv.at_drain _ _ _ _ rfl [line] ?_ (hquiet.skip 1) (Or.inr (Or.inl hinterrupt))
      simpa only [List.append_nil, Books.inFlight_skip] using congrArg (· ++ [line]) hreceived
  | launched line channel hpc hrecv hinterrupt =>
      obtain ⟨rest, hqueue, rfl⟩ := Channel.recv_message hrecv
      obtain ⟨rfl, hquiet⟩ := hrecvPc hpc
      refine Inv.at_running rfl ?_ (hquiet.launch line)
      simpa only [List.append_nil, Books.inFlight_launch] using congrArg (· ++ [line]) hreceived
  | dropped line channel hpc hrecv =>
      obtain ⟨rest, hqueue, rfl⟩ := Channel.recv_message hrecv
      have hquiet := (hdrain (Or.inl hpc)).dropMore 1
      have hcause := hinv.cause (Or.inl hpc)
      refine @Inv.at_drain _ _ _ _ hpc (dropped ++ [line]) ?_ ?_ ?_
      · simp only [Books.inFlight_skip, hreceived, List.append_assoc]
      · rw [List.length_append, List.length_singleton]
        exact hquiet
      · exact hcause.imp (fun hsent => ⟨hsent.1, (Channel.sent_recv hrecv).trans hsent.2⟩) id
  | ended hpc hrecv =>
      obtain ⟨hqueue, hclosed, -⟩ := Channel.recv_closed hrecv
      refine Inv.at_done rfl hreceived ?_ ?_ ⟨hclosed, hqueue⟩
      · rcases hpc with hpc | hpc
        · obtain ⟨rfl, hquiet⟩ := hrecvPc hpc
          exact hquiet
        · exact hdrain (Or.inl hpc)
      · rcases hpc with hpc | hpc
        · refine Or.inl ⟨hclosed, ?_⟩
          rw [Channel.sent, hqueue, hreceived, (hrecvPc hpc).1, List.append_nil, List.append_nil]
        · exact hinv.cause (Or.inl hpc)
  | settled index line hpc hflight =>
      obtain ⟨rfl, last, lastLine, hawaiting⟩ := hrunning hpc
      obtain ⟨rfl, rfl⟩ := hawaiting.running_eq hflight
      have hsettle := hawaiting.settle
      have hsame := Books.inFlight_set hflight
        (Books.flights_settle opts state.books (dispatch index) index line)
      rw [← hsame] at hreceived
      unfold afterLine
      dsimp only
      split
      next htrips =>
        refine Inv.at_drain rfl hreceived hsettle (Or.inr (Or.inr ?_))
        exact (Books.tripped_iff (Books.failCount_settle _ _ _ _ _)).mpr (Or.inr htrips)
      next hgoing =>
        rw [List.append_nil] at hreceived
        exact Inv.at_recv rfl hreceived hsettle

/-- The history is coded wherever the loop stands. -/
theorem Inv.coded (hinv : Inv opts dispatch state) : state.books.Coded opts dispatch := by
  obtain ⟨dropped, -, hrecvPc, hrunning, hdrain⟩ := hinv.received
  cases hpc : state.pc with
  | recv => exact (hrecvPc hpc).2.coded
  | running =>
      obtain ⟨-, index, line, hawaiting⟩ := hrunning hpc
      exact hawaiting.coded
  | drain => exact (hdrain (Or.inl hpc)).coded
  | done => exact (hdrain (Or.inr hpc)).coded

theorem inv_reachable
    (hreach : ((runSequentialStreaming Cmd opts).system dispatch).Reachable state) :
    Inv opts dispatch state :=
  hreach.invariant (Inv opts dispatch) inv_initial
    fun _ _ _ hinv hstep => inv_step hinv hstep

end SequentialStreaming

/-- Where `run_sequential_streaming` puts lines in flight. -/
theorem runSequentialStreaming_lawful (opts : ExecutorOptions) :
    (runSequentialStreaming Cmd opts).Lawful where
  inFlight_step := by
    intro dispatch state action next hstep
    cases SequentialStreaming.step_moves hstep with
    | launched line channel hpc hrecv hinterrupt =>
        refine Or.inr ⟨rfl, ?_, hinterrupt, line, Books.inFlight_launch _ _⟩
        obtain ⟨rest, hqueue, -⟩ := Channel.recv_message hrecv
        simp [runSequentialStreaming, hpc, hqueue]
    | settled index line hpc hflight =>
        apply Or.inl
        have hsame := Books.inFlight_set hflight
          (Books.flights_settle opts state.books (dispatch index) index line)
        simp only [Machine.inFlight, runSequentialStreaming, SequentialStreaming.afterLine]
        split
        · exact hsame
        · exact hsame
    | _ => exact Or.inl rfl
  launch := by
    intro dispatch state hpoised hinterrupt
    simp only [runSequentialStreaming, Bool.and_eq_true, decide_eq_true_eq] at hpoised hinterrupt
    obtain ⟨hpc, hqueue⟩ := hpoised
    cases hcase : state.channel.queue with
    | nil => simp [hcase] at hqueue
    | cons line rest =>
        let channel : Channel (PreparedLine Cmd) :=
          { state.channel with received := state.channel.received ++ [line], queue := rest }
        refine ⟨SequentialStreaming.received state (.message line, channel), line, ?_, ?_⟩
        · simp only [runSequentialStreaming, SequentialStreaming.step, hpc,
            Channel.recv_of_cons hcase, Option.map_some]
          rfl
        · simp [Machine.inFlight, runSequentialStreaming, SequentialStreaming.received,
            hinterrupt]
  interrupt_step := by
    intro dispatch state action next hstep
    cases SequentialStreaming.step_moves hstep with
    | settled index line hpc hflight =>
        simp only [runSequentialStreaming, SequentialStreaming.afterLine]
        split <;> simp
    | _ => simp [runSequentialStreaming]

/-- `run_sequential_streaming` is an in-order dispatcher and accounts for its lines. -/
theorem runSequentialStreaming_sound (opts : ExecutorOptions) (hworkers : 1 ≤ opts.workers) :
    (runSequentialStreaming Cmd opts).Sound opts where
  toLawful := runSequentialStreaming_lawful opts
  simulates := by
    intro dispatch
    constructor
    intro state action next hreach hstep
    have hinv := SequentialStreaming.inv_reachable hreach
    cases SequentialStreaming.step_moves hstep with
    | sigint => exact Ledger.Step.halt _
    | sent line channel hsend =>
        simp only [Machine.ledger, runSequentialStreaming, Channel.sent_send hsend]
        exact Ledger.Step.give _ line
    | closed => exact Ledger.Step.idle _
    | ended hpc hrecv => exact Ledger.Step.idle _
    | interrupted line channel hpc hrecv hinterrupt =>
        simp only [Machine.ledger, runSequentialStreaming, Channel.sent_recv hrecv]
        exact Ledger.Step.idle _
    | dropped line channel hpc hrecv =>
        simp only [Machine.ledger, runSequentialStreaming, Channel.sent_recv hrecv]
        exact Ledger.Step.idle _
    | launched line channel hpc hrecv hinterrupt =>
        obtain ⟨dropped, hreceived, hrecvPc, -, -⟩ := hinv.received
        obtain ⟨rfl, hquiet⟩ := hrecvPc hpc
        obtain ⟨rest, hqueue, -⟩ := Channel.recv_message hrecv
        simp only [Machine.ledger, runSequentialStreaming, Channel.sent_recv hrecv]
        refine Books.ledger_launch hinterrupt ⟨rest, ?_⟩ (hquiet.unfinished ▸ hworkers)
        rw [Channel.sent, hreceived, hqueue, List.append_nil, List.append_assoc,
          List.singleton_append]
    | settled index line hpc hflight =>
        have hflights := Books.flights_settle opts state.books (dispatch index) index line
        simp only [Machine.ledger, runSequentialStreaming, SequentialStreaming.afterLine]
        split
        · exact Books.ledger_land hflight hflights rfl rfl
        · exact Books.ledger_land hflight hflights rfl rfl
  settled := by
    intro dispatch state hreach hreturned
    have hinv := SequentialStreaming.inv_reachable hreach
    have hpc : state.pc = .done := by simpa [runSequentialStreaming] using hreturned
    obtain ⟨dropped, hreceived, -, -, hdrain⟩ := hinv.received
    have hquiet := hdrain (Or.inr hpc)
    have hcause := (hinv.cause (Or.inr hpc)).imp (fun hsent => hsent.2.symm)
      (Or.imp id hquiet.tripped_iff.mp)
    refine ⟨hquiet.unfinished, ⟨_, List.Perm.refl _, ?_⟩, hcause⟩
    have htallied := hquiet.account
    have hsent : state.channel.sent = state.books.inFlight ++ dropped := by
      rw [Channel.sent, (hinv.ended hpc).2, hreceived, List.append_nil]
    simpa only [Machine.inFlight, runSequentialStreaming, hsent, List.length_append,
      Nat.add_sub_cancel_left] using htallied
  ledger_initial := ⟨List.nil_prefix, Nat.zero_le _⟩

end S7cmd.BatchRun
