import S7cmd.BatchRun.Accounting

/-!
# Interrupts

A SIGINT reaches every listener registered at that time, and each processes it
later, in any order: the batch's own listener stores the interrupt flag, a
streaming reader stores it too and returns, and the handler of a line stores the
process-global flag of its family and cancels the line. Nothing orders these.
-/

namespace S7cmd.BatchRun

open Foundation

variable {Cmd : Type}

/-! ## Nothing is launched once the interrupt flag is set -/

/-- Whatever steps are taken from a state in which the interrupt flag is set,
wherever the executor waits in it, no line is put in flight. -/
theorem nothing_launched_once_interrupted (executor : Executor) (opts : ExecutorOptions)
    (script : List (PreparedLine Cmd)) (dispatch : Nat → DispatchResult)
    (state final : (executor.machine opts script).State) (actions : List (Action Cmd))
    (hinterrupt : (executor.machine opts script).interrupt state = true)
    (hrun : ((executor.machine opts script).system dispatch).run state actions = some final) :
    (executor.machine opts script).inFlight final =
      (executor.machine opts script).inFlight state := by
  have hlawful := executor.lawful opts script
  refine System.run_observe (executor.machine opts script).inFlight
    (fun state => (executor.machine opts script).interrupt state = true) ?_ hinterrupt hrun
  intro state action next hset hstep
  refine ⟨?_, Machine.inFlight_step_interrupted hlawful hset hstep⟩
  exact (hlawful.interrupt_step dispatch state action next hstep).mpr (Or.inl hset)

/-- Two workers are busy and the loop is parked on the semaphore with the third
line when the flag is set. -/
theorem nothing_launched_while_parked :
    ∃ state final, (sampleMachine .parallel 2 (some 1) 3).interrupt state = true ∧
      ((sampleMachine .parallel 2 (some 1) 3).system fun _ => .code 0).run state
        [.complete 0, .finish 0, .exec] = some final ∧
      (sampleMachine .parallel 2 (some 1) 3).inFlight final =
        (sampleMachine .parallel 2 (some 1) 3).inFlight state := by
  obtain ⟨state, -, htest⟩ := System.exists_reachable
    ((sampleMachine .parallel 2 (some 1) 3).system fun _ => .code 0)
    [.exec, .exec, .exec, .exec, .exec, .sigint]
    (fun state => (sampleMachine .parallel 2 (some 1) 3).interrupt state &&
      (((sampleMachine .parallel 2 (some 1) 3).system fun _ => .code 0).run state
        [.complete 0, .finish 0, .exec]).isSome)
    (by decide +kernel)
  obtain ⟨hinterrupt, hsome⟩ := Bool.and_eq_true_iff.mp htest
  obtain ⟨final, hrun⟩ := Option.isSome_iff_exists.mp hsome
  exact ⟨state, final, hinterrupt, hrun, nothing_launched_once_interrupted .parallel
    ⟨2, some 1, false⟩ (sampleScript 3) _ state final _ hinterrupt hrun⟩

/-! ## Signals and their listeners -/

/-- The four families of commands with a Ctrl+C handler. Each has its own
process-global `CTRL_C_RECEIVED`. -/
inductive HandlerFamily where
  | util
  | sync
  | ls
  | clean
  deriving DecidableEq, Repr

/-- Whether a line installs a Ctrl+C handler, and of which family. -/
def lineFamily (family : Cmd → Option HandlerFamily) (line : PreparedLine Cmd) :
    Option HandlerFamily :=
  match line.kind with
  | .cmd cmd => family cmd
  | .invalid _ _ => none

def exitCodeInterrupted : ExitCode := 130

/-- What a command ends with once the flag of its family is set. -/
def interruptedResult : DispatchResult → DispatchResult
  | .code _ => .code exitCodeInterrupted
  | .panic payload => .panic payload

namespace Signals

/-- Who awaits `ctrl_c()`. -/
inductive Party where
  /-- the listener task of the batch -/
  | batch
  /-- the select of the streaming reader -/
  | reader
  /-- the handler task of a line, by its position in flight -/
  | handler (index : Nat)
  deriving DecidableEq, Repr

inductive Listener where
  /-- its `ctrl_c()` is not yet polled: it hears no signal -/
  | unpolled
  | waiting
  /-- a SIGINT waits for it -/
  | notified
  /-- it has stored its flag -/
  | stored
  /-- it has gone, or was never there -/
  | gone
  deriving DecidableEq, Repr

namespace Listener

/-- A SIGINT arrives. -/
def signal : Listener → Listener
  | .waiting => .notified
  | listener => listener

/-- Whether its `ctrl_c()` has been polled and has not been answered. -/
def polled : Listener → Bool
  | .waiting | .notified => true
  | _ => false

variable {listener : Listener}

theorem signal_eq_stored : listener.signal = .stored ↔ listener = .stored := by
  cases listener <;> simp [signal]

theorem ne_stored_of_polled (hpolled : listener.polled = true) : listener ≠ .stored := by
  rintro rfl
  cases hpolled

end Listener

/-- An executor with the listeners around it. -/
structure State (machine : Machine Cmd) where
  base : machine.State
  listeners : Party → Listener
  /-- the `CTRL_C_RECEIVED` flags -/
  received : HandlerFamily → Bool := fun _ => false
  /-- history: a line has returned 130 because its handler received a SIGINT -/
  signalled : Bool := false

inductive Event (Cmd : Type) where
  /-- the process receives a SIGINT -/
  | deliver
  /-- a party polls its `ctrl_c()` for the first time, and listens -/
  | poll (party : Party)
  /-- the signal cannot be listened for -/
  | refuse (party : Party)
  /-- a party takes the SIGINT that waits for it -/
  | hear (party : Party)
  /-- the handler of a line sees its token cancelled -/
  | leave (index : Nat)
  /-- the reader reads a line that is blank or a comment -/
  | skip
  /-- the executor, a task or the reader moves -/
  | move (action : Action Cmd)
  deriving DecidableEq, Repr

namespace State

variable {machine : Machine Cmd} (state : State machine) (family : Cmd → Option HandlerFamily)
  (dispatch : Nat → DispatchResult)

/-- The family of a line in flight, by its position. -/
def family? (index : Nat) : Option HandlerFamily :=
  (machine.books state.base).flights[index]?.bind fun flight => lineFamily family flight.line

/-- Whether a party is there to be polled. -/
def spawned : Party → Bool
  | .batch => true
  | .reader => true
  | .handler index => (state.family? family index).isSome

/-- What the lines return in this state. The flag a line reads is the one of
its family, whoever stored it. -/
def results (index : Nat) : DispatchResult :=
  if (state.family? family index).any state.received then interruptedResult (dispatch index)
  else dispatch index

/-- Whether this move is the return of a line that its handler cancelled. -/
def returnsCancelled (action : Action Cmd) : Bool :=
  match action with
  | .complete index =>
      state.listeners (.handler index) = .stored &&
        (machine.books state.base).flights[index]?.any fun flight =>
          lineCode flight.line (state.results family dispatch index) = exitCodeInterrupted
  | _ => false

/-- One of the two parties that store the interrupt flag has stored it. -/
def flagged : Bool := state.listeners .batch = .stored || state.listeners .reader = .stored

def put (party : Party) (listener : Listener) : State machine :=
  { state with listeners := Function.update state.listeners party listener }

/-- A party stores the interrupt flag and returns. -/
def storeInterrupt (party : Party) : Option (State machine) :=
  (machine.step (state.results family dispatch) state.base .sigint).map fun base =>
    { state.put party .stored with base := base }

/-- The executor, a task or the reader moves. -/
def advance (action : Action Cmd) : Option (State machine) :=
  (machine.step (state.results family dispatch) state.base action).map fun base =>
    { state with
      base := base
      signalled := state.signalled || state.returnsCancelled family dispatch action }

end State

variable (machine : Machine Cmd) (family : Cmd → Option HandlerFamily)
  (dispatch : Nat → DispatchResult)

def step (state : State machine) : Event Cmd → Option (State machine)
  | .deliver => some { state with listeners := fun party => (state.listeners party).signal }
  | .poll party =>
      if state.listeners party = .unpolled && state.spawned family party then
        some (state.put party .waiting)
      else none
  | .refuse party =>
      if state.listeners party = .unpolled && state.spawned family party then
        match party with
        -- the reader's arm does not look at the result
        | .reader => state.storeInterrupt family dispatch .reader
        | _ => some (state.put party .gone)
      else none
  | .hear party =>
      if state.listeners party = .notified then
        match party with
        | .handler index =>
            some { state.put party .stored with
              received := fun other =>
                state.received other || state.family? family index = some other }
        | _ => state.storeInterrupt family dispatch party
      else none
  | .leave index =>
      if (state.listeners (.handler index)).polled then some (state.put (.handler index) .gone)
      else none
  -- a turn of the reader that yields a line drops its `ctrl_c()`, and with it a
  -- SIGINT that came after that arm was polled
  | .skip =>
      if (state.listeners .reader).polled then some (state.put .reader .unpolled) else none
  | .move (.send line) =>
      if (state.listeners .reader).polled then
        (state.put .reader .unpolled).advance family dispatch (.send line)
      else none
  | .move .close =>
      if (state.listeners .reader).polled then
        (state.put .reader .gone).advance family dispatch .close
      else if state.listeners .reader = .stored then state.advance family dispatch .close
      else none
  -- a party that stores the flag does so by `hear` or `refuse`
  | .move .sigint => none
  | .move action => state.advance family dispatch action

/-- An executor with its listener task and, when its lines are streamed, a reader. -/
def system (streams : Bool) : System (State machine) (Event Cmd) where
  initial :=
    { base := machine.initial
      listeners := fun party =>
        if party = .reader && !streams then .gone else .unpolled }
  step := step machine family dispatch

variable {machine} {family} {dispatch} {state next : State machine} {event : Event Cmd}

/-! ## What a step can do -/

theorem flagged_put {party : Party} {listener : Listener}
    (hold : state.listeners party ≠ .stored) (hnew : listener ≠ .stored) :
    (state.put party listener).flagged = state.flagged := by
  cases party <;> simp_all [State.flagged, State.put]

theorem flagged_put_handler (index : Nat) (listener : Listener) :
    (state.put (.handler index) listener).flagged = state.flagged := by
  simp [State.flagged, State.put]

/-- What a step does to the executor and to the flag that interrupts it. -/
inductive Moves (state : State machine) : Event Cmd → State machine → Prop
  | aside (event : Event Cmd) (next : State machine) (hbase : next.base = state.base)
      (hflagged : next.flagged = state.flagged) : Moves state event next
  | stored (event : Event Cmd) (next : State machine) (results : Nat → DispatchResult)
      (hstep : machine.step results state.base .sigint = some next.base)
      (hflagged : next.flagged = true) : Moves state event next
  | moved (action : Action Cmd) (next : State machine) (results : Nat → DispatchResult)
      (haction : action ≠ .sigint)
      (hstep : machine.step results state.base action = some next.base)
      (hflagged : next.flagged = state.flagged) : Moves state (.move action) next

theorem storeInterrupt_moves {party : Party} (hparty : party = .batch ∨ party = .reader)
    (hstore : state.storeInterrupt family dispatch party = some next) :
    Moves state event next := by
  obtain ⟨base, hbase, rfl⟩ := Option.map_eq_some_iff.mp hstore
  refine .stored event _ _ hbase ?_
  rcases hparty with rfl | rfl <;> simp [State.flagged, State.put]

theorem advance_moves {action : Action Cmd} {after : State machine}
    (hadvance : after.advance family dispatch action = some next) (haction : action ≠ .sigint)
    (hbase : after.base = state.base) (hflagged : after.flagged = state.flagged) :
    Moves state (.move action) next := by
  obtain ⟨base, hstep, rfl⟩ := Option.map_eq_some_iff.mp hadvance
  exact .moved action _ _ haction (hbase ▸ hstep) hflagged

theorem step_moves (hstep : step machine family dispatch state event = some next) :
    Moves state event next := by
  cases event with
  | deliver =>
      cases hstep
      exact .aside _ _ rfl (by simp only [State.flagged, Listener.signal_eq_stored])
  | poll party =>
      obtain ⟨hguard, hpoll⟩ := Option.ite_none_right_eq_some.mp hstep
      have hunpolled := of_decide_eq_true (Bool.and_eq_true_iff.mp hguard).1
      cases hpoll
      exact .aside _ _ rfl (flagged_put (by simp [hunpolled]) nofun)
  | refuse party =>
      obtain ⟨hguard, hrefuse⟩ := Option.ite_none_right_eq_some.mp hstep
      have hunpolled := of_decide_eq_true (Bool.and_eq_true_iff.mp hguard).1
      cases party with
      | reader => exact storeInterrupt_moves (Or.inr rfl) hrefuse
      | batch =>
          cases hrefuse
          exact .aside _ _ rfl (flagged_put (by simp [hunpolled]) nofun)
      | handler index =>
          cases hrefuse
          exact .aside _ _ rfl (flagged_put_handler index _)
  | hear party =>
      obtain ⟨-, hhear⟩ := Option.ite_none_right_eq_some.mp hstep
      cases party with
      | batch => exact storeInterrupt_moves (Or.inl rfl) hhear
      | reader => exact storeInterrupt_moves (Or.inr rfl) hhear
      | handler index =>
          cases hhear
          exact .aside _ _ rfl (flagged_put_handler index .stored)
  | leave index =>
      obtain ⟨-, hleave⟩ := Option.ite_none_right_eq_some.mp hstep
      cases hleave
      exact .aside _ _ rfl (flagged_put_handler index _)
  | skip =>
      obtain ⟨hpolled, hskip⟩ := Option.ite_none_right_eq_some.mp hstep
      cases hskip
      exact .aside _ _ rfl (flagged_put (Listener.ne_stored_of_polled hpolled) nofun)
  | move action =>
      cases action with
      | sigint => cases hstep
      | send line =>
          obtain ⟨hpolled, hsend⟩ := Option.ite_none_right_eq_some.mp hstep
          have hstored := Listener.ne_stored_of_polled hpolled
          exact advance_moves hsend nofun rfl (flagged_put hstored nofun)
      | close =>
          simp only [step] at hstep
          split at hstep
          next hpolled =>
            have hstored := Listener.ne_stored_of_polled hpolled
            exact advance_moves hstep nofun rfl (flagged_put hstored nofun)
          next =>
            obtain ⟨-, hclose⟩ := Option.ite_none_right_eq_some.mp hstep
            exact advance_moves hclose nofun rfl rfl
      | _ => exact advance_moves hstep nofun rfl rfl

/-- The interrupt flag is set when one of the two parties has stored it. -/
def Inv (state : State machine) : Prop := machine.interrupt state.base = state.flagged

theorem inv_step (hlawful : machine.Lawful) (hinv : Inv state)
    (hstep : step machine family dispatch state event = some next) : Inv next := by
  cases step_moves hstep with
  | aside event next hbase hflagged => rw [Inv, hbase, hflagged, hinv]
  | stored event next results hbase hflagged =>
      rw [Inv, hflagged]
      exact (hlawful.interrupt_step _ _ _ _ hbase).mpr (Or.inr rfl)
  | moved action next results haction hbase hflagged =>
      have hiff := hlawful.interrupt_step _ _ _ _ hbase
      simp only [haction, or_false] at hiff
      rw [Inv, hflagged, ← hinv]
      exact Bool.eq_iff_iff.mpr hiff

/-- Once a line has returned 130 because its handler received a SIGINT, this
transition puts no line in flight. -/
def LaunchesNothingOnceSignalled (state : State machine) (_ : Event Cmd)
    (next : State machine) : Prop :=
  state.signalled = true → machine.inFlight next.base = machine.inFlight state.base

/-- Once a line has returned 130 because its handler received a SIGINT, the
batch's listener or the reader has stored the interrupt flag whenever the
executor takes a step at which it would put a line in flight. -/
def ListenerRanFirst (state : State machine) (event : Event Cmd) (_ : State machine) : Prop :=
  state.signalled = true → event = .move .exec → machine.poised state.base = true →
    state.listeners .batch = .stored ∨ state.listeners .reader = .stored

theorem launchesNothing_iff (hlawful : machine.Lawful) (hinv : Inv state)
    (hstep : step machine family dispatch state event = some next) :
    LaunchesNothingOnceSignalled state event next ↔ ListenerRanFirst state event next := by
  apply imp_congr_right
  intro hsignalled
  constructor
  · rintro hsame rfl hpoised
    by_contra hnone
    have hunflagged : state.flagged = false := by simpa [State.flagged] using hnone
    have hclear : machine.interrupt state.base = false := hinv.trans hunflagged
    obtain ⟨base, line, hbase, hlaunch⟩ :=
      hlawful.launch (state.results family dispatch) state.base hpoised hclear
    simp only [step, State.advance, hbase, Option.map_some, Option.some.injEq] at hstep
    subst hstep
    have hlength := congrArg List.length (hlaunch.symm.trans hsame)
    simp at hlength
  · intro hran
    cases step_moves hstep with
    | aside event next hbase hflagged => rw [hbase]
    | stored event next results hbase hflagged =>
        rcases hlawful.inFlight_step _ _ _ _ hbase with hsame | hlaunch
        · exact hsame
        · cases hlaunch.1
    | moved action next results haction hbase hflagged =>
        rcases hlawful.inFlight_step _ _ _ _ hbase with hsame | hlaunch
        · exact hsame
        · -- a launch needs the flag clear, and one of the two has stored it
          obtain ⟨rfl, hpoised, hclear, -⟩ := hlaunch
          have hflag : state.flagged = true := by
            simpa [State.flagged] using hran rfl hpoised
          rw [← hinv, hclear] at hflag
          cases hflag

end Signals

/-- A run puts no line in flight after a line has returned 130 through its
handler exactly when, from then on, the batch's own listener or the reader has
always run before the executor reaches a point at which it launches. -/
theorem launches_after_signal_iff (executor : Executor) (opts : ExecutorOptions)
    (script : List (PreparedLine Cmd)) (family : Cmd → Option HandlerFamily)
    (dispatch : Nat → DispatchResult) (events : List (Signals.Event Cmd)) :
    let system := Signals.system (executor.machine opts script) family dispatch executor.streams
    system.Always Signals.LaunchesNothingOnceSignalled system.initial events ↔
      system.Always Signals.ListenerRanFirst system.initial events := by
  intro system
  have hlawful := executor.lawful opts script
  apply System.always_congr Signals.Inv
  · intro state event next hinv hstep
    exact Signals.inv_step hlawful hinv hstep
  · intro state event next hinv hstep
    exact Signals.launchesNothing_iff hlawful hinv hstep
  · cases executor <;> rfl

/-- Two lines of `ls`, run in sequence. -/
def twoListings :
    System (Signals.State (sampleMachine .sequential 1 (some 1) 2)) (Signals.Event Unit) :=
  Signals.system (sampleMachine .sequential 1 (some 1) 2) (fun _ => some .ls) (fun _ => .code 0)
    false

/-- The handler of the first of two lines runs before the batch's listener: the
line returns 130 and the second line is launched. -/
theorem line_launched_after_signal :
    ¬ ∀ (executor : Executor) (opts : ExecutorOptions) (script : List (PreparedLine Unit))
        (family : Unit → Option HandlerFamily) (dispatch : Nat → DispatchResult)
        (events : List (Signals.Event Unit)),
      let system := Signals.system (executor.machine opts script) family dispatch executor.streams
      system.Always Signals.LaunchesNothingOnceSignalled system.initial events := by
  intro hclaim
  have halways := hclaim .sequential ⟨1, some 1, false⟩ (sampleScript 2) (fun _ => some .ls)
    (fun _ => .code 0)
    ([.poll .batch, .move .exec, .poll (.handler 0), .deliver, .hear (.handler 0),
      .move (.complete 0)] ++ [.move .exec])
  have hrun : (twoListings.run twoListings.initial
      [.poll .batch, .move .exec, .poll (.handler 0), .deliver, .hear (.handler 0),
        .move (.complete 0)]).any (fun middle =>
      middle.signalled && (twoListings.step middle (.move .exec)).any fun final =>
        decide ((sampleMachine .sequential 1 (some 1) 2).inFlight final.base ≠
          (sampleMachine .sequential 1 (some 1) 2).inFlight middle.base)) = true := by
    decide +kernel
  obtain ⟨middle, hmiddle, htest⟩ := (Option.any_eq_true _ _).mp hrun
  obtain ⟨hsignalled, hnext⟩ := Bool.and_eq_true_iff.mp htest
  obtain ⟨final, hfinal, hlaunched⟩ := (Option.any_eq_true _ _).mp hnext
  exact of_decide_eq_true hlaunched (halways.last hmiddle hfinal hsignalled)

end S7cmd.BatchRun
