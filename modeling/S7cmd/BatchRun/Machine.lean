import S7cmd.BatchRun.Books
import S7cmd.Foundation.Ledger
import S7cmd.Foundation.Transition

/-!
# Executors as transition systems

One step is the code of one party between two await points: the executor task,
a spawned task, the reader, or a SIGINT listener. The loop head is a step
boundary as well, so that the interrupt flag may change between any two loads
of it. A run is any list of such steps; the dispatched commands' results are a
parameter, one for each line.
-/

namespace S7cmd.BatchRun

open Foundation

variable {Cmd : Type}

/-- Who moves next. -/
inductive Action (Cmd : Type) where
  /-- the executor task runs to its next await point or loop head -/
  | exec
  /-- `execute_line` returns for a line in flight -/
  | complete (index : Nat)
  /-- a spawned task gets the progress lock, ticks and returns -/
  | finish (index : Nat)
  /-- `join_next` yields a finished task to the executor task -/
  | join (index : Nat)
  /-- a listener stores the interrupt flag on a SIGINT -/
  | sigint
  /-- the reader sends a line -/
  | send (line : PreparedLine Cmd)
  /-- the reader returns and drops its sender -/
  | close
  deriving DecidableEq, Repr

/-! ## Books as a ledger -/

namespace Books

/-- The lines in flight with the code of each that has landed. -/
def landings (books : Books Cmd) : List (PreparedLine Cmd × Option ExitCode) :=
  books.flights.map fun flight => (flight.line, flight.phase.ended?)

/-- The dispatcher these books describe. -/
def ledger (books : Books Cmd) (given : List (PreparedLine Cmd)) (interrupt : Bool) :
    Ledger (PreparedLine Cmd) ExitCode :=
  ⟨given, books.landings, interrupt⟩

variable {books next : Books Cmd} {given : List (PreparedLine Cmd)} {interrupt : Bool}

theorem ledger_launched : (books.ledger given interrupt).launched = books.inFlight := by
  simp only [Ledger.launched, ledger, landings, inFlight, List.map_map]
  rfl

theorem ledger_aloft : (books.ledger given interrupt).aloft = books.unfinished := by
  simp only [Ledger.aloft, ledger, landings, unfinished, List.countP_map]
  rfl

theorem ledger_launch {bound : Nat} {line : PreparedLine Cmd} (hrunning : interrupt = false)
    (hnext : books.inFlight ++ [line] <+: given) (hroom : books.unfinished < bound) :
    Ledger.Step bound (books.ledger given interrupt)
      ((books.launch line).ledger given interrupt) := by
  have hlandings : (books.launch line).landings = books.landings ++ [(line, none)] := by
    simp only [landings, flights_launch, List.map_append, List.map_cons, List.map_nil,
      Phase.ended?]
  have hstep : Ledger.Step bound (books.ledger given interrupt)
      { books.ledger given interrupt with
        flights := (books.ledger given interrupt).flights ++ [(line, none)] } :=
    Ledger.Step.launch _ line hrunning (ledger_launched ▸ hnext) (ledger_aloft ▸ hroom)
  simpa only [ledger, hlandings] using hstep

/-- A line in flight lands when its phase leaves the worker. -/
theorem ledger_land {bound index : Nat} {line : PreparedLine Cmd} {before after : Phase}
    {code : ExitCode} (hold : books.flights[index]? = some ⟨line, before⟩)
    (hflights : next.flights = books.flights.set index ⟨line, after⟩)
    (hbefore : before.ended? = none) (hafter : after.ended? = some code) :
    Ledger.Step bound (books.ledger given interrupt) (next.ledger given interrupt) := by
  have haloft : (books.ledger given interrupt).flights[index]? = some (line, none) := by
    simp only [ledger, landings, List.getElem?_map, hold, Option.map_some, hbefore]
  have hlandings : next.landings = books.landings.set index (line, some code) := by
    simp only [landings, hflights, List.map_set, hafter]
  have hstep : Ledger.Step bound (books.ledger given interrupt)
      { books.ledger given interrupt with
        flights := (books.ledger given interrupt).flights.set index (line, some code) } :=
    Ledger.Step.land _ index line code haloft
  simpa only [ledger, hlandings] using hstep

/-- Moving on within the worker, or after leaving it, is no step of the ledger. -/
theorem ledger_idle {bound index : Nat} {line : PreparedLine Cmd} {before after : Phase}
    (hold : books.flights[index]? = some ⟨line, before⟩)
    (hflights : next.flights = books.flights.set index ⟨line, after⟩)
    (hended : after.ended? = before.ended?) :
    Ledger.Step bound (books.ledger given interrupt) (next.ledger given interrupt) := by
  have hlandings : next.landings = books.landings := by
    rw [landings, landings, hflights]
    exact map_set_of_eq hold ⟨line, after⟩ (by simp only [hended])
  rw [ledger, ledger, hlandings]
  exact Ledger.Step.idle _

/-- Replacing the phase of a line leaves the lines in flight as they are. -/
theorem inFlight_set {index : Nat} {line : PreparedLine Cmd} {before after : Phase}
    (hold : books.flights[index]? = some ⟨line, before⟩)
    (hflights : next.flights = books.flights.set index ⟨line, after⟩) :
    next.inFlight = books.inFlight := by
  rw [inFlight, inFlight, hflights]
  exact map_set_of_eq hold ⟨line, after⟩ rfl

@[simp] theorem inFlight_launch (books : Books Cmd) (line : PreparedLine Cmd) :
    (books.launch line).inFlight = books.inFlight ++ [line] := by
  simp only [inFlight, flights_launch, List.map_append, List.map_cons, List.map_nil]

@[simp] theorem inFlight_skip (books : Books Cmd) (count : Nat) :
    (books.skip count).inFlight = books.inFlight := rfl

end Books

/-! ## Executors -/

/-- An executor with what can be observed of its states. -/
structure Machine (Cmd : Type) where
  State : Type
  initial : State
  step : (Nat → DispatchResult) → State → Action Cmd → Option State
  books : State → Books Cmd
  /-- the lines the executor has been given so far -/
  given : State → List (PreparedLine Cmd)
  interrupt : State → Bool
  /-- the next step of the executor task puts a line in flight unless the
  interrupt flag is set -/
  poised : State → Bool
  returned : State → Bool

namespace Machine

variable (machine : Machine Cmd)

/-- The executor with every command's result fixed. -/
def system (dispatch : Nat → DispatchResult) : System machine.State (Action Cmd) where
  initial := machine.initial
  step := machine.step dispatch

/-- The lines ever put in flight, in that order. -/
def inFlight (state : machine.State) : List (PreparedLine Cmd) := (machine.books state).inFlight

/-- How many lines in flight occupy a worker. -/
def unfinished (state : machine.State) : Nat := (machine.books state).unfinished

/-- What the executor returns, once it has. -/
def result (state : machine.State) : Option (ExitCode × Summary) :=
  if machine.returned state then
    some ((machine.books state).worst, (machine.books state).summary)
  else none

/-- Executing a run exhibits what the executor returns at its end. -/
theorem exists_returned [DecidableEq Cmd] (dispatch : Nat → DispatchResult)
    (actions : List (Action Cmd)) (script lines : List (PreparedLine Cmd))
    (account : ExitCode × Summary)
    (hrun : ((machine.system dispatch).run machine.initial actions).any (fun state =>
      decide (machine.given state = script ∧ machine.inFlight state = lines ∧
        machine.result state = some account)) = true) :
    ∃ state, (machine.system dispatch).Reachable state ∧ machine.given state = script ∧
      machine.inFlight state = lines ∧ machine.result state = some account := by
  obtain ⟨state, hreach, htest⟩ := (machine.system dispatch).exists_reachable actions _ hrun
  exact ⟨state, hreach, of_decide_eq_true htest⟩

/-- An executor seen as a dispatcher: its lines, and those that have landed. -/
def ledger (state : machine.State) : Ledger (PreparedLine Cmd) ExitCode :=
  (machine.books state).ledger (machine.given state) (machine.interrupt state)

/-- The account an executor gives on return: nothing is running, its counters
are those of the codes of the lines it dispatched, recorded in some order, every
line it was given but did not dispatch is skipped, and there is a reason for
such lines. -/
structure Settled (opts : ExecutorOptions) (dispatch : Nat → DispatchResult)
    (state : machine.State) : Prop where
  finished : machine.unfinished state = 0
  tallied : ∃ order, order.Perm (lineCodes dispatch (machine.inFlight state)) ∧
    Books.Tallied order ((machine.given state).length - (machine.inFlight state).length)
      (machine.books state)
  cause : machine.inFlight state = machine.given state ∨ machine.interrupt state = true ∨
    opts.Tripped (lineCodes dispatch (machine.inFlight state))

/-- When an executor puts a line in flight. -/
structure Lawful : Prop where
  /-- only a poised executor task puts a line in flight, and only uninterrupted -/
  inFlight_step : ∀ dispatch state action next, machine.step dispatch state action = some next →
    machine.inFlight next = machine.inFlight state ∨
      action = .exec ∧ machine.poised state = true ∧ machine.interrupt state = false ∧
        ∃ line, machine.inFlight next = machine.inFlight state ++ [line]
  /-- a poised and uninterrupted executor task does put a line in flight -/
  launch : ∀ dispatch state, machine.poised state = true → machine.interrupt state = false →
    ∃ next line, machine.step dispatch state .exec = some next ∧
      machine.inFlight next = machine.inFlight state ++ [line]
  /-- the interrupt flag is set on a SIGINT only and never cleared -/
  interrupt_step : ∀ dispatch state action next, machine.step dispatch state action = some next →
    (machine.interrupt next = true ↔ machine.interrupt state = true ∨ action = .sigint)

/-- What holds of every executor with these options. -/
structure Sound (opts : ExecutorOptions) : Prop extends machine.Lawful where
  /-- every step is a step of an in-order dispatcher with `workers` slots -/
  simulates : ∀ dispatch,
    (machine.system dispatch).Simulates machine.ledger (Ledger.Step opts.workers)
  settled : ∀ dispatch state, (machine.system dispatch).Reachable state →
    machine.returned state = true → machine.Settled opts dispatch state
  ledger_initial : (machine.ledger machine.initial).Valid opts.workers

variable {machine} {opts : ExecutorOptions} {dispatch : Nat → DispatchResult}
  {state final : machine.State}

theorem result_eq_some {code : ExitCode} {summary : Summary}
    (hresult : machine.result state = some (code, summary)) :
    machine.returned state = true ∧ (machine.books state).worst = code ∧
      (machine.books state).summary = summary := by
  unfold result at hresult
  split at hresult
  next hreturned =>
    obtain ⟨hcode, hsummary⟩ := Prod.mk.inj (Option.some.inj hresult)
    exact ⟨hreturned, hcode, hsummary⟩
  next => cases hresult

/-- Every reachable state is in order and within the bound. -/
theorem Sound.valid (hsound : machine.Sound opts)
    (hreach : (machine.system dispatch).Reachable state) :
    (machine.ledger state).Valid opts.workers :=
  (hsound.simulates dispatch).invariant (Ledger.Valid opts.workers) hsound.ledger_initial
    (fun _ _ hvalid hstep => hstep.valid hvalid) hreach

/-- A step taken with the interrupt flag set leaves the lines in flight alone. -/
theorem inFlight_step_interrupted (hlawful : machine.Lawful) {action : Action Cmd}
    {next : machine.State} (hinterrupt : machine.interrupt state = true)
    (hstep : machine.step dispatch state action = some next) :
    machine.inFlight next = machine.inFlight state := by
  rcases hlawful.inFlight_step dispatch state action next hstep with hsame | hlaunch
  · exact hsame
  · obtain ⟨-, -, hclear, -⟩ := hlaunch
    rw [hinterrupt] at hclear
    cases hclear

end Machine

end S7cmd.BatchRun
