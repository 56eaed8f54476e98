import Mathlib.Data.List.Induction
import S7cmd.Foundation.Channel
import S7cmd.Foundation.Transition

/-!
# A task that polls a channel

A sender sends its messages and closes the channel. The polling task takes messages
until it finds none, looks at its clock, and asks whether the channel is closed; if it
is not, it sleeps and begins again. These are separate steps: what is sent between the
last look at the messages and the question whether the channel is closed stays there
unread.
-/

namespace Foundation

variable {α β : Type*}

/-- What the task does with the messages, and at the end of each period. -/
structure PollerBody (α β : Type*) where
  account : β
  observe : β → α → β
  refresh : β → β
  /-- the length of a period -/
  interval : Nat

namespace Poller

inductive Pc where
  /-- in the loop over the messages that are there -/
  | receiving
  /-- before the look at the clock -/
  | timing
  /-- before the question whether the channel is closed -/
  | closing
  | done
  deriving DecidableEq, Repr

structure State (α β : Type*) where
  channel : Channel α := {}
  /-- what the sender has still to send -/
  unsent : List α
  account : β
  pc : Pc := .receiving
  now : Nat := 0
  periodStart : Nat := 0

inductive Action where
  /-- the polling task takes its next step -/
  | turn
  /-- time passes -/
  | tick
  /-- the sender sends its next message, or closes the channel behind the last -/
  | sender
  deriving DecidableEq, Repr

variable (body : PollerBody α β)

/-- The period is over. -/
def overdue (state : State α β) : Bool := body.interval < state.now - state.periodStart

def turn (state : State α β) : Option (State α β) :=
  match state.pc with
  | .receiving =>
      match state.channel.tryRecv with
      | some (message, channel) =>
          some { state with channel, account := body.observe state.account message }
      | none => some { state with pc := .timing }
  | .timing =>
      if overdue body state then
        some { state with
          account := body.refresh state.account
          periodStart := state.now
          pc := .receiving }
      else some { state with pc := .closing }
  | .closing =>
      if state.channel.closed then some { state with pc := .done }
      else some { state with pc := .receiving }
  | .done => none

def send (state : State α β) : Option (State α β) :=
  match state.unsent with
  | message :: rest =>
      (state.channel.send message).map fun channel => { state with channel, unsent := rest }
  | [] =>
      if state.channel.closed then none else some { state with channel := state.channel.close }

def step (state : State α β) : Action → Option (State α β)
  | .turn => turn body state
  | .tick => some { state with now := state.now + 1 }
  | .sender => send state

/-- A sender of these messages beside the polling task. -/
def system (messages : List α) : System (State α β) Action where
  initial := { unsent := messages, account := body.account }
  step := step body

/-- What a step can do. -/
inductive Moves (state : State α β) : Action → State α β → Prop
  | observed (message : α) (rest : List α) (hpc : state.pc = .receiving)
      (hqueue : state.channel.queue = message :: rest) :
      Moves state .turn { state with
        channel := { state.channel with
          received := state.channel.received ++ [message]
          queue := rest }
        account := body.observe state.account message }
  | emptied (hpc : state.pc = .receiving) (hqueue : state.channel.queue = []) :
      Moves state .turn { state with pc := .timing }
  | refreshed (hpc : state.pc = .timing) (hoverdue : overdue body state = true) :
      Moves state .turn { state with
        account := body.refresh state.account
        periodStart := state.now
        pc := .receiving }
  | timed (hpc : state.pc = .timing) (hoverdue : overdue body state = false) :
      Moves state .turn { state with pc := .closing }
  | ended (hpc : state.pc = .closing) (hclosed : state.channel.closed = true) :
      Moves state .turn { state with pc := .done }
  | slept (hpc : state.pc = .closing) (hopen : state.channel.closed = false) :
      Moves state .turn { state with pc := .receiving }
  | ticked : Moves state .tick { state with now := state.now + 1 }
  | sent (message : α) (rest : List α) (hunsent : state.unsent = message :: rest)
      (hopen : state.channel.closed = false) :
      Moves state .sender { state with
        channel := { state.channel with queue := state.channel.queue ++ [message] }
        unsent := rest }
  | closed (hunsent : state.unsent = []) (hopen : state.channel.closed = false) :
      Moves state .sender { state with channel := state.channel.close }

variable {body} {messages : List α} {state next : State α β}

theorem turn_moves (hturn : turn body state = some next) : Moves body state .turn next := by
  unfold turn at hturn
  split at hturn
  next hpc =>
    split at hturn
    next message channel hrecv =>
      obtain ⟨rest, hqueue, rfl⟩ := Channel.tryRecv_eq_some hrecv
      cases hturn
      exact .observed message rest hpc hqueue
    next hrecv =>
      cases hturn
      exact .emptied hpc (Channel.tryRecv_eq_none hrecv)
  next hpc =>
    split at hturn
    next hoverdue =>
      cases hturn
      exact .refreshed hpc hoverdue
    next hoverdue =>
      cases hturn
      exact .timed hpc (by simpa using hoverdue)
  next hpc =>
    split at hturn
    next hclosed =>
      cases hturn
      exact .ended hpc hclosed
    next hopen =>
      cases hturn
      exact .slept hpc (by simpa using hopen)
  next => cases hturn

theorem send_moves (hsend : send state = some next) : Moves body state .sender next := by
  unfold send at hsend
  split at hsend
  next message rest hunsent =>
    obtain ⟨channel, hchannel, rfl⟩ := Option.map_eq_some_iff.mp hsend
    obtain ⟨hopen, rfl⟩ := Channel.send_eq_some hchannel
    exact .sent message rest hunsent hopen
  next hunsent =>
    split at hsend
    next => cases hsend
    next hopen =>
      cases hsend
      exact .closed hunsent (by simpa using hopen)

theorem step_moves {action : Action} (hstep : step body state action = some next) :
    Moves body state action next := by
  cases action with
  | turn => exact turn_moves hstep
  | tick =>
      cases hstep
      exact .ticked
  | sender => exact send_moves hstep

/-! ## The account -/

/-- Every message has been received, waits, or is unsent, and the channel is closed
behind the last. -/
structure Inv (messages : List α) (state : State α β) : Prop where
  split : state.channel.received ++ state.channel.queue ++ state.unsent = messages
  closed : state.channel.closed = true → state.unsent = []
  done : state.pc = .done → state.channel.closed = true

theorem inv_reachable (hreach : (system body messages).Reachable state) : Inv messages state := by
  apply hreach.invariant (Inv messages)
    ⟨rfl, fun hclosed => (Bool.false_ne_true hclosed).elim, fun hdone => by cases hdone⟩
  intro state action next hinv hstep
  cases step_moves hstep with
  | observed message rest hpc hqueue =>
      refine ⟨?_, hinv.closed, fun hdone => by cases hpc.symm.trans hdone⟩
      rw [← hinv.split, hqueue]
      simp only [List.append_assoc, List.cons_append, List.nil_append]
  | emptied hpc hqueue => exact ⟨hinv.split, hinv.closed, fun hdone => by cases hdone⟩
  | refreshed hpc hoverdue => exact ⟨hinv.split, hinv.closed, fun hdone => by cases hdone⟩
  | timed hpc hoverdue => exact ⟨hinv.split, hinv.closed, fun hdone => by cases hdone⟩
  | ended hpc hclosed => exact ⟨hinv.split, hinv.closed, fun _ => hclosed⟩
  | slept hpc hopen => exact ⟨hinv.split, hinv.closed, fun hdone => by cases hdone⟩
  | ticked => exact ⟨hinv.split, hinv.closed, hinv.done⟩
  | sent message rest hunsent hopen =>
      refine ⟨?_, fun hclosed => absurd (hopen.symm.trans hclosed) (by decide), hinv.done⟩
      rw [← hinv.split, hunsent]
      simp only [List.append_assoc, List.cons_append, List.nil_append]
  | closed hunsent hopen => exact ⟨hinv.split, fun _ => hunsent, fun _ => rfl⟩

/-- The run has come here since the polling task last found its channel empty, and the
task has received nothing in between. -/
def Looked (body : PollerBody α β) (messages : List α) (actions : List Action)
    (state : State α β) : Prop :=
  ∃ before since seen, actions = before ++ since ∧
    (system body messages).run (system body messages).initial before = some seen ∧
    (system body messages).run seen since = some state ∧ seen.channel.queue = [] ∧
    state.channel.received = seen.channel.received

/-- A step beyond the loop over the messages. -/
theorem Looked.append {actions : List Action} {action : Action}
    (hlooked : Looked body messages actions state) (hstep : step body state action = some next)
    (hreceived : next.channel.received = state.channel.received) :
    Looked body messages (actions ++ [action]) next := by
  obtain ⟨before, since, seen, rfl, hbefore, hsince, hempty, hsame⟩ := hlooked
  exact ⟨before, since ++ [action], seen, List.append_assoc _ _ _, hbefore,
    (system body messages).run_append_singleton.mpr ⟨state, hsince, hstep⟩, hempty,
    hreceived.trans hsame⟩

end Poller

end Foundation
