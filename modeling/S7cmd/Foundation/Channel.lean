import Mathlib.Data.List.Basic

/-!
# Unbounded first-in first-out channels

A channel with one sender and one receiver. The messages already received are
kept as history, so that every message ever sent is the received history
followed by the queue: order and losslessness hold by construction.
-/

namespace Foundation

/-- What awaiting the next message can report. -/
inductive Received (α : Type*) where
  | message (value : α)
  | closed
  deriving DecidableEq, Repr

structure Channel (α : Type*) where
  received : List α := []
  queue : List α := []
  closed : Bool := false
  deriving DecidableEq, Repr

namespace Channel

variable {α : Type*}

/-- Every message ever sent, oldest first. -/
def sent (channel : Channel α) : List α := channel.received ++ channel.queue

/-- The sender puts a message on the queue; a dropped sender cannot. -/
def send (channel : Channel α) (value : α) : Option (Channel α) :=
  if channel.closed then none else some { channel with queue := channel.queue ++ [value] }

/-- The sender is dropped. -/
def close (channel : Channel α) : Channel α := { channel with closed := true }

/-- Take the oldest message. An empty channel reports its end only once the
sender is gone; until then the receiver waits. -/
def recv (channel : Channel α) : Option (Received α × Channel α) :=
  match channel.queue with
  | value :: rest =>
      some (.message value,
        { channel with received := channel.received ++ [value], queue := rest })
  | [] => if channel.closed then some (.closed, channel) else none

/-- Take the oldest message if there is one; the end of the channel looks the same as
a channel that is empty for now. -/
def tryRecv (channel : Channel α) : Option (α × Channel α) :=
  match channel.queue with
  | value :: rest =>
      some (value, { channel with received := channel.received ++ [value], queue := rest })
  | [] => none

theorem tryRecv_eq_some {channel next : Channel α} {value : α}
    (hrecv : channel.tryRecv = some (value, next)) :
    ∃ rest, channel.queue = value :: rest ∧
      next = { channel with received := channel.received ++ [value], queue := rest } := by
  unfold tryRecv at hrecv
  split at hrecv
  next head rest hqueue =>
    cases hrecv
    exact ⟨rest, hqueue, rfl⟩
  next => cases hrecv

theorem tryRecv_eq_none {channel : Channel α} (hrecv : channel.tryRecv = none) :
    channel.queue = [] := by
  unfold tryRecv at hrecv
  split at hrecv
  next => cases hrecv
  next hqueue => exact hqueue

theorem send_eq_some {channel next : Channel α} {value : α}
    (hsend : channel.send value = some next) :
    channel.closed = false ∧ next = { channel with queue := channel.queue ++ [value] } := by
  unfold send at hsend
  split at hsend
  · cases hsend
  · next hopen => exact ⟨by simpa using hopen, (Option.some.inj hsend).symm⟩

/-- As long as the sender is there it can send. -/
theorem exists_send {channel : Channel α} (hopen : channel.closed = false) (value : α) :
    ∃ next, channel.send value = some next :=
  ⟨{ channel with queue := channel.queue ++ [value] }, by simp [send, hopen]⟩

theorem sent_send {channel next : Channel α} {value : α}
    (hsend : channel.send value = some next) : next.sent = channel.sent ++ [value] := by
  obtain ⟨-, rfl⟩ := send_eq_some hsend
  simp only [sent, List.append_assoc]

/-- Receiving a message moves the head of the queue into the history. -/
theorem recv_message {channel next : Channel α} {value : α}
    (hrecv : channel.recv = some (.message value, next)) :
    ∃ rest, channel.queue = value :: rest ∧
      next = { channel with received := channel.received ++ [value], queue := rest } := by
  unfold recv at hrecv
  split at hrecv
  next head rest hqueue =>
    obtain ⟨hvalue, rfl⟩ := Prod.mk.inj (Option.some.inj hrecv)
    cases hvalue
    exact ⟨rest, hqueue, rfl⟩
  next hqueue =>
    split at hrecv <;> simp at hrecv

/-- The end of the channel is reported on an empty queue without a sender. -/
theorem recv_closed {channel next : Channel α} (hrecv : channel.recv = some (.closed, next)) :
    channel.queue = [] ∧ channel.closed = true ∧ next = channel := by
  unfold recv at hrecv
  split at hrecv
  next => simp at hrecv
  next hqueue =>
    split at hrecv
    next hclosed => exact ⟨hqueue, hclosed, (Prod.mk.inj (Option.some.inj hrecv)).2.symm⟩
    next => cases hrecv

theorem recv_of_cons {channel : Channel α} {value : α} {rest : List α}
    (hqueue : channel.queue = value :: rest) :
    channel.recv = some (.message value,
      { channel with received := channel.received ++ [value], queue := rest }) := by
  simp only [recv, hqueue]

theorem recv_of_closed {channel : Channel α} (hqueue : channel.queue = [])
    (hclosed : channel.closed = true) : channel.recv = some (.closed, channel) := by
  simp only [recv, hqueue, hclosed, if_true]

/-- What receiving a message leaves behind. -/
theorem exists_recv_of_cons {channel : Channel α} {value : α} {rest : List α}
    (hqueue : channel.queue = value :: rest) :
    ∃ next, channel.recv = some (.message value, next) ∧ next.queue = rest ∧
      next.closed = channel.closed :=
  ⟨_, recv_of_cons hqueue, rfl, rfl⟩

/-- Without a sender the receiver never waits. -/
theorem exists_recv_of_closed {channel : Channel α} (hclosed : channel.closed = true) :
    ∃ item, channel.recv = some item := by
  cases hqueue : channel.queue with
  | nil => exact ⟨_, recv_of_closed hqueue hclosed⟩
  | cons value rest => exact ⟨_, recv_of_cons hqueue⟩

theorem sent_recv {channel next : Channel α} {item : Received α}
    (hrecv : channel.recv = some (item, next)) : next.sent = channel.sent := by
  cases item with
  | message value =>
      obtain ⟨rest, hqueue, rfl⟩ := recv_message hrecv
      simp only [sent, hqueue, List.append_assoc, List.singleton_append]
  | closed =>
      obtain ⟨-, -, rfl⟩ := recv_closed hrecv
      rfl

end Channel

end Foundation
