import S7cmd.Foundation.PointUpdate

/-!
# In-order dispatch with a bound on work in flight

A ledger records the items handed to a dispatcher, the items it has put in
flight with the result each has come back with, and whether dispatching has
been halted. The step relation says what any dispatcher may do: put the next
item in flight while there is room and no halt, and let any item in flight
land. Everything else about a dispatcher (queues, permits, tasks) is below it.
-/

namespace Foundation

structure Ledger (α β : Type*) where
  given : List α
  flights : List (α × Option β)
  halted : Bool

namespace Ledger

variable {α β : Type*}

/-- The items put in flight, in that order. -/
def launched (ledger : Ledger α β) : List α := ledger.flights.map Prod.fst

/-- How many items in flight have not landed. -/
def aloft (ledger : Ledger α β) : Nat := ledger.flights.countP fun flight => flight.2.isNone

/-- One step of a dispatcher with at most `bound` items aloft. -/
inductive Step (bound : Nat) : Ledger α β → Ledger α β → Prop
  | idle (ledger : Ledger α β) : Step bound ledger ledger
  | give (ledger : Ledger α β) (item : α) :
      Step bound ledger { ledger with given := ledger.given ++ [item] }
  | halt (ledger : Ledger α β) : Step bound ledger { ledger with halted := true }
  | launch (ledger : Ledger α β) (item : α) (hrunning : ledger.halted = false)
      (hnext : ledger.launched ++ [item] <+: ledger.given) (hroom : ledger.aloft < bound) :
      Step bound ledger { ledger with flights := ledger.flights ++ [(item, none)] }
  | land (ledger : Ledger α β) (index : Nat) (item : α) (result : β)
      (haloft : ledger.flights[index]? = some (item, none)) :
      Step bound ledger { ledger with flights := ledger.flights.set index (item, some result) }

/-- What a dispatcher promises in every state. -/
structure Valid (bound : Nat) (ledger : Ledger α β) : Prop where
  launched_inOrder : ledger.launched <+: ledger.given
  aloft_le : ledger.aloft ≤ bound

theorem Step.valid {bound : Nat} {before after : Ledger α β} (hvalid : before.Valid bound)
    (hstep : Step bound before after) : after.Valid bound := by
  cases hstep with
  | idle => exact hvalid
  | give item => exact ⟨hvalid.launched_inOrder.trans (List.prefix_append _ _), hvalid.aloft_le⟩
  | halt => exact ⟨hvalid.launched_inOrder, hvalid.aloft_le⟩
  | launch item hrunning hnext hroom =>
      constructor
      · simpa only [launched, List.map_append, List.map_cons, List.map_nil] using hnext
      · simp only [aloft, List.countP_append, List.countP_singleton, Option.isNone_none,
          if_true] at hroom ⊢
        omega
  | land index item result haloft =>
      constructor
      · simpa only [launched, map_set_of_eq haloft (item, some result) (f := Prod.fst) rfl]
          using hvalid.launched_inOrder
      · have hcount := countP_set_add haloft (item, some result) fun flight => flight.2.isNone
        have hbound := hvalid.aloft_le
        simp only [Option.isNone_none, Option.isNone_some, if_true, Bool.false_eq_true,
          if_false] at hcount
        simp only [aloft] at hbound ⊢
        omega

end Ledger

end Foundation
