import S7cmd.Foundation.PointUpdate
import Mathlib.Data.List.Induction

/-!
# Interleavings

A log that several parties write to, each its own events in their order. Parties may
join while the log is written. The log then holds the events of all parties and no
others, and those of each party in the party's order.
-/

namespace Foundation

variable {α : Type*}

/-- The log interleaves the streams of its writers. -/
inductive Interleaving : List (List α) → List α → Prop
  | empty : Interleaving [] []
  /-- a writer joins -/
  | joined {streams : List (List α)} {log : List α} (hlog : Interleaving streams log) :
      Interleaving (streams ++ [[]]) log
  /-- a writer writes its next event -/
  | written {streams : List (List α)} {log stream : List α} {index : Nat}
      (hstream : streams[index]? = some stream) (event : α) (hlog : Interleaving streams log) :
      Interleaving (streams.set index (stream ++ [event])) (log ++ [event])

namespace Interleaving

variable {streams : List (List α)} {log stream : List α} {index : Nat}

/-- A writer writes several events in a row. -/
theorem append (hlog : Interleaving streams log) (hstream : streams[index]? = some stream)
    (events : List α) : Interleaving (streams.set index (stream ++ events)) (log ++ events) := by
  induction events using List.reverseRecOn with
  | nil =>
      obtain ⟨hlt, rfl⟩ := List.getElem?_eq_some_iff.mp hstream
      rwa [List.append_nil, List.append_nil, List.set_getElem_self]
  | append_singleton events event ih =>
      have hlt := (List.getElem?_eq_some_iff.mp hstream).1
      have hwritten := ih.written (List.getElem?_set_self hlt) event
      rwa [List.set_set, List.append_assoc, List.append_assoc] at hwritten

/-- A writer joins and writes. -/
theorem append_new (hlog : Interleaving streams log) (events : List α) :
    Interleaving (streams ++ [events]) (log ++ events) := by
  have happend := hlog.joined.append List.getElem?_concat_length events
  rwa [List.nil_append, List.set_append_right _ _ (Nat.le_refl _), Nat.sub_self,
    List.set_cons_zero] at happend

/-- The log holds the events of the streams and no others. -/
theorem perm (hlog : Interleaving streams log) : log.Perm streams.flatten := by
  induction hlog with
  | empty => exact List.Perm.refl _
  | joined _ ih =>
      rwa [List.flatten_append, List.flatten_singleton, List.append_nil]
  | written hstream event _ ih =>
      obtain ⟨before, after, -, rfl, hset⟩ := exists_split_of_getElem? hstream
      rw [hset]
      simp only [List.flatten_append, List.flatten_cons, List.append_assoc] at ih ⊢
      -- the event moves from the end of the log to the end of its stream
      apply (ih.append_right [event]).trans
      simp only [List.append_assoc]
      exact (List.perm_append_comm.append_left _).append_left _

/-- The log keeps the order of each stream. -/
theorem sublist (hlog : Interleaving streams log) (hstream : streams[index]? = some stream) :
    stream.Sublist log := by
  induction hlog generalizing index stream with
  | empty => cases hstream
  | joined _ ih =>
      rw [List.getElem?_append] at hstream
      split at hstream
      · exact ih hstream
      · have hnil := List.mem_of_getElem? hstream
        rw [List.mem_singleton] at hnil
        exact hnil ▸ List.nil_sublist _
  | written hold event _ ih =>
      rw [List.getElem?_set] at hstream
      split at hstream
      next heq =>
        split at hstream
        · cases hstream
          exact (ih hold).append (List.Sublist.refl _)
        · cases hstream
      next => exact (ih hstream).trans (List.sublist_append_left _ _)

end Interleaving

end Foundation
