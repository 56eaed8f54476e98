import Mathlib.Data.List.Basic

/-!
# Replacing one entry of a list

Counts, selections, and images of a list after one of its entries is replaced,
in terms of the old and the new entry.
-/

namespace Foundation

variable {α β : Type*}

/-- Replacing an entry keeps what stands before and after it. -/
theorem exists_split_of_getElem? {list : List α} {index : Nat} {old : α}
    (hold : list[index]? = some old) :
    ∃ before after, before.length = index ∧ list = before ++ old :: after ∧
      ∀ new, list.set index new = before ++ new :: after := by
  obtain ⟨hlt, hget⟩ := List.getElem?_eq_some_iff.mp hold
  refine ⟨list.take index, list.drop (index + 1), by simp; omega, ?_, ?_⟩
  · rw [← hget, List.getElem_cons_drop, List.take_append_drop]
  · intro new
    exact List.set_eq_take_append_cons_drop.trans (if_pos hlt)

theorem countP_set_add {list : List α} {index : Nat} {old : α}
    (hold : list[index]? = some old) (new : α) (p : α → Bool) :
    (list.set index new).countP p + (if p old then 1 else 0) =
      list.countP p + (if p new then 1 else 0) := by
  obtain ⟨before, after, -, hlist, hset⟩ := exists_split_of_getElem? hold
  rw [hset, hlist]
  simp only [List.countP_append, List.countP_cons]
  omega

theorem countP_set_of_eq {list : List α} {index : Nat} {old : α}
    (hold : list[index]? = some old) (new : α) {p : α → Bool} (hsame : p new = p old) :
    (list.set index new).countP p = list.countP p := by
  have hcount := countP_set_add hold new p
  rw [hsame] at hcount
  omega

theorem map_set_of_eq {list : List α} {index : Nat} {old : α}
    (hold : list[index]? = some old) (new : α) {f : α → β} (hsame : f new = f old) :
    (list.set index new).map f = list.map f := by
  obtain ⟨before, after, -, hlist, hset⟩ := exists_split_of_getElem? hold
  rw [hset, hlist]
  simp only [List.map_append, List.map_cons, hsame]

theorem filterMap_set_of_eq {list : List α} {index : Nat} {old : α}
    (hold : list[index]? = some old) (new : α) {f : α → Option β} (hsame : f new = f old) :
    (list.set index new).filterMap f = list.filterMap f := by
  obtain ⟨before, after, -, hlist, hset⟩ := exists_split_of_getElem? hold
  rw [hset, hlist]
  simp only [List.filterMap_append, List.filterMap_cons, hsame]

/-- An entry that starts to be selected adds its value, at some place. -/
theorem filterMap_set_perm {list : List α} {index : Nat} {old : α}
    (hold : list[index]? = some old) (new : α) {f : α → Option β} {value : β}
    (hnone : f old = none) (hsome : f new = some value) :
    ((list.set index new).filterMap f).Perm (list.filterMap f ++ [value]) := by
  obtain ⟨before, after, -, hlist, hset⟩ := exists_split_of_getElem? hold
  rw [hset, hlist]
  simp only [List.filterMap_append, List.filterMap_cons, hnone, hsome, List.append_assoc]
  have hmoved : ([value] ++ after.filterMap f).Perm (after.filterMap f ++ [value]) :=
    List.perm_append_comm
  exact hmoved.append_left _

/-! ## Weighing a list -/

/-- The weights of all entries together. -/
def weigh (weight : α → Nat) : List α → Nat
  | [] => 0
  | value :: rest => weight value + weigh weight rest

theorem weigh_append (weight : α → Nat) (first second : List α) :
    weigh weight (first ++ second) = weigh weight first + weigh weight second := by
  induction first with
  | nil => exact (Nat.zero_add _).symm
  | cons value rest ih => simp only [List.cons_append, weigh, ih, Nat.add_assoc]

/-- A lighter entry makes a lighter list. -/
theorem weigh_set_lt {list : List α} {index : Nat} {old new : α} {weight : α → Nat}
    (hold : list[index]? = some old) (hlighter : weight new < weight old) :
    weigh weight (list.set index new) < weigh weight list := by
  obtain ⟨before, after, -, hlist, hset⟩ := exists_split_of_getElem? hold
  rw [hset, hlist, weigh_append, weigh_append]
  simp only [weigh]
  omega

end Foundation
