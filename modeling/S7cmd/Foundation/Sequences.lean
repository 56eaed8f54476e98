import Mathlib.Data.List.Basic

/-!
# Parts of a list

The items up to a delimiter, the prefix at which a walk along a list stops, and the last
samples of a sequence.
-/

namespace Foundation

/-! ## Items up to a delimiter -/

namespace Delimited

variable {α : Type*} [DecidableEq α] (delimiter : α)

/-- The items before the first delimiter, all of them if there is none. -/
def front (items : List α) : List α := items.takeWhile (· ≠ delimiter)

/-- The items behind the first delimiter. -/
def after (items : List α) : List α := (items.dropWhile (· ≠ delimiter)).drop 1

variable {delimiter} {items : List α}

theorem all_ne (hnot : delimiter ∉ items) :
    ∀ item ∈ items, decide (item ≠ delimiter) = true := by
  intro item hitem
  rw [decide_eq_true_iff]
  exact ne_of_mem_of_not_mem hitem hnot

theorem front_append (hnot : delimiter ∉ items) (later : List α) :
    front delimiter (items ++ later) = items ++ front delimiter later :=
  List.takeWhile_append_of_pos (all_ne hnot)

theorem after_append (hnot : delimiter ∉ items) (later : List α) :
    after delimiter (items ++ later) = after delimiter later := by
  rw [after, List.dropWhile_append_of_pos (all_ne hnot)]
  rfl

@[simp] theorem front_cons_self (later : List α) : front delimiter (delimiter :: later) = [] := by
  simp [front]

@[simp] theorem after_cons_self (later : List α) :
    after delimiter (delimiter :: later) = later := by
  simp [after]

theorem front_of_not_mem (hnot : delimiter ∉ items) : front delimiter items = items := by
  have hfront := front_append hnot []
  rwa [List.append_nil, show front delimiter [] = [] from rfl, List.append_nil] at hfront

/-- Something of a list that is not empty comes before what is left of it. -/
theorem length_after_lt (hne : items ≠ []) : (after delimiter items).length < items.length := by
  have hdrop : (items.dropWhile (· ≠ delimiter)).length ≤ items.length :=
    (List.dropWhile_sublist _).length_le
  have hpos := List.length_pos_iff.mpr hne
  rw [after, List.length_drop]
  omega

/-- A list splits at its first delimiter. -/
theorem split_of_idxOf? {index : Nat} (hindex : items.idxOf? delimiter = some index) :
    items = items.take index ++ delimiter :: items.drop (index + 1) ∧
      delimiter ∉ items.take index := by
  obtain ⟨hlt, hget, hfirst⟩ := List.idxOf?_eq_some_iff.mp hindex
  constructor
  · rw [← hget, List.getElem_cons_drop, List.take_append_drop]
  · intro hmem
    obtain ⟨position, hposition, htake⟩ := List.mem_iff_getElem.mp hmem
    rw [List.length_take, Nat.lt_min] at hposition
    rw [List.getElem_take] at htake
    exact hfirst position hposition.1 htake

end Delimited

/-! ## Where a walk is cut off

A walk takes the elements of a list in order and stops at the first prefix that gives
it a reason to, or at the end. Two walks with the same reasons stop at the same place. -/

section CutOff

variable {α : Type*}

/-- No prefix short of this one is a reason to stop. -/
def Going (stops : List α → Prop) (front : List α) : Prop :=
  ∀ shorter, shorter <+: front → shorter ≠ front → ¬ stops shorter

/-- The walk along the list stops behind this prefix. -/
structure CutOff (stops : List α → Prop) (whole front : List α) : Prop where
  inOrder : front <+: whole
  going : Going stops front
  stopped : front = whole ∨ stops front

variable {stops : List α → Prop}

theorem going_nil : Going stops ([] : List α) := by
  intro shorter hshorter hne
  exact absurd (List.prefix_nil.mp hshorter) hne

/-- The walk takes one more element. -/
theorem Going.concat {front : List α} (hgoing : Going stops front) (hfront : ¬ stops front)
    (value : α) : Going stops (front ++ [value]) := by
  intro shorter hshorter hne
  rcases List.prefix_concat_iff.mp hshorter with heq | hshorter
  · exact absurd heq hne
  · by_cases heq : shorter = front
    · rwa [heq]
    · exact hgoing shorter hshorter heq

/-- A walk does not get beyond where another one stops. -/
theorem CutOff.eq_of_inOrder {whole first second : List α} (hfirst : CutOff stops whole first)
    (hsecond : CutOff stops whole second) (hinit : first <+: second) : first = second := by
  by_contra hne
  have hwhole := hfirst.stopped.resolve_right (hsecond.going first hinit hne)
  exact hne (hinit.eq_of_length_le (hwhole ▸ hsecond.inOrder.length_le))

theorem CutOff.unique {whole first second : List α} (hfirst : CutOff stops whole first)
    (hsecond : CutOff stops whole second) : first = second := by
  rcases List.prefix_or_prefix_of_prefix hfirst.inOrder hsecond.inOrder with hinit | hinit
  · exact hfirst.eq_of_inOrder hsecond hinit
  · exact (hsecond.eq_of_inOrder hfirst hinit).symm

/-- A walk with fewer reasons to stop gets at least as far. -/
theorem CutOff.mono {fewer : List α → Prop} (hfewer : ∀ front, fewer front → stops front)
    {whole first second : List α} (hfirst : CutOff stops whole first)
    (hsecond : CutOff fewer whole second) : first <+: second := by
  rcases List.prefix_or_prefix_of_prefix hfirst.inOrder hsecond.inOrder with hinit | hinit
  · exact hinit
  · by_cases heq : second = first
    · exact ⟨[], by rw [heq, List.append_nil]⟩
    · have hwhole := hsecond.stopped.resolve_right fun hstops =>
        hfirst.going second hinit heq (hfewer second hstops)
      rw [hwhole]
      exact hfirst.inOrder

end CutOff

/-! ## Moving averages

The average of the last samples, as many as the window holds, in whole numbers. -/

/-- The last samples, the latest first. -/
structure MovingAverage (window : Nat) where
  samples : List Nat
  length_le : samples.length ≤ window

namespace MovingAverage

variable {window : Nat}

/-- No sample yet. -/
def empty : MovingAverage window := ⟨[], Nat.zero_le window⟩

def addSample (average : MovingAverage window) (sample : Nat) : MovingAverage window where
  samples := (sample :: average.samples).take window
  length_le := List.length_take_le _ _

/-- All samples together. -/
def sum (average : MovingAverage window) : Nat :=
  average.samples.foldr (· + ·) 0

theorem foldr_take_le (samples : List Nat) (count : Nat) :
    (samples.take count).foldr (· + ·) 0 ≤ samples.foldr (· + ·) 0 := by
  induction samples generalizing count with
  | nil => simp
  | cons sample rest ih =>
      cases count with
      | zero => simp
      | succ count => exact Nat.add_le_add_left (ih count) sample

/-- A new sample adds itself and may drop an old one. -/
theorem sum_addSample_le (average : MovingAverage window) (sample : Nat) :
    (average.addSample sample).sum ≤ sample + average.sum :=
  foldr_take_le _ _

end MovingAverage

end Foundation
