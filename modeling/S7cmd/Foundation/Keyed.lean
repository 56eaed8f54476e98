import Mathlib.Data.List.Nodup

/-!
# Changing the entries of a collection by their keys

An entry is named by its key and changed by a function that may fail. A collection may be
reordered by the change. Going through a list of keys changes each entry that is named once.
-/

namespace Foundation

variable {α κ : Type} [DecidableEq κ]

/-- What changing one entry does, when keys are unique. -/
structure Mutates (key : α → κ) (mutate : κ → (α → Option α) → List α → Option (List α)) :
    Prop where
  perm : ∀ {items : List α} {item after : α} {f : α → Option α}, (items.map key).Nodup →
    item ∈ items → f item = some after → ∃ result, mutate (key item) f items = some result ∧
      result.Perm (items.map fun other => if key other = key item then after else other)

/-- Change the entries with these keys, one after another. -/
def mutateAll (mutate : κ → (α → Option α) → List α → Option (List α)) (f : α → Option α)
    (keys : List κ) (items : List α) : Option (List α) :=
  keys.foldlM (fun items key => mutate key f items) items

variable {key : α → κ} {mutate : κ → (α → Option α) → List α → Option (List α)}
  {f : α → Option α} {g : α → α} {items : List α} {keys : List κ}

/-- The entries that are named are changed, whatever the order in which the collection keeps
them. -/
theorem Mutates.mutateAll_perm (hmutates : Mutates key mutate)
    (hf : ∀ item ∈ items, key item ∈ keys → f item = some (g item))
    (hkey : ∀ item, key (g item) = key item) (hunique : (items.map key).Nodup)
    (hkeys : keys.Nodup) (hnamed : ∀ name ∈ keys, name ∈ items.map key) :
    ∃ result, mutateAll mutate f keys items = some result ∧
      result.Perm (items.map fun item => if key item ∈ keys then g item else item) := by
  induction keys generalizing items with
  | nil => exact ⟨items, rfl, by simp⟩
  | cons name keys ih =>
      obtain ⟨hfresh, hrest⟩ := List.nodup_cons.mp hkeys
      obtain ⟨item, hitem, rfl⟩ := List.mem_map.mp (hnamed name List.mem_cons_self)
      obtain ⟨middle, hmiddle, hperm⟩ :=
        hmutates.perm hunique hitem (hf item hitem List.mem_cons_self)
      have hchanged : (items.map fun other => if key other = key item then g item else other) =
          items.map fun other => if key other = key item then g other else other := by
        apply List.map_congr_left
        intro other hother
        split
        next hsame => rw [List.inj_on_of_nodup_map hunique hother hitem hsame]
        next => rfl
      rw [hchanged] at hperm
      have hmap : (items.map fun other => if key other = key item then g other else other).map key =
          items.map key := by
        rw [List.map_map]
        apply List.map_congr_left
        intro other _
        simp only [Function.comp]
        split
        next => exact hkey other
        next => rfl
      have hmiddleKeys : (middle.map key).Perm (items.map key) := hmap ▸ hperm.map key
      have hmiddleF : ∀ entry ∈ middle, key entry ∈ keys → f entry = some (g entry) := by
        intro entry hentry hname
        obtain ⟨other, hother, rfl⟩ := List.mem_map.mp (hperm.mem_iff.mp hentry)
        split at hname
        next hsame =>
          rw [hkey, hsame] at hname
          exact absurd hname hfresh
        next hne =>
          rw [if_neg hne]
          exact hf other hother (List.mem_cons_of_mem _ hname)
      obtain ⟨result, hresult, hlast⟩ := ih hmiddleF (hmiddleKeys.nodup_iff.mpr hunique) hrest
        (fun name hname => hmiddleKeys.mem_iff.mpr (hnamed name (List.mem_cons_of_mem _ hname)))
      refine ⟨result, ?_, hlast.trans ?_⟩
      · simp only [mutateAll, List.foldlM_cons, hmiddle, Option.bind_eq_bind, Option.bind_some]
        exact hresult
      · refine (hperm.map _).trans (List.Perm.of_eq ?_)
        rw [List.map_map]
        apply List.map_congr_left
        intro other _
        simp only [Function.comp, List.mem_cons]
        by_cases hsame : key other = key item
        · simp only [hsame, if_true, hkey, hfresh, if_false, true_or]
        · simp only [hsame, if_false, false_or]

/-- Naming the entries with a property changes just these. -/
theorem Mutates.mutateAll_filter_perm (hmutates : Mutates key mutate) (p : α → Bool)
    (hf : ∀ item ∈ items, f item = some (g item)) (hkey : ∀ item, key (g item) = key item)
    (hunique : (items.map key).Nodup) :
    ∃ result, mutateAll mutate f ((items.filter p).map key) items = some result ∧
      result.Perm (items.map fun item => if p item then g item else item) := by
  have hsublist : ((items.filter p).map key).Sublist (items.map key) :=
    List.filter_sublist.map key
  obtain ⟨result, hresult, hperm⟩ := hmutates.mutateAll_perm (fun item hitem _ => hf item hitem)
    hkey hunique (hunique.sublist hsublist) (fun name hname => hsublist.subset hname)
  refine ⟨result, hresult, hperm.trans (List.Perm.of_eq (List.map_congr_left ?_))⟩
  intro item hitem
  have hmem : key item ∈ (items.filter p).map key ↔ p item = true := by
    constructor
    · intro hname
      obtain ⟨other, hother, hsame⟩ := List.mem_map.mp hname
      obtain ⟨hother, hp⟩ := List.mem_filter.mp hother
      rwa [← List.inj_on_of_nodup_map hunique hother hitem hsame]
    · exact fun hp => List.mem_map_of_mem (List.mem_filter.mpr ⟨hitem, hp⟩)
  simp only [hmem]

/-- Naming every entry changes them all. -/
theorem Mutates.mutateAll_map_perm (hmutates : Mutates key mutate)
    (hf : ∀ item ∈ items, f item = some (g item)) (hkey : ∀ item, key (g item) = key item)
    (hunique : (items.map key).Nodup) :
    ∃ result, mutateAll mutate f (items.map key) items = some result ∧
      result.Perm (items.map g) := by
  have hall := hmutates.mutateAll_filter_perm (fun _ => true) hf hkey hunique
  simpa only [List.filter_true, if_true] using hall

/-- A collection that takes the entry out and puts it back at its end. -/
def moveToEnd (key : α → κ) (name : κ) (f : α → Option α) (items : List α) : Option (List α) := do
  let item ← items.find? fun item => key item = name
  let after ← f item
  return items.eraseP (fun item => key item = name) ++ [after]

theorem mutates_moveToEnd (key : α → κ) : Mutates key (moveToEnd key) where
  perm := by
    intro items item after f hunique hitem hafter
    obtain ⟨found, before, later, hbefore, hfound, hsplit, herase⟩ :=
      @List.exists_of_eraseP _ (fun other => decide (key other = key item)) items item hitem
        (decide_eq_true rfl)
    have hmem : found ∈ items := by
      rw [hsplit]
      exact List.mem_append_right _ List.mem_cons_self
    obtain rfl : found = item :=
      List.inj_on_of_nodup_map hunique hmem hitem (of_decide_eq_true hfound)
    have hfind : items.find? (fun other => key other = key found) = some found := by
      rw [hsplit, List.find?_append, List.find?_eq_none.mpr hbefore]
      simp
    refine ⟨before ++ later ++ [after], ?_, ?_⟩
    · simp only [moveToEnd, hfind, hafter, herase, Option.bind_eq_bind, Option.bind_some]
      rfl
    · rw [hsplit] at hunique ⊢
      have hlater : ∀ other ∈ later, key other ≠ key found := by
        intro other hother hsame
        have hfresh := (List.nodup_cons.mp (List.map_append ▸ hunique).of_append_right).1
        exact hfresh (hsame ▸ List.mem_map_of_mem hother)
      have hkept : ∀ other ∈ before ++ later,
          (if key other = key found then after else other) = other := by
        intro other hother
        apply if_neg
        rcases List.mem_append.mp hother with hother | hother
        · exact fun hsame => hbefore other hother (decide_eq_true hsame)
        · exact hlater other hother
      have hmoved : ((before ++ found :: later).map fun other =>
          if key other = key found then after else other).Perm (after :: (before ++ later)) := by
        refine (List.perm_middle.map _).trans (List.Perm.of_eq ?_)
        rw [List.map_cons, if_pos rfl, List.map_congr_left hkept, List.map_id']
      exact (List.perm_append_singleton _ _).trans hmoved.symm

end Foundation
