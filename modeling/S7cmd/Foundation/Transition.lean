import Mathlib.Logic.Relation

/-!
# Labelled transition systems and their runs

A label resolves every choice the environment makes, so a step is a partial
function and a finite run is a list of labels. Results about all interleavings
are results about all label lists. Invariants need preservation only at
reachable states, and a simulation needs only its single steps.
-/

namespace Foundation

/-- A transition system in which a label names the party that moves. -/
structure System (State Label : Type*) where
  initial : State
  step : State → Label → Option State

namespace System

variable {State Label : Type*} (system : System State Label)

/-- Execute a list of labels, failing when a step is not enabled. -/
def run : State → List Label → Option State
  | state, [] => some state
  | state, label :: rest => (system.step state label).bind fun next => run next rest

@[simp] theorem run_nil (state : State) : system.run state [] = some state := rfl

theorem run_cons_eq_some {state final : State} {label : Label} {rest : List Label} :
    system.run state (label :: rest) = some final ↔
      ∃ next, system.step state label = some next ∧ system.run next rest = some final := by
  simp only [run, Option.bind_eq_some_iff]

theorem run_append {state middle final : State} {first second : List Label}
    (hfirst : system.run state first = some middle)
    (hsecond : system.run middle second = some final) :
    system.run state (first ++ second) = some final := by
  induction first generalizing state with
  | nil =>
      cases hfirst
      exact hsecond
  | cons label rest ih =>
      obtain ⟨next, hstep, hrest⟩ := system.run_cons_eq_some.mp hfirst
      exact system.run_cons_eq_some.mpr ⟨next, hstep, ih hrest⟩

theorem run_append_singleton {state final : State} {labels : List Label} {label : Label} :
    system.run state (labels ++ [label]) = some final ↔
      ∃ last, system.run state labels = some last ∧ system.step last label = some final := by
  induction labels generalizing state with
  | nil => simp [run]
  | cons first rest ih =>
      simp only [List.cons_append, run_cons_eq_some, ih]
      constructor
      · rintro ⟨next, hnext, last, hlast, hstep⟩
        exact ⟨last, ⟨next, hnext, hlast⟩, hstep⟩
      · rintro ⟨last, ⟨next, hnext, hlast⟩, hstep⟩
        exact ⟨next, hnext, last, hlast, hstep⟩

theorem run_single {state next : State} {label : Label}
    (hstep : system.step state label = some next) :
    system.run state [label] = some next :=
  system.run_cons_eq_some.mpr ⟨next, hstep, rfl⟩

/-- Some run from the initial state ends here. -/
def Reachable (state : State) : Prop :=
  ∃ labels, system.run system.initial labels = some state

variable {system}

theorem reachable_initial : system.Reachable system.initial := ⟨[], rfl⟩

theorem Reachable.run {state final : State} (hreach : system.Reachable state)
    {labels : List Label} (hrun : system.run state labels = some final) :
    system.Reachable final := by
  obtain ⟨earlier, hearlier⟩ := hreach
  exact ⟨earlier ++ labels, system.run_append hearlier hrun⟩

theorem Reachable.step {state next : State} (hreach : system.Reachable state)
    {label : Label} (hstep : system.step state label = some next) : system.Reachable next :=
  hreach.run (system.run_single hstep)

variable (system) in
/-- A run of a part of a system is a run of the whole. -/
theorem run_embed {Part Move : Type*} {part : System Part Move} (embed : Part → State)
    (label : Move → Label)
    (hembed : ∀ state move next, part.step state move = some next →
      system.step (embed state) (label move) = some (embed next))
    {moves : List Move} {state final : Part} (hrun : part.run state moves = some final) :
    system.run (embed state) (moves.map label) = some (embed final) := by
  induction moves generalizing state with
  | nil =>
      cases hrun
      rfl
  | cons move rest ih =>
      obtain ⟨next, hnext, hrest⟩ := part.run_cons_eq_some.mp hrun
      exact system.run_cons_eq_some.mpr ⟨embed next, hembed state move next hnext, ih hrest⟩

variable (system) in
/-- Executing a run and testing where it ends exhibits a reachable state. -/
theorem exists_reachable (labels : List Label) (test : State → Bool)
    (hrun : (system.run system.initial labels).any test = true) :
    ∃ state, system.Reachable state ∧ test state = true := by
  obtain ⟨state, hfinal, htest⟩ := (Option.any_eq_true _ _).mp hrun
  exact ⟨state, ⟨labels, hfinal⟩, htest⟩

/-- A predicate preserved by every step is preserved by every run. -/
theorem run_invariant (invariant : State → Prop)
    (hstep : ∀ state label next, invariant state →
      system.step state label = some next → invariant next)
    {labels : List Label} {state final : State} (hstate : invariant state)
    (hrun : system.run state labels = some final) : invariant final := by
  induction labels generalizing state with
  | nil =>
      cases hrun
      exact hstate
  | cons label rest ih =>
      obtain ⟨next, hnext, hrest⟩ := system.run_cons_eq_some.mp hrun
      exact ih (hstep state label next hstate hnext) hrest

/-- A predicate that holds initially and is preserved by every step holds of
every reachable state. -/
theorem Reachable.invariant (invariant : State → Prop) (hinitial : invariant system.initial)
    (hstep : ∀ state label next, invariant state →
      system.step state label = some next → invariant next)
    {state : State} (hreach : system.Reachable state) : invariant state := by
  obtain ⟨labels, hrun⟩ := hreach
  exact run_invariant invariant hstep hinitial hrun

/-- An observation no step changes is unchanged over a run. -/
theorem run_observe {Value : Type*} (observe : State → Value) (guard : State → Prop)
    (hstep : ∀ state label next, guard state → system.step state label = some next →
      guard next ∧ observe next = observe state)
    {labels : List Label} {state final : State} (hguard : guard state)
    (hrun : system.run state labels = some final) : observe final = observe state := by
  have hkept : guard final ∧ observe final = observe state := by
    induction labels generalizing state with
    | nil =>
        cases hrun
        exact ⟨hguard, rfl⟩
    | cons label rest ih =>
        obtain ⟨next, hnext, hrest⟩ := system.run_cons_eq_some.mp hrun
        obtain ⟨hguardNext, hvalue⟩ := hstep state label next hguard hnext
        obtain ⟨hguardFinal, hfinal⟩ := ih hguardNext hrest
        exact ⟨hguardFinal, hfinal.trans hvalue⟩
  exact hkept.2

/-- An observation is unchanged over every run exactly if the guard holds, once a
state without the guard has a run that changes it. -/
theorem run_observe_iff {Value : Type*} (observe : State → Value) (guard : State → Prop)
    (hstep : ∀ state label next, guard state → system.step state label = some next →
      guard next ∧ observe next = observe state)
    {state : State} (hescape : ¬ guard state → ∃ labels final,
      system.run state labels = some final ∧ observe final ≠ observe state) :
    (∀ labels final, system.run state labels = some final → observe final = observe state) ↔
      guard state := by
  constructor
  · intro hunchanged
    by_cases hguard : guard state
    · exact hguard
    · obtain ⟨labels, final, hrun, hchanged⟩ := hescape hguard
      exact absurd (hunchanged labels final hrun) hchanged
  · intro hguard labels final hrun
    exact run_observe observe guard hstep hguard hrun

variable (system) in
/-- The transition property holds at every transition the labels take. -/
def Always (property : State → Label → State → Prop) : State → List Label → Prop
  | _, [] => True
  | state, label :: rest => ∀ next, system.step state label = some next →
      property state label next ∧ Always property next rest

/-- The last transition of a run has the property. -/
theorem Always.last {property : State → Label → State → Prop} {labels : List Label}
    {label : Label} {state middle final : State}
    (halways : system.Always property state (labels ++ [label]))
    (hrun : system.run state labels = some middle)
    (hstep : system.step middle label = some final) : property middle label final := by
  induction labels generalizing state with
  | nil =>
      cases hrun
      exact (halways final hstep).1
  | cons first rest ih =>
      obtain ⟨next, hnext, hrest⟩ := system.run_cons_eq_some.mp hrun
      exact ih (halways next hnext).2 hrest

/-- Two transition properties that agree wherever an invariant holds hold of
the same runs. -/
theorem always_congr (invariant : State → Prop) {first second : State → Label → State → Prop}
    (hstep : ∀ state label next, invariant state →
      system.step state label = some next → invariant next)
    (hagree : ∀ state label next, invariant state → system.step state label = some next →
      (first state label next ↔ second state label next))
    {labels : List Label} {state : State} (hstate : invariant state) :
    system.Always first state labels ↔ system.Always second state labels := by
  induction labels generalizing state with
  | nil => exact Iff.rfl
  | cons label rest ih =>
      apply forall_congr'
      intro next
      apply forall_congr'
      intro hnext
      exact and_congr (hagree state label next hstate hnext)
        (ih (hstep state label next hstate hnext))

variable (system) in
/-- Some run between the states has the transition property at every transition. -/
def Leads (property : State → Label → State → Prop) (state final : State) : Prop :=
  ∃ labels, system.run state labels = some final ∧ system.Always property state labels

namespace Leads

variable {property : State → Label → State → Prop}

theorem refl (state : State) : system.Leads property state state := ⟨[], rfl, trivial⟩

theorem head {state next final : State} (label : Label)
    (hstep : system.step state label = some next) (hproperty : property state label next)
    (hleads : system.Leads property next final) : system.Leads property state final := by
  obtain ⟨labels, hrun, halways⟩ := hleads
  refine ⟨label :: labels, system.run_cons_eq_some.mpr ⟨next, hstep, hrun⟩, ?_⟩
  intro other hother
  cases hstep.symm.trans hother
  exact ⟨hproperty, halways⟩

theorem trans {state middle final : State} (hfirst : system.Leads property state middle)
    (hlater : system.Leads property middle final) : system.Leads property state final := by
  obtain ⟨labels, hrun, halways⟩ := hfirst
  induction labels generalizing state with
  | nil =>
      cases hrun
      exact hlater
  | cons label rest ih =>
      obtain ⟨next, hnext, hrest⟩ := system.run_cons_eq_some.mp hrun
      obtain ⟨hproperty, halways⟩ := halways next hnext
      exact .head label hnext hproperty (ih hrest halways)

/-- What the transitions with the property preserve. -/
theorem invariant (invariant : State → Prop)
    (hstep : ∀ state label next, invariant state → system.step state label = some next →
      property state label next → invariant next)
    {state final : State} (hstate : invariant state) (hleads : system.Leads property state final) :
    invariant final := by
  obtain ⟨labels, hrun, halways⟩ := hleads
  induction labels generalizing state with
  | nil =>
      cases hrun
      exact hstate
  | cons label rest ih =>
      obtain ⟨next, hnext, hrest⟩ := system.run_cons_eq_some.mp hrun
      obtain ⟨hproperty, hlater⟩ := halways next hnext
      exact ih (hstep state label next hstate hnext hproperty) hrest hlater

theorem reachable {final : State} (hleads : system.Leads property system.initial final) :
    system.Reachable final := by
  obtain ⟨labels, hrun, -⟩ := hleads
  exact ⟨labels, hrun⟩

end Leads

/-! ## Reaching a goal by one party's steps alone -/

variable (system) in
/-- Every maximal run of these labels alone is finite and reaches the goal. -/
inductive Inevitably (own : Label → Prop) (goal : State → Prop) : State → Prop
  | now {state : State} (hgoal : goal state) : Inevitably own goal state
  | later {state : State}
      (hprogress : ∃ label next, own label ∧ system.step state label = some next)
      (hnext : ∀ label next, own label → system.step state label = some next →
        Inevitably own goal next) : Inevitably own goal state

/-- What the labels preserve on the way holds at the goal. -/
theorem Inevitably.exists_goal {own : Label → Prop} {goal : State → Prop}
    (invariant : State → Prop)
    (hstep : ∀ state label next, invariant state → own label →
      system.step state label = some next → invariant next)
    {state : State} (hinevitably : system.Inevitably own goal state) (hstate : invariant state) :
    ∃ final, goal final ∧ invariant final := by
  induction hinevitably with
  | now hgoal => exact ⟨_, hgoal, hstate⟩
  | later hprogress _ ih =>
      obtain ⟨label, next, hown, hnext⟩ := hprogress
      exact ih label next hown hnext (hstep _ label next hstate hown hnext)

/-- A measure that every step decreases while a step is possible short of the
goal. -/
theorem Inevitably.of_measure {own : Label → Prop} {goal : State → Prop}
    (invariant : State → Prop) (measure : State → Nat)
    (hprogress : ∀ state, invariant state → ¬ goal state →
      ∃ label next, own label ∧ system.step state label = some next)
    (hstep : ∀ state label next, invariant state → own label →
      system.step state label = some next → invariant next ∧ measure next < measure state)
    {state : State} (hstate : invariant state) : system.Inevitably own goal state := by
  induction hmeasure : measure state using Nat.strongRecOn generalizing state with
  | ind size ih =>
      by_cases hgoal : goal state
      · exact .now hgoal
      · apply Inevitably.later (hprogress state hstate hgoal)
        intro label next hown hnext
        obtain ⟨hkept, hless⟩ := hstep state label next hstate hown hnext
        exact ih (measure next) (hmeasure ▸ hless) hkept rfl

/-- When no step of these labels can make a state ready, and the goal needs it to
be, the goal is reached exactly from the states that are. -/
theorem Inevitably.iff_of_measure {own : Label → Prop} {goal : State → Prop}
    (invariant ready : State → Prop) (measure : State → Nat)
    (hprogress : ∀ state, invariant state → ready state → ¬ goal state →
      ∃ label next, own label ∧ system.step state label = some next)
    (hstep : ∀ state label next, invariant state → own label →
      system.step state label = some next →
        invariant next ∧ (ready next ↔ ready state) ∧ measure next < measure state)
    (hgoal : ∀ state, invariant state → goal state → ready state)
    {state : State} (hstate : invariant state) :
    system.Inevitably own goal state ↔ ready state := by
  constructor
  · intro hinevitably
    obtain ⟨final, hfinal, hkept, hsame⟩ := hinevitably.exists_goal
      (fun later => invariant later ∧ (ready later ↔ ready state))
      (fun later label next hlater hown hnext => by
        obtain ⟨hkept, hready, -⟩ := hstep later label next hlater.1 hown hnext
        exact ⟨hkept, hready.trans hlater.2⟩)
      ⟨hstate, Iff.rfl⟩
    exact hsame.mp (hgoal final hkept hfinal)
  · intro hready
    apply Inevitably.of_measure (fun later => invariant later ∧ ready later) measure
    · intro later hlater
      exact hprogress later hlater.1 hlater.2
    · intro later label next hlater hown hnext
      obtain ⟨hkept, hsame, hless⟩ := hstep later label next hlater.1 hown hnext
      exact ⟨⟨hkept, hsame.mpr hlater.2⟩, hless⟩
    · exact ⟨hstate, hready⟩

/-! ## Simulation by an abstract step relation -/

variable (system) in
/-- Every step taken in a reachable state is a step of the abstract relation. -/
structure Simulates {Abstract : Type*} (abstraction : State → Abstract)
    (relation : Abstract → Abstract → Prop) : Prop where
  step : ∀ state label next, system.Reachable state →
    system.step state label = some next → relation (abstraction state) (abstraction next)

/-- A run of the system is a run of the abstract relation. -/
theorem Simulates.run {Abstract : Type*} {abstraction : State → Abstract}
    {relation : Abstract → Abstract → Prop} (hsimulates : system.Simulates abstraction relation)
    {labels : List Label} {state final : State} (hreach : system.Reachable state)
    (hrun : system.run state labels = some final) :
    Relation.ReflTransGen relation (abstraction state) (abstraction final) := by
  induction labels generalizing state with
  | nil =>
      cases hrun
      exact Relation.ReflTransGen.refl
  | cons label rest ih =>
      obtain ⟨next, hnext, hrest⟩ := system.run_cons_eq_some.mp hrun
      exact Relation.ReflTransGen.head (hsimulates.step state label next hreach hnext)
        (ih (hreach.step hnext) hrest)

/-- Abstract invariants hold of every reachable state. -/
theorem Simulates.invariant {Abstract : Type*} {abstraction : State → Abstract}
    {relation : Abstract → Abstract → Prop} (hsimulates : system.Simulates abstraction relation)
    (invariant : Abstract → Prop) (hinitial : invariant (abstraction system.initial))
    (hstep : ∀ before after, invariant before → relation before after → invariant after)
    {state : State} (hreach : system.Reachable state) : invariant (abstraction state) := by
  obtain ⟨labels, hrun⟩ := hreach
  have hpath := hsimulates.run reachable_initial hrun
  generalize abstraction state = last at hpath ⊢
  induction hpath with
  | refl => exact hinitial
  | tail _ hlast ih => exact hstep _ _ ih hlast

end System

end Foundation
