/-!
# Computations that leave a part of the state alone

A computation runs over a state and may fail; if it does, the state is what it is by then. A
view of the state is left alone if no run changes what it shows, whether it fails or not.
-/

namespace Foundation

universe u v

variable {State ε α β : Type u} {ω : Type v}

/-- A mapped result that is a value is the image of one. -/
theorem exists_of_map_eq_ok {f : α → β} {result : Except ε α} {image : β}
    (hmap : result.map f = .ok image) : ∃ value, result = .ok value ∧ f value = image := by
  cases result with
  | error error => cases hmap
  | ok value => exact ⟨value, rfl, Except.ok.inj hmap⟩

/-- A computation that may fail, and keeps the state if it does. -/
abbrev Fallible (State ε α : Type u) := ExceptT ε (StateM State) α

namespace Fallible

/-- A result that is already there. -/
def ofExcept (result : Except ε α) : Fallible State ε α := fun state => (result, state)

/-- The computation with another error if it fails. -/
def mapError (f : ε → ε) (run : Fallible State ε α) : Fallible State ε α := fun state =>
  ((run state).1.mapError f, (run state).2)

/-- Where a bind ends: with the first error, or as what follows the value ends. -/
theorem bind_elim {ending : Except ε β × State → Prop} {run : Fallible State ε α}
    {next : α → Fallible State ε β} {state : State}
    (herror : ∀ error after, run state = (.error error, after) → ending (.error error, after))
    (hok : ∀ value after, run state = (.ok value, after) → ending (next value after)) :
    ending ((run >>= next) state) := by
  change ending (ExceptT.bindCont next (run state).1 (run state).2)
  rcases hrun : run state with ⟨error | value, after⟩
  · exact herror error after hrun
  · exact hok value after hrun

theorem ofExcept_bind_elim {ending : Except ε β × State → Prop} {result : Except ε α}
    {next : α → Fallible State ε β} {state : State}
    (herror : ∀ error, result = .error error → ending (.error error, state))
    (hok : ∀ value, result = .ok value → ending (next value state)) :
    ending ((ofExcept result >>= next) state) := by
  cases hresult : result with
  | error error => exact herror error hresult
  | ok value => exact hok value hresult

end Fallible

/-- No run changes what the view shows. -/
def Leaves (view : State → ω) (run : Fallible State ε α) : Prop :=
  ∀ state, view (run state).2 = view state

namespace Leaves

variable {view : State → ω} {run : Fallible State ε α}

theorem pure (value : α) : Leaves view (Pure.pure value : Fallible State ε α) := fun _ => rfl

theorem ofExcept (result : Except ε α) :
    Leaves view (Fallible.ofExcept result : Fallible State ε α) := fun _ => rfl

theorem mapError (hrun : Leaves view run) (f : ε → ε) : Leaves view (run.mapError f) := hrun

theorem bind {next : α → Fallible State ε β} (hrun : Leaves view run)
    (hnext : ∀ value, Leaves view (next value)) : Leaves view (run >>= next) := by
  intro state
  have hfirst := hrun state
  change view (ExceptT.bindCont next (run state).1 (run state).2).2 = view state
  cases hresult : (run state).1 with
  | error error => exact hfirst
  | ok value => exact (hnext value _).trans hfirst

/-- What follows a result that is there starts from its value. -/
theorem bind_ofExcept {result : Except ε α} {next : α → Fallible State ε β}
    (hnext : ∀ value, result = .ok value → Leaves view (next value)) :
    Leaves view (Fallible.ofExcept result >>= next) := by
  intro state
  change view (ExceptT.bindCont next result state).2 = view state
  cases hresult : result with
  | error error => rfl
  | ok value => exact hnext value hresult state

theorem ite {condition : Prop} [Decidable condition] {other : Fallible State ε α}
    (hthen : condition → Leaves view run) (helse : ¬ condition → Leaves view other) :
    Leaves view (if condition then run else other) := by
  split
  next htrue => exact hthen htrue
  next hfalse => exact helse hfalse

end Leaves

/-! ## Dry runs -/

/-- From any state, the dry run leaves the view alone. It fails and the run is the same, or
it passes and the run goes on from there with one of the effects. -/
def Foretold (view : State → ω) (passed : α) (effects : Fallible State ε α → Prop)
    (dry real : Fallible State ε α) : Prop :=
  ∀ state, view (dry state).2 = view state ∧
    (((∃ error, (dry state).1 = .error error) ∧ real state = dry state) ∨
      (dry state).1 = .ok passed ∧ ∃ effect, effects effect ∧ real state = effect (dry state).2)

namespace Foretold

variable {view : State → ω} {passed : α} {effects : Fallible State ε α → Prop}

theorem effect {effect : Fallible State ε α} (heffect : effects effect) :
    Foretold view passed effects (Pure.pure passed) effect :=
  fun _ => ⟨rfl, Or.inr ⟨rfl, effect, heffect, rfl⟩⟩

theorem bind {first : Fallible State ε β} {dry real : β → Fallible State ε α}
    (hfirst : Leaves view first) (hnext : ∀ value, Foretold view passed effects (dry value) (real value)) :
    Foretold view passed effects (first >>= dry) (first >>= real) := by
  intro state
  have hleaves := hfirst state
  change view (ExceptT.bindCont dry (first state).1 (first state).2).2 = view state ∧
    (((∃ error, (ExceptT.bindCont dry (first state).1 (first state).2).1 = .error error) ∧
        ExceptT.bindCont real (first state).1 (first state).2 =
          ExceptT.bindCont dry (first state).1 (first state).2) ∨
      (ExceptT.bindCont dry (first state).1 (first state).2).1 = .ok passed ∧
        ∃ effect, effects effect ∧ ExceptT.bindCont real (first state).1 (first state).2 =
          effect (ExceptT.bindCont dry (first state).1 (first state).2).2)
  cases hresult : (first state).1 with
  | error error => exact ⟨hleaves, Or.inl ⟨⟨error, rfl⟩, rfl⟩⟩
  | ok value =>
      obtain ⟨hkept, hrun⟩ := hnext value (first state).2
      exact ⟨hkept.trans hleaves, hrun⟩

theorem bind_ofExcept {result : Except ε β} {dry real : β → Fallible State ε α}
    (hnext : ∀ value, Foretold view passed effects (dry value) (real value)) :
    Foretold view passed effects (Fallible.ofExcept result >>= dry)
      (Fallible.ofExcept result >>= real) :=
  bind (Leaves.ofExcept result) hnext

end Foretold

end Foundation
