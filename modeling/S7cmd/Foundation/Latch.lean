import Mathlib.Order.BooleanAlgebra.Basic

/-!
# Reading latches

A latch is a shared Boolean that is set and never cleared. A party looks at one latch after
another and ends with a value; between two of its looks the others may set what they like.
What it ends with is proved from what was set when it began, without the others: a latch
that was seen set is set at every later look.
-/

namespace Foundation

/-- What a party does that only looks at latches. -/
inductive Reading (Latch α : Type) where
  | done (value : α)
  | read (latch : Latch) (next : Bool → Reading Latch α)

namespace Reading

variable {Latch α β : Type}

def bind : Reading Latch α → (α → Reading Latch β) → Reading Latch β
  | .done value, next => next value
  | .read latch rest, next => .read latch fun seen => (rest seen).bind next

instance : Monad (Reading Latch) where
  pure := .done
  bind := bind

/-- Look at a latch. -/
def look (latch : Latch) : Reading Latch Bool := .read latch .done

@[simp] theorem look_bind (latch : Latch) (next : Bool → Reading Latch α) :
    (look latch >>= next) = .read latch next := rfl

theorem bind_assoc {γ : Type} (reading : Reading Latch α) (first : α → Reading Latch β)
    (second : β → Reading Latch γ) :
    (reading >>= first >>= second) = reading >>= fun value => first value >>= second := by
  induction reading with
  | done value => rfl
  | read latch rest ih => exact congrArg (Reading.read latch) (funext ih)

/-! ## While others set latches -/

/-- Whatever the others set from here on, the value and the latches satisfy the
postcondition, and go on satisfying it. -/
def Ensures (post : (Latch → Bool) → α → Prop) : (Latch → Bool) → Reading Latch α → Prop
  | latches, .done value => ∀ later, latches ≤ later → post later value
  | latches, .read latch next => ∀ later, latches ≤ later →
      (next (later latch)).Ensures post later

variable {post : (Latch → Bool) → α → Prop} {latches later : Latch → Bool}

theorem Ensures.mono {reading : Reading Latch α} (hensures : reading.Ensures post latches)
    (hle : latches ≤ later) : reading.Ensures post later := by
  cases reading with
  | done value => exact fun last hlast => hensures last (hle.trans hlast)
  | read latch next => exact fun last hlast => hensures last (hle.trans hlast)

theorem Ensures.imp {stronger : (Latch → Bool) → α → Prop} {reading : Reading Latch α}
    (hensures : reading.Ensures stronger latches)
    (himp : ∀ later value, latches ≤ later → stronger later value → post later value) :
    reading.Ensures post latches := by
  induction reading generalizing latches with
  | done value => exact fun later hle => himp later value hle (hensures later hle)
  | read latch next ih =>
      intro later hle
      apply ih _ (hensures later hle)
      exact fun last value hlast => himp last value (hle.trans hlast)

theorem Ensures.of_done {value : α} (hensures : (Reading.done value).Ensures post latches) :
    post latches value :=
  hensures latches le_rfl

theorem Ensures.bind {reading : Reading Latch α} {next : α → Reading Latch β}
    {last : (Latch → Bool) → β → Prop}
    (hensures : reading.Ensures (fun later value => (next value).Ensures last later) latches) :
    (reading >>= next).Ensures last latches := by
  induction reading generalizing latches with
  | done value => exact hensures.of_done
  | read latch rest ih => exact fun later hle => ih _ (hensures later hle)

theorem Ensures.map {reading : Reading Latch α} {f : α → β} {last : (Latch → Bool) → β → Prop}
    (hensures : reading.Ensures (fun later value => last later (f value)) latches) :
    (reading >>= fun value => .done (f value)).Ensures last latches := by
  induction reading generalizing latches with
  | done value => exact hensures
  | read latch rest ih => exact fun later hle => ih _ (hensures later hle)

/-- What holds of every value, from here on. -/
theorem ensures_of_forall (hpost : ∀ later value, latches ≤ later → post later value)
    (reading : Reading Latch α) : reading.Ensures post latches := by
  induction reading generalizing latches with
  | done value => exact fun later hle => hpost later value hle
  | read latch rest ih =>
      intro later hle
      exact ih _ fun last value hlast => hpost last value (hle.trans hlast)

/-- One look: it sees the latch set, and so will every later one, or it does not. -/
theorem ensures_read {latch : Latch} {next : Bool → Reading Latch α}
    (hset : ∀ later, latches ≤ later → later latch = true → (next true).Ensures post later)
    (hunset : latches latch = false → (next false).Ensures post latches) :
    (Reading.read latch next).Ensures post latches := by
  intro later hle
  cases hseen : later latch with
  | true => exact hset later hle hseen
  | false =>
      have hbefore : latches latch = false := Bool.eq_false_of_le_false (hseen ▸ hle latch)
      exact (hunset hbefore).mono hle

/-! ## At every look -/

/-- At each look that may still come, what is left to do has the property. -/
def AtLooks (property : Reading Latch α → Prop) : Reading Latch α → Prop
  | .done _ => True
  | .read latch next => property (.read latch next) ∧ ∀ seen, (next seen).AtLooks property

theorem AtLooks.bind_of_forall {property : Reading Latch β → Prop}
    {next : α → Reading Latch β} (hproperty : ∀ rest, property (rest >>= next))
    (hnext : ∀ value, (next value).AtLooks property) (reading : Reading Latch α) :
    (reading >>= next).AtLooks property := by
  induction reading with
  | done value => exact hnext value
  | read latch rest ih => exact ⟨hproperty (.read latch rest), ih⟩

end Reading

end Foundation
