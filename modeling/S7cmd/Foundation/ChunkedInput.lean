import Mathlib.Data.List.Basic

/-!
# Buffered input

An input that hands its items out in chunks, as a buffer fills. A consumer sees
the front chunk and says how many of its items it has used. What an input holds
is the items of its chunks in order and how it ends; how they are cut into
chunks is not part of it.
-/

namespace Foundation

variable {α ε : Type*}

/-- What a buffer holds after a fill. It is empty only at the end of the input. -/
abbrev Chunk (α : Type*) := {items : List α // items ≠ []}

/-- At most one chunk: an empty one is no chunk. -/
def Chunk.ofList : List α → List (Chunk α)
  | [] => []
  | item :: rest => [⟨item :: rest, List.cons_ne_nil item rest⟩]

structure ChunkedInput (α ε : Type*) where
  chunks : List (Chunk α)
  /-- The error the input breaks off with, if it does. -/
  fault : Option ε

namespace ChunkedInput

/-- The items of an input, whatever chunks they come in. -/
def content (input : ChunkedInput α ε) : List α := input.chunks.flatMap Subtype.val

/-- The items in the buffer, none of them at the end of the input. -/
def fillBuf (input : ChunkedInput α ε) : Except ε (List α) :=
  match input.chunks, input.fault with
  | chunk :: _, _ => .ok chunk.val
  | [], none => .ok []
  | [], some error => .error error

/-- Mark items of the buffer as used. -/
def consume (input : ChunkedInput α ε) (count : Nat) : ChunkedInput α ε :=
  match input.chunks with
  | [] => input
  | chunk :: rest => { input with chunks := Chunk.ofList (chunk.val.drop count) ++ rest }

/-- Two inputs that hold the same, however they are cut. -/
structure SameContent (input other : ChunkedInput α ε) : Prop where
  content : input.content = other.content
  fault : input.fault = other.fault

variable {input : ChunkedInput α ε} {available : List α}

@[simp] theorem flatMap_ofList (items : List α) :
    (Chunk.ofList items).flatMap Subtype.val = items := by
  cases items <;> simp [Chunk.ofList]

@[simp] theorem fault_consume (input : ChunkedInput α ε) (count : Nat) :
    (input.consume count).fault = input.fault := by
  unfold consume
  split <;> rfl

theorem content_of_fillBuf_error {error : ε} (hfill : input.fillBuf = .error error) :
    input.content = [] ∧ input.fault = some error := by
  unfold fillBuf at hfill
  split at hfill
  · cases hfill
  · cases hfill
  next hchunks hfault =>
    cases hfill
    exact ⟨by simp [content, hchunks], hfault⟩

/-- An empty buffer is the end of the input. -/
theorem content_of_fillBuf_nil (hfill : input.fillBuf = .ok []) :
    input.content = [] ∧ input.fault = none := by
  unfold fillBuf at hfill
  split at hfill
  next _ chunk rest hchunks => exact absurd (Except.ok.inj hfill) chunk.property
  next hchunks hfault => exact ⟨by simp [content, hchunks], hfault⟩
  · cases hfill

/-- The buffer is the front of the input, and what is not used stays there. -/
theorem content_of_fillBuf (hfill : input.fillBuf = .ok available) :
    ∃ later, input.content = available ++ later ∧
      ∀ count, (input.consume count).content = available.drop count ++ later := by
  unfold fillBuf at hfill
  split at hfill
  next _ chunk rest hchunks =>
    cases hfill
    refine ⟨rest.flatMap Subtype.val, by simp [content, hchunks], fun count => ?_⟩
    simp only [content, consume, hchunks, List.flatMap_append, flatMap_ofList]
  next hchunks hfault =>
    cases hfill
    exact ⟨[], by simp [content, hchunks], fun count => by simp [content, consume, hchunks]⟩
  · cases hfill

end ChunkedInput

end Foundation
