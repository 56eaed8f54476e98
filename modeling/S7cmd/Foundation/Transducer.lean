import S7cmd.Foundation.PointUpdate

/-!
# Letter-by-letter transducers

A transducer reads a word letter by letter and writes one letter for each. What
it writes at a position depends on the letter there and on the state it has come
to, and so on the letters before it and on nothing else.
-/

namespace Foundation

structure Transducer (σ α β : Type*) where
  initial : σ
  next : σ → α → σ
  write : σ → α → β

namespace Transducer

variable {σ α β : Type*} (transducer : Transducer σ α β)

/-- The state after a word, from a given state. -/
def stateFrom (state : σ) (word : List α) : σ := word.foldl transducer.next state

/-- The state after a word. -/
def stateAfter (word : List α) : σ := transducer.stateFrom transducer.initial word

/-- What is written over a word, from a given state. -/
def outputFrom : σ → List α → List β
  | _, [] => []
  | state, letter :: rest =>
      transducer.write state letter :: outputFrom (transducer.next state letter) rest

def output (word : List α) : List β := transducer.outputFrom transducer.initial word

theorem stateAfter_concat (word : List α) (letter : α) :
    transducer.stateAfter (word ++ [letter]) =
      transducer.next (transducer.stateAfter word) letter := by
  simp only [stateAfter, stateFrom, List.foldl_append, List.foldl_cons, List.foldl_nil]

theorem length_outputFrom (state : σ) (word : List α) :
    (transducer.outputFrom state word).length = word.length := by
  induction word generalizing state with
  | nil => rfl
  | cons letter rest ih => simp only [outputFrom, List.length_cons, ih]

theorem outputFrom_append (state : σ) (first second : List α) :
    transducer.outputFrom state (first ++ second) =
      transducer.outputFrom state first ++
        transducer.outputFrom (transducer.stateFrom state first) second := by
  induction first generalizing state with
  | nil => rfl
  | cons letter rest ih =>
      rw [List.cons_append, outputFrom, ih]
      rfl

/-- The letter written at a position. -/
theorem getElem?_output (word : List α) (index : Nat) :
    (transducer.output word)[index]? =
      word[index]?.map (transducer.write (transducer.stateAfter (word.take index))) := by
  cases hletter : word[index]? with
  | none =>
      have hle := List.getElem?_eq_none_iff.mp hletter
      rw [Option.map_none, List.getElem?_eq_none_iff, output, length_outputFrom]
      exact hle
  | some letter =>
      obtain ⟨before, after, rfl, rfl, -⟩ := exists_split_of_getElem? hletter
      have hlength := transducer.length_outputFrom transducer.initial before
      rw [output, outputFrom_append, List.getElem?_append_right (Nat.le_of_eq hlength), hlength,
        Nat.sub_self, List.take_left]
      rfl

/-- Replacing a letter by one that is read and written alike changes nothing. -/
theorem output_set {word : List α} {index : Nat} {old : α}
    (hold : word[index]? = some old) (new : α)
    (hnext : transducer.next (transducer.stateAfter (word.take index)) new =
      transducer.next (transducer.stateAfter (word.take index)) old)
    (hwrite : transducer.write (transducer.stateAfter (word.take index)) new =
      transducer.write (transducer.stateAfter (word.take index)) old) :
    transducer.output (word.set index new) = transducer.output word := by
  obtain ⟨before, after, rfl, rfl, hset⟩ := exists_split_of_getElem? hold
  rw [List.take_left, stateAfter] at hnext hwrite
  simp only [hset, output, outputFrom_append, outputFrom, hnext, hwrite]

/-- Replacing a letter by one that is read alike changes the letter written for
it and no other. -/
theorem output_set_of_next {word : List α} {index : Nat} {old : α}
    (hold : word[index]? = some old) (new : α)
    (hnext : transducer.next (transducer.stateAfter (word.take index)) new =
      transducer.next (transducer.stateAfter (word.take index)) old) :
    transducer.output (word.set index new) = (transducer.output word).set index
      (transducer.write (transducer.stateAfter (word.take index)) new) := by
  obtain ⟨before, after, rfl, rfl, hset⟩ := exists_split_of_getElem? hold
  have hlength := transducer.length_outputFrom transducer.initial before
  rw [List.take_left, stateAfter] at hnext
  simp only [hset, output, outputFrom_append, outputFrom, hnext, List.take_left, stateAfter]
  rw [List.set_append_right _ _ (Nat.le_of_eq hlength), hlength, Nat.sub_self, List.set_cons_zero]

end Transducer

end Foundation
