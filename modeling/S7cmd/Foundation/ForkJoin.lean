import S7cmd.Foundation.PointUpdate
import S7cmd.Foundation.Transition

/-!
# Mapping a list with scoped workers

A main thread spawns a worker for each chunk of a list, and then joins the workers in
the order in which it spawned them. Each worker maps its own chunk, item by item. The
threads take their steps in any order.
-/

namespace Foundation

variable {α β : Type*}

/-- A worker with the items of its chunk that are left and the results so far. -/
structure Worker (α β : Type*) where
  todo : List α
  results : List β := []

/-- What the worker returns in the end. -/
def Worker.promise (f : α → β) (worker : Worker α β) : List β :=
  worker.results ++ worker.todo.map f

structure ForkJoin (α β : Type*) where
  /-- the chunks without a worker so far -/
  chunks : List (List α)
  workers : List (Worker α β) := []
  joined : Nat := 0
  out : List β := []

namespace ForkJoin

inductive Turn where
  | main
  | worker (index : Nat)
  deriving DecidableEq, Repr

/-- The main thread spawns the next worker, or joins the next one once it has returned;
a worker maps its next item. -/
def step (f : α → β) (state : ForkJoin α β) : Turn → Option (ForkJoin α β)
  | .main =>
      match state.chunks with
      | chunk :: rest =>
          some { state with chunks := rest, workers := state.workers ++ [{ todo := chunk }] }
      | [] =>
          match state.workers[state.joined]? with
          | some ⟨[], results⟩ =>
              some { state with joined := state.joined + 1, out := state.out ++ results }
          | _ => none
  | .worker index =>
      match state.workers[index]? with
      | some ⟨item :: rest, results⟩ =>
          some { state with workers := state.workers.set index ⟨rest, results ++ [f item]⟩ }
      | _ => none

def system (f : α → β) (chunks : List (List α)) : System (ForkJoin α β) Turn where
  initial := { chunks }
  step := step f

/-- What the main thread has in the end, when every worker is joined. -/
def result (state : ForkJoin α β) : Option (List β) :=
  if state.chunks.isEmpty && state.joined == state.workers.length then some state.out else none

theorem result_eq_some {state : ForkJoin α β} {out : List β} (hresult : state.result = some out) :
    state.chunks = [] ∧ state.joined = state.workers.length ∧ state.out = out := by
  simpa [result, and_assoc] using hresult

variable {f : α → β} {state next : ForkJoin α β}

/-- What one turn can do. -/
inductive Moves (f : α → β) (state : ForkJoin α β) : ForkJoin α β → Prop
  | spawned (chunk : List α) (rest : List (List α)) (hchunks : state.chunks = chunk :: rest) :
      Moves f state
        { state with chunks := rest, workers := state.workers ++ [{ todo := chunk }] }
  | joined (before after : List (Worker α β)) (results : List β) (hchunks : state.chunks = [])
      (hworkers : state.workers = before ++ ⟨[], results⟩ :: after)
      (hjoined : before.length = state.joined) :
      Moves f state { state with joined := state.joined + 1, out := state.out ++ results }
  | mapped (before after : List (Worker α β)) (item : α) (rest : List α) (results : List β)
      (hworkers : state.workers = before ++ ⟨item :: rest, results⟩ :: after) :
      Moves f state
        { state with workers := before ++ ⟨rest, results ++ [f item]⟩ :: after }

theorem step_moves {turn : Turn} (hstep : step f state turn = some next) : Moves f state next := by
  unfold step at hstep
  split at hstep
  · split at hstep
    next chunk rest hchunks =>
      cases hstep
      exact .spawned chunk rest hchunks
    next hchunks =>
      split at hstep
      next results hworker =>
        cases hstep
        obtain ⟨before, after, hlength, hworkers, -⟩ := exists_split_of_getElem? hworker
        exact .joined before after results hchunks hworkers hlength
      next => cases hstep
  next index =>
    split at hstep
    next item rest results hworker =>
      cases hstep
      obtain ⟨before, after, -, hworkers, hset⟩ := exists_split_of_getElem? hworker
      rw [hset]
      exact .mapped before after item rest results hworkers
    next => cases hstep

/-- The workers and those to come promise the images of all chunks, and the main thread
has what the workers it joined have promised. -/
structure Inv (f : α → β) (chunks : List (List α)) (state : ForkJoin α β) : Prop where
  promised : state.workers.map (Worker.promise f) ++ state.chunks.map (List.map f) =
    chunks.map (List.map f)
  joined_le : state.joined ≤ state.workers.length
  out_eq : state.out = ((state.workers.map (Worker.promise f)).take state.joined).flatten

theorem inv_initial (f : α → β) (chunks : List (List α)) : Inv f chunks { chunks } :=
  ⟨rfl, Nat.le_refl 0, rfl⟩

theorem inv_step {chunks : List (List α)} (hinv : Inv f chunks state)
    (hmoves : Moves f state next) : Inv f chunks next := by
  obtain ⟨hpromised, hjoined, hout⟩ := hinv
  cases hmoves with
  | spawned chunk rest hchunks =>
      refine ⟨?_, ?_, ?_⟩
      · rw [← hpromised, hchunks]
        simp [Worker.promise]
      · rw [List.length_append]
        exact Nat.le_add_right_of_le hjoined
      · rw [List.map_append, List.take_append_of_le_length (by rwa [List.length_map])]
        exact hout
  | joined before after results hchunks hworkers hlength =>
      refine ⟨hpromised, ?_, ?_⟩
      · rw [hworkers, ← hlength]
        simp
      · -- what the worker returns is what it has promised
        dsimp only
        rw [hout, hworkers, ← hlength]
        simp [List.take_append, Worker.promise, List.take_of_length_le]
  | mapped before after item rest results hworkers =>
      have hpromise : (Worker.promise f ⟨rest, results ++ [f item]⟩) =
          Worker.promise f ⟨item :: rest, results⟩ := by simp [Worker.promise]
      have hsame : (before ++ ⟨rest, results ++ [f item]⟩ :: after).map (Worker.promise f) =
          state.workers.map (Worker.promise f) := by
        rw [hworkers, List.map_append, List.map_append, List.map_cons, List.map_cons, hpromise]
      refine ⟨?_, ?_, ?_⟩
      · rw [hsame]
        exact hpromised
      · rw [hworkers] at hjoined
        simpa using hjoined
      · rw [hsame]
        exact hout

/-- Whatever the order of turns, the main thread gets the image of the whole list. -/
theorem result_eq_map {chunks : List (List α)} (hreach : (system f chunks).Reachable state)
    {out : List β} (hresult : state.result = some out) : out = chunks.flatten.map f := by
  have hinv : Inv f chunks state := hreach.invariant (Inv f chunks) (inv_initial f chunks)
    fun _ _ _ hstate hstep => inv_step hstate (step_moves hstep)
  obtain ⟨hchunks, hjoined, rfl⟩ := result_eq_some hresult
  have hpromised := hinv.promised
  rw [hchunks, List.map_nil, List.append_nil] at hpromised
  have hall : (chunks.map (List.map f)).length ≤ state.workers.length :=
    Nat.le_of_eq (by rw [← hpromised, List.length_map])
  rw [hinv.out_eq, hpromised, hjoined, List.take_of_length_le hall, List.map_flatten]

/-- How many turns are left. -/
def turns (state : ForkJoin α β) : Nat :=
  state.chunks.flatten.length + 2 * state.chunks.length +
    (state.workers.flatMap Worker.todo).length + (state.workers.length - state.joined)

theorem turns_step {chunks : List (List α)} (hinv : Inv f chunks state)
    (hmoves : Moves f state next) : next.turns < state.turns := by
  have hjoined := hinv.joined_le
  cases hmoves with
  | spawned chunk rest hchunks =>
      simp only [turns, hchunks, List.flatten_cons, List.flatMap_append, List.flatMap_cons,
        List.flatMap_nil, List.length_append, List.length_cons, List.length_nil]
      omega
  | joined before after results hchunks hworkers hlength =>
      have hlt : state.joined < state.workers.length := by
        rw [hworkers, ← hlength]
        simp
      simp only [turns]
      omega
  | mapped before after item rest results hworkers =>
      simp only [turns, hworkers, List.flatMap_append, List.flatMap_cons, List.length_append,
        List.length_cons]
      omega

/-- Until every worker is joined some thread can take a turn. -/
theorem exists_step (hjoined : state.joined ≤ state.workers.length)
    (hopen : ¬ state.result.isSome = true) : ∃ turn next, step f state turn = some next := by
  cases hchunks : state.chunks with
  | cons chunk rest => exact ⟨.main, _, by rw [step, hchunks]⟩
  | nil =>
      have hlt : state.joined < state.workers.length := by
        apply Nat.lt_of_le_of_ne hjoined
        intro heq
        simp [result, hchunks, heq] at hopen
      obtain ⟨⟨todo, results⟩, hget⟩ : ∃ worker, state.workers[state.joined]? = some worker :=
        ⟨_, List.getElem?_eq_getElem hlt⟩
      cases todo with
      | nil => exact ⟨.main, _, by simp only [step, hchunks, hget]; rfl⟩
      | cons item rest => exact ⟨.worker state.joined, _, by simp only [step, hget]; rfl⟩

/-- Every order of turns comes to its end. -/
theorem inevitably_returns (f : α → β) (chunks : List (List α)) :
    (system f chunks).Inevitably (fun _ => True) (fun state => state.result.isSome = true)
      { chunks } := by
  apply System.Inevitably.of_measure (Inv f chunks) turns
  · intro state hinv hopen
    obtain ⟨turn, next, hstep⟩ := @exists_step α β f state hinv.joined_le hopen
    exact ⟨turn, next, trivial, hstep⟩
  · intro state turn next hinv _ hstep
    exact ⟨inv_step hinv (step_moves hstep), turns_step hinv (step_moves hstep)⟩
  · exact inv_initial f chunks

end ForkJoin

end Foundation
