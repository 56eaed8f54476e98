import S7cmd.BatchRun.Machine

/-!
# The sequential executor over a script

`run_sequential` executes one line at a time and records each code before it
looks at the next line. Between lines every line in flight has been joined, so
the recorded codes are those of the lines so far, in script order.
-/

namespace S7cmd.BatchRun

open Foundation

variable {Cmd : Type}

/-! ## Books that see one line at a time -/

namespace Books

variable (opts : ExecutorOptions) (dispatch : Nat → DispatchResult)

/-- No line is running. -/
structure Quiet (dropped : Nat) (books : Books Cmd) : Prop where
  coded : books.Coded opts dispatch
  joined : books.allJoined = true
  tallied : Tallied books.joinedCodes dropped books

/-- Only the last line in flight is running. -/
structure Awaiting (index : Nat) (line : PreparedLine Cmd) (books : Books Cmd) : Prop where
  coded : books.Coded opts dispatch
  last : ∃ before, books.flights = before ++ [⟨line, .running⟩] ∧ before.length = index ∧
    before.all Flight.isJoined = true
  tallied : Tallied books.joinedCodes 0 books

variable {opts dispatch} {books : Books Cmd}

theorem quiet_empty : Quiet opts dispatch 0 ({} : Books Cmd) :=
  ⟨coded_empty, rfl, tallied_empty⟩

theorem Quiet.unfinished {dropped : Nat} (hquiet : books.Quiet opts dispatch dropped) :
    books.unfinished = 0 :=
  countP_isOpen_of_isJoined hquiet.joined

theorem Quiet.dropMore {dropped : Nat} (hquiet : books.Quiet opts dispatch dropped)
    (count : Nat) : (books.skip count).Quiet opts dispatch (dropped + count) :=
  ⟨⟨hquiet.coded.code_eq, hquiet.coded.failCount_eq⟩, hquiet.joined, hquiet.tallied.skip count⟩

theorem Quiet.skip (hquiet : books.Quiet opts dispatch 0) (count : Nat) :
    (books.skip count).Quiet opts dispatch count := by
  have hskip := hquiet.dropMore count
  rwa [Nat.zero_add] at hskip

theorem Quiet.launch (hquiet : books.Quiet opts dispatch 0) (line : PreparedLine Cmd) :
    (books.launch line).Awaiting opts dispatch books.flights.length line := by
  refine ⟨hquiet.coded.launch line, ⟨books.flights, rfl, rfl, hquiet.joined⟩, ?_⟩
  have hcodes : (books.launch line).joinedCodes = books.joinedCodes := by
    simp [joinedCodes, Phase.joined?]
  rw [hcodes]
  exact hquiet.tallied

theorem Awaiting.getElem? {index : Nat} {line : PreparedLine Cmd}
    (hawaiting : books.Awaiting opts dispatch index line) :
    books.flights[index]? = some ⟨line, .running⟩ := by
  obtain ⟨before, hflights, rfl, -⟩ := hawaiting.last
  rw [hflights, List.getElem?_concat_length]

theorem Awaiting.length {index : Nat} {line : PreparedLine Cmd}
    (hawaiting : books.Awaiting opts dispatch index line) :
    books.flights.length = index + 1 := by
  obtain ⟨before, hflights, rfl, -⟩ := hawaiting.last
  rw [hflights, List.length_append, List.length_singleton]

/-- The only running line is the last one. -/
theorem Awaiting.running_eq {index other : Nat} {line otherLine : PreparedLine Cmd}
    (hawaiting : books.Awaiting opts dispatch index line)
    (hother : books.flights[other]? = some ⟨otherLine, .running⟩) :
    other = index ∧ otherLine = line := by
  obtain ⟨before, hflights, rfl, hjoined⟩ := hawaiting.last
  rw [hflights, List.getElem?_append] at hother
  split at hother
  next hlt =>
    have hmem := List.mem_of_getElem? hother
    have := List.all_eq_true.mp hjoined _ hmem
    simp [Flight.isJoined, Phase.joined?] at this
  next hge =>
    have hindex : other - before.length = 0 := by
      have hlt := (List.getElem?_eq_some_iff.mp hother).1
      rw [List.length_singleton] at hlt
      omega
    rw [hindex] at hother
    simp only [List.getElem?_cons_zero, Option.some.injEq, Flight.mk.injEq] at hother
    exact ⟨by omega, hother.1.symm⟩

theorem Awaiting.unfinished {index : Nat} {line : PreparedLine Cmd}
    (hawaiting : books.Awaiting opts dispatch index line) : books.unfinished ≤ 1 := by
  obtain ⟨before, hflights, -, hjoined⟩ := hawaiting.last
  have hbefore := countP_isOpen_of_isJoined hjoined
  simp only [Books.unfinished, hflights, List.countP_append, hbefore, List.countP_singleton]
  split <;> omega

/-- The codes of the lines reach the threshold when the counter does. -/
theorem Quiet.tripped_iff {dropped : Nat} (hquiet : books.Quiet opts dispatch dropped) :
    books.Tripped opts ↔ opts.Tripped (lineCodes dispatch books.inFlight) := by
  rw [Books.Tripped, hquiet.coded.failCount_eq_stopWorthyOf hquiet.joined]
  exact Iff.rfl

/-- The account of a run in which no line is running. -/
theorem Quiet.account {dropped : Nat} (hquiet : books.Quiet opts dispatch dropped) :
    Tallied (lineCodes dispatch books.inFlight) dropped books := by
  have htallied := hquiet.tallied
  rwa [hquiet.coded.joinedCodes_eq hquiet.joined] at htallied

/-- The line comes back and its code is recorded after all earlier ones. -/
theorem Awaiting.settle {index : Nat} {line : PreparedLine Cmd}
    (hawaiting : books.Awaiting opts dispatch index line) :
    (books.settle opts (dispatch index) index line).Quiet opts dispatch 0 := by
  obtain ⟨before, hflights, rfl, hjoined⟩ := hawaiting.last
  have hsettled : (books.settle opts (dispatch before.length) before.length line).flights =
      before ++ [⟨line, .joined (lineCode line (dispatch before.length))⟩] := by
    rw [flights_settle, hflights, List.set_append_right _ _ (Nat.le_refl _),
      Nat.sub_self, List.set_cons_zero]
  constructor
  · exact hawaiting.coded.returned hawaiting.getElem? rfl (flights_settle _ _ _ _ _)
      (failCount_settle _ _ _ _ _)
  · rw [allJoined, hsettled, List.all_append, hjoined]
    rfl
  · have hcodes : (books.settle opts (dispatch before.length) before.length line).joinedCodes =
        books.joinedCodes ++ [lineCode line (dispatch before.length)] := by
      simp only [joinedCodes, hsettled, hflights, List.filterMap_append, List.filterMap_cons,
        List.filterMap_nil, Phase.joined?, List.append_nil]
    rw [hcodes]
    exact hawaiting.tallied.recorded (summary_settle _ _ _) (worst_settle _ _ _)

end Books

/-! ## The executor -/

namespace Sequential

inductive Pc where
  /-- at the head of `for (idx, line) in lines` -/
  | top
  /-- awaiting `execute_line` -/
  | running
  | done
  deriving DecidableEq, Repr

structure State (Cmd : Type) where
  books : Books Cmd := {}
  /-- what the iterator has left -/
  lines : List (PreparedLine Cmd)
  idx : Nat := 0
  pc : Pc := .top
  interrupt : Bool := false
  deriving DecidableEq, Repr

/-- From the loop head to the await of the next line, or out of the loop. -/
def loopHead (total : Nat) (state : State Cmd) : State Cmd :=
  match state.lines with
  | [] => { state with pc := .done }
  | line :: rest =>
      if state.interrupt then
        -- the line in hand is skipped with all lines behind it
        { state with books := state.books.skip (total - state.idx), pc := .done }
      else
        { state with books := state.books.launch line, lines := rest, pc := .running }

/-- From the return of `execute_line` back to the loop head, or out of the loop. -/
def afterLine (opts : ExecutorOptions) (total : Nat) (result : DispatchResult) (index : Nat)
    (line : PreparedLine Cmd) (state : State Cmd) : State Cmd :=
  let books := state.books.settle opts result index line
  if books.trips opts (lineCode line result) then
    -- the line that reaches the threshold has a bucket of its own
    { state with books := books.skip (total - (state.idx + 1)), pc := .done }
  else
    { state with books := books, idx := state.idx + 1, pc := .top }

def step (opts : ExecutorOptions) (total : Nat) (dispatch : Nat → DispatchResult)
    (state : State Cmd) : Action Cmd → Option (State Cmd)
  | .exec => if state.pc = .top then some (loopHead total state) else none
  | .complete index =>
      match state.pc, state.books.flights[index]? with
      | .running, some ⟨line, .running⟩ =>
          some (afterLine opts total (dispatch index) index line state)
      | _, _ => none
  | .sigint => some { state with interrupt := true }
  | _ => none

end Sequential

/-- `run_sequential` -/
def runSequential (opts : ExecutorOptions) (script : List (PreparedLine Cmd)) : Machine Cmd where
  State := Sequential.State Cmd
  initial := { lines := script }
  step := Sequential.step opts script.length
  books := Sequential.State.books
  given := fun _ => script
  interrupt := Sequential.State.interrupt
  poised := fun state => state.pc = .top && !state.lines.isEmpty
  returned := fun state => state.pc = .done

namespace Sequential

variable {opts : ExecutorOptions} {script : List (PreparedLine Cmd)}
  {dispatch : Nat → DispatchResult} {state next : State Cmd}

/-- What a step can do: interrupts aside, the loop ends, a line is put in
flight, or the line in flight comes back. -/
inductive Moves (opts : ExecutorOptions) (total : Nat) (dispatch : Nat → DispatchResult)
    (state : State Cmd) : Action Cmd → State Cmd → Prop
  | sigint : Moves opts total dispatch state .sigint { state with interrupt := true }
  | ended (hpc : state.pc = .top) (hlines : state.lines = []) :
      Moves opts total dispatch state .exec { state with pc := .done }
  | interrupted (hpc : state.pc = .top) (hlines : state.lines ≠ [])
      (hinterrupt : state.interrupt = true) :
      Moves opts total dispatch state .exec
        { state with books := state.books.skip (total - state.idx), pc := .done }
  | launched (line : PreparedLine Cmd) (rest : List (PreparedLine Cmd)) (hpc : state.pc = .top)
      (hlines : state.lines = line :: rest) (hinterrupt : state.interrupt = false) :
      Moves opts total dispatch state .exec
        { state with books := state.books.launch line, lines := rest, pc := .running }
  | settled (index : Nat) (line : PreparedLine Cmd) (hpc : state.pc = .running)
      (hflight : state.books.flights[index]? = some ⟨line, .running⟩) :
      Moves opts total dispatch state (.complete index)
        (afterLine opts total (dispatch index) index line state)

theorem step_moves {total : Nat} {action : Action Cmd}
    (hstep : step opts total dispatch state action = some next) :
    Moves opts total dispatch state action next := by
  cases action with
  | exec =>
      simp only [step] at hstep
      split at hstep
      next hpc =>
        cases hstep
        unfold loopHead
        split
        next hlines => exact .ended hpc hlines
        next line rest hlines =>
          split
          next hinterrupt =>
            exact .interrupted hpc (by rw [hlines]; exact List.cons_ne_nil _ _) hinterrupt
          next hinterrupt => exact .launched line rest hpc hlines (by simpa using hinterrupt)
      next => cases hstep
  | complete index =>
      simp only [step] at hstep
      split at hstep
      next line hpc hflight =>
        cases hstep
        exact .settled index line hpc hflight
      next => cases hstep
  | sigint =>
      cases hstep
      exact .sigint
  | _ => cases hstep

/-- The invariant of the loop. -/
structure Inv (opts : ExecutorOptions) (script : List (PreparedLine Cmd))
    (dispatch : Nat → DispatchResult) (state : State Cmd) : Prop where
  given : state.books.inFlight <+: script
  rest : state.pc ≠ .done → state.books.inFlight ++ state.lines = script
  top : state.pc = .top → state.books.Quiet opts dispatch 0 ∧
    state.idx = state.books.flights.length
  running : state.pc = .running → ∃ line, state.books.Awaiting opts dispatch state.idx line
  done : state.pc = .done →
    state.books.Quiet opts dispatch (script.length - state.books.flights.length)
  /-- why the loop was left -/
  cause : state.pc = .done → state.books.inFlight = script ∨ state.interrupt = true ∨
    state.books.Tripped opts

theorem Inv.at_top (hpc : state.pc = .top) (hrest : state.books.inFlight ++ state.lines = script)
    (hquiet : state.books.Quiet opts dispatch 0)
    (hidx : state.idx = state.books.flights.length) : Inv opts script dispatch state where
  given := ⟨state.lines, hrest⟩
  rest := fun _ => hrest
  top := fun _ => ⟨hquiet, hidx⟩
  running := by simp [hpc]
  done := by simp [hpc]
  cause := by simp [hpc]

theorem Inv.at_running (hpc : state.pc = .running)
    (hrest : state.books.inFlight ++ state.lines = script) {line : PreparedLine Cmd}
    (hawaiting : state.books.Awaiting opts dispatch state.idx line) :
    Inv opts script dispatch state where
  given := ⟨state.lines, hrest⟩
  rest := fun _ => hrest
  top := by simp [hpc]
  running := fun _ => ⟨line, hawaiting⟩
  done := by simp [hpc]
  cause := by simp [hpc]

theorem Inv.at_done (hpc : state.pc = .done) (hgiven : state.books.inFlight <+: script)
    (hquiet : state.books.Quiet opts dispatch (script.length - state.books.flights.length))
    (hcause : state.books.inFlight = script ∨ state.interrupt = true ∨ state.books.Tripped opts) :
    Inv opts script dispatch state where
  given := hgiven
  rest := fun hopen => absurd hpc hopen
  top := by simp [hpc]
  running := by simp [hpc]
  done := fun _ => hquiet
  cause := fun _ => hcause

theorem inv_initial : Inv opts script dispatch { lines := script } :=
  Inv.at_top rfl rfl Books.quiet_empty rfl

theorem inv_step {action : Action Cmd} (hinv : Inv opts script dispatch state)
    (hstep : step opts script.length dispatch state action = some next) :
    Inv opts script dispatch next := by
  cases step_moves hstep with
  | sigint =>
      exact ⟨hinv.given, hinv.rest, hinv.top, hinv.running, hinv.done,
        fun _ => Or.inr (Or.inl rfl)⟩
  | ended hpc hlines =>
      have hall := hinv.rest (by simp [hpc])
      rw [hlines, List.append_nil] at hall
      refine Inv.at_done rfl hinv.given ?_ ?_
      · have hlength : script.length - state.books.flights.length = 0 := by
          rw [← hall, Books.inFlight, List.length_map, Nat.sub_self]
        rw [hlength]
        exact (hinv.top hpc).1
      · exact Or.inl hall
  | interrupted hpc hlines hinterrupt =>
      obtain ⟨hquiet, hidx⟩ := hinv.top hpc
      refine Inv.at_done rfl hinv.given ?_ ?_
      · rw [Books.flights_skip, ← hidx]
        exact hquiet.skip _
      · exact Or.inr (Or.inl hinterrupt)
  | launched line rest hpc hlines hinterrupt =>
      obtain ⟨hquiet, hidx⟩ := hinv.top hpc
      have hall := hinv.rest (by simp [hpc])
      have hawaiting := hquiet.launch line
      rw [← hidx] at hawaiting
      refine Inv.at_running rfl ?_ hawaiting
      rw [Books.inFlight_launch, List.append_assoc, List.singleton_append, ← hlines, hall]
  | settled index line hpc hflight =>
      obtain ⟨last, hawaiting⟩ := hinv.running hpc
      obtain ⟨rfl, rfl⟩ := hawaiting.running_eq hflight
      have hsettle := hawaiting.settle
      have hsame := Books.inFlight_set hflight
        (Books.flights_settle opts state.books (dispatch state.idx) state.idx line)
      have hlength : (state.books.settle opts (dispatch state.idx) state.idx line).flights.length
          = state.idx + 1 := by
        rw [Books.flights_settle, List.length_set, hawaiting.length]
      unfold afterLine
      dsimp only
      split
      next htrips =>
        refine Inv.at_done rfl ?_ ?_ ?_
        · rw [Books.inFlight_skip, hsame]
          exact hinv.given
        · rw [Books.flights_skip, hlength]
          exact hsettle.skip _
        · exact Or.inr (Or.inr ((Books.tripped_iff (Books.failCount_settle _ _ _ _ _)).mpr
            (Or.inr htrips)))
      next hgoing =>
        refine Inv.at_top rfl ?_ hsettle hlength.symm
        rw [hsame]
        exact hinv.rest (by simp [hpc])

/-- The history is coded wherever the loop stands. -/
theorem Inv.coded (hinv : Inv opts script dispatch state) : state.books.Coded opts dispatch := by
  cases hpc : state.pc with
  | top => exact (hinv.top hpc).1.coded
  | running =>
      obtain ⟨line, hawaiting⟩ := hinv.running hpc
      exact hawaiting.coded
  | done => exact (hinv.done hpc).coded

theorem inv_reachable
    (hreach : ((runSequential opts script).system dispatch).Reachable state) :
    Inv opts script dispatch state :=
  hreach.invariant (Inv opts script dispatch) inv_initial
    fun _ _ _ hinv hstep => inv_step hinv hstep

end Sequential

/-- Where `run_sequential` puts lines in flight. -/
theorem runSequential_lawful (opts : ExecutorOptions) (script : List (PreparedLine Cmd)) :
    (runSequential opts script).Lawful where
  inFlight_step := by
    intro dispatch state action next hstep
    cases Sequential.step_moves hstep with
    | sigint => exact Or.inl rfl
    | ended hpc hlines => exact Or.inl rfl
    | interrupted hpc hlines hinterrupt => exact Or.inl rfl
    | launched line rest hpc hlines hinterrupt =>
        refine Or.inr ⟨rfl, ?_, hinterrupt, line, Books.inFlight_launch _ _⟩
        simp [runSequential, hpc, hlines]
    | settled index line hpc hflight =>
        apply Or.inl
        have hsame := Books.inFlight_set hflight
          (Books.flights_settle opts state.books (dispatch index) index line)
        simp only [Machine.inFlight, runSequential, Sequential.afterLine]
        split
        · exact hsame
        · exact hsame
  launch := by
    intro dispatch state hpoised hinterrupt
    simp only [runSequential, Bool.and_eq_true, decide_eq_true_eq] at hpoised hinterrupt
    obtain ⟨hpc, hlines⟩ := hpoised
    cases hcase : state.lines with
    | nil => simp [hcase] at hlines
    | cons line rest =>
        refine ⟨_, line, if_pos hpc, ?_⟩
        simp [Machine.inFlight, runSequential, Sequential.loopHead, hcase, hinterrupt]
  interrupt_step := by
    intro dispatch state action next hstep
    cases Sequential.step_moves hstep with
    | sigint => simp [runSequential]
    | ended hpc hlines => simp [runSequential]
    | interrupted hpc hlines hinterrupt => simp [runSequential]
    | launched line rest hpc hlines hinterrupt => simp [runSequential]
    | settled index line hpc hflight =>
        simp only [runSequential, Sequential.afterLine]
        split <;> simp

/-- `run_sequential` is an in-order dispatcher and accounts for its lines. -/
theorem runSequential_sound (opts : ExecutorOptions) (script : List (PreparedLine Cmd))
    (hworkers : 1 ≤ opts.workers) : (runSequential opts script).Sound opts where
  toLawful := runSequential_lawful opts script
  simulates := by
    intro dispatch
    constructor
    intro state action next hreach hstep
    have hinv := Sequential.inv_reachable hreach
    cases Sequential.step_moves hstep with
    | sigint => exact Ledger.Step.halt _
    | ended hpc hlines => exact Ledger.Step.idle _
    | interrupted hpc hlines hinterrupt => exact Ledger.Step.idle _
    | launched line rest hpc hlines hinterrupt =>
        have hall := hinv.rest (by simp [hpc])
        refine Books.ledger_launch hinterrupt ⟨rest, ?_⟩ ?_
        · rw [List.append_assoc, List.singleton_append, ← hlines]
          exact hall
        · have hquiet := (hinv.top hpc).1.unfinished
          exact hquiet ▸ hworkers
    | settled index line hpc hflight =>
        have hflights := Books.flights_settle opts state.books (dispatch index) index line
        simp only [Machine.ledger, runSequential, Sequential.afterLine]
        split
        · exact Books.ledger_land hflight hflights rfl rfl
        · exact Books.ledger_land hflight hflights rfl rfl
  settled := by
    intro dispatch state hreach hreturned
    have hinv := Sequential.inv_reachable hreach
    have hpc : state.pc = .done := by simpa [runSequential] using hreturned
    have hquiet := hinv.done hpc
    refine ⟨hquiet.unfinished, ⟨_, List.Perm.refl _, ?_⟩,
      (hinv.cause hpc).imp id (Or.imp id hquiet.tripped_iff.mp)⟩
    have htallied := hquiet.account
    simpa [Machine.inFlight, runSequential, Books.inFlight] using htallied
  ledger_initial := ⟨List.nil_prefix, Nat.zero_le _⟩

end S7cmd.BatchRun
