import S7cmd.BatchRun.SequentialStreaming
import S7cmd.Foundation.Sequences

/-!
# The sequential executors agree

Given the interrupt flag as it is seen before each line, a sequential run is cut off
at the first line before which the flag is set or behind which the threshold is
reached. Both sequential executors stop there, one of them counting the lines that
are left and the other receiving them one by one.
-/

namespace S7cmd.BatchRun

open Foundation

variable {Cmd : Type}

/-- The executor task sees the interrupt flag as scheduled just before each line. -/
def Machine.Observes (machine : Machine Cmd) (observed : Nat → Bool) (state : machine.State)
    (action : Action Cmd) (_ : machine.State) : Prop :=
  action = .exec → machine.poised state = true →
    machine.interrupt state = observed (machine.inFlight state).length

/-- The schedule is about the executor task alone. -/
theorem Machine.observes_of_ne {machine : Machine Cmd} {observed : Nat → Bool}
    {state next : machine.State} {action : Action Cmd} (hother : action ≠ .exec) :
    machine.Observes observed state action next := fun hexec => absurd hexec hother

/-- The reasons to dispatch nothing behind these lines. -/
def StopsBehind (opts : ExecutorOptions) (dispatch : Nat → DispatchResult)
    (observed : Nat → Bool) (lines : List (PreparedLine Cmd)) : Prop :=
  observed lines.length = true ∨ opts.Tripped (lineCodes dispatch lines)

theorem Books.Quiet.not_stopsBehind {opts : ExecutorOptions} {dispatch : Nat → DispatchResult}
    {observed : Nat → Bool} {books : Books Cmd} {dropped : Nat}
    (hquiet : books.Quiet opts dispatch dropped) (huntripped : ¬ books.Tripped opts)
    (hobserved : observed books.inFlight.length = false) :
    ¬ StopsBehind opts dispatch observed books.inFlight := by
  rintro (hset | htripped)
  · rw [hobserved] at hset
    cases hset
  · exact huntripped (hquiet.tripped_iff.mpr htripped)

namespace Books.Awaiting

variable {opts : ExecutorOptions} {dispatch : Nat → DispatchResult} {books : Books Cmd}
  {index : Nat} {line : PreparedLine Cmd}

theorem inFlight_settle (hawaiting : books.Awaiting opts dispatch index line) :
    (books.settle opts (dispatch index) index line).inFlight = books.inFlight :=
  Books.inFlight_set hawaiting.getElem? (flights_settle opts books (dispatch index) index line)

/-- Whether the threshold is reached is up to the line that comes back. -/
theorem tripped_settle_iff (huntripped : ¬ books.Tripped opts) :
    (books.settle opts (dispatch index) index line).Tripped opts ↔
      (books.settle opts (dispatch index) index line).trips opts
        (lineCode line (dispatch index)) = true := by
  rw [Books.tripped_iff (failCount_settle opts books (dispatch index) index line)]
  exact or_iff_right huntripped

theorem stopsBehind_settle {observed : Nat → Bool}
    (hawaiting : books.Awaiting opts dispatch index line) (huntripped : ¬ books.Tripped opts)
    (htrips : (books.settle opts (dispatch index) index line).trips opts
      (lineCode line (dispatch index)) = true) :
    StopsBehind opts dispatch observed (books.settle opts (dispatch index) index line).inFlight :=
  Or.inr (hawaiting.settle.tripped_iff.mp ((tripped_settle_iff huntripped).mpr htrips))

end Books.Awaiting

/-! ## Over a script -/

namespace Sequential

variable {opts : ExecutorOptions} {script : List (PreparedLine Cmd)}
  {dispatch : Nat → DispatchResult} {observed : Nat → Bool} {state next : State Cmd}

/-- The lines in flight are a walk along the script that has not passed a reason to
stop. -/
structure Walk (opts : ExecutorOptions) (script : List (PreparedLine Cmd))
    (dispatch : Nat → DispatchResult) (observed : Nat → Bool) (state : State Cmd) : Prop where
  going : Going (StopsBehind opts dispatch observed) state.books.inFlight
  untripped : state.pc ≠ .done → ¬ state.books.Tripped opts
  stopped : state.pc = .done →
    state.books.inFlight = script ∨ StopsBehind opts dispatch observed state.books.inFlight

/-- While the run goes on, the threshold is not reached. -/
theorem Walk.going_on (hpc : state.pc ≠ .done)
    (hgoing : Going (StopsBehind opts dispatch observed) state.books.inFlight)
    (huntripped : ¬ state.books.Tripped opts) : Walk opts script dispatch observed state where
  going := hgoing
  untripped := fun _ => huntripped
  stopped := fun hdone => absurd hdone hpc

/-- Once it is left, there is a reason. -/
theorem Walk.at_done (hpc : state.pc = .done)
    (hgoing : Going (StopsBehind opts dispatch observed) state.books.inFlight)
    (hstopped : state.books.inFlight = script ∨
      StopsBehind opts dispatch observed state.books.inFlight) :
    Walk opts script dispatch observed state where
  going := hgoing
  untripped := fun hother => absurd hpc hother
  stopped := fun _ => hstopped

theorem walk_initial : Walk opts script dispatch observed { lines := script } where
  going := going_nil
  untripped := fun _ htripped => absurd htripped.2 (Nat.lt_irrefl 0)
  stopped := by simp

theorem walk_step {action : Action Cmd} (hinv : Inv opts script dispatch state)
    (hwalk : Walk opts script dispatch observed state)
    (hstep : step opts script.length dispatch state action = some next)
    (hobserves : (runSequential opts script).Observes observed state action next) :
    Walk opts script dispatch observed next := by
  cases step_moves hstep with
  | sigint => exact ⟨hwalk.going, hwalk.untripped, hwalk.stopped⟩
  | ended hpc hlines =>
      have hall := hinv.rest (by simp [hpc])
      rw [hlines, List.append_nil] at hall
      exact Walk.at_done rfl hwalk.going (Or.inl hall)
  | interrupted hpc hlines hinterrupt =>
      have hflag := hobserves rfl (by simp [runSequential, hpc, hlines])
      exact Walk.at_done rfl hwalk.going (Or.inr (Or.inl (hflag.symm.trans hinterrupt)))
  | launched line rest hpc hlines hinterrupt =>
      have hflag := hobserves rfl (by simp [runSequential, hpc, hlines])
      have huntripped := hwalk.untripped (by simp [hpc])
      have hgoing := hwalk.going.concat
        ((hinv.top hpc).1.not_stopsBehind huntripped (hflag.symm.trans hinterrupt)) line
      rw [← Books.inFlight_launch] at hgoing
      exact Walk.going_on (by simp) hgoing huntripped
  | settled index line hpc hflight =>
      obtain ⟨last, hawaiting⟩ := hinv.running hpc
      obtain ⟨rfl, rfl⟩ := hawaiting.running_eq hflight
      have huntripped := hwalk.untripped (by simp [hpc])
      have hgoing := hwalk.going
      rw [← hawaiting.inFlight_settle] at hgoing
      unfold afterLine
      dsimp only
      split
      next htrips =>
        exact Walk.at_done rfl hgoing (Or.inr (hawaiting.stopsBehind_settle huntripped htrips))
      next hpasses =>
        apply Walk.going_on (by simp) hgoing
        rwa [Books.Awaiting.tripped_settle_iff huntripped]

/-- On return the lines in flight are where the script is cut off. -/
theorem cutOff_of_done (hinv : Inv opts script dispatch state)
    (hwalk : Walk opts script dispatch observed state) (hpc : state.pc = .done) :
    CutOff (StopsBehind opts dispatch observed) script state.books.inFlight :=
  ⟨hinv.given, hwalk.going, hwalk.stopped hpc⟩

/-- The next line is put in flight and comes back, and the loop goes on or is left. -/
theorem exists_settled (hinv : Inv opts script dispatch state) (hpc : state.pc = .top)
    (hinterrupt : state.interrupt = false) {line : PreparedLine Cmd}
    {rest : List (PreparedLine Cmd)} (hlines : state.lines = line :: rest)
    (hobserved : observed state.books.inFlight.length = false) :
    ∃ after : State Cmd, ((runSequential opts script).system dispatch).Leads
        ((runSequential opts script).Observes observed) state after ∧
      Inv opts script dispatch after ∧ after.lines = rest ∧ after.interrupt = false ∧
      (after.pc = .top ∨ after.pc = .done) := by
  let launched : State Cmd :=
    { state with books := state.books.launch line, lines := rest, pc := .running }
  have hexec : step opts script.length dispatch state .exec = some launched := by
    simp [step, hpc, loopHead, hlines, hinterrupt, launched]
  have hflag : (runSequential opts script).Observes observed state .exec launched :=
    fun _ _ => hinterrupt.trans hobserved.symm
  have hlaunched := inv_step hinv hexec
  obtain ⟨last, hawaiting⟩ := hlaunched.running rfl
  have hcomplete : step opts script.length dispatch launched (.complete launched.idx) =
      some (afterLine opts script.length (dispatch launched.idx) launched.idx last launched) := by
    simp only [step, hawaiting.getElem?, launched]
  refine ⟨_, .head .exec hexec hflag (.head (.complete launched.idx) hcomplete
    (Machine.observes_of_ne (by simp)) (.refl _)), inv_step hlaunched hcomplete, ?_⟩
  unfold afterLine
  dsimp only
  split
  next => exact ⟨rfl, hinterrupt, Or.inr rfl⟩
  next => exact ⟨rfl, hinterrupt, Or.inl rfl⟩

/-- Some run with this schedule returns. -/
theorem exists_done (observed : Nat → Bool) (hinv : Inv opts script dispatch state)
    (hpc : state.pc = .top) (hinterrupt : state.interrupt = false) :
    ∃ final, ((runSequential opts script).system dispatch).Leads
      ((runSequential opts script).Observes observed) state final ∧ final.pc = .done := by
  induction hlines : state.lines generalizing state with
  | nil =>
      have hexec : step opts script.length dispatch state .exec =
          some { state with pc := .done } := by
        simp only [step, hpc, if_true, loopHead, hlines]
      refine ⟨_, .head .exec hexec ?_ (.refl _), rfl⟩
      intro _ hpoised
      simp [runSequential, hlines] at hpoised
  | cons line rest ih =>
      cases hobserved : observed state.books.inFlight.length with
      | true =>
          -- the listener sets the flag in time
          have hexec : step opts script.length dispatch { state with interrupt := true } .exec =
              some { state with
                interrupt := true
                books := state.books.skip (script.length - state.idx)
                pc := .done } := by
            simp only [step, hpc, if_true, loopHead, hlines]
          exact ⟨_, .head .sigint rfl (Machine.observes_of_ne (by simp))
            (.head .exec hexec (fun _ _ => hobserved.symm) (.refl _)), rfl⟩
      | false =>
          obtain ⟨after, hleads, hafter, hrest, hquiet, htop | hdone⟩ :=
            exists_settled hinv hpc hinterrupt hlines hobserved
          · obtain ⟨final, hlater, hdone⟩ := ih hafter htop hquiet hrest
            exact ⟨final, hleads.trans hlater, hdone⟩
          · exact ⟨after, hleads, hdone⟩

end Sequential

/-! ## Over a stream -/

namespace SequentialStreaming

variable {opts : ExecutorOptions} {dispatch : Nat → DispatchResult} {observed : Nat → Bool}
  {state next : State Cmd}

/-- The lines in flight are a walk along what is sent that has not passed a reason to
stop. -/
structure Walk (opts : ExecutorOptions) (dispatch : Nat → DispatchResult)
    (observed : Nat → Bool) (state : State Cmd) : Prop where
  going : Going (StopsBehind opts dispatch observed) state.books.inFlight
  untripped : state.pc = .recv ∨ state.pc = .running → ¬ state.books.Tripped opts
  stopped : state.pc = .drain ∨ state.pc = .done →
    state.channel.closed = true ∧ state.books.inFlight = state.channel.sent ∨
      StopsBehind opts dispatch observed state.books.inFlight

/-- While the run goes on, the threshold is not reached. -/
theorem Walk.going_on (hpc : state.pc ≠ .drain ∧ state.pc ≠ .done)
    (hgoing : Going (StopsBehind opts dispatch observed) state.books.inFlight)
    (huntripped : ¬ state.books.Tripped opts) : Walk opts dispatch observed state where
  going := hgoing
  untripped := fun _ => huntripped
  stopped := fun hleft => (hleft.elim hpc.1 hpc.2).elim

/-- Once the loop is left, there is a reason. -/
theorem Walk.at_end (hpc : state.pc ≠ .recv ∧ state.pc ≠ .running)
    (hgoing : Going (StopsBehind opts dispatch observed) state.books.inFlight)
    (hstopped : state.channel.closed = true ∧ state.books.inFlight = state.channel.sent ∨
      StopsBehind opts dispatch observed state.books.inFlight) :
    Walk opts dispatch observed state where
  going := hgoing
  untripped := fun hloop => (hloop.elim hpc.1 hpc.2).elim
  stopped := fun _ => hstopped

theorem walk_initial : Walk opts dispatch observed ({} : State Cmd) where
  going := going_nil
  untripped := fun _ htripped => absurd htripped.2 (Nat.lt_irrefl 0)
  stopped := by simp

theorem poised_of_recv {line : PreparedLine Cmd} {channel : Channel (PreparedLine Cmd)}
    (hpc : state.pc = .recv) (hrecv : state.channel.recv = some (.message line, channel)) :
    (runSequentialStreaming Cmd opts).poised state = true := by
  obtain ⟨rest, hqueue, -⟩ := Channel.recv_message hrecv
  simp [runSequentialStreaming, hpc, hqueue]

theorem walk_step {action : Action Cmd} (hinv : Inv opts dispatch state)
    (hwalk : Walk opts dispatch observed state)
    (hstep : step opts dispatch state action = some next)
    (hobserves : (runSequentialStreaming Cmd opts).Observes observed state action next) :
    Walk opts dispatch observed next := by
  obtain ⟨dropped, hreceived, hrecvPc, hrunning, hdrain⟩ := hinv.received
  cases step_moves hstep with
  | sigint => exact ⟨hwalk.going, hwalk.untripped, hwalk.stopped⟩
  | sent line channel hsend =>
      obtain ⟨hopen, rfl⟩ := Channel.send_eq_some hsend
      refine ⟨hwalk.going, hwalk.untripped, fun hpc => Or.inr ?_⟩
      apply (hwalk.stopped hpc).resolve_left
      intro hclosed
      exact absurd (hopen.symm.trans hclosed.1) Bool.false_ne_true
  | closed =>
      exact ⟨hwalk.going, hwalk.untripped,
        fun hpc => (hwalk.stopped hpc).imp (fun hsent => ⟨rfl, hsent.2⟩) id⟩
  | interrupted line channel hpc hrecv hinterrupt =>
      have hflag := hobserves rfl (poised_of_recv hpc hrecv)
      exact Walk.at_end (by simp) hwalk.going
        (Or.inr (Or.inl (hflag.symm.trans hinterrupt)))
  | launched line channel hpc hrecv hinterrupt =>
      have hflag := hobserves rfl (poised_of_recv hpc hrecv)
      have huntripped := hwalk.untripped (Or.inl hpc)
      have hgoing := hwalk.going.concat
        ((hrecvPc hpc).2.not_stopsBehind huntripped (hflag.symm.trans hinterrupt)) line
      rw [← Books.inFlight_launch] at hgoing
      exact Walk.going_on (by simp) hgoing huntripped
  | dropped line channel hpc hrecv =>
      refine Walk.at_end (by simp [hpc]) hwalk.going ?_
      obtain ⟨rest, -, hchannel⟩ := Channel.recv_message hrecv
      rw [Channel.sent_recv hrecv, hchannel]
      exact hwalk.stopped (Or.inl hpc)
  | ended hpc hrecv =>
      obtain ⟨hqueue, hclosed, -⟩ := Channel.recv_closed hrecv
      refine Walk.at_end (by simp) hwalk.going ?_
      rcases hpc with hpc | hpc
      · refine Or.inl ⟨hclosed, ?_⟩
        rw [Channel.sent, hqueue, hreceived, (hrecvPc hpc).1, List.append_nil, List.append_nil]
      · exact hwalk.stopped (Or.inl hpc)
  | settled index line hpc hflight =>
      obtain ⟨rfl, last, lastLine, hawaiting⟩ := hrunning hpc
      obtain ⟨rfl, rfl⟩ := hawaiting.running_eq hflight
      have huntripped := hwalk.untripped (Or.inr hpc)
      have hgoing := hwalk.going
      rw [← hawaiting.inFlight_settle] at hgoing
      unfold afterLine
      dsimp only
      split
      next htrips =>
        exact Walk.at_end (by simp) hgoing
          (Or.inr (hawaiting.stopsBehind_settle huntripped htrips))
      next hpasses =>
        apply Walk.going_on (by simp) hgoing
        rwa [Books.Awaiting.tripped_settle_iff huntripped]

/-- On return the lines in flight are where the lines sent are cut off. -/
theorem cutOff_of_done (hinv : Inv opts dispatch state)
    (hwalk : Walk opts dispatch observed state) (hpc : state.pc = .done) :
    CutOff (StopsBehind opts dispatch observed) state.channel.sent state.books.inFlight := by
  obtain ⟨dropped, hreceived, -, -, -⟩ := hinv.received
  refine ⟨?_, hwalk.going, (hwalk.stopped (Or.inr hpc)).imp (fun hsent => hsent.2) id⟩
  rw [Channel.sent, hreceived, List.append_assoc]
  exact List.prefix_append _ _

/-- A run of this executor in which the flag is seen as scheduled. -/
abbrev Follows (opts : ExecutorOptions) (dispatch : Nat → DispatchResult)
    (observed : Nat → Bool) (state final : State Cmd) : Prop :=
  ((runSequentialStreaming Cmd opts).system dispatch).Leads
    ((runSequentialStreaming Cmd opts).Observes observed) state final

/-- The reader may send all its lines before anything else happens. -/
theorem follows_send (lines : List (PreparedLine Cmd)) (hopen : state.channel.closed = false)
    {final : State Cmd} (hlater : Follows opts dispatch observed
      { state with channel := { state.channel with queue := state.channel.queue ++ lines } }
      final) : Follows opts dispatch observed state final := by
  induction lines generalizing state with
  | nil => simpa using hlater
  | cons line rest ih =>
      have hsend : step opts dispatch state (.send line) = some { state with
          channel := { state.channel with queue := state.channel.queue ++ [line] } } := by
        simp [step, Channel.send, hopen]
      refine .head (.send line) hsend (Machine.observes_of_ne (by simp)) (ih hopen ?_)
      simpa only [List.append_assoc, List.singleton_append] using hlater

/-- No line is about to be put in flight unless one waits in the channel. -/
theorem observes_of_not_poised (hpoised : (runSequentialStreaming Cmd opts).poised state = false) :
    (runSequentialStreaming Cmd opts).Observes observed state .exec next := by
  intro _ hset
  rw [hpoised] at hset
  cases hset

/-- The executor task takes the next item off the channel. -/
theorem follows_recv (hpc : state.pc = .recv)
    {item : Received (PreparedLine Cmd) × Channel (PreparedLine Cmd)}
    (hrecv : state.channel.recv = some item)
    (hobserves : (runSequentialStreaming Cmd opts).Observes observed state .exec
      (received state item))
    {final : State Cmd} (hlater : Follows opts dispatch observed (received state item) final) :
    Follows opts dispatch observed state final := by
  have hexec : step opts dispatch state .exec = some (received state item) := by
    simp only [step, hpc, hrecv, Option.map_some]
  exact .head .exec hexec hobserves hlater

theorem follows_drain (hpc : state.pc = .drain)
    {item : Received (PreparedLine Cmd) × Channel (PreparedLine Cmd)}
    (hrecv : state.channel.recv = some item)
    {final : State Cmd} (hlater : Follows opts dispatch observed (drained state item) final) :
    Follows opts dispatch observed state final := by
  have hexec : step opts dispatch state .exec = some (drained state item) := by
    simp only [step, hpc, hrecv, Option.map_some]
  exact .head .exec hexec (observes_of_not_poised (by simp [runSequentialStreaming, hpc])) hlater

/-- The drain comes to its end. -/
theorem exists_done_of_drain (opts : ExecutorOptions) (dispatch : Nat → DispatchResult)
    (observed : Nat → Bool) (state : State Cmd) (hpc : state.pc = .drain)
    (hclosed : state.channel.closed = true) :
    ∃ final, Follows opts dispatch observed state final ∧ final.pc = .done ∧
      final.channel.sent = state.channel.sent := by
  induction hqueue : state.channel.queue generalizing state with
  | nil =>
      exact ⟨_, follows_drain hpc (Channel.recv_of_closed hqueue hclosed) (.refl _), rfl, rfl⟩
  | cons line rest ih =>
      obtain ⟨channel, hrecv, hrest, hkept⟩ := Channel.exists_recv_of_cons hqueue
      obtain ⟨final, hfollows, hdone, hsent⟩ := ih (drained state (.message line, channel)) hpc
        (hkept.trans hclosed) hrest
      exact ⟨final, follows_drain hpc hrecv hfollows, hdone,
        hsent.trans (Channel.sent_recv hrecv)⟩

/-- The next line is put in flight and comes back, and the loop goes on or is left. -/
theorem exists_settled (hinv : Inv opts dispatch state) (hpc : state.pc = .recv)
    (hinterrupt : state.interrupt = false) {line : PreparedLine Cmd}
    {channel : Channel (PreparedLine Cmd)}
    (hrecv : state.channel.recv = some (.message line, channel))
    (hobserved : observed state.books.inFlight.length = false) :
    ∃ after, Follows opts dispatch observed state after ∧ Inv opts dispatch after ∧
      after.channel = channel ∧ after.interrupt = false ∧
      (after.pc = .recv ∨ after.pc = .drain) := by
  let launched : State Cmd :=
    { state with books := state.books.launch line, channel := channel, pc := .running }
  have hreceived : received state (.message line, channel) = launched := by
    simp [received, hinterrupt, launched]
  have hexec : step opts dispatch state .exec = some launched := by
    simp only [step, hpc, hrecv, Option.map_some, hreceived]
  have hflag : (runSequentialStreaming Cmd opts).Observes observed state .exec launched :=
    fun _ _ => hinterrupt.trans hobserved.symm
  have hlaunched := inv_step hinv hexec
  obtain ⟨_, -, -, hrunning, -⟩ := hlaunched.received
  obtain ⟨-, index, last, hawaiting⟩ := hrunning rfl
  have hcomplete : step opts dispatch launched (.complete index) =
      some (afterLine opts (dispatch index) index last launched) := by
    simp only [step, hawaiting.getElem?, launched]
  refine ⟨_, .head .exec hexec hflag (.head (.complete index) hcomplete
    (Machine.observes_of_ne (by simp)) (.refl _)), inv_step hlaunched hcomplete, ?_⟩
  unfold afterLine
  dsimp only
  split
  next => exact ⟨rfl, hinterrupt, Or.inr rfl⟩
  next => exact ⟨rfl, hinterrupt, Or.inl rfl⟩

/-- Some run with this schedule returns once the sender is gone. -/
theorem exists_done (observed : Nat → Bool) (state : State Cmd) (hinv : Inv opts dispatch state)
    (hpc : state.pc = .recv) (hinterrupt : state.interrupt = false)
    (hclosed : state.channel.closed = true) :
    ∃ final, Follows opts dispatch observed state final ∧ final.pc = .done ∧
      final.channel.sent = state.channel.sent := by
  induction hqueue : state.channel.queue generalizing state with
  | nil =>
      have hpoised : (runSequentialStreaming Cmd opts).poised state = false := by
        simp [runSequentialStreaming, hqueue]
      exact ⟨_, follows_recv hpc (Channel.recv_of_closed hqueue hclosed)
        (observes_of_not_poised hpoised) (.refl _), rfl, rfl⟩
  | cons line rest ih =>
      obtain ⟨channel, hrecv, hrest, hkept⟩ := Channel.exists_recv_of_cons hqueue
      have hsame := Channel.sent_recv hrecv
      have hclosed' := hkept.trans hclosed
      cases hobserved : observed state.books.inFlight.length with
      | true =>
          -- the listener sets the flag in time
          let halted : State Cmd := { state with interrupt := true }
          obtain ⟨final, hfollows, hdone, hsent⟩ := exists_done_of_drain opts dispatch observed
            (received halted (.message line, channel)) rfl hclosed'
          have hflag : (runSequentialStreaming Cmd opts).Observes observed halted .exec
              (received halted (.message line, channel)) := fun _ _ => hobserved.symm
          refine ⟨final, .head .sigint rfl (Machine.observes_of_ne (by simp)) ?_, hdone,
            hsent.trans hsame⟩
          exact @follows_recv Cmd opts dispatch observed halted hpc _ hrecv hflag _ hfollows
      | false =>
          obtain ⟨after, hstart, hafter, rfl, hquiet, hloop | hdrain⟩ :=
            exists_settled hinv hpc hinterrupt hrecv hobserved
          · obtain ⟨final, hlater, hdone, hsent⟩ := ih after hafter hloop hquiet hclosed' hrest
            exact ⟨final, hstart.trans hlater, hdone, hsent.trans hsame⟩
          · obtain ⟨final, hlater, hdone, hsent⟩ :=
              exists_done_of_drain opts dispatch observed after hdrain hclosed'
            exact ⟨final, hstart.trans hlater, hdone, hsent.trans hsame⟩

end SequentialStreaming

/-! ## The executors agree -/

/-- The account of a run that dispatched these lines of a script one by one. -/
def lineAccount (dispatch : Nat → DispatchResult) (script lines : List (PreparedLine Cmd)) :
    ExitCode × Summary :=
  (worstOf (lineCodes dispatch lines),
    (tally (lineCodes dispatch lines)).skip (script.length - lines.length))

namespace Machine

/-- The executor returns this account of this script under this schedule, and no
other. -/
structure ReturnsJust (machine : Machine Cmd) (dispatch : Nat → DispatchResult)
    (observed : Nat → Bool) (script lines : List (PreparedLine Cmd))
    (account : ExitCode × Summary) : Prop where
  some_run : ∃ final, (machine.system dispatch).Leads (machine.Observes observed)
      machine.initial final ∧ machine.given final = script ∧ machine.inFlight final = lines ∧
    machine.result final = some account
  every_run : ∀ final result, (machine.system dispatch).Leads (machine.Observes observed)
      machine.initial final → machine.given final = script → machine.result final = some result →
    machine.inFlight final = lines ∧ result = account

variable {machine : Machine Cmd} {opts : ExecutorOptions} {dispatch : Nat → DispatchResult}
  {observed : Nat → Bool} {script lines : List (PreparedLine Cmd)}

/-- An executor that is always cut off at one place returns one account. -/
theorem returnsJust_of_cutOff (hlines : CutOff (StopsBehind opts dispatch observed) script lines)
    (hreturns : ∃ final, (machine.system dispatch).Leads (machine.Observes observed)
      machine.initial final ∧ machine.given final = script ∧ machine.returned final = true)
    (hcutOff : ∀ final, (machine.system dispatch).Leads (machine.Observes observed)
        machine.initial final → machine.given final = script → machine.returned final = true →
      CutOff (StopsBehind opts dispatch observed) script (machine.inFlight final) ∧
        Books.Tallied (lineCodes dispatch (machine.inFlight final))
          (script.length - (machine.inFlight final).length) (machine.books final)) :
    machine.ReturnsJust dispatch observed script lines (lineAccount dispatch script lines) := by
  have haccount : ∀ final, (machine.system dispatch).Leads (machine.Observes observed)
      machine.initial final → machine.given final = script → machine.returned final = true →
      machine.inFlight final = lines ∧
        machine.result final = some (lineAccount dispatch script lines) := by
    intro final hleads hgiven hreturned
    obtain ⟨hcut, hsummary, hworst⟩ := hcutOff final hleads hgiven hreturned
    have hsame := hcut.unique hlines
    refine ⟨hsame, ?_⟩
    rw [result, if_pos hreturned, hsummary, hworst, hsame]
    rfl
  constructor
  · obtain ⟨final, hleads, hgiven, hreturned⟩ := hreturns
    obtain ⟨hsame, hresult⟩ := haccount final hleads hgiven hreturned
    exact ⟨final, hleads, hgiven, hsame, hresult⟩
  · intro final result hleads hgiven hresult
    have hreturned : machine.returned final = true := (result_eq_some hresult).1
    obtain ⟨hsame, heq⟩ := haccount final hleads hgiven hreturned
    exact ⟨hsame, Option.some.inj (hresult.symm.trans heq)⟩

end Machine

/-- Runs of `run_sequential` under a schedule are cut off where the script is. -/
theorem Sequential.cutOff_of_leads {opts : ExecutorOptions} {script : List (PreparedLine Cmd)}
    {dispatch : Nat → DispatchResult} {observed : Nat → Bool} {final : State Cmd}
    (hleads : ((runSequential opts script).system dispatch).Leads
      ((runSequential opts script).Observes observed) { lines := script } final)
    (hpc : final.pc = .done) :
    CutOff (StopsBehind opts dispatch observed) script final.books.inFlight ∧
      Books.Tallied (lineCodes dispatch final.books.inFlight)
        (script.length - final.books.inFlight.length) final.books := by
  obtain ⟨hinv, hwalk⟩ := hleads.invariant
    (fun state => Inv opts script dispatch state ∧ Walk opts script dispatch observed state)
    (fun _ _ _ hboth hstep hobserves =>
      ⟨inv_step hboth.1 hstep, walk_step hboth.1 hboth.2 hstep hobserves⟩)
    ⟨inv_initial, walk_initial⟩
  refine ⟨cutOff_of_done hinv hwalk hpc, ?_⟩
  have haccount := (hinv.done hpc).account
  rwa [← List.length_map Flight.line] at haccount

theorem SequentialStreaming.cutOff_of_leads {opts : ExecutorOptions}
    {dispatch : Nat → DispatchResult} {observed : Nat → Bool} {final : State Cmd}
    (hleads : Follows opts dispatch observed {} final) (hpc : final.pc = .done) :
    CutOff (StopsBehind opts dispatch observed) final.channel.sent final.books.inFlight ∧
      Books.Tallied (lineCodes dispatch final.books.inFlight)
        (final.channel.sent.length - final.books.inFlight.length) final.books := by
  obtain ⟨hinv, hwalk⟩ := hleads.invariant
    (fun state => Inv opts dispatch state ∧ Walk opts dispatch observed state)
    (fun _ _ _ hboth hstep hobserves =>
      ⟨inv_step hboth.1 hstep, walk_step hboth.1 hboth.2 hstep hobserves⟩)
    ⟨inv_initial, walk_initial⟩
  refine ⟨cutOff_of_done hinv hwalk hpc, ?_⟩
  obtain ⟨dropped, hreceived, -, -, hdrain⟩ := hinv.received
  have haccount := (hdrain (Or.inr hpc)).account
  rw [Channel.sent, (hinv.ended hpc).2, hreceived, List.append_nil, List.length_append,
    Nat.add_sub_cancel_left]
  exact haccount

/-- `run_sequential` returns the account of where the script is cut off. -/
theorem runSequential_returnsJust (opts : ExecutorOptions) (script : List (PreparedLine Cmd))
    (dispatch : Nat → DispatchResult) (observed : Nat → Bool) :
    ∃ lines, CutOff (StopsBehind opts dispatch observed) script lines ∧
      (runSequential opts script).ReturnsJust dispatch observed script lines
        (lineAccount dispatch script lines) := by
  have hinitial : Sequential.Inv opts script dispatch { lines := script } := Sequential.inv_initial
  obtain ⟨final, hleads, hdone⟩ := Sequential.exists_done observed hinitial rfl rfl
  have hcut := (Sequential.cutOff_of_leads hleads hdone).1
  refine ⟨final.books.inFlight, hcut, Machine.returnsJust_of_cutOff hcut ?_ ?_⟩
  · exact ⟨final, hleads, rfl, by simp [runSequential, hdone]⟩
  · intro other hother _ hreturned
    exact Sequential.cutOff_of_leads hother (by simpa [runSequential] using hreturned)

/-- For every script, every results of its commands, every threshold and every
schedule of the interrupt flag, both sequential executors dispatch the same lines in
the same order and return the same code and the same counters, whatever the order of
steps. -/
theorem sequential_executors_agree (opts : ExecutorOptions) (script : List (PreparedLine Cmd))
    (dispatch : Nat → DispatchResult) (observed : Nat → Bool) :
    ∃ lines, lines <+: script ∧
      (runSequential opts script).ReturnsJust dispatch observed script lines
        (lineAccount dispatch script lines) ∧
      (runSequentialStreaming Cmd opts).ReturnsJust dispatch observed script lines
        (lineAccount dispatch script lines) := by
  obtain ⟨lines, hcut, hreturns⟩ := runSequential_returnsJust opts script dispatch observed
  refine ⟨lines, hcut.inOrder, hreturns, Machine.returnsJust_of_cutOff hcut ?_ ?_⟩
  · -- the reader sends the script and closes before the executor moves
    let sent : SequentialStreaming.State Cmd := { channel := { queue := script } }
    let fed : SequentialStreaming.State Cmd := { sent with channel := sent.channel.close }
    have hfed : SequentialStreaming.Inv opts dispatch fed :=
      SequentialStreaming.Inv.at_recv rfl rfl Books.quiet_empty
    obtain ⟨other, hfollows, hdone, hsent⟩ :=
      SequentialStreaming.exists_done observed fed hfed rfl rfl rfl
    have hclose : SequentialStreaming.Follows opts dispatch observed sent other :=
      .head .close rfl (Machine.observes_of_ne (by simp)) hfollows
    refine ⟨other, SequentialStreaming.follows_send script rfl hclose, hsent, ?_⟩
    simp [runSequentialStreaming, hdone]
  · intro other hother hgiven hreturned
    have hcutOff := SequentialStreaming.cutOff_of_leads hother
      (by simpa [runSequentialStreaming] using hreturned)
    change other.channel.sent = script at hgiven
    rwa [hgiven] at hcutOff

end S7cmd.BatchRun
