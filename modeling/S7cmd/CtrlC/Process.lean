import Mathlib.Order.BooleanAlgebra.Basic
import S7cmd.CtrlC.Interrupted
import S7cmd.Foundation.Transition

/-!
# Ctrl-C in a process of many commands

Each command has a handler task that waits for a SIGINT or for the token of the command. On a
SIGINT it stores the flag of its family, and then, in a step of its own, it cancels the token.
The flags belong to the process: all commands of a family look at the same one. Handlers,
pipelines and commands take their steps in any order.
-/

namespace S7cmd.CtrlC

open Foundation S7cmd.BatchRun

variable {State E : Type}

/-! ## One command -/

inductive Handler where
  /-- not yet polled: it hears no signal -/
  | spawned
  | listening
  /-- a SIGINT waits for it -/
  | signalled
  /-- it has stored the flag -/
  | stored
  /-- it has cancelled the token and is gone -/
  | cancelled
  /-- it has gone without a signal -/
  | left
  deriving DecidableEq, Repr

/-- Whether a handler has processed a SIGINT. -/
def Handler.received : Handler → Bool
  | .stored | .cancelled => true
  | _ => false

/-- Whether a handler waits in its `select!`. -/
def Handler.waits : Handler → Bool
  | .spawned | .listening | .signalled => true
  | _ => false

inductive Pc (State E : Type) where
  /-- the pipeline is at work -/
  | working
  /-- the pipeline has stopped, and this is left to do -/
  | ending (stopped : Stopped State E) (rest : Reading Latch Ended)

/-- A command from the moment its handler is spawned. -/
structure Run (State E : Type) where
  family : HandlerFamily
  handler : Handler := .spawned
  /-- whether the token of its pipeline is cancelled -/
  token : Bool := false
  pc : Pc State E := .working

inductive Move (State E : Type) where
  /-- the handler is polled and listens -/
  | listen
  /-- the signal cannot be listened for -/
  | refuse
  | store
  | cancel
  /-- the handler sees the token cancelled -/
  | leave
  /-- a worker of the pipeline cancels the token -/
  | fault
  /-- the pipeline stops -/
  | stop (stopped : Stopped State E)
  /-- the command looks at its next latch -/
  | look

namespace Run

/-- What the command would see now. -/
def latches (run : Run State E) (received : HandlerFamily → Bool) : Latch → Bool
  | .ctrlCReceived => received run.family
  | .token => run.token

def signal (run : Run State E) : Run State E :=
  if run.handler = .listening then { run with handler := .signalled } else run

def step (received : HandlerFamily → Bool) (run : Run State E) :
    Move State E → Option (Run State E)
  | .listen => if run.handler = .spawned then some { run with handler := .listening } else none
  | .refuse => if run.handler = .spawned then some { run with handler := .left } else none
  | .store => if run.handler = .signalled then some { run with handler := .stored } else none
  | .cancel =>
      if run.handler = .stored then some { run with handler := .cancelled, token := true }
      else none
  -- of two branches that are ready, `select!` takes either
  | .leave =>
      if run.handler.waits && run.token then some { run with handler := .left } else none
  | .fault =>
      match run.pc with
      | .working => some { run with token := true }
      | .ending _ _ => none
  | .stop stopped =>
      match run.pc with
      | .working =>
          if stopped.family = run.family then some { run with pc := .ending stopped stopped.ending }
          else none
      | .ending _ _ => none
  | .look =>
      match run.pc with
      | .ending stopped (.read latch next) =>
          some { run with pc := .ending stopped (next (run.latches received latch)) }
      | _ => none

/-- The flags after a move. -/
def store (received : HandlerFamily → Bool) (run : Run State E) :
    Move State E → HandlerFamily → Bool
  | .store => Function.update received run.family true
  | _ => received

end Run

/-! ## The process -/

structure Process (State E : Type) where
  /-- the `CTRL_C_RECEIVED` flags -/
  received : HandlerFamily → Bool := fun _ => false
  runs : Nat → Option (Run State E) := fun _ => none

inductive Event (State E : Type) where
  | start (index : Nat) (family : HandlerFamily)
  /-- the process receives a SIGINT -/
  | sigint
  | move (index : Nat) (move : Move State E)

def step (process : Process State E) : Event State E → Option (Process State E)
  | .start index family =>
      if (process.runs index).isSome then none
      else some { process with runs := Function.update process.runs index (some { family }) }
  | .sigint => some { process with runs := fun index => (process.runs index).map Run.signal }
  | .move index move => do
      let run ← process.runs index
      let next ← run.step process.received move
      return { received := run.store process.received move
               runs := Function.update process.runs index (some next) }

def system (State E : Type) : System (Process State E) (Event State E) where
  initial := {}
  step := step

/-- What a step can do. -/
inductive Moves (process : Process State E) : Event State E → Process State E → Prop
  | started (index : Nat) (family : HandlerFamily) (hfree : process.runs index = none) :
      Moves process (.start index family)
        { process with runs := Function.update process.runs index (some { family }) }
  | signalled :
      Moves process .sigint
        { process with runs := fun index => (process.runs index).map Run.signal }
  | moved (index : Nat) (move : Move State E) (run next : Run State E)
      (hrun : process.runs index = some run)
      (hstep : run.step process.received move = some next) :
      Moves process (.move index move)
        { received := run.store process.received move
          runs := Function.update process.runs index (some next) }

variable {process next : Process State E} {event : Event State E}

theorem step_moves (hstep : step process event = some next) : Moves process event next := by
  cases event with
  | start index family =>
      simp only [step] at hstep
      split at hstep
      next => cases hstep
      next hfree =>
        cases hstep
        exact .started index family (by simpa using hfree)
  | sigint =>
      cases hstep
      exact .signalled
  | move index move =>
      simp only [step, Option.bind_eq_bind, Option.bind_eq_some_iff] at hstep
      obtain ⟨run, hrun, after, hafter, hnext⟩ := hstep
      cases hnext
      exact .moved index move run after hrun hafter

/-! ## What becomes of one command -/

/-- What a move of a command can do to it. -/
inductive Evolves (received : HandlerFamily → Bool) (run : Run State E) :
    Move State E → Run State E → Prop
  | handled (move : Move State E) (phase : Handler) (hmove : move ≠ .store)
      (hreceived : phase.received = run.handler.received) :
      Evolves received run move { run with handler := phase }
  | stored : Evolves received run .store { run with handler := .stored }
  | cancelled (hstored : run.handler = .stored) :
      Evolves received run .cancel { run with handler := .cancelled, token := true }
  | faulted : Evolves received run .fault { run with token := true }
  | stopped (stopped : Stopped State E) (hworking : run.pc = .working)
      (hfamily : stopped.family = run.family) :
      Evolves received run (.stop stopped) { run with pc := .ending stopped stopped.ending }
  | looked (stopped : Stopped State E) (latch : Latch) (rest : Bool → Reading Latch Ended)
      (hpc : run.pc = .ending stopped (.read latch rest)) :
      Evolves received run .look
        { run with pc := .ending stopped (rest (run.latches received latch)) }

namespace Run

variable {received later : HandlerFamily → Bool} {run after : Run State E} {move : Move State E}

theorem step_evolves (hstep : run.step received move = some after) :
    Evolves received run move after := by
  cases move with
  | listen =>
      obtain ⟨hphase, rfl⟩ := by simpa only [step, Option.ite_none_right_eq_some,
        Option.some.injEq] using hstep
      exact .handled _ _ nofun (by rw [hphase]; rfl)
  | refuse =>
      obtain ⟨hphase, rfl⟩ := by simpa only [step, Option.ite_none_right_eq_some,
        Option.some.injEq] using hstep
      exact .handled _ _ nofun (by rw [hphase]; rfl)
  | store =>
      obtain ⟨-, rfl⟩ := by simpa only [step, Option.ite_none_right_eq_some,
        Option.some.injEq] using hstep
      exact .stored
  | cancel =>
      obtain ⟨hphase, rfl⟩ := by simpa only [step, Option.ite_none_right_eq_some,
        Option.some.injEq] using hstep
      exact .cancelled hphase
  | leave =>
      obtain ⟨hwaits, rfl⟩ := by simpa only [step, Option.ite_none_right_eq_some,
        Option.some.injEq] using hstep
      refine .handled _ _ nofun ?_
      cases hphase : run.handler <;> simp [hphase, Handler.waits] at hwaits ⊢ <;> rfl
  | fault =>
      simp only [step] at hstep
      split at hstep
      next =>
        cases hstep
        exact .faulted
      next => cases hstep
  | stop stopped =>
      simp only [step] at hstep
      split at hstep
      next hworking =>
        split at hstep
        next hfamily =>
          cases hstep
          exact .stopped stopped hworking hfamily
        next => cases hstep
      next => cases hstep
  | look =>
      simp only [step] at hstep
      split at hstep
      next stopped latch rest hpc =>
        cases hstep
        exact .looked stopped latch rest hpc
      next => cases hstep

theorem latches_mono (run : Run State E) (hle : received ≤ later) :
    run.latches received ≤ run.latches later := by
  intro latch
  cases latch with
  | ctrlCReceived => exact hle run.family
  | token => exact le_rfl

theorem latches_step (hstep : run.step received move = some after) :
    run.latches received ≤ after.latches received := by
  intro latch
  cases latch with
  | ctrlCReceived => cases step_evolves hstep <;> exact le_rfl
  | token => cases step_evolves hstep <;> first | exact le_rfl | exact Bool.le_true _

theorem le_store (run : Run State E) (received : HandlerFamily → Bool) (move : Move State E) :
    received ≤ run.store received move := by
  cases move with
  | store =>
      intro family
      by_cases hfamily : family = run.family
      · subst hfamily
        simp only [store, Function.update_self]
        exact Bool.le_true _
      · simp only [store, Function.update_of_ne hfamily]
        exact le_rfl
  | _ => exact le_rfl

theorem store_of_ne (run : Run State E) (received : HandlerFamily → Bool)
    (hmove : move ≠ .store) : run.store received move = received := by
  cases move with
  | store => exact absurd rfl hmove
  | _ => rfl

theorem signal_cases (run : Run State E) :
    run.signal = run ∨
      run.handler = .listening ∧ run.signal = { run with handler := .signalled } := by
  unfold signal
  split
  next hlistening => exact Or.inr ⟨hlistening, rfl⟩
  next => exact Or.inl rfl

end Run

/-- A property of commands that no step ends. -/
structure Carried (property : (HandlerFamily → Bool) → Run State E → Prop) : Prop where
  mono : ∀ {received later run}, received ≤ later → property received run → property later run
  signal : ∀ {received run}, property received run → property received run.signal
  step : ∀ {received run move after}, property received run →
    run.step received move = some after → property (run.store received move) after

namespace Carried

variable {property : (HandlerFamily → Bool) → Run State E → Prop} {before final : Process State E}
  {index : Nat} {run : Run State E}

/-- What a command carries into a step it carries out of it. -/
theorem step_run (hcarried : Carried property) (hstep : CtrlC.step process event = some next)
    (hrun : process.runs index = some run) (hproperty : property process.received run) :
    ∃ after, next.runs index = some after ∧ property next.received after := by
  cases step_moves hstep with
  | started other family hfree =>
      have hne : index ≠ other := by
        rintro rfl
        cases hfree.symm.trans hrun
      exact ⟨run, by simp only [Function.update_of_ne hne, hrun], hproperty⟩
  | signalled => exact ⟨run.signal, by simp only [hrun, Option.map_some], hcarried.signal hproperty⟩
  | moved other move mover after hmover hmove =>
      have hle := mover.le_store process.received move
      by_cases hindex : index = other
      · subst hindex
        obtain rfl : mover = run := Option.some.inj (hmover.symm.trans hrun)
        exact ⟨after, by simp only [Function.update_self],
          hcarried.step hproperty hmove⟩
      · exact ⟨run, by simp only [Function.update_of_ne hindex, hrun], hcarried.mono hle hproperty⟩

theorem along (hcarried : Carried property) {events : List (Event State E)}
    (hlater : (system State E).run before events = some final)
    (hrun : before.runs index = some run) (hproperty : property before.received run) :
    ∃ after, final.runs index = some after ∧ property final.received after := by
  apply (system State E).run_invariant
    (fun process => ∃ run, process.runs index = some run ∧ property process.received run)
    _ ⟨run, hrun, hproperty⟩ hlater
  rintro process event next ⟨run, hrun, hproperty⟩ hstep
  exact hcarried.step_run hstep hrun hproperty

/-- What every command starts with, every command has. -/
theorem every (hcarried : Carried property)
    (hfresh : ∀ received family, property received { family })
    (hreach : (system State E).Reachable final) (hrun : final.runs index = some run) :
    property final.received run := by
  refine hreach.invariant (fun process => ∀ index run, process.runs index = some run →
    property process.received run) ?_ ?_ index run hrun
  · intro index run hnone
    cases hnone
  intro process event next hevery hstep index run hrun
  cases hbefore : process.runs index with
  | some old =>
      obtain ⟨after, hafter, hproperty⟩ := hcarried.step_run hstep hbefore (hevery index old hbefore)
      obtain rfl : after = run := Option.some.inj (hafter.symm.trans hrun)
      exact hproperty
  | none =>
      cases step_moves hstep with
      | started other family hfree =>
          by_cases hindex : index = other
          · subst hindex
            simp only [Function.update_self] at hrun
            cases hrun
            exact hfresh _ family
          · simp only [Function.update_of_ne hindex, hbefore] at hrun
            cases hrun
      | signalled =>
          simp only [hbefore, Option.map_none] at hrun
          cases hrun
      | moved other move mover after hmover hmove =>
          have hindex : index ≠ other := by
            rintro rfl
            cases hbefore.symm.trans hmover
          simp only [Function.update_of_ne hindex, hbefore] at hrun
          cases hrun

end Carried

/-! ## The flags -/

/-- A handler stores the flag before it cancels the token. -/
theorem carried_stored : Carried fun received (run : Run State E) =>
    run.handler.received = true → received run.family = true where
  mono hle hstored hhandler := hle _ (hstored hhandler)
  signal := by
    intro received run hstored hhandler
    rcases run.signal_cases with hsame | ⟨-, hsignal⟩
    · rw [hsame] at hhandler ⊢
      exact hstored hhandler
    · rw [hsignal] at hhandler
      cases hhandler
  step := by
    intro received run move after hstored hstep hhandler
    have hle := run.le_store received move
    cases Run.step_evolves hstep with
    | handled move phase hmove hreceived => exact hle _ (hstored (hreceived ▸ hhandler))
    | stored => simp only [Run.store, Function.update_self]
    | cancelled hphase => exact hle _ (hstored (by rw [hphase]; rfl))
    | _ => exact hle _ (hstored hhandler)

/-- Who has processed a SIGINT has processed it for good. -/
theorem carried_received (family : HandlerFamily) : Carried fun _ (run : Run State E) =>
    run.family = family ∧ run.handler.received = true where
  mono _ hreceived := hreceived
  signal := by
    intro received run hreceived
    rcases run.signal_cases with hsame | ⟨hlistening, -⟩
    · rwa [hsame]
    · rw [hlistening] at hreceived
      cases hreceived.2
  step := by
    intro received run move after hreceived hstep
    cases Run.step_evolves hstep with
    | handled move phase hmove hphase => exact ⟨hreceived.1, hphase.trans hreceived.2⟩
    | stored => exact ⟨hreceived.1, rfl⟩
    | cancelled => exact ⟨hreceived.1, rfl⟩
    | _ => exact hreceived

/-- A command of the family whose handler has processed a SIGINT. -/
def Process.Heard (process : Process State E) (family : HandlerFamily) : Prop :=
  ∃ index run, process.runs index = some run ∧ run.family = family ∧ run.handler.received = true

theorem received_of_heard (hreach : (system State E).Reachable process) {family : HandlerFamily}
    (hheard : process.Heard family) : process.received family = true := by
  obtain ⟨index, run, hrun, rfl, hhandler⟩ := hheard
  refine carried_stored.every ?_ hreach hrun hhandler
  intro received family hfresh
  cases hfresh

/-- No flag is stored but by a handler that has processed a SIGINT. -/
theorem heard_of_received (hreach : (system State E).Reachable process) {family : HandlerFamily}
    (hreceived : process.received family = true) : process.Heard family := by
  refine hreach.invariant (fun process => process.received family = true → process.Heard family)
    (fun hinitial => by cases hinitial) ?_ hreceived
  intro process event next hheard hstep hflag
  have hkept : process.received family = true → next.Heard family := by
    intro hbefore
    obtain ⟨index, run, hrun, hhandler⟩ := hheard hbefore
    obtain ⟨after, hafter, hcarried⟩ := (carried_received family).step_run hstep hrun hhandler
    exact ⟨index, after, hafter, hcarried⟩
  cases step_moves hstep with
  | started => exact hkept hflag
  | signalled => exact hkept hflag
  | moved index move run after hrun hmove =>
      cases Run.step_evolves hmove with
      | stored =>
          by_cases hfamily : family = run.family
          · subst hfamily
            exact ⟨index, { run with handler := .stored }, by simp only [Function.update_self],
              rfl, rfl⟩
          · apply hkept
            simpa only [Run.store, Function.update_of_ne hfamily] using hflag
      | handled _ phase hother hphase =>
          apply hkept
          simpa only [run.store_of_ne _ hother] using hflag
      | _ => exact hkept hflag

/-! ## What a command promises -/

/-- Until its pipeline stops a command meets the precondition; what it does then ensures the
postcondition. -/
def Promises (pre : (Latch → Bool) → Prop)
    (post : Stopped State E → (Latch → Bool) → Ended → Prop) (received : HandlerFamily → Bool)
    (run : Run State E) : Prop :=
  match run.pc with
  | .working => pre (run.latches received)
  | .ending stopped rest => rest.Ensures (post stopped) (run.latches received)

variable {pre : (Latch → Bool) → Prop} {post : Stopped State E → (Latch → Bool) → Ended → Prop}
  {received later : HandlerFamily → Bool} {run after : Run State E}

theorem promises_of_working (hworking : run.pc = .working) :
    Promises pre post received run ↔ pre (run.latches received) := by
  unfold Promises
  rw [hworking]

theorem promises_of_ending {stopped : Stopped State E} {rest : Reading Latch Ended}
    (hending : run.pc = .ending stopped rest) :
    Promises pre post received run ↔ rest.Ensures (post stopped) (run.latches received) := by
  unfold Promises
  rw [hending]

/-- A promise survives what leaves the command where it is and clears no latch. -/
theorem Promises.of_le (hpre : Monotone pre) (hpromises : Promises pre post received run)
    (hpc : after.pc = run.pc) (hle : run.latches received ≤ after.latches later) :
    Promises pre post later after := by
  cases hrest : run.pc with
  | working =>
      rw [promises_of_working (hpc.trans hrest)]
      exact hpre hle ((promises_of_working hrest).mp hpromises)
  | ending stopped rest =>
      rw [promises_of_ending (hpc.trans hrest)]
      exact ((promises_of_ending hrest).mp hpromises).mono hle

theorem carried_promises (hpre : Monotone pre)
    (hending : ∀ stopped : Stopped State E, ∀ latches, pre latches →
      stopped.ending.Ensures (post stopped) latches) : Carried (Promises pre post) where
  mono hle hpromises := hpromises.of_le hpre rfl (Run.latches_mono _ hle)
  signal := by
    intro received run hpromises
    apply hpromises.of_le hpre
    · rcases run.signal_cases with hsame | ⟨-, hsignal⟩
      · rw [hsame]
      · rw [hsignal]
    · rcases run.signal_cases with hsame | ⟨-, hsignal⟩
      · rw [hsame]
      · rw [hsignal]
        intro latch
        cases latch <;> exact le_rfl
  step := by
    intro received run move after hpromises hstep
    have hle : run.latches received ≤ after.latches (run.store received move) :=
      (Run.latches_step hstep).trans (after.latches_mono (run.le_store received move))
    cases Run.step_evolves hstep with
    | stopped stopped hworking hfamily =>
        rw [promises_of_ending rfl]
        rw [promises_of_working hworking] at hpromises
        exact (hending stopped _ hpromises).mono hle
    | looked stopped latch rest hpc =>
        rw [promises_of_ending rfl]
        rw [promises_of_ending hpc] at hpromises
        exact (hpromises _ le_rfl).mono hle
    | _ => exact hpromises.of_le hpre rfl hle

theorem Carried.post_of_done (hcarried : Carried (Promises pre post))
    {before final : Process State E} {index : Nat} (hrun : before.runs index = some run)
    (hpromises : Promises pre post before.received run) {events : List (Event State E)}
    (hlater : (system State E).run before events = some final) {done : Run State E}
    (hdone : final.runs index = some done) {stopped : Stopped State E} {ended : Ended}
    (hended : done.pc = .ending stopped (.done ended)) :
    post stopped (done.latches final.received) ended := by
  obtain ⟨after, hafter, hafterwards⟩ := hcarried.along hlater hrun hpromises
  obtain rfl : after = done := Option.some.inj (hafter.symm.trans hdone)
  rw [promises_of_ending hended] at hafterwards
  exact hafterwards.of_done

/-! ## The sequential model is enough -/

/-- The answers that a command has had to its looks, since the latches were these. -/
def Answered (before : Latch → Bool) (stopped : Stopped State E) (later : Latch → Bool)
    (ended : Ended) : Prop :=
  ∃ received token late, Seen before later received token late ∧
    ended = stopped.sequential received token late

theorem carried_answered (before : Latch → Bool) :
    Carried (Promises (fun latches => before ≤ latches)
      (Answered before : Stopped State E → (Latch → Bool) → Ended → Prop)) := by
  apply carried_promises
  · exact fun latches later hle hbefore => hbefore.trans hle
  · intro stopped latches hbefore
    apply (ensures_sequential stopped latches).imp
    rintro later ended - ⟨received, token, late, hseen, rfl⟩
    exact ⟨received, token, late,
      { hseen with
        le_received := (hbefore .ctrlCReceived).trans hseen.le_received
        le_token := (hbefore .token).trans hseen.le_token }, rfl⟩

/-- However handlers, pipelines and commands are interleaved, a command ends as it does in the
sequential model, for answers to its looks that lie between the latches when its pipeline was
still at work and those of now. -/
theorem ended_as_sequential {before final : Process State E} {index : Nat} {run : Run State E}
    (hrun : before.runs index = some run) (hworking : run.pc = .working)
    {events : List (Event State E)} (hlater : (system State E).run before events = some final)
    {done : Run State E} (hdone : final.runs index = some done) {stopped : Stopped State E}
    {ended : Ended} (hended : done.pc = .ending stopped (.done ended)) :
    Answered (run.latches before.received) stopped (done.latches final.received) ended :=
  (carried_answered _).post_of_done hrun ((promises_of_working hworking).mpr le_rfl) hlater hdone
    hended

/-- The process after these events. -/
def processAfter (events : List (Event Unit Unit)) : Process Unit Unit :=
  ((system Unit Unit).run {} events).getD {}

/-- A move that is copied, and whose source can be deleted. -/
def copiedMove : Stopped Unit Unit :=
  .mv
    { isDir := fun _ => false
      hasTrailingSeparator := fun _ => false
      detectDirection := fun _ _ => .ok .s3ToS3
      transfer := fun _ _ _ _ _ => (.ok {}, ())
      logDryRunAnnotationSync := fun _ _ _ => .ok ()
      deleteObject := fun _ _ _ _ => (.ok (), ())
      ctrlCReceived := false
      tokenCancelled := false
      tokenCancelledLate := false
      hasWarning := false }
    ⟨.s3 ['a'] ['k'], .s3 ['b'] ['k'], none, none, none, false, false, false⟩
    ⟨.ok {}, ['k'], false⟩ ()

/-- Left alone it deletes the source. -/
theorem copiedMove_as_sequential :
    ∃ received token late,
      (⟨0, [⟨['k'], none⟩]⟩ : Ended) = copiedMove.sequential received token late := by
  obtain ⟨received, token, late, -, hended⟩ := @ended_as_sequential Unit Unit
    (processAfter [.start 0 .util])
    (processAfter [.start 0 .util, .move 0 (.stop copiedMove), .move 0 .look, .move 0 .look,
      .move 0 .look]) 0 _ rfl rfl
    [.move 0 (.stop copiedMove), .move 0 .look, .move 0 .look, .move 0 .look] rfl _ rfl copiedMove
    _ rfl
  exact ⟨received, token, late, hended⟩

/-! ## What is reported of Ctrl-C -/

/-- However handlers, pipelines and commands are interleaved: once a handler of its family has
processed a SIGINT, a command whose pipeline is still at work ends with the code of an
interrupt and deletes nothing behind it, whatever the pipeline then records, unless its
indicator task panics. -/
theorem interrupted_of_heard {before final : Process State E}
    (hreach : (system State E).Reachable before) {index : Nat} {run : Run State E}
    (hrun : before.runs index = some run) (hworking : run.pc = .working)
    (hheard : before.Heard run.family) {events : List (Event State E)}
    (hlater : (system State E).run before events = some final) {done : Run State E}
    (hdone : final.runs index = some done) {stopped : Stopped State E} {ended : Ended}
    (hended : done.pc = .ending stopped (.done ended))
    (hindicator : stopped.indicatorPanicked = false) : ended = interrupted := by
  obtain ⟨received, token, late, hseen, rfl⟩ := (carried_answered _).post_of_done hrun
    ((promises_of_working hworking).mpr le_rfl) hlater hdone hended
  have hreceived : received = true := hseen.le_received (received_of_heard hreach hheard)
  rw [hreceived]
  exact Stopped.sequential_of_received hindicator

/-- A handler of another command has stored the flag, and the handler of this one has not even
been polled. -/
def signalledPeer : List (Event Unit Unit) :=
  [.start 0 .util, .start 1 .util, .move 0 .listen, .sigint, .move 0 .store]

theorem interrupted_by_peer :
    ((processAfter (signalledPeer ++ [.move 1 (.stop copiedMove), .move 1 .look])).runs 1).map
      (·.pc) = some (.ending copiedMove (.done interrupted)) := by
  have hended := @interrupted_of_heard Unit Unit (processAfter signalledPeer)
    (processAfter (signalledPeer ++ [.move 1 (.stop copiedMove), .move 1 .look]))
    ⟨signalledPeer, rfl⟩ 1 _ rfl rfl ⟨0, _, rfl, rfl, rfl⟩
    [.move 1 (.stop copiedMove), .move 1 .look] rfl _ rfl copiedMove _ rfl rfl
  rw [← hended]
  rfl

/-- The code of an interrupt has one of two causes: a handler of the family has processed a
SIGINT, or the command is a copy whose token is cancelled and that has no genuine error to
report. -/
theorem heard_of_interrupted (hreach : (system State E).Reachable process) {index : Nat}
    {run : Run State E} (hrun : process.runs index = some run) {stopped : Stopped State E}
    {ended : Ended} (hended : run.pc = .ending stopped (.done ended))
    (hcodes : stopped.CodesApart) (hcode : ended.code = exitCodeInterrupted) :
    process.Heard run.family ∨ run.token = true ∧ stopped.yieldsToToken = true := by
  have hpromises := (carried_answered fun _ => false).every
    (fun _ _ _ => Bool.false_le _) hreach hrun
  rw [promises_of_ending hended] at hpromises
  obtain ⟨received, token, late, hseen, rfl⟩ := hpromises.of_done
  rcases received_or_yields hcodes hseen.token_le hcode with hreceived | ⟨hlate, hyields⟩
  · exact Or.inl (heard_of_received hreach (hseen.received_le hreceived))
  · exact Or.inr ⟨hseen.late_le hlate, hyields⟩

/-- A worker of a copy cancels the token, though the copy succeeds. -/
def faultedCopy : List (Event Unit Unit) :=
  [.start 0 .util, .move 0 .fault, .move 0 (.stop copiedMove), .move 0 .look, .move 0 .look]

theorem interrupted_by_worker :
    (processAfter faultedCopy).Heard .util ∨
      ((processAfter faultedCopy).runs 0).any (·.token) = true ∧
        copiedMove.yieldsToToken = true :=
  @heard_of_interrupted Unit Unit (processAfter faultedCopy) ⟨faultedCopy, rfl⟩ 0 _ rfl copiedMove
    _ rfl trivial rfl

/-- What is left of a command keeps the source at each of its looks. -/
theorem carried_atLooks : Carried fun _ (run : Run State E) =>
    ∀ stopped rest, run.pc = .ending stopped rest → rest.AtLooks Keeps where
  mono _ hlooks := hlooks
  signal := by
    intro received run hlooks
    rcases run.signal_cases with hsame | ⟨-, hsignal⟩
    · rwa [hsame]
    · rwa [hsignal]
  step := by
    intro received run move after hlooks hstep
    cases Run.step_evolves hstep with
    | stopped stopped hworking hfamily =>
        rintro _ _ hpc
        cases hpc
        exact atLooks_ending stopped
    | looked stopped latch rest hbefore =>
        rintro _ _ hpc
        cases hpc
        exact (hlooks _ _ hbefore).2 _
    | _ => exact hlooks

/-- A command whose token is cancelled, by whomever, before it has made its last look deletes
nothing. -/
theorem deletes_nothing_once_cancelled {before final : Process State E}
    (hreach : (system State E).Reachable before) {index : Nat} {run : Run State E}
    (hrun : before.runs index = some run) (htoken : run.token = true)
    (hlooks : ∀ stopped ended, run.pc ≠ .ending stopped (.done ended))
    {events : List (Event State E)} (hlater : (system State E).run before events = some final)
    {done : Run State E} (hdone : final.runs index = some done) {stopped : Stopped State E}
    {ended : Ended} (hended : done.pc = .ending stopped (.done ended)) : ended.deletes = [] := by
  have hcarried : Carried (Promises (fun latches => latches .token = true)
      fun (_ : Stopped State E) _ ended => ended.deletes = []) := by
    apply carried_promises
    · exact fun latches later hle hset => hle .token hset
    · exact keeps_ending
  have hbefore : Promises (fun latches => latches .token = true)
      (fun (_ : Stopped State E) _ ended => ended.deletes = []) before.received run := by
    cases hpc : run.pc with
    | working => exact (promises_of_working hpc).mpr htoken
    | ending halted rest =>
        rw [promises_of_ending hpc]
        cases rest with
        | done value => exact absurd hpc (hlooks halted value)
        | read latch next =>
            have hatLooks := carried_atLooks.every
              (fun _ _ _ _ hfresh => by cases hfresh) hreach hrun halted _ hpc
            exact hatLooks.1 _ htoken
  exact hcarried.post_of_done hrun hbefore hlater hdone hended

/-- The first gate of a move has seen neither the flag nor the token; then Ctrl-C comes. -/
def signalledBetweenGates : List (Event Unit Unit) :=
  [.start 0 .util, .move 0 .listen, .move 0 (.stop copiedMove), .move 0 .look, .move 0 .look,
    .sigint, .move 0 .store, .move 0 .cancel]

theorem last_gate_holds :
    ((processAfter (signalledBetweenGates ++ [.move 0 .look])).runs 0).map (·.pc) =
        some (.ending copiedMove (.done interrupted)) ∧ interrupted.deletes = [] := by
  have hdeletes := @deletes_nothing_once_cancelled Unit Unit (processAfter signalledBetweenGates)
    (processAfter (signalledBetweenGates ++ [.move 0 .look])) ⟨signalledBetweenGates, rfl⟩ 0 _ rfl
    rfl (by rintro stopped ended hpc; cases hpc) [.move 0 .look] rfl _ rfl copiedMove _ rfl
  exact ⟨rfl, hdeletes⟩

end S7cmd.CtrlC
