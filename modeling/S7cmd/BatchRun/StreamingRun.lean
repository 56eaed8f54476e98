import S7cmd.BatchRun.StreamingExit
import S7cmd.BatchRun.Termination

/-!
# A streaming run

`run_streaming` runs its reader as a task beside the executor, with the channel
and the interrupt flag between them, and joins it when the executor has returned.
Here the two are one system: a turn of the reader's loop is a step like any other,
and the only source of the lines that the executor receives.
-/

namespace S7cmd.BatchRun

open Foundation

variable {Cmd : Type}

/-- How far the reader task has come. -/
inductive ReaderTask where
  /-- at the head of its loop, with the input left and the number of the last line -/
  | reading (rest : Reader) (lineNo : Nat)
  /-- it has its result, and drops its sender next -/
  | leaving (joined : ReaderJoin)
  | ended (joined : ReaderJoin)

/-- Who moves next in a streaming run. -/
inductive StreamingAction (Cmd : Type) where
  /-- the executor, one of its tasks, or the SIGINT listener -/
  | executor (action : Action Cmd)
  /-- the reader's select yields a line, the end, or an error -/
  | line
  /-- the reader's select yields Ctrl-C -/
  | ctrlC
  /-- the reader unwinds -/
  | unwind (payload : Text)
  /-- the reader's sender is dropped -/
  | drop

/-- The steps of all parties but the SIGINT listener. -/
def StreamingAction.Working : StreamingAction Cmd → Prop
  | .executor action => action.Working
  | _ => True

/-- The actions of a machine that are left to the reader. -/
def Action.isReaders : Action Cmd → Bool
  | .send _ => true
  | .close => true
  | _ => false

theorem Action.sigint_or_working {action : Action Cmd} (hown : action.isReaders = false) :
    action = .sigint ∨ action.Working := by
  cases action with
  | sigint => exact Or.inl rfl
  | send line => cases hown
  | close => cases hown
  | exec => exact Or.inr trivial
  | complete index => exact Or.inr trivial
  | finish index => exact Or.inr trivial
  | join index => exact Or.inr trivial

namespace StreamingRun

structure State (machine : Machine Cmd) where
  reader : ReaderTask
  executor : machine.State

variable (checks : LineChecks Cmd) (machine : Machine Cmd) (dispatch : Nat → DispatchResult)
  (source : Text)

/-- One turn of the reader's loop after its select has yielded from the input. -/
def readLine (executor : machine.State) (reader : Reader) (lineNo : Nat) :
    Option (State machine) :=
  match readLineCappedAsync reader with
  | (.ok none, _) => some ⟨.leaving (.ok (.ok ())), executor⟩
  | (.error error, _) =>
      let message := source ++ ' ' :: readErrorText checks (lineNo + 1) error
      some ⟨.leaving (.ok (.error message)), executor⟩
  | (.ok (some text), rest) =>
      let lineNo := lineNo + 1
      match ParsedLineKind.ofTokens (tokenizeLine checks text) with
      | none => some ⟨.reading rest lineNo, executor⟩
      | some kind =>
          let prepared := tryPrepare checks { lineNo, raw := text, kind }
          -- an executor that has returned has dropped the receiver
          if machine.returned executor then some ⟨.leaving (.ok (.ok ())), executor⟩
          else (machine.step dispatch executor (.send prepared)).map fun executor =>
            ⟨.reading rest lineNo, executor⟩

def step (state : State machine) : StreamingAction Cmd → Option (State machine)
  | .executor action =>
      if action.isReaders then none
      else (machine.step dispatch state.executor action).map fun executor =>
        { state with executor := executor }
  | .line =>
      match state.reader with
      | .reading rest lineNo => readLine checks machine dispatch source state.executor rest lineNo
      | _ => none
  | .ctrlC =>
      match state.reader with
      | .reading _ _ =>
          (machine.step dispatch state.executor .sigint).map fun executor =>
            ⟨.leaving (.ok (.ok ())), executor⟩
      | _ => none
  | .unwind payload =>
      match state.reader with
      | .reading _ _ => some { state with reader := .leaving (.error payload) }
      | _ => none
  | .drop =>
      match state.reader with
      | .leaving joined =>
          (machine.step dispatch state.executor .close).map fun executor =>
            ⟨.ended joined, executor⟩
      | _ => none

/-- `run_streaming` over an opened script. -/
def system (reader : Reader) : System (State machine) (StreamingAction Cmd) where
  initial := ⟨.reading reader 0, machine.initial⟩
  step := step checks machine dispatch source

variable {machine} in
/-- What `run_streaming` returns, with the summary it prints, once the executor has
returned and the reader is joined. -/
def exit (state : State machine) : Option (ExitCode × Summary) :=
  match machine.result state.executor, state.reader with
  | some (code, summary), .ended joined => some (finalCode code joined, summary)
  | _, _ => none

/-! ## What a step can do -/

/-- What a step can do. -/
inductive Moves (state : State machine) : StreamingAction Cmd → State machine → Prop
  | executor (action : Action Cmd) (executor : machine.State) (hown : action.isReaders = false)
      (hstep : machine.step dispatch state.executor action = some executor) :
      Moves state (.executor action) { state with executor := executor }
  | finished (rest : Reader) (lineNo : Nat) (hreader : state.reader = .reading rest lineNo)
      (hscript : readScript rest = ⟨[], none⟩) :
      Moves state .line { state with reader := .leaving (.ok (.ok ())) }
  | failed (rest : Reader) (lineNo : Nat) (error : IoError)
      (hreader : state.reader = .reading rest lineNo)
      (hscript : readScript rest = ⟨[], some error⟩) :
      Moves state .line { state with
        reader := .leaving
          (.ok (.error (source ++ ' ' :: readErrorText checks (lineNo + 1) error))) }
  | skipped (rest next : Reader) (lineNo : Nat) (text : Text)
      (hreader : state.reader = .reading rest lineNo)
      (hline : readLineCapped rest = (.ok (some text), next))
      (hkind : ParsedLineKind.ofTokens (tokenizeLine checks text) = none) :
      Moves state .line { state with reader := .reading next (lineNo + 1) }
  | refused (rest next : Reader) (lineNo : Nat) (text : Text)
      (hreader : state.reader = .reading rest lineNo)
      (hline : readLineCapped rest = (.ok (some text), next))
      (hreturned : machine.returned state.executor = true) :
      Moves state .line { state with reader := .leaving (.ok (.ok ())) }
  | sent (rest next : Reader) (lineNo : Nat) (text : Text) (kind : ParsedLineKind)
      (executor : machine.State) (hreader : state.reader = .reading rest lineNo)
      (hline : readLineCapped rest = (.ok (some text), next))
      (hkind : ParsedLineKind.ofTokens (tokenizeLine checks text) = some kind)
      (hstep : machine.step dispatch state.executor
        (.send (tryPrepare checks ⟨lineNo + 1, text, kind⟩)) = some executor) :
      Moves state .line ⟨.reading next (lineNo + 1), executor⟩
  | ctrlC (rest : Reader) (lineNo : Nat) (executor : machine.State)
      (hreader : state.reader = .reading rest lineNo)
      (hstep : machine.step dispatch state.executor .sigint = some executor) :
      Moves state .ctrlC ⟨.leaving (.ok (.ok ())), executor⟩
  | unwound (rest : Reader) (lineNo : Nat) (payload : Text)
      (hreader : state.reader = .reading rest lineNo) :
      Moves state (.unwind payload) { state with reader := .leaving (.error payload) }
  | dropped (joined : ReaderJoin) (executor : machine.State)
      (hreader : state.reader = .leaving joined)
      (hstep : machine.step dispatch state.executor .close = some executor) :
      Moves state .drop ⟨.ended joined, executor⟩

variable {checks machine dispatch source}

theorem line_moves {state next : State machine} {rest : Reader} {lineNo : Nat}
    (hreader : state.reader = .reading rest lineNo)
    (hstep : readLine checks machine dispatch source state.executor rest lineNo = some next) :
    Moves checks machine dispatch source state .line next := by
  have hscript := readScript_unfold rest
  unfold readLine at hstep
  rw [readLineCappedAsync_eq] at hstep
  split at hstep
  next other hline =>
    rw [hline] at hscript
    cases hstep
    exact .finished rest lineNo hreader hscript
  next error other hline =>
    rw [hline] at hscript
    cases hstep
    exact .failed rest lineNo error hreader hscript
  next text other hline =>
    split at hstep
    next hkind =>
      cases hstep
      exact .skipped rest other lineNo text hreader hline hkind
    next kind hkind =>
      split at hstep
      next hreturned =>
        cases hstep
        exact .refused rest other lineNo text hreader hline hreturned
      next =>
        obtain ⟨executor, hsend, rfl⟩ := Option.map_eq_some_iff.mp hstep
        exact .sent rest other lineNo text kind executor hreader hline hkind hsend

theorem step_moves {state next : State machine} {action : StreamingAction Cmd}
    (hstep : step checks machine dispatch source state action = some next) :
    Moves checks machine dispatch source state action next := by
  cases action with
  | executor action =>
      simp only [step] at hstep
      split at hstep
      next => cases hstep
      next hown =>
        obtain ⟨executor, hmachine, rfl⟩ := Option.map_eq_some_iff.mp hstep
        exact .executor action executor (by simpa using hown) hmachine
  | line =>
      simp only [step] at hstep
      split at hstep
      next rest lineNo hreader => exact line_moves hreader hstep
      next => cases hstep
  | ctrlC =>
      simp only [step] at hstep
      split at hstep
      next rest lineNo hreader =>
        obtain ⟨executor, hmachine, rfl⟩ := Option.map_eq_some_iff.mp hstep
        exact .ctrlC rest lineNo executor hreader hmachine
      next => cases hstep
  | unwind payload =>
      simp only [step] at hstep
      split at hstep
      next rest lineNo hreader =>
        cases hstep
        exact .unwound rest lineNo payload hreader
      next => cases hstep
  | drop =>
      simp only [step] at hstep
      split at hstep
      next joined hreader =>
        obtain ⟨executor, hmachine, rfl⟩ := Option.map_eq_some_iff.mp hstep
        exact .dropped joined executor hreader hmachine
      next => cases hstep

/-! ## The invariant of a run -/

end StreamingRun

/-- Why a reader stops that has read this many lines of a script. -/
inductive ReaderStops (checks : LineChecks Cmd) (source : Text) (script : Script) (count : Nat)
    (interrupt : Bool) : ReaderJoin → Prop
  | finished (hall : count = script.lines.length) (hfailure : script.failure = none) :
      ReaderStops checks source script count interrupt (.ok (.ok ()))
  | failed (error : IoError) (hall : count = script.lines.length)
      (hfailure : script.failure = some error) :
      ReaderStops checks source script count interrupt
        (.ok (.error (source ++ ' ' :: readErrorText checks (count + 1) error)))
  | interrupted (hinterrupt : interrupt = true) :
      ReaderStops checks source script count interrupt (.ok (.ok ()))
  | unwound (payload : Text) : ReaderStops checks source script count interrupt (.error payload)

/-- What a reader that has read this many lines of a script has come to. -/
def ReaderTask.At (checks : LineChecks Cmd) (source : Text) (script : Script) (count : Nat)
    (interrupt : Bool) : ReaderTask → Prop
  | .reading rest lineNo =>
      lineNo = count ∧ readScript rest = { script with lines := script.lines.drop count }
  | .leaving joined => ReaderStops checks source script count interrupt joined
  | .ended joined => ReaderStops checks source script count interrupt joined

def ReaderTask.isEnded : ReaderTask → Bool
  | .ended _ => true
  | _ => false

section

variable {checks : LineChecks Cmd} {source : Text}

theorem preparedFrom_append (start : Nat) (first second : List Text) :
    preparedFrom checks start (first ++ second) =
      preparedFrom checks start first ++ preparedFrom checks (start + first.length) second := by
  simp only [preparedFrom, parsedFrom, List.zipIdx_append, List.filterMap_append, List.map_append]

/-- What is known of the next line of a script. -/
theorem next_of_drop {lines rest : List Text} {count : Nat} {text : Text}
    (hdrop : lines.drop count = text :: rest) :
    count < lines.length ∧ lines.drop (count + 1) = rest ∧
      preparedFrom checks 1 (lines.take (count + 1)) =
        preparedFrom checks 1 (lines.take count) ++
          ((ParsedLineKind.ofTokens (tokenizeLine checks text)).map fun kind =>
            tryPrepare checks ⟨count + 1, text, kind⟩).toList := by
  have hlt : count < lines.length := by
    by_contra hge
    rw [List.drop_eq_nil_of_le (Nat.le_of_not_lt hge)] at hdrop
    cases hdrop
  have hcons := List.drop_eq_getElem_cons hlt
  rw [hdrop] at hcons
  obtain ⟨hhead, hrest⟩ := List.cons.inj hcons
  refine ⟨hlt, hrest.symm, ?_⟩
  have hlength : 1 + (lines.take count).length = count + 1 := by
    rw [List.length_take, Nat.min_eq_left hlt.le, Nat.add_comm]
  rw [List.take_succ_eq_append_getElem hlt, preparedFrom_append, hlength, ← hhead,
    preparedFrom_cons]
  simp only [preparedFrom, parsedFrom, List.zipIdx_nil, List.filterMap_nil, List.map_nil,
    List.append_nil]

theorem ReaderStops.interrupted_mono {script : Script} {count : Nat} {before after : Bool}
    {joined : ReaderJoin} (hstops : ReaderStops checks source script count before joined)
    (hmono : before = true → after = true) :
    ReaderStops checks source script count after joined := by
  cases hstops with
  | finished hall hfailure => exact .finished hall hfailure
  | failed error hall hfailure => exact .failed error hall hfailure
  | interrupted hinterrupt => exact .interrupted (hmono hinterrupt)
  | unwound payload => exact .unwound payload

theorem ReaderTask.At.mono {script : Script} {count : Nat} {before after : Bool}
    {reader : ReaderTask} (hat : reader.At checks source script count before)
    (hmono : before = true → after = true) : reader.At checks source script count after := by
  cases reader with
  | reading rest lineNo => exact hat
  | leaving joined => exact hat.interrupted_mono hmono
  | ended joined => exact hat.interrupted_mono hmono

end

namespace StreamingRun

variable {checks : LineChecks Cmd} {machine : Machine Cmd} {dispatch : Nat → DispatchResult}
  {source : Text} {closed : machine.State → Bool}

variable (checks machine dispatch source closed) in
/-- The executor has been given the prepared lines among those the reader has read, and
its channel is closed once the reader has ended. -/
structure Inv (script : Script) (state : State machine) : Prop where
  reachable : (machine.system dispatch).Reachable state.executor
  read : ∃ count, count ≤ script.lines.length ∧
    machine.given state.executor = preparedFrom checks 1 (script.lines.take count) ∧
    state.reader.At checks source script count (machine.interrupt state.executor)
  closed_eq : closed state.executor = state.reader.isEnded

theorem inv_initial (hfed : machine.Fed closed) (reader : Reader) :
    Inv checks machine dispatch source closed (readScript reader)
      ⟨.reading reader 0, machine.initial⟩ where
  reachable := System.reachable_initial
  read := ⟨0, Nat.zero_le _, hfed.given_initial, rfl, by rw [List.drop_zero]⟩
  closed_eq := hfed.closed_initial

variable {script : Script} {state next : State machine}

/-- The executor moves alone: it is given nothing, and its channel stays as it is. -/
theorem Inv.executor (hlawful : machine.Lawful) (hinv :
    Inv checks machine dispatch source closed script state) {action : Action Cmd}
    {executor : machine.State}
    (hstep : machine.step dispatch state.executor action = some executor)
    (hgiven : machine.given executor = machine.given state.executor)
    (hclosed : closed executor = closed state.executor) :
    Inv checks machine dispatch source closed script { state with executor := executor } := by
  obtain ⟨count, hle, hread, hat⟩ := hinv.read
  refine ⟨hinv.reachable.step hstep, ⟨count, hle, hgiven.trans hread, hat.mono fun hset => ?_⟩,
    hclosed.trans hinv.closed_eq⟩
  exact (hlawful.interrupt_step dispatch state.executor action executor hstep).mpr (Or.inl hset)

theorem Inv.stops (hinv : Inv checks machine dispatch source closed script state) {rest : Reader}
    {lineNo : Nat} (hreader : state.reader = .reading rest lineNo) {joined : ReaderJoin}
    (hstops : ReaderStops checks source script lineNo (machine.interrupt state.executor) joined) :
    Inv checks machine dispatch source closed script { state with reader := .leaving joined } := by
  obtain ⟨count, hle, hread, hat⟩ := hinv.read
  rw [hreader] at hat
  obtain ⟨rfl, -⟩ := hat
  exact ⟨hinv.reachable, ⟨lineNo, hle, hread, hstops⟩, by rw [hinv.closed_eq, hreader]; rfl⟩

theorem inv_step (hlawful : machine.Lawful) (hfed : machine.Fed closed)
    {work : machine.State → Nat} {cost : Nat} (hdriven : machine.Driven closed work cost)
    {action : StreamingAction Cmd}
    (hinv : Inv checks machine dispatch source closed script state)
    (hstep : step checks machine dispatch source state action = some next) :
    Inv checks machine dispatch source closed script next := by
  obtain ⟨count, hle, hread, hat⟩ := hinv.read
  cases step_moves hstep with
  | executor action executor hown hmachine =>
      rcases Action.sigint_or_working hown with rfl | hworking
      · obtain ⟨other, hother, hgiven, hclosed⟩ := hfed.sigint dispatch state.executor
        cases hmachine.symm.trans hother
        exact hinv.executor hlawful hmachine hgiven hclosed
      · exact hinv.executor hlawful hmachine (hfed.given_working _ _ _ _ hworking hmachine)
          (hdriven.closed_working _ _ _ _ hworking hmachine)
  | finished rest lineNo hreader hscript =>
      rw [hreader] at hat
      obtain ⟨rfl, hrest⟩ := hat
      rw [hscript] at hrest
      have hlines := List.drop_eq_nil_iff.mp (congrArg Script.lines hrest).symm
      exact hinv.stops hreader (.finished (Nat.le_antisymm hle hlines)
        (congrArg Script.failure hrest).symm)
  | failed rest lineNo error hreader hscript =>
      rw [hreader] at hat
      obtain ⟨rfl, hrest⟩ := hat
      rw [hscript] at hrest
      have hlines := List.drop_eq_nil_iff.mp (congrArg Script.lines hrest).symm
      exact hinv.stops hreader (.failed error (Nat.le_antisymm hle hlines)
        (congrArg Script.failure hrest).symm)
  | skipped rest other lineNo text hreader hline hkind =>
      rw [hreader] at hat
      obtain ⟨rfl, hrest⟩ := hat
      rw [readScript_unfold, hline] at hrest
      obtain ⟨hlt, hdrop, hprepared⟩ := @next_of_drop _ checks _ _ _ _
        (congrArg Script.lines hrest).symm
      refine ⟨hinv.reachable, ⟨lineNo + 1, hlt, ?_, rfl, ?_⟩, by rw [hinv.closed_eq, hreader]; rfl⟩
      · rw [hprepared, hkind]
        exact hread.trans (List.append_nil _).symm
      · rw [hdrop, ← congrArg Script.failure hrest]
        rfl
  | refused rest other lineNo text hreader hline hreturned =>
      have hopen := hinv.closed_eq
      rw [hfed.closed_of_returned _ _ hinv.reachable hreturned, hreader] at hopen
      cases hopen
  | sent rest other lineNo text kind executor hreader hline hkind hsend =>
      have hopen : closed state.executor = false := by rw [hinv.closed_eq, hreader]; rfl
      obtain ⟨given, hgive, hgiven, hclosed⟩ := hfed.send dispatch state.executor _ hopen
      cases hsend.symm.trans hgive
      rw [hreader] at hat
      obtain ⟨rfl, hrest⟩ := hat
      rw [readScript_unfold, hline] at hrest
      obtain ⟨hlt, hdrop, hprepared⟩ := @next_of_drop _ checks _ _ _ _
        (congrArg Script.lines hrest).symm
      refine ⟨hinv.reachable.step hsend, ⟨lineNo + 1, hlt, ?_, rfl, ?_⟩, hclosed⟩
      · rw [hgiven, hread, hprepared, hkind]
        rfl
      · rw [hdrop, ← congrArg Script.failure hrest]
        rfl
  | ctrlC rest lineNo executor hreader hmachine =>
      obtain ⟨other, hother, hgiven, hclosed⟩ := hfed.sigint dispatch state.executor
      cases hmachine.symm.trans hother
      have hinterrupted :=
        (hlawful.interrupt_step dispatch state.executor .sigint executor hmachine).mpr (Or.inr rfl)
      exact (hinv.executor hlawful hmachine hgiven hclosed).stops hreader
        (.interrupted hinterrupted)
  | unwound rest lineNo payload hreader => exact hinv.stops hreader (.unwound payload)
  | dropped joined executor hreader hmachine =>
      obtain ⟨other, hother, hgiven, hclosed⟩ := hfed.close dispatch state.executor
      cases hmachine.symm.trans hother
      rw [hreader] at hat
      refine ⟨hinv.reachable.step hmachine, ⟨count, hle, hgiven.trans hread, ?_⟩, hclosed⟩
      exact hat.interrupted_mono fun hset =>
        (hlawful.interrupt_step dispatch state.executor .close executor hmachine).mpr (Or.inl hset)

/-! ## The end of a run -/

variable {reader : Reader}

theorem inv_reachable (hlawful : machine.Lawful) (hfed : machine.Fed closed)
    {work : machine.State → Nat} {cost : Nat} (hdriven : machine.Driven closed work cost)
    (hreach : (system checks machine dispatch source reader).Reachable state) :
    Inv checks machine dispatch source closed (readScript reader) state :=
  hreach.invariant (Inv checks machine dispatch source closed (readScript reader))
    (inv_initial hfed reader) fun _ _ _ hinv hstep => inv_step hlawful hfed hdriven hinv hstep

theorem exit_isSome (hreturned : machine.returned state.executor = true)
    (hended : state.reader.isEnded = true) : (exit state).isSome = true := by
  cases hreader : state.reader with
  | reading rest lineNo => simp [hreader, ReaderTask.isEnded] at hended
  | leaving joined => simp [hreader, ReaderTask.isEnded] at hended
  | ended joined => simp [exit, Machine.result, hreturned, hreader]

theorem exit_eq_some {code : ExitCode} {summary : Summary}
    (hexit : exit state = some (code, summary)) :
    ∃ recorded joined, machine.result state.executor = some (recorded, summary) ∧
      state.reader = .ended joined ∧ code = finalCode recorded joined := by
  unfold exit at hexit
  split at hexit
  next recorded counted joined hresult hreader =>
    cases hexit
    exact ⟨recorded, joined, hresult, hreader, rfl⟩
  next => cases hexit

/-- A bound on the turns the reader has left. -/
def readerWork : ReaderTask → Nat
  | .reading rest _ => rest.content.length + 2
  | .leaving _ => 1
  | .ended _ => 0

/-- The reader can take a turn until it has ended. -/
theorem reader_progress (hfed : machine.Fed closed)
    (hinv : Inv checks machine dispatch source closed script state)
    (hrunning : state.reader.isEnded = false) : ∃ action next, action.Working ∧
      step checks machine dispatch source state action = some next := by
  have hopen := hinv.closed_eq.trans hrunning
  cases hreader : state.reader with
  | reading rest lineNo =>
      have hline : ∃ next, readLine checks machine dispatch source state.executor rest lineNo =
          some next := by
        unfold readLine
        split
        · exact ⟨_, rfl⟩
        · exact ⟨_, rfl⟩
        · split
          · exact ⟨_, rfl⟩
          next kind hkind =>
            split
            · exact ⟨_, rfl⟩
            · obtain ⟨executor, hsend, -⟩ := hfed.send dispatch state.executor _ hopen
              exact ⟨_, congrArg (Option.map _) hsend⟩
      obtain ⟨next, hline⟩ := hline
      exact ⟨.line, next, trivial, by simp only [step, hreader, hline]⟩
  | leaving joined =>
      obtain ⟨executor, hclose, -⟩ := hfed.close dispatch state.executor
      exact ⟨.drop, ⟨.ended joined, executor⟩, trivial,
        by simp only [step, hreader, hclose, Option.map_some]⟩
  | ended joined => simp [hreader, ReaderTask.isEnded] at hrunning

/-- As long as the run has no exit code some party can move. -/
theorem progress (hfed : machine.Fed closed) {work : machine.State → Nat} {cost : Nat}
    (hdriven : machine.Driven closed work cost)
    (hinv : Inv checks machine dispatch source closed script state) (hexit : exit state = none) :
    ∃ action next, action.Working ∧
      step checks machine dispatch source state action = some next := by
  cases hended : state.reader.isEnded with
  | false => exact reader_progress hfed hinv hended
  | true =>
      have hreturned : machine.returned state.executor = false := by
        by_contra hreturned
        have hsome := exit_isSome (by simpa using hreturned) hended
        rw [hexit] at hsome
        cases hsome
      obtain ⟨action, executor, hworking, hstep⟩ := hdriven.progress dispatch state.executor
        hinv.reachable (hinv.closed_eq.trans hended) hreturned
      have hown : action.isReaders = false := by
        cases action with
        | send line => cases hworking
        | close => cases hworking
        | _ => rfl
      exact ⟨.executor action, { state with executor := executor }, hworking,
        by simp [step, hown, hstep]⟩

/-- Every step of a party at work brings the run nearer to its end. -/
theorem work_step {work : machine.State → Nat} {cost : Nat}
    (hdriven : machine.Driven closed work cost) {action : StreamingAction Cmd}
    (hworking : action.Working)
    (hstep : step checks machine dispatch source state action = some next) :
    work next.executor + (cost + 1) * readerWork next.reader <
      work state.executor + (cost + 1) * readerWork state.reader := by
  -- a turn of the reader costs the executor no more than `cost`
  have hturn : ∀ {executor : machine.State} {before after : ReaderTask},
      work executor ≤ work state.executor + cost → readerWork after < readerWork before →
      work executor + (cost + 1) * readerWork after <
        work state.executor + (cost + 1) * readerWork before := by
    intro executor before after hcost hless
    have hproduct := Nat.mul_le_mul_left (cost + 1) (Nat.succ_le_of_lt hless)
    rw [Nat.mul_succ] at hproduct
    omega
  cases step_moves hstep with
  | executor action executor hown hmachine =>
      exact Nat.add_lt_add_right (hdriven.work_working _ _ _ _ hworking hmachine) _
  | finished rest lineNo hreader hscript =>
      exact hturn (Nat.le_add_right _ _) (by simp [hreader, readerWork])
  | failed rest lineNo error hreader hscript =>
      exact hturn (Nat.le_add_right _ _) (by simp [hreader, readerWork])
  | skipped rest other lineNo text hreader hline hkind =>
      exact hturn (Nat.le_add_right _ _)
        (by simpa [hreader, readerWork] using length_content_of_line hline)
  | refused rest other lineNo text hreader hline hreturned =>
      exact hturn (Nat.le_add_right _ _) (by simp [hreader, readerWork])
  | sent rest other lineNo text kind executor hreader hline hkind hsend =>
      exact hturn (hdriven.work_other _ _ _ _ (by simp [Action.Working]) hsend)
        (by simpa [hreader, readerWork] using length_content_of_line hline)
  | ctrlC rest lineNo executor hreader hmachine =>
      exact hturn (hdriven.work_other _ _ _ _ (by simp [Action.Working]) hmachine)
        (by simp [hreader, readerWork])
  | unwound rest lineNo payload hreader =>
      exact hturn (Nat.le_add_right _ _) (by simp [hreader, readerWork])
  | dropped joined executor hreader hmachine =>
      exact hturn (hdriven.work_other _ _ _ _ (by simp [Action.Working]) hmachine)
        (by simp [hreader, readerWork])

theorem inevitably_exits (hlawful : machine.Lawful) (hfed : machine.Fed closed)
    {work : machine.State → Nat} {cost : Nat} (hdriven : machine.Driven closed work cost)
    (hreach : (system checks machine dispatch source reader).Reachable state) :
    (system checks machine dispatch source reader).Inevitably StreamingAction.Working
      (fun final => (exit final).isSome = true) state := by
  apply System.Inevitably.of_measure
    (fun later => Inv checks machine dispatch source closed (readScript reader) later)
    (fun later => work later.executor + (cost + 1) * readerWork later.reader)
  · intro later hinv hexit
    exact progress hfed hdriven hinv (by simpa using hexit)
  · intro later action next hinv hworking hstep
    exact ⟨inv_step hlawful hfed hdriven hinv hstep, work_step hdriven hworking hstep⟩
  · exact inv_reachable hlawful hfed hdriven hreach

end StreamingRun

/-! ## The runs of `run_streaming` -/

theorem streamingExecutor_streams (opts : ExecutorOptions) :
    (streamingExecutor opts).streams = true := by
  unfold streamingExecutor
  split <;> rfl

/-- The executor that `run_streaming` drives with these options. -/
abbrev streamingMachine (Cmd : Type) (opts : ExecutorOptions) : Machine Cmd :=
  (streamingExecutor opts).machine opts []

/-- `run_streaming` over an opened script, with every command's result fixed. -/
abbrev runStreaming (checks : LineChecks Cmd) (opts : ExecutorOptions)
    (dispatch : Nat → DispatchResult) (source : Text) (reader : Reader) :
    System (StreamingRun.State (streamingMachine Cmd opts)) (StreamingAction Cmd) :=
  StreamingRun.system checks (streamingMachine Cmd opts) dispatch source reader

/-- The invariant of the runs of `run_streaming`. -/
theorem inv_runStreaming {checks : LineChecks Cmd} {opts : ExecutorOptions}
    (hworkers : 1 ≤ opts.workers) {dispatch : Nat → DispatchResult} {source : Text}
    {reader : Reader} {state : StreamingRun.State (streamingMachine Cmd opts)}
    (hreach : (runStreaming checks opts dispatch source reader).Reachable state) :
    StreamingRun.Inv checks (streamingMachine Cmd opts) dispatch source
      ((streamingExecutor opts).closed opts []) (readScript reader) state := by
  obtain ⟨work, cost, hdriven⟩ :=
    (streamingExecutor opts).driven opts ([] : List (PreparedLine Cmd)) hworkers
  exact StreamingRun.inv_reachable
    ((streamingExecutor opts).lawful opts ([] : List (PreparedLine Cmd)))
    ((streamingExecutor opts).fed opts ([] : List (PreparedLine Cmd))
      (streamingExecutor_streams opts)) hdriven hreach

/-- On return every line given is in one counter. -/
theorem Machine.Sound.total {machine : Machine Cmd} {opts : ExecutorOptions}
    (hsound : machine.Sound opts) {dispatch : Nat → DispatchResult} {state : machine.State}
    (hreach : (machine.system dispatch).Reachable state) {code : ExitCode} {summary : Summary}
    (hresult : machine.result state = some (code, summary)) :
    summary.ok + summary.failed + summary.warning + summary.skipped =
      (machine.given state).length := by
  obtain ⟨recorded, hcounts, rfl⟩ := hsound.summary_counts hreach hresult
  have htotal := hcounts.total
  rw [lineCodes_length] at htotal
  have hlength := (hsound.inFlight_inOrder hreach).length_le
  simp only [Summary.skip]
  omega

/-- The executor of a streaming run is given the prepared lines of what the reader has
read, in order, whatever else happens meanwhile. It does not return before the reader
has ended, so the receiver is there for every line the reader sends. -/
theorem streaming_reader_outlived (checks : LineChecks Cmd) (opts : ExecutorOptions)
    (hworkers : 1 ≤ opts.workers) (dispatch : Nat → DispatchResult) (source : Text)
    (reader : Reader) (state : StreamingRun.State (streamingMachine Cmd opts))
    (hreach : (runStreaming checks opts dispatch source reader).Reachable state) :
    let machine := streamingMachine Cmd opts
    let script := readScript reader
    (machine.system dispatch).Reachable state.executor ∧
      (∃ count, count ≤ script.lines.length ∧
        machine.given state.executor = preparedFrom checks 1 (script.lines.take count) ∧
        state.reader.At checks source script count (machine.interrupt state.executor)) ∧
      (machine.returned state.executor = true → state.reader.isEnded = true) := by
  intro machine script
  have hinv := inv_runStreaming hworkers hreach
  refine ⟨hinv.reachable, hinv.read, fun hreturned => ?_⟩
  rw [← hinv.closed_eq]
  exact ((streamingExecutor opts).fed opts ([] : List (PreparedLine Cmd))
    (streamingExecutor_streams opts)).closed_of_returned dispatch state.executor hinv.reachable
      hreturned

/-- One worker, one line, and then bytes that are no text: the line fails after the
reader has stopped. -/
theorem exists_lsThenBytes_exit :
    ∃ state, (runStreaming lsOnly ⟨1, some 1, false⟩ (fun _ => .code 1) "stdin".toList
        lsThenBytes).Reachable state ∧
      (streamingMachine Text ⟨1, some 1, false⟩).returned state.executor = true ∧
      StreamingRun.exit state = some (1, ⟨0, 1, 0, 0⟩) := by
  obtain ⟨state, hreach, htest⟩ := System.exists_reachable
    (runStreaming lsOnly ⟨1, some 1, false⟩ (fun _ => .code 1) "stdin".toList lsThenBytes)
    [.line, .executor .exec, .line, .executor (.complete 0), .drop, .executor .exec]
    (fun state => (streamingMachine Text ⟨1, some 1, false⟩).returned state.executor &&
      decide (StreamingRun.exit state = some (1, ⟨0, 1, 0, 0⟩)))
    (by decide +kernel)
  simp only [Bool.and_eq_true, decide_eq_true_eq] at htest
  exact ⟨state, hreach, htest⟩

theorem streaming_reader_outlived_read_error :
    ∃ state, (runStreaming lsOnly ⟨1, some 1, false⟩ (fun _ => .code 1) "stdin".toList
        lsThenBytes).Reachable state ∧
      (streamingMachine Text ⟨1, some 1, false⟩).returned state.executor = true ∧
      state.reader.isEnded = true := by
  obtain ⟨state, hreach, hreturned, -⟩ := exists_lsThenBytes_exit
  obtain ⟨-, -, houtlived⟩ := streaming_reader_outlived lsOnly ⟨1, some 1, false⟩ (by decide)
    (fun _ => .code 1) "stdin".toList lsThenBytes state hreach
  exact ⟨state, hreach, hreturned, houtlived hreturned⟩

/-- From wherever it has come, a streaming run reaches its exit code, whatever the order
in which the reader, the executor, and its tasks take their turns, and even if Ctrl-C
or a panic ends the reader. -/
theorem streaming_run_exits (checks : LineChecks Cmd) (opts : ExecutorOptions)
    (hworkers : 1 ≤ opts.workers) (dispatch : Nat → DispatchResult) (source : Text)
    (reader : Reader) (state : StreamingRun.State (streamingMachine Cmd opts))
    (hreach : (runStreaming checks opts dispatch source reader).Reachable state) :
    (runStreaming checks opts dispatch source reader).Inevitably StreamingAction.Working
      (fun final => (StreamingRun.exit final).isSome = true) state := by
  obtain ⟨work, cost, hdriven⟩ :=
    (streamingExecutor opts).driven opts ([] : List (PreparedLine Cmd)) hworkers
  exact StreamingRun.inevitably_exits
    ((streamingExecutor opts).lawful opts ([] : List (PreparedLine Cmd)))
    ((streamingExecutor opts).fed opts ([] : List (PreparedLine Cmd))
      (streamingExecutor_streams opts)) hdriven hreach

theorem streaming_run_exits_lsThenBytes :
    (runStreaming lsOnly ⟨2, some 1, false⟩ (fun _ => .code 1) "stdin".toList
      lsThenBytes).Inevitably StreamingAction.Working
        (fun final => (StreamingRun.exit final).isSome = true)
        ⟨.reading lsThenBytes 0, (streamingMachine Text ⟨2, some 1, false⟩).initial⟩ :=
  streaming_run_exits lsOnly ⟨2, some 1, false⟩ (by decide) (fun _ => .code 1) "stdin".toList
    lsThenBytes _ System.reachable_initial

end S7cmd.BatchRun
