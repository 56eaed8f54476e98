import S7cmd.Foundation.Frame
import Mathlib.Data.List.Basic

/-!
# Clients of a server

A client sends requests and goes on with their answers, up to a value or an error. It is
told apart from the server: what a client may send is a fact about the client alone, and
what its run changes follows from what the server does with the requests it sends.
-/

namespace Foundation

/-- A client ends, or sends a request and goes on with the answer. -/
inductive Client (Request : Type) (Answer : Request → Type) (ε α : Type) where
  | done (result : Except ε α)
  | send (request : Request) (next : Answer request → Client Request Answer ε α)

/-- What a server does with each request. -/
abbrev Server (Request : Type) (Answer : Request → Type) (State : Type) : Type :=
  (request : Request) → State → Answer request × State

namespace Client

variable {Request State : Type} {Answer : Request → Type} {ε α β : Type}

def bind (first : Client Request Answer ε α) (next : α → Client Request Answer ε β) :
    Client Request Answer ε β :=
  match first with
  | .done (.ok value) => next value
  | .done (.error error) => .done (.error error)
  | .send request later => .send request fun answer => (later answer).bind next

instance : Monad (Client Request Answer ε) where
  pure value := .done (.ok value)
  bind := bind

/-- One request, for its answer. -/
def ask (request : Request) : Client Request Answer ε (Answer request) :=
  .send request fun answer => .done (.ok answer)

theorem send_bind (request : Request) (later : Answer request → Client Request Answer ε α)
    (next : α → Client Request Answer ε β) :
    (send request later >>= next) = send request fun answer => later answer >>= next := rfl

theorem ask_bind (request : Request) (next : Answer request → Client Request Answer ε β) :
    (ask request >>= next) = send request next := rfl

/-! ## Runs -/

def run (server : Server Request Answer State) :
    Client Request Answer ε α → Fallible State ε α
  | .done result => .ofExcept result
  | .send request next => fun state =>
      (next (server request state).1).run server (server request state).2

/-- What a run has sent and what it was answered, in order. -/
def transcript (server : Server Request Answer State) :
    Client Request Answer ε α → State → List ((request : Request) × Answer request)
  | .done _, _ => []
  | .send request next, state =>
      ⟨request, (server request state).1⟩ ::
        (next (server request state).1).transcript server (server request state).2

def requests (server : Server Request Answer State) (client : Client Request Answer ε α)
    (state : State) : List Request :=
  (client.transcript server state).map Sigma.fst

theorem requests_send (server : Server Request Answer State) (request : Request)
    (next : Answer request → Client Request Answer ε α) (state : State) :
    (send request next).requests server state =
      request :: (next (server request state).1).requests server (server request state).2 := rfl

theorem run_bind (server : Server Request Answer State) (first : Client Request Answer ε α)
    (next : α → Client Request Answer ε β) :
    (first >>= next).run server = first.run server >>= fun value => (next value).run server := by
  induction first with
  | done result => cases result <;> rfl
  | send request later ih =>
      funext state
      exact congrFun (ih (server request state).1) (server request state).2

/-! ## What a client may send -/

/-- Whatever the answers, it sends none but allowed requests. -/
def Only (allowed : Request → Prop) : Client Request Answer ε α → Prop
  | .done _ => True
  | .send request next => allowed request ∧ ∀ answer, (next answer).Only allowed

namespace Only

variable {allowed : Request → Prop} {client : Client Request Answer ε α}

theorem bind {next : α → Client Request Answer ε β} (hfirst : client.Only allowed)
    (hnext : ∀ value, (next value).Only allowed) : (client >>= next).Only allowed := by
  induction client with
  | done result =>
      cases result with
      | ok value => exact hnext value
      | error error => trivial
  | send request later ih => exact ⟨hfirst.1, fun answer => ih answer (hfirst.2 answer)⟩

theorem ask {request : Request} (hrequest : allowed request) :
    (ask request : Client Request Answer ε (Answer request)).Only allowed :=
  ⟨hrequest, fun _ => trivial⟩

/-- A run leaves alone what the allowed requests leave alone. -/
theorem leaves_run {ω : Type} {view : State → ω} {server : Server Request Answer State}
    (hserver : ∀ request, allowed request → ∀ state,
      view (server request state).2 = view state)
    (honly : client.Only allowed) : Leaves view (client.run server) := by
  induction client with
  | done result => exact Leaves.ofExcept result
  | send request next ih =>
      intro state
      calc
        view ((send request next).run server state).2
            = view (server request state).2 := ih _ (honly.2 _) _
        _ = view state := hserver request honly.1 state

theorem requests {server : Server Request Answer State} (honly : client.Only allowed)
    (state : State) : ∀ request ∈ client.requests server state, allowed request := by
  induction client generalizing state with
  | done result => simp [Client.requests, Client.transcript]
  | send request next ih =>
      intro sent hsent
      rw [requests_send] at hsent
      rcases List.mem_cons.mp hsent with rfl | hlater
      · exact honly.1
      · exact ih _ (honly.2 _) _ sent hlater

end Only

/-! ## Keeping to a plan -/

/-- Of the counted requests it sends the first of its plan and no others, and the whole
plan if it ends in one of these results. A plan may depend on what is asked and answered. -/
def Follows (counted : Request → Bool) (results : Except ε α → Prop) :
    Client Request Answer ε α →
      (List ((request : Request) × Answer request) → List Request) → Prop
  | .done result, plan => results result → plan [] = []
  | .send request next, plan => ∀ answer,
      if counted request then
        ∃ rest, (∀ later, plan (⟨request, answer⟩ :: later) = request :: rest later) ∧
          (next answer).Follows counted results rest
      else (next answer).Follows counted results fun later => plan (⟨request, answer⟩ :: later)

namespace Follows

variable {counted : Request → Bool} {results : Except ε α → Prop}
  {client : Client Request Answer ε α}
  {plan : List ((request : Request) × Answer request) → List Request}

/-- The next of the plan is sent. -/
theorem send {request : Request} (hcounted : counted request = true)
    {next : Answer request → Client Request Answer ε α} {rest : List Request}
    (hnext : ∀ answer, (next answer).Follows counted results fun _ => rest) :
    (Client.send request next).Follows counted results fun _ => request :: rest := by
  intro answer
  rw [if_pos hcounted]
  exact ⟨fun _ => rest, fun _ => rfl, hnext answer⟩

/-- What does not count may tell what the plan is. -/
theorem ask_bind {request : Request} (huncounted : counted request = false)
    {next : Answer request → Client Request Answer ε α}
    (hnext : ∀ answer,
      (next answer).Follows counted results fun later => plan (⟨request, answer⟩ :: later)) :
    (ask request >>= next).Follows counted results plan := by
  intro answer
  rw [if_neg (Bool.eq_false_iff.mp huncounted)]
  exact hnext answer

/-- What comes before the first counted request is not in the plan, and has no such
result. -/
theorem bind_only {first : Client Request Answer ε β} {next : β → Client Request Answer ε α}
    {expected : List Request} (hresults : ∀ error, ¬ results (.error error))
    (hfirst : first.Only fun request => counted request = false)
    (hnext : ∀ value, (next value).Follows counted results fun _ => expected) :
    (first >>= next).Follows counted results fun _ => expected := by
  induction first with
  | done result =>
      cases result with
      | ok value => exact hnext value
      | error error => exact fun hresult => absurd hresult (hresults error)
  | send request later ih =>
      intro answer
      rw [if_neg (Bool.eq_false_iff.mp hfirst.1)]
      exact ih answer (hfirst.2 answer)

end Follows

/-! ## What a result vouches for -/

/-- Whatever the answers, it ends in one of these results. -/
def Ends (results : Except ε α → Prop) : Client Request Answer ε α → Prop
  | .done result => results result
  | .send _ next => ∀ answer, (next answer).Ends results

/-- Once an answer is not accepted, it cannot end well any more. -/
def Vouches (accepts : (request : Request) → Answer request → Prop)
    (well : Except ε α → Prop) : Client Request Answer ε α → Prop
  | .done _ => True
  | .send request next => ∀ answer, (next answer).Vouches accepts well ∧
      (¬ accepts request answer → (next answer).Ends fun result => ¬ well result)

theorem Ends.run {results : Except ε α → Prop} {client : Client Request Answer ε α}
    (hends : client.Ends results) (server : Server Request Answer State) (state : State) :
    results (client.run server state).1 := by
  induction client generalizing state with
  | done result => exact hends
  | send request next ih => exact ih _ (hends _) _

/-- An error that comes first is the error of the whole. -/
theorem Ends.bind_error {first : Client Request Answer ε β}
    {next : β → Client Request Answer ε α} {results : Except ε α → Prop}
    (hresults : ∀ error, results (.error error))
    (hfirst : first.Ends fun result => ¬ ∃ value, result = .ok value) :
    (first >>= next).Ends results := by
  induction first with
  | done result =>
      cases result with
      | ok value => exact absurd ⟨value, rfl⟩ hfirst
      | error error => exact hresults error
  | send request later ih => exact fun answer => ih answer (hfirst answer)

namespace Vouches

variable {accepts : (request : Request) → Answer request → Prop} {well : Except ε α → Prop}
  {client : Client Request Answer ε α}

/-- Checks vouch by failing; the rest vouches for itself. -/
theorem bind {first : Client Request Answer ε β} {next : β → Client Request Answer ε α}
    (hwell : ∀ error, ¬ well (.error error))
    (hfirst : first.Vouches accepts fun result => ∃ value, result = .ok value)
    (hnext : ∀ value, (next value).Vouches accepts well) :
    (first >>= next).Vouches accepts well := by
  induction first with
  | done result =>
      cases result with
      | ok value => exact hnext value
      | error error => trivial
  | send request later ih =>
      intro answer
      obtain ⟨hlater, hrefused⟩ := hfirst answer
      exact ⟨ih answer hlater, fun hnot => Ends.bind_error hwell (hrefused hnot)⟩

end Vouches

/-! ## Rehearsals -/

/-- The client up to the first request that changes something. There it passes. -/
def rehearse (changes : Request → Bool) (passed : α) :
    Client Request Answer ε α → Client Request Answer ε α
  | .done result => .done result
  | .send request next =>
      if changes request then .done (.ok passed)
      else .send request fun answer => (next answer).rehearse changes passed

variable {changes : Request → Bool} {passed : α} {client : Client Request Answer ε α}

theorem only_rehearse (client : Client Request Answer ε α) :
    (client.rehearse changes passed).Only (fun request => changes request = false) := by
  induction client with
  | done result => trivial
  | send request next ih =>
      rw [rehearse]
      split
      next => trivial
      next hchanges => exact ⟨Bool.eq_false_iff.mpr hchanges, ih⟩

/-- The checks that come before a change are those of the rehearsal. -/
theorem rehearse_bind {first : Client Request Answer ε β} {next : β → Client Request Answer ε α}
    (hfirst : first.Only fun request => changes request = false) :
    (first >>= next).rehearse changes passed =
      first >>= fun value => (next value).rehearse changes passed := by
  induction first with
  | done result => cases result <;> rfl
  | send request later ih =>
      rw [send_bind, send_bind, rehearse, if_neg (Bool.eq_false_iff.mp hfirst.1)]
      congr 1
      funext answer
      exact ih answer (hfirst.2 answer)

/-- How a run goes on from its rehearsal: not at all, or with the first request that
changes something, where the rehearsal has passed. -/
theorem run_rehearse (server : Server Request Answer State) (client : Client Request Answer ε α)
    (state : State) :
    let rehearsal := (client.rehearse changes passed).run server state
    let rehearsed := (client.rehearse changes passed).requests server state
    (client.run server state = rehearsal ∧ client.requests server state = rehearsed) ∨
      ∃ request next, changes request = true ∧ rehearsal.1 = .ok passed ∧
        client.run server state = (send request next).run server rehearsal.2 ∧
        client.requests server state =
          rehearsed ++ (send request next).requests server rehearsal.2 := by
  induction client generalizing state with
  | done result => exact Or.inl ⟨rfl, rfl⟩
  | send request next ih =>
      rw [rehearse]
      split
      next hchanges => exact Or.inr ⟨request, next, hchanges, rfl, rfl, rfl⟩
      next hchanges =>
        rcases ih (server request state).1 (server request state).2 with
          ⟨hrun, hrequests⟩ | ⟨change, later, hchange, hpassed, hrun, hrequests⟩
        · exact Or.inl ⟨hrun, congrArg (request :: ·) hrequests⟩
        · exact Or.inr ⟨change, later, hchange, hpassed, hrun, congrArg (request :: ·) hrequests⟩

end Client

end Foundation
