import ModbusTcp.Transport.Basic

/-!
# Calls and replayed answers

What is asked of a transport is a list of calls (`Transport.serve`). The simplest transport to ask
has no wire: a replay answers each exchange with the next answer of a list, whatever the request,
and keeps the requests. After the list it has no connection to answer with (`Replay.serve_eq`).
-/

namespace ModbusTcp

/-! ## Calls -/

namespace Transport

/-- One thing that a transport is asked for. -/
inductive Call where
  | exchange (request : Bytes)
  | close
  deriving DecidableEq, Repr

/-- The request of a call that makes an exchange. -/
def Call.request? : Call → Option Bytes
  | .exchange request => some request
  | .close => none

/-- The requests among some calls, in their order. -/
def requests (calls : List Call) : List Bytes := calls.filterMap Call.request?

variable {τ : Type} [Transport τ]

/-- Answers calls one after the other: the results of the exchanges, and the transport after all
calls. -/
def serve (t : τ) : List Call → List (Except Failure Bytes) × τ
  | [] => ([], t)
  | .exchange request :: rest =>
    let sent := (exchange t request).value
    let served := serve sent.2 rest
    (sent.1 :: served.1, served.2)
  | .close :: rest => serve (close t).value.2 rest

theorem serve_exchange (t : τ) (request : Bytes) (rest : List Call) :
    serve t (.exchange request :: rest) =
      ((exchange t request).value.1 :: (serve (exchange t request).value.2 rest).1,
        (serve (exchange t request).value.2 rest).2) := rfl

theorem serve_close (t : τ) (rest : List Call) :
    serve t (.close :: rest) = serve (close t).value.2 rest := rfl

theorem requests_exchange (request : Bytes) (rest : List Call) :
    requests (.exchange request :: rest) = request :: requests rest := rfl

theorem requests_close (rest : List Call) : requests (.close :: rest) = requests rest := rfl

/-- Each request has one result. -/
theorem length_serve (t : τ) (calls : List Call) :
    (serve t calls).1.length = (requests calls).length := by
  induction calls generalizing t with
  | nil => rfl
  | cons call rest ih =>
    cases call with
    | exchange request =>
      rw [serve_exchange, requests_exchange, List.length_cons, List.length_cons, ih]
    | close => rw [serve_close, requests_close, ih]

end Transport

/-! ## Replays -/

/-- A transport that replays answers. -/
structure Replay where
  answers : List (Except Failure Bytes)
  /-- what closing reports, if it fails -/
  closeFailure : Option Failure := none
  /-- the requests, the latest first -/
  sent : List Bytes := []
  closes : Nat := 0

namespace Replay

/-- Answers with the next answer of the list. -/
def exchange (r : Replay) (request : Bytes) : Logged (Except Failure Bytes × Replay) :=
  match r.answers with
  | [] => pure (.error .notConnected, { r with sent := request :: r.sent })
  | answer :: rest => pure (answer, { r with answers := rest, sent := request :: r.sent })

/-- Counts a close and reports what it is to report. -/
def close (r : Replay) : Logged (Except Failure Unit × Replay) :=
  pure (r.closeFailure.elim (.ok ()) .error, { r with closes := r.closes + 1 })

/-- The transport is connected until it is closed, and it counts nothing. -/
instance : Transport Replay where
  exchange := exchange
  close := close
  isConnected r := r.closes == 0
  stats _ := {}

end Replay

/-- A replay gives its answers in their order, one for each request, and keeps the requests. -/
theorem Replay.serve_eq (r : Replay) (calls : List Transport.Call) :
    (Transport.serve r calls).1 =
        (List.range (Transport.requests calls).length).map
          (fun k => r.answers[k]?.getD (.error .notConnected)) ∧
      (Transport.serve r calls).2.answers =
        r.answers.drop (Transport.requests calls).length ∧
      (Transport.serve r calls).2.sent = (Transport.requests calls).reverse ++ r.sent := by
  induction calls generalizing r with
  | nil => exact ⟨rfl, rfl, rfl⟩
  | cons call rest ih =>
    cases call with
    | close => exact ih (Transport.close r).value.2
    | exchange request =>
      have hexchange : (Transport.exchange r request).value =
          (r.answers[0]?.getD (.error .notConnected),
            { r with answers := r.answers.drop 1, sent := request :: r.sent }) := by
        obtain ⟨answers, closeFailure, sent, closes⟩ := r
        cases answers <;> rfl
      obtain ⟨hresults, hanswers, hsent⟩ := ih (Transport.exchange r request).value.2
      rw [Transport.serve_exchange, Transport.requests_exchange, List.length_cons,
        List.range_succ_eq_map, List.map_cons, List.map_map, hresults, hanswers, hsent, hexchange]
      refine ⟨?_, ?_, ?_⟩
      · simp [Function.comp_def]
      · simp [Nat.add_comm]
      · simp

end ModbusTcp
