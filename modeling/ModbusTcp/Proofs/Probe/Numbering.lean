import ModbusTcp.Probe.Client
import ModbusTcp.Transport.Replay

/-!
# The numbers of reads

A client of any transport asks it for one exchange for each read and one close for each close, in
the order of the steps, and for nothing else (`Client.calls`). Its `k`-th read has the number `k`,
whatever came of the reads before and however often it was closed, and what is told of the read is
a function of its request and of the `k`-th result (`Client.reads_numbered`).
-/

namespace ModbusTcp.Client

/-- What a read asks for. -/
structure Query where
  unit : UInt8
  function : UInt8
  start : UInt16
  quantity : UInt16
  deriving DecidableEq, Repr

/-- The request of a query under a number. -/
def Query.request (q : Query) (number : UInt16) : Request :=
  Request.read number q.unit q.function q.start q.quantity

/-- What a step asks for, if it reads. -/
def Step.query? : Step → Option Query
  | .read unit function start quantity => some ⟨unit, function, start, quantity⟩
  | .close => none

/-- What the reads among some steps ask for, in their order. -/
def queries (steps : List Step) : List Query := steps.filterMap Step.query?

/-- The requests of the reads among some steps, numbered one after the other. -/
def requests (number : Nat) (steps : List Step) : List Request :=
  (queries steps).mapIdx fun i q => q.request (UInt16.ofNat (number + i))

/-- What a client asks its transport for if its next read has a number. -/
def calls (number : Nat) : List Step → List Transport.Call
  | [] => []
  | .read unit function start quantity :: rest =>
    .exchange (Request.read (UInt16.ofNat number) unit function start quantity).toBytes ::
      calls (number + 1) rest
  | .close :: rest => .close :: calls number rest

/-- The report of a step that read. -/
def Answer.report? : Answer → Option Report
  | .report r => some r
  | .closed _ => none

/-- What is told of the reads among some steps, in their order. -/
def reports (answers : List Answer) : List Report := answers.filterMap Answer.report?

/-! ## Requests and their numbers -/

theorem requests_read (number : Nat) (unit function : UInt8) (start quantity : UInt16)
    (rest : List Step) :
    requests number (.read unit function start quantity :: rest) =
      Request.read (UInt16.ofNat number) unit function start quantity ::
        requests (number + 1) rest := by
  simp [requests, queries, Step.query?, Query.request, List.mapIdx_cons, Nat.add_assoc,
    Nat.add_comm 1]

theorem requests_close (number : Nat) (rest : List Step) :
    requests number (.close :: rest) = requests number rest := rfl

@[simp]
theorem length_requests (number : Nat) (steps : List Step) :
    (requests number steps).length = (queries steps).length := by
  simp [requests]

theorem getElem?_requests (number k : Nat) (steps : List Step) :
    (requests number steps)[k]? =
      (queries steps)[k]?.map fun q => q.request (UInt16.ofNat (number + k)) := by
  simp [requests]

/-- The twelve bytes of a query under a number, which counts modulo 65536. -/
theorem toBytes_request (q : Query) (number : Nat) :
    (q.request (UInt16.ofNat number)).toBytes =
      [UInt8.ofNat (number / 256), UInt8.ofNat number, 0, 0, 0, 6, q.unit, q.function,
        UInt8.ofNat (q.start.toNat / 256), UInt8.ofNat q.start.toNat,
        UInt8.ofNat (q.quantity.toNat / 256), UInt8.ofNat q.quantity.toNat] := by
  have hhigh : Word.high (UInt16.ofNat number) = UInt8.ofNat (number / 256) := by
    rw [← UInt8.toNat_inj, Word.toNat_high, UInt16.toNat_ofNat', UInt8.toNat_ofNat']
    omega
  have hlow (w : UInt16) : Word.low w = UInt8.ofNat w.toNat := by
    rw [← UInt8.toNat_inj, Word.toNat_low, UInt8.toNat_ofNat']
  have hnumber : Word.low (UInt16.ofNat number) = UInt8.ofNat number := by
    rw [← UInt8.toNat_inj, Word.toNat_low, UInt16.toNat_ofNat', UInt8.toNat_ofNat']
    omega
  have hprotocol : Word.toBytes Limits.modbusProtocol = [0, 0] := by decide
  have hlength : Word.toBytes Limits.readRequestLength = [0, 6] := by decide
  simp only [Request.toBytes, Query.request, Request.read, hprotocol, hlength]
  simp only [Word.toBytes, hhigh, hnumber, hlow]
  rfl

theorem toNat_transaction_requests {number k : Nat} {steps : List Step}
    (hk : k < (requests number steps).length) :
    (requests number steps)[k].transaction.toNat = (number + k) % 65536 := by
  have hget := getElem?_requests number k steps
  rw [List.getElem?_eq_getElem hk] at hget
  obtain ⟨q, -, hq⟩ := Option.map_eq_some_iff.mp hget.symm
  rw [← hq]
  exact UInt16.toNat_ofNat'

/-- Numbers that are less than 65536 reads apart are different. -/
theorem transaction_requests_ne {number i j : Nat} {steps : List Step}
    (hi : i < (requests number steps).length) (hj : j < (requests number steps).length)
    (hij : i < j) (hnear : j < i + 65536) :
    (requests number steps)[i].transaction ≠ (requests number steps)[j].transaction := by
  rw [Ne, ← UInt16.toNat_inj, toNat_transaction_requests, toNat_transaction_requests]
  omega

theorem requests_calls (number : Nat) (steps : List Step) :
    Transport.requests (calls number steps) = (requests number steps).map Request.toBytes := by
  induction steps generalizing number with
  | nil => rfl
  | cons s rest ih =>
    cases s with
    | read unit function start quantity =>
      rw [requests_read, List.map_cons, ← ih]
      rfl
    | close =>
      rw [requests_close, ← ih]
      rfl

/-! ## Runs -/

theorem reports_run_read {τ : Type} [Transport τ] (p : Client τ) (unit function : UInt8)
    (start quantity : UInt16) (rest : List Step) :
    let r := Request.read p.nextTransaction unit function start quantity
    let sent := (Transport.exchange p.transport r.toBytes).value
    let p' : Client τ := ⟨sent.2, p.nextTransaction + 1⟩
    reports (p.run (.read unit function start quantity :: rest)).value.1 =
        Report.ofResult r sent.1 :: reports (p'.run rest).value.1 ∧
      (p.run (.read unit function start quantity :: rest)).value.2 = (p'.run rest).value.2 := by
  rw [value_run_cons, value_step_read]
  exact ⟨rfl, rfl⟩

/-- A run asks its transport for its calls and for nothing else, and tells of each read what its
result means. -/
theorem run_eq_serve {τ : Type} [Transport τ] (p : Client τ) {number : Nat}
    (hnumber : p.nextTransaction = UInt16.ofNat number) (steps : List Step) :
    let served := Transport.serve p.transport (calls number steps)
    reports (p.run steps).value.1 =
        List.zipWith Report.ofResult (requests number steps) served.1 ∧
      (p.run steps).value.2.transport = served.2 := by
  induction steps generalizing p number with
  | nil => exact ⟨rfl, rfl⟩
  | cons s rest ih =>
    cases s with
    | read unit function start quantity =>
      obtain ⟨hreports, hlast⟩ := p.reports_run_read unit function start quantity rest
      -- the next number is one more, and wraps where the counter does
      have hnext : p.nextTransaction + 1 = UInt16.ofNat (number + 1) := by
        rw [hnumber]
        simp
      obtain ⟨hrest, htransport⟩ := ih ⟨_, p.nextTransaction + 1⟩ hnext
      rw [hreports, hlast, hrest, htransport, requests_read, calls, Transport.serve_exchange,
        hnumber]
      exact ⟨rfl, rfl⟩
    | close => exact ih (p.step .close).value.2 hnumber

theorem zipWith_map_range {α β γ : Type} (f : α → β → γ) (g : Nat → β) (as : List α) :
    List.zipWith f as ((List.range as.length).map g) = as.mapIdx fun i a => f a (g i) := by
  apply List.ext_getElem
  · simp
  · simp

/-- A run over a replay: the `k`-th read is told what the `k`-th answer means. -/
theorem run_replay (r : Replay) (steps : List Step) :
    let result := (({ transport := r } : Client Replay).run steps).value
    reports result.1 =
        (requests 1 steps).mapIdx (fun k request =>
          Report.ofResult request (r.answers[k]?.getD (.error .notConnected))) ∧
      result.2.transport.answers = r.answers.drop (queries steps).length ∧
      result.2.transport.sent = ((requests 1 steps).map Request.toBytes).reverse ++ r.sent := by
  have hfirst : ({ transport := r } : Client Replay).nextTransaction = UInt16.ofNat 1 := rfl
  obtain ⟨hreports, htransport⟩ := run_eq_serve _ hfirst steps
  obtain ⟨hresults, hanswers, hsent⟩ := r.serve_eq (calls 1 steps)
  rw [requests_calls, List.length_map] at hresults hanswers
  rw [requests_calls] at hsent
  refine ⟨?_, ?_, ?_⟩
  · rw [hreports, hresults, zipWith_map_range]
  · rw [htransport, hanswers, length_requests]
  · rw [htransport, hsent]

/-- The reads of a client are numbered one after the other, whatever their results and however
often it is closed. The transport is asked for one exchange for each read, with the twelve bytes of
its request, and what is told of a read is what the result of its own exchange means. Numbers come
back after 65536 reads and not before. -/
theorem reads_numbered {τ : Type} [Transport τ] (t : τ) (steps : List Step) :
    let result := (({ transport := t } : Client τ).run steps).value
    let served := Transport.serve t (calls 1 steps)
    result.2.transport = served.2 ∧
      Transport.requests (calls 1 steps) = (requests 1 steps).map Request.toBytes ∧
      served.1.length = (queries steps).length ∧
      reports result.1 = List.zipWith Report.ofResult (requests 1 steps) served.1 ∧
      (∀ k (hk : k < (queries steps).length),
        let q := (queries steps)[k]
        (requests 1 steps)[k]? = some (q.request (UInt16.ofNat (k + 1))) ∧
          (q.request (UInt16.ofNat (k + 1))).toBytes =
            [UInt8.ofNat ((k + 1) / 256), UInt8.ofNat (k + 1), 0, 0, 0, 6, q.unit, q.function,
              UInt8.ofNat (q.start.toNat / 256), UInt8.ofNat q.start.toNat,
              UInt8.ofNat (q.quantity.toNat / 256), UInt8.ofNat q.quantity.toNat]) ∧
      (∀ k (hk : k < (requests 1 steps).length),
        (requests 1 steps)[k].transaction.toNat = (k + 1) % 65536) ∧
      (∀ i j (hi : i < (requests 1 steps).length) (hj : j < (requests 1 steps).length),
        i < j → j < i + 65536 →
          (requests 1 steps)[i].transaction ≠ (requests 1 steps)[j].transaction) ∧
      ∀ r : Replay,
        let replayed := (({ transport := r } : Client Replay).run steps).value
        reports replayed.1 =
            (requests 1 steps).mapIdx (fun k request =>
              Report.ofResult request (r.answers[k]?.getD (.error .notConnected))) ∧
          replayed.2.transport.answers = r.answers.drop (queries steps).length ∧
          replayed.2.transport.sent =
            ((requests 1 steps).map Request.toBytes).reverse ++ r.sent := by
  intro result served
  have hfirst : ({ transport := t } : Client τ).nextTransaction = UInt16.ofNat 1 := rfl
  obtain ⟨hreports, htransport⟩ := run_eq_serve _ hfirst steps
  refine ⟨htransport, requests_calls 1 steps, ?_, hreports, ?_, ?_, ?_, ?_⟩
  · rw [Transport.length_serve, requests_calls, List.length_map, length_requests]
  · intro k hk q
    refine ⟨?_, toBytes_request q (k + 1)⟩
    rw [getElem?_requests, List.getElem?_eq_getElem hk, Nat.add_comm 1]
    rfl
  · intro k hk
    rw [toNat_transaction_requests, Nat.add_comm 1]
  · intro i j hi hj hij hnear
    exact transaction_requests_ne hi hj hij hnear
  · exact fun r => run_replay r steps

end ModbusTcp.Client
