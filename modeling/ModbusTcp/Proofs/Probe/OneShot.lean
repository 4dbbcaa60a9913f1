import ModbusTcp.Proofs.Probe.Numbering
import ModbusTcp.Proofs.Probe.Outcomes

/-!
# Reads that close behind them

A client that is used once makes one read and closes its transport, whatever came of the read. What
is told is what the read alone would tell, and a close that fails is only remarked on
(`Client.readAndClose_eq`). That the transport is asked for one exchange and then for one close is
said of a transport that keeps what it is asked for (`Recorder`) and otherwise does as the one
inside it. Over a stream the one close shuts it down, unless that was done before.
-/

namespace ModbusTcp

/-- A transport that keeps the calls made of it, in their order, and has the transport inside
answer them. -/
structure Recorder (τ : Type) where
  inner : τ
  calls : List Transport.Call := []

namespace Recorder

variable {τ : Type} [Transport τ]

/-- Exchanges over the transport and notes the call. -/
def exchange (t : Recorder τ) (request : Bytes) : Logged (Except Failure Bytes × Recorder τ) := do
  let (result, inner) ← Transport.exchange t.inner request
  return (result, ⟨inner, t.calls ++ [.exchange request]⟩)

/-- Closes the transport and notes the call. -/
def close (t : Recorder τ) : Logged (Except Failure Unit × Recorder τ) := do
  let (result, inner) ← Transport.close t.inner
  return (result, ⟨inner, t.calls ++ [.close]⟩)

/-- Only exchanges and closes are noted. -/
instance : Transport (Recorder τ) where
  exchange := exchange
  close := close
  isConnected t := Transport.isConnected t.inner
  stats t := Transport.stats t.inner

theorem exchange_eq (t : Recorder τ) (request : Bytes) :
    Transport.exchange t request =
      let sent := Transport.exchange t.inner request
      ⟨sent.events, sent.value.1, ⟨sent.value.2, t.calls ++ [.exchange request]⟩⟩ := by
  apply Logged.ext
  · exact List.append_nil _
  · rfl

theorem close_eq (t : Recorder τ) :
    Transport.close t =
      let closed := Transport.close t.inner
      ⟨closed.events, closed.value.1, ⟨closed.value.2, t.calls ++ [.close]⟩⟩ := by
  apply Logged.ext
  · exact List.append_nil _
  · rfl

end Recorder

namespace Client

section

variable {τ : Type} [Transport τ]

/-- The client with a record of what it asks its transport for. -/
def recording (p : Client τ) : Client (Recorder τ) := ⟨{ inner := p.transport }, p.nextTransaction⟩

/-- What is remarked on the result of a close. -/
def closeRemarks : Except Failure Unit → List LogEvent
  | .ok () => []
  | .error why => [.closeFailed why]

/-- A read that closes, by the read and the close that it makes. -/
theorem readAndClose_eq_read_close (p : Client τ) (unit function : UInt8)
    (start quantity : UInt16) :
    p.readAndClose unit function start quantity =
      let alone := p.read unit function start quantity
      let closed := Transport.close alone.value.2.transport
      ⟨alone.events ++ closed.events ++ closeRemarks closed.value.1,
        alone.value.1, { alone.value.2 with transport := closed.value.2 }⟩ := by
  rcases hresult : (Transport.close
      (p.read unit function start quantity).value.2.transport).value.1 with why | ⟨⟩
  · apply Logged.ext
    · simp [readAndClose, Client.close, closeRemarks, hresult]
    · simp [readAndClose, Client.close, hresult]
  · apply Logged.ext
    · simp [readAndClose, Client.close, closeRemarks, hresult]
    · simp [readAndClose, Client.close, hresult]

/-- A recorded read tells and logs what it does without the record, and asks for one exchange. -/
theorem read_recording (p : Client (Recorder τ)) (unit function : UInt8)
    (start quantity : UInt16) :
    let request := Request.read p.nextTransaction unit function start quantity
    let inner : Client τ := ⟨p.transport.inner, p.nextTransaction⟩
    let alone := inner.read unit function start quantity
    p.read unit function start quantity =
      ⟨alone.events, alone.value.1,
        ⟨alone.value.2.transport, p.transport.calls ++ [.exchange request.toBytes]⟩,
        alone.value.2.nextTransaction⟩ := by
  intro request inner alone
  have hsent := Recorder.exchange_eq p.transport request.toBytes
  apply Logged.ext
  · rw [events_read, events_read]
    dsimp only
    rw [hsent]
  · rw [value_read]
    dsimp only
    rw [hsent]
    rfl

/-- A recorded read that closes tells and logs what it does without the record, and asks for one
exchange and then for one close. -/
theorem readAndClose_recording (p : Client τ) (unit function : UInt8) (start quantity : UInt16) :
    let request := Request.read p.nextTransaction unit function start quantity
    let once := p.readAndClose unit function start quantity
    p.recording.readAndClose unit function start quantity =
      ⟨once.events, once.value.1,
        ⟨once.value.2.transport, [.exchange request.toBytes, .close]⟩,
        once.value.2.nextTransaction⟩ := by
  intro request once
  have honce : once = p.readAndClose unit function start quantity := rfl
  rw [readAndClose_eq_read_close] at honce
  rw [readAndClose_eq_read_close, read_recording]
  dsimp only
  rw [Recorder.close_eq, honce]
  rfl

end

/-! ## Over a stream -/

/-- The stream was shut down once if the connection is closed, and not at all if it is open. -/
def ShutOnce (p : Client Connection) : Prop :=
  p.transport.wire.shutdowns = if p.transport.isOpen then 0 else 1

/-- A read leaves the connection as open as it was, and the stream as often shut down. -/
theorem isOpen_read (p : Client Connection) (unit function : UInt8) (start quantity : UInt16) :
    let after := (p.read unit function start quantity).value.2.transport
    after.isOpen = p.transport.isOpen ∧ after.wire.shutdowns = p.transport.wire.shutdowns := by
  intro after
  have hexchanged := p.transport.exchanged
    (Request.read p.nextTransaction unit function start quantity).toBytes
  exact ⟨hexchanged.isOpen_eq, hexchanged.shutdowns_eq⟩

theorem shutdowns_close (c : Connection) :
    c.close.value.2.wire.shutdowns = c.wire.shutdowns + if c.isOpen then 1 else 0 := by
  rw [Connection.value_close]
  cases hopen : c.isOpen with
  | true => rfl
  | false => rfl

/-- A read that closes leaves the connection closed, and shuts down a stream that is still held. -/
theorem shutdowns_readAndClose (p : Client Connection) (unit function : UInt8)
    (start quantity : UInt16) :
    let last := (p.readAndClose unit function start quantity).value.2.transport
    last.isOpen = false ∧
      last.wire.shutdowns =
        p.transport.wire.shutdowns + if p.transport.isOpen then 1 else 0 := by
  intro last
  obtain ⟨hopen, hshutdowns⟩ := p.isOpen_read unit function start quantity
  have hlast : last =
      (p.read unit function start quantity).value.2.transport.close.value.2 := by
    show (p.readAndClose unit function start quantity).value.2.transport = _
    rw [readAndClose_eq_read_close]
    rfl
  rw [hlast, Connection.isOpen_close, shutdowns_close, hopen, hshutdowns]
  exact ⟨rfl, rfl⟩

theorem ShutOnce.close {c : Connection} {number : UInt16}
    (h : ShutOnce ⟨c, number⟩) : ShutOnce ⟨c.close.value.2, number⟩ := by
  unfold ShutOnce at h ⊢
  dsimp only at h ⊢
  rw [shutdowns_close, Connection.isOpen_close, h]
  cases c.isOpen <;> rfl

theorem ShutOnce.move {p : Client Connection} (h : ShutOnce p) (m : Move) :
    ShutOnce (p.move m) := by
  cases m with
  | client s =>
    cases s with
    | read unit function start quantity =>
      obtain ⟨hopen, hshutdowns⟩ := p.isOpen_read unit function start quantity
      show (p.read unit function start quantity).value.2.transport.wire.shutdowns = _
      rw [hshutdowns, h, ← hopen]
      rfl
    | close => exact ShutOnce.close h
  | connection s =>
    have hbefore : p.transport.wire.shutdowns = if p.transport.isOpen then 0 else 1 := h
    have hopen := Connection.isOpen_turn p.transport s
    show (p.transport.turn s).after.wire.shutdowns =
      if (p.transport.turn s).after.isOpen then 0 else 1
    rw [Connection.shutdowns_turn, hbefore]
    by_cases hs : s = .close
    · have hclosed : (p.transport.turn s).after.isOpen = false := by
        rw [← Bool.not_eq_true, hopen]
        intro hstill
        exact hstill.2 hs
      rw [hclosed]
      cases p.transport.isOpen <;> simp [hs]
    · have hsame : (p.transport.turn s).after.isOpen = p.transport.isOpen := by
        rw [Bool.eq_iff_iff, hopen]
        exact and_iff_left hs
      rw [hsame]
      simp [hs]

theorem ShutOnce.after {p : Client Connection} (h : ShutOnce p) (history : List Move) :
    ShutOnce (p.after history) := by
  induction history generalizing p with
  | nil => exact h
  | cons m rest ih => exact ih (h.move m)

/-- A read that closes tells what the read alone would tell, under the same number, whatever the
transport is and whatever came before. It asks the transport for the one exchange of the read and
then, whatever came of that, for one close; a close that fails is one warning in the log and nothing
else. Over a stream it closes the connection and shuts down a stream that is still held, so that in
the end the stream was shut down once, whatever happened to the client. The read of a plan is the
read of its four fields: the host, the port and the settings of the transport do not come into it.
-/
theorem readAndClose_eq {τ : Type} [Transport τ] (p : Client τ) (unit function : UInt8)
    (start quantity : UInt16) :
    let request := Request.read p.nextTransaction unit function start quantity
    let alone := p.read unit function start quantity
    let closed := Transport.close alone.value.2.transport
    let once := p.readAndClose unit function start quantity
    let recorded := p.recording.readAndClose unit function start quantity
    once.value.1 = alone.value.1 ∧
      once.value.1 =
        Report.ofResult request (Transport.exchange p.transport request.toBytes).value.1 ∧
      once.value.2.transport = closed.value.2 ∧
      recorded.value.2.transport.calls = [.exchange request.toBytes, .close] ∧
      (recorded.events = once.events ∧ recorded.value.1 = once.value.1 ∧
        recorded.value.2.transport.inner = once.value.2.transport) ∧
      (closed.value.1 = .ok () → once.events = alone.events ++ closed.events) ∧
      (∀ why, closed.value.1 = .error why →
        once.events = alone.events ++ closed.events ++ [.closeFailed why] ∧
          (LogEvent.closeFailed why).level = .warn) ∧
      (∀ q : Client Connection,
        let last := (q.readAndClose unit function start quantity).value.2.transport
        last.isOpen = false ∧
          last.wire.shutdowns =
            q.transport.wire.shutdowns + if q.transport.isOpen then 1 else 0) ∧
      (∀ reads writes shutdownFault peer settings history,
        let fresh := Connection.fresh reads writes shutdownFault peer settings
        let q := ({ transport := fresh } : Client Connection).after history
        (q.readAndClose unit function start quantity).value.2.transport.wire.shutdowns = 1) ∧
      ∀ plan : Plan,
        p.runPlan plan = p.readAndClose plan.unit plan.function plan.start plan.quantity ∧
          ∀ other : Plan, other.unit = plan.unit → other.function = plan.function →
            other.start = plan.start → other.quantity = plan.quantity →
            p.runPlan other = p.runPlan plan := by
  intro request alone closed once recorded
  have honce : once = ⟨alone.events ++ closed.events ++ closeRemarks closed.value.1,
      alone.value.1, { alone.value.2 with transport := closed.value.2 }⟩ :=
    p.readAndClose_eq_read_close unit function start quantity
  have hrecorded : recorded = ⟨once.events, once.value.1,
      ⟨once.value.2.transport, [.exchange request.toBytes, .close]⟩,
      once.value.2.nextTransaction⟩ :=
    p.readAndClose_recording unit function start quantity
  have hreport : once.value.1 = alone.value.1 := by rw [honce]
  refine ⟨hreport, ?_, ?_, ?_, ?_, ?_, ?_, ?_, ?_, ?_⟩
  · rw [hreport]
    exact p.report_read unit function start quantity
  · rw [honce]
  · rw [hrecorded]
  · rw [hrecorded]
    exact ⟨rfl, rfl, rfl⟩
  · intro hok
    rw [honce, hok]
    exact List.append_nil _
  · intro why hfailed
    rw [honce, hfailed]
    exact ⟨rfl, rfl⟩
  · intro q
    exact q.shutdowns_readAndClose unit function start quantity
  · intro reads writes shutdownFault peer settings history fresh q
    have hfresh : ShutOnce { transport := fresh } := rfl
    have hbefore : ShutOnce q := hfresh.after history
    obtain ⟨-, hlast⟩ := q.shutdowns_readAndClose unit function start quantity
    rw [hlast, hbefore]
    cases q.transport.isOpen <;> rfl
  · intro plan
    refine ⟨rfl, ?_⟩
    intro other hunit hfunction hstart hquantity
    unfold runPlan
    rw [hunit, hfunction, hstart, hquantity]

end Client

end ModbusTcp
