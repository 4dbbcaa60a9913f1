import ModbusTcp.Proofs.Transport.Exchange
import ModbusTcp.Proofs.Wire.Timing

/-!
# How long an exchange takes

Each of the two phases of an exchange has a time limit of its own. What an exchange comes to is told
by its two phases as they would go without a limit: how long sending takes, how long receiving takes
from when sending has ended, and what they come to (`Connection.exchange_within`). A phase that
takes exactly as long as the limit is still in time, and one limit covers all the waiting in it.
-/

namespace ModbusTcp.Connection

/-- Receives a reply as the settings say, until a deadline. -/
def receiveUntil (c : Connection) (d : Deadline) : Awaited (Except Failure Bytes) × Wire :=
  match c.settings.receiveMode with
  | .singleRead => (c.wire.readOnce c.settings.maxResponseSize d).value
  | .framed => (c.wire.readFrame d).value

theorem value_receive (c : Connection) : c.receive.value = c.receiveUntil c.deadline := by
  unfold receive receiveUntil
  cases c.settings.receiveMode with
  | singleRead => rfl
  | framed => rfl

theorem punctual_receiveUntil (c : Connection) :
    Punctual (Wire.watch _ Wire.readPauses) c.wire.now c.wire.readPauses c.receiveUntil := by
  unfold receiveUntil
  cases c.settings.receiveMode with
  | singleRead => exact c.wire.punctual_readOnce _
  | framed => exact c.wire.punctual_readFrame

/-- Sending a request as it goes if it is never given up. -/
def freeSend (c : Connection) (request : Bytes) : Awaited (Except IoFault Unit) × Wire :=
  c.wire.send request none

/-- The connection when such sending has ended. -/
def freelySent (c : Connection) (request : Bytes) : Connection :=
  { c with wire := (c.freeSend request).2 }

/-- Receiving the reply from then on, as it goes if it is never given up either. -/
def freeReceive (c : Connection) (request : Bytes) : Awaited (Except Failure Bytes) × Wire :=
  (c.freelySent request).receiveUntil none

/-- How long sending a request takes if it is never given up. -/
def sendTime (c : Connection) (request : Bytes) : ℕ∞ :=
  (Wire.watch _ Wire.writePauses).time c.wire.now (c.freeSend request)

/-- How long receiving the reply takes if it is never given up. -/
def receiveTime (c : Connection) (request : Bytes) : ℕ∞ :=
  (Wire.watch _ Wire.readPauses).time (c.freelySent request).wire.now (c.freeReceive request)

theorem deadline_eq {c : Connection} {limit : Nat}
    (hlimit : c.settings.timeout.toNanos = 1000000 * limit) :
    c.deadline = some (c.wire.now + limit) := by
  have hticks : c.settings.timeout.ticks = limit := by
    unfold Duration.ticks
    omega
  rw [deadline, hticks]

section

variable {c : Connection} {limit : Nat} (hlimit : c.settings.timeout.toNanos = 1000000 * limit)
  {request : Bytes}

include hlimit

/-- Sending that takes longer than the limit is given up. -/
theorem send_of_lt_sendTime (hlt : limit < c.sendTime request) :
    (c.wire.send request c.deadline).1 = .overdue := by
  rw [deadline_eq hlimit]
  exact Awaited.isOverdue_iff.mp ((c.wire.punctual_send request).of_lt_time hlt).1

/-- Sending that takes no longer than the limit goes as if there was none, and comes to an end. -/
theorem send_of_sendTime_le (hle : c.sendTime request ≤ limit) :
    c.wire.send request c.deadline = c.freeSend request ∧
      ∃ answer, (c.freeSend request).1 = .ready answer := by
  obtain ⟨hsame, hready⟩ := (c.wire.punctual_send request).of_time_le hle
  rw [deadline_eq hlimit]
  exact ⟨hsame, Awaited.exists_of_not_isOverdue hready⟩

theorem takes_iff_free :
    c.Takes request ↔ c.sendTime request ≤ limit ∧ (c.freeSend request).1 = .ready (.ok ()) := by
  unfold Takes
  constructor
  · intro htakes
    rcases le_or_gt (c.sendTime request) limit with hle | hlt
    · rw [(send_of_sendTime_le hlimit hle).1] at htakes
      exact ⟨hle, htakes⟩
    · rw [send_of_lt_sendTime hlimit hlt] at htakes
      cases htakes
  · rintro ⟨hle, hok⟩
    rw [(send_of_sendTime_le hlimit hle).1]
    exact hok

theorem now_send :
    ((c.wire.send request c.deadline).2.now : ℕ∞) =
      c.wire.now + min (c.sendTime request) limit := by
  rw [deadline_eq hlimit]
  exact (c.wire.punctual_send request).now_eq limit

/-- Receiving begins where sending that is never given up has ended. -/
theorem receive_awaiting (hle : c.sendTime request ≤ limit) :
    (c.awaiting request).receive.value =
      (c.freelySent request).receiveUntil
        (some ((c.freelySent request).wire.now + limit)) := by
  have hdeadline : (c.awaiting request).deadline =
      some ((c.awaiting request).wire.now + limit) := deadline_eq hlimit
  have hwire : (c.awaiting request).wire = (c.freelySent request).wire :=
    congrArg Prod.snd (send_of_sendTime_le hlimit hle).1
  rw [value_receive, hdeadline, hwire]
  unfold receiveUntil
  rw [hwire]
  rfl

/-- Receiving that takes longer than the limit is given up. -/
theorem receive_of_lt_receiveTime (hle : c.sendTime request ≤ limit)
    (hlt : limit < c.receiveTime request) :
    (c.awaiting request).receive.value.1 = .overdue := by
  rw [receive_awaiting hlimit hle]
  exact Awaited.isOverdue_iff.mp ((c.freelySent request).punctual_receiveUntil.of_lt_time hlt).1

/-- Receiving that takes no longer than the limit goes as if there was none, and comes to an end. -/
theorem receive_of_receiveTime_le (hle : c.sendTime request ≤ limit)
    (hin : c.receiveTime request ≤ limit) :
    (c.awaiting request).receive.value = c.freeReceive request ∧
      ∃ answer, (c.freeReceive request).1 = .ready answer := by
  obtain ⟨hsame, hready⟩ := (c.freelySent request).punctual_receiveUntil.of_time_le hin
  rw [receive_awaiting hlimit hle]
  exact ⟨hsame, Awaited.exists_of_not_isOverdue hready⟩

theorem now_receive (hle : c.sendTime request ≤ limit) :
    ((c.awaiting request).receive.value.2.now : ℕ∞) =
      (c.freelySent request).wire.now + min (c.receiveTime request) limit := by
  rw [receive_awaiting hlimit hle]
  exact (c.freelySent request).punctual_receiveUntil.now_eq limit

/-- The clock goes on by what sending takes, and if the request is taken, by what receiving takes,
for each up to the limit. -/
theorem now_exchange (hready : c.Ready) (request : Bytes) :
    (¬ c.Takes request → ((c.exchange request).value.2.wire.now : ℕ∞) =
      c.wire.now + min (c.sendTime request) limit) ∧
    (c.Takes request → ((c.exchange request).value.2.wire.now : ℕ∞) =
      c.wire.now + min (c.sendTime request) limit + min (c.receiveTime request) limit) := by
  constructor
  · intro htakes
    rw [(c.exchanged request).wire_of_not_takes hready htakes]
    exact now_send hlimit
  · intro htakes
    have hle := ((takes_iff_free hlimit).mp htakes).1
    rw [(c.exchanged request).wire_of_takes hready htakes, now_receive hlimit hle,
      ← now_send hlimit, (send_of_sendTime_le hlimit hle).1]
    rfl

theorem now_exchange_le (hready : c.Ready) (request : Bytes) :
    (c.exchange request).value.2.wire.now ≤ c.wire.now + 2 * limit := by
  obtain ⟨hrefused, htaken⟩ := now_exchange hlimit hready request
  apply (Nat.cast_le (α := ℕ∞)).mp
  by_cases htakes : c.Takes request
  · rw [htaken htakes]
    calc (c.wire.now : ℕ∞) + min (c.sendTime request) limit + min (c.receiveTime request) limit
        ≤ c.wire.now + limit + limit :=
          add_le_add (add_le_add le_rfl (min_le_right _ _)) (min_le_right _ _)
      _ = (c.wire.now + 2 * limit : Nat) := by
          rw [← Nat.cast_add, ← Nat.cast_add, Nat.add_assoc, Nat.two_mul]
  · rw [hrefused htakes]
    calc (c.wire.now : ℕ∞) + min (c.sendTime request) limit
        ≤ c.wire.now + limit := add_le_add le_rfl (min_le_right _ _)
      _ = (c.wire.now + limit : Nat) := by rw [Nat.cast_add]
      _ ≤ (c.wire.now + 2 * limit : Nat) := Nat.cast_le.mpr (by omega)

/-- Sending that fails in time fails the exchange. -/
theorem exchange_of_free_fault (hready : c.Ready) (hle : c.sendTime request ≤ limit) {f : IoFault}
    (hfault : (c.freeSend request).1 = .ready (.error f)) :
    (c.exchange request).value.1 = .error (.io f) ∧
      (c.exchange request).value.2.wire = (c.freeSend request).2 := by
  have hsend := (send_of_sendTime_le hlimit hle).1
  rw [← hsend] at hfault ⊢
  rw [hready.exchange_of_send_fault hfault]
  exact ⟨rfl, rfl⟩

/-- If the request is taken and receiving ends in time, the exchange comes to what that comes to. -/
theorem exchange_of_free_reply (hready : c.Ready) (htakes : c.Takes request)
    (hin : c.receiveTime request ≤ limit) :
    (c.freeReceive request).1 = .ready (c.exchange request).value.1 ∧
      (c.exchange request).value.2.wire = (c.freeReceive request).2 := by
  have hle := ((takes_iff_free hlimit).mp htakes).1
  obtain ⟨hreceive, result, hresult⟩ := receive_of_receiveTime_le hlimit hle hin
  rw [← hreceive] at hresult ⊢
  refine ⟨?_, (c.exchanged request).wire_of_takes hready htakes⟩
  rw [hready.exchange_of_ready htakes hresult]
  exact hresult

end

/-- What sending takes is the pauses that it meets, and so is what receiving takes. -/
theorem sitsOut_free (c : Connection) (request : Bytes) :
    SitsOut c.wire.now c.wire.writePauses (c.freeSend request).2.writePauses
        (c.sendTime request) ∧
      SitsOut (c.freelySent request).wire.now c.wire.readPauses
        (c.freeReceive request).2.readPauses (c.receiveTime request) :=
  ⟨(c.wire.punctual_send request).sits_out, (c.freelySent request).punctual_receiveUntil.sits_out⟩

/-- An exchange with a time limit of whole milliseconds, told by sending and receiving that are
never given up. If sending takes longer than the limit, that is the failure; if it fails in time,
the exchange fails with it. Otherwise, if receiving takes longer than the limit, that is the
failure, and if not, the exchange comes to what receiving comes to. The clock goes on by what
sending takes, and if receiving is begun, by what that takes, for each up to the limit. What they
take is what is left, in all, of the pauses that they meet. -/
theorem exchange_within {c : Connection} (hready : c.Ready) {limit : Nat}
    (hlimit : c.settings.timeout.toNanos = 1000000 * limit) (request : Bytes) :
    let sent := c.freeSend request
    let sendTime := c.sendTime request
    let received := c.freeReceive request
    let receiveTime := c.receiveTime request
    let begun := sendTime ≤ limit ∧ sent.1 = .ready (.ok ())
    let after := (c.exchange request).value
    (limit < sendTime → after.1 = .error (.timeout .send c.settings.timeoutMillis)) ∧
    (sendTime ≤ limit → ∃ answer, sent.1 = .ready answer ∧
      (∀ f, answer = .error f → after.1 = .error (.io f) ∧ after.2.wire = sent.2) ∧
      (answer = .ok () →
        (limit < receiveTime →
          after.1 = .error (.timeout .receive c.settings.timeoutMillis)) ∧
        (receiveTime ≤ limit → received.1 = .ready after.1 ∧ after.2.wire = received.2))) ∧
    (¬ begun → (after.2.wire.now : ℕ∞) = c.wire.now + min sendTime limit) ∧
    (begun → (after.2.wire.now : ℕ∞) =
      c.wire.now + min sendTime limit + min receiveTime limit) ∧
    after.2.wire.now ≤ c.wire.now + 2 * limit ∧
    SitsOut c.wire.now c.wire.writePauses sent.2.writePauses sendTime ∧
    SitsOut sent.2.now c.wire.readPauses received.2.readPauses receiveTime := by
  intro sent sendTime received receiveTime begun after
  have hbegun : c.Takes request ↔ begun := takes_iff_free hlimit
  obtain ⟨hrefused, htaken⟩ := now_exchange hlimit hready request
  rw [hbegun] at hrefused htaken
  refine ⟨?_, ?_, hrefused, htaken, now_exchange_le hlimit hready request,
    c.sitsOut_free request⟩
  · intro hlt
    exact congrArg Prod.fst (hready.exchange_of_send_overdue (send_of_lt_sendTime hlimit hlt))
  · intro hle
    obtain ⟨-, answer, hanswer⟩ := send_of_sendTime_le hlimit hle
    refine ⟨answer, hanswer, ?_, ?_⟩
    · rintro f rfl
      exact exchange_of_free_fault hlimit hready hle hanswer
    · rintro rfl
      have htakes : c.Takes request := hbegun.mpr ⟨hle, hanswer⟩
      constructor
      · intro hlt
        exact congrArg Prod.fst
          (hready.exchange_of_overdue htakes (receive_of_lt_receiveTime hlimit hle hlt))
      · intro hin
        exact exchange_of_free_reply hlimit hready htakes hin

/-- A stream that brings a frame in two pieces, each in less than the time limit, but not both. -/
def inTwoPieces : Connection where
  wire :=
    { reads :=
        [.pause (.delay 60), .data [0, 1, 0, 0, 0, 3], .pause (.delay 60), .data [1, 131, 2]]
      writes := [.pause (.delay 30)] }
  peer := "peer"
  settings := { timeout := .ofMillis 100, receiveMode := .framed }

/-- One limit covers the header and the body of a frame. -/
theorem exchange_within_of_two_pieces :
    inTwoPieces.Ready ∧ inTwoPieces.settings.timeout.toNanos = 1000000 * 100 ∧
      inTwoPieces.sendTime [1] = (30 : Nat) ∧ inTwoPieces.receiveTime [1] = (60 + 60 : Nat) ∧
      (inTwoPieces.exchange [1]).value.1 = .error (.timeout .receive 100) ∧
      (inTwoPieces.exchange [1]).value.2.wire.now = 30 + 100 := by
  have hready : inTwoPieces.Ready := ⟨rfl, rfl⟩
  have hlimit : inTwoPieces.settings.timeout.toNanos = 1000000 * 100 := rfl
  have hmillis : inTwoPieces.settings.timeoutMillis = 100 := rfl
  have hsend : inTwoPieces.sendTime [1] = (30 : Nat) := rfl
  have hreceive : inTwoPieces.receiveTime [1] = (60 + 60 : Nat) := rfl
  have hin : inTwoPieces.sendTime [1] ≤ (100 : Nat) := by
    rw [hsend, Nat.cast_le]
    decide
  have hlate : ((100 : Nat) : ℕ∞) < inTwoPieces.receiveTime [1] := by
    rw [hreceive, Nat.cast_lt]
    decide
  obtain ⟨-, hsent, -, hclock, -⟩ := exchange_within hready hlimit [1]
  obtain ⟨answer, hanswer, -, hresult⟩ := hsent hin
  have hfailed := (hresult (Awaited.ready.inj hanswer).symm).1 hlate
  have hnow := hclock ⟨hin, rfl⟩
  rw [hmillis] at hfailed
  rw [hsend, hreceive, min_eq_left (Nat.cast_le.mpr (by decide)),
    min_eq_right (Nat.cast_le.mpr (by decide)), ← Nat.cast_add, ← Nat.cast_add,
    Nat.cast_inj] at hnow
  exact ⟨hready, hlimit, hsend, hreceive, hfailed, hnow⟩

end ModbusTcp.Connection
