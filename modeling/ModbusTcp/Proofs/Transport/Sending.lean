import ModbusTcp.Proofs.Transport.Exchange
import ModbusTcp.Proofs.Wire.Stopping
import ModbusTcp.Proofs.Wire.Timing

/-!
# What the peer gets of a request

A request goes out in as many writes as the peer wants, and writing may be stopped at any byte. So
the peer gets the whole request, once, and the connection goes on to receive; or it gets the
beginning of the request only, and then nothing of the stream is met for reading
(`Connection.sent_whole_or_in_part`). An exchange that is not refused does one of the two.
-/

namespace ModbusTcp.Connection

/-- The peer has the whole request, once, and the connection that awaits the reply received it, or
tried to. -/
structure SentWhole (c : Connection) (request : Bytes)
    (r : Logged (Except Failure Bytes × Connection)) : Prop where
  sent : r.value.2.wire.sent = request :: c.wire.sent
  bytesSent : r.value.2.stats.bytesSent = c.stats.bytesSent + request.length
  receives : r.value = ((c.awaiting request).receiveReply request[Limits.headerLength]?).value

/-- What stopped the writing of a request, with the failure that tells it: all events in front of
it were passed. -/
inductive SendStop (c : Connection) (after : Wire) : Failure → Prop
  /-- the first fault that is no interrupted write -/
  | fault {f : IoFault} {passed : List Uptake}
      (hwrites : c.wire.writes = passed ++ .fault f :: after.writes)
      (hpassed : ∀ e ∈ passed, e.isPassed = true) (hkind : f.kind ≠ .interrupted) :
      SendStop c after (.io f)
  /-- a write of which nothing was taken -/
  | nothingTaken {passed : List Uptake}
      (hwrites : c.wire.writes = passed ++ .accept 0 :: after.writes)
      (hpassed : ∀ e ∈ passed, e.isPassed = true) :
      SendStop c after (.io (.ofKind .writeZero))
  /-- a pause that was not over at the deadline -/
  | overdue {passed later : List Uptake} {p remains : Pause}
      (hwrites : c.wire.writes = passed ++ .pause p :: later)
      (hpassed : ∀ e ∈ passed, e.isPassed = true)
      (hleft : after.writes = .pause remains :: later)
      (hnow : after.now = c.wire.now + c.settings.timeout.ticks) :
      SendStop c after (.timeout .send c.settings.timeoutMillis)

/-- The peer has less than the whole request, and the connection did not begin to receive. -/
structure SentInPart (c : Connection) (request : Bytes) (f : Failure) (after : Connection) :
    Prop where
  sent : ∃ part, part <+: request ∧ part ≠ request ∧ after.wire.sent = part :: c.wire.sent
  stop : SendStop c after.wire f
  reads : after.wire.reads = c.wire.reads
  stats : after.stats =
    { c.stats with
      requestsSent := c.stats.requestsSent + 1
      errors := c.stats.errors + 1
      timeouts := c.stats.timeouts + if f.isTimeout then 1 else 0 }
  isOpen : after.isOpen = true

theorem Ready.sentWhole {c : Connection} (h : c.Ready) {request : Bytes}
    (htakes : c.Takes request) : SentWhole c request (c.exchange request) where
  sent := by
    rw [(c.exchanged request).sent_eq h]
    exact htakes.sent_offered
  bytesSent := by
    rw [h.exchange_of_takes htakes, receiveReply_eq]
    rcases (c.awaiting request).receive.value.1 with (f | reply) | _
    · rfl
    · rfl
    · rfl
  receives := h.exchange_of_takes htakes

/-- Writing that fails was stopped by the event that its fault tells. -/
theorem sendStop_of_fault {c : Connection} {request : Bytes} {f : IoFault}
    (hsend : (c.wire.send request c.deadline).1 = .ready (.error f)) :
    SendStop c (c.wire.send request c.deadline).2 (.io f) := by
  rcases Uptake.barrier_writeAll hsend with hstop | ⟨rfl, hstop⟩
  · obtain ⟨passed, hwrites, hpassed, hfault⟩ := Uptake.exists_eq_of_barrier hstop
    refine .fault hwrites hpassed ?_
    intro hkind
    rw [Uptake.isPassed, hkind] at hfault
    cases hfault
  · obtain ⟨passed, hwrites, hpassed, -⟩ := Uptake.exists_eq_of_barrier hstop
    exact .nothingTaken hwrites hpassed

/-- Writing that is given up was stopped by a pause, and it is given up at the deadline. -/
theorem sendStop_of_overdue {c : Connection} {request : Bytes}
    (hsend : (c.wire.send request c.deadline).1 = .overdue) :
    SendStop c (c.wire.send request c.deadline).2
      (.timeout .send c.settings.timeoutMillis) := by
  obtain ⟨passed, p, remains, later, hwrites, hpassed, hleft⟩ :=
    Uptake.exists_eq_of_overdue hsend
  refine .overdue hwrites hpassed hleft ?_
  apply (c.wire.punctual_send request).now_of_overdue (Nat.le_add_right _ _)
  exact Awaited.isOverdue_iff.mpr hsend

/-- Where a request is not taken whole, the connection is left as sending left it, with the failure
counted. -/
theorem Ready.sentInPart {c : Connection} (h : c.Ready) {request : Bytes}
    (htakes : ¬ c.Takes request) :
    ∃ f, (c.exchange request).value.1 = .error f ∧
      SentInPart c request f (c.exchange request).value.2 := by
  obtain ⟨part, hpart, hall, hsent⟩ := c.exists_sent_offered request
  have hless : part ≠ request := mt hall.mpr htakes
  rcases hsend : (c.wire.send request c.deadline).1 with (f | ⟨⟩) | _
  · rw [h.exchange_of_send_fault hsend]
    exact ⟨_, rfl, ⟨part, hpart, hless, hsent⟩, sendStop_of_fault hsend, rfl, rfl, h.isOpen⟩
  · exact absurd hsend htakes
  · rw [h.exchange_of_send_overdue hsend]
    exact ⟨_, rfl, ⟨part, hpart, hless, hsent⟩, sendStop_of_overdue hsend, rfl, rfl, h.isOpen⟩

/-- Nothing of the stream is met for writing where there is nothing to write. -/
theorem send_nil (w : Wire) (d : Deadline) :
    w.send [] d = (.ready (.ok ()), { w with sent := [] :: w.sent }) := by
  obtain ⟨reads, writes, shutdownFault, now, sent, shutdowns⟩ := w
  cases writes with
  | nil => rfl
  | cons event rest => rfl

/-- An exchange that is not refused does one of two things. Either the peer gets the whole request,
in order and once, the bytes of it are counted, and what the exchange comes to is what receiving
then comes to. Or the peer gets the beginning of the request only; the failure is the first fault
of writing that is no interrupted write, or that nothing was taken, or that the time limit cut
writing off; nothing is met for reading, and the failure is counted. An empty request is always
sent whole, and nothing is met for writing it. -/
theorem sent_whole_or_in_part {c : Connection} (hready : c.Ready) (request : Bytes) :
    let r := c.exchange request
    let whole := SentWhole c request r
    let inPart := request ≠ [] ∧ ∃ f, r.value.1 = .error f ∧ SentInPart c request f r.value.2
    (whole ∧ ¬ inPart ∨ inPart ∧ ¬ whole) ∧
      (request = [] → whole ∧ r.value.2.wire.writes = c.wire.writes ∧
        (c.awaiting request).wire = { c.wire with sent := [] :: c.wire.sent }) := by
  intro r whole inPart
  have hexclusive : ¬ (whole ∧ inPart) := by
    rintro ⟨hwhole, -, f, -, ⟨part, -, hless, hsent⟩, -⟩
    rw [hwhole.sent, List.cons.injEq] at hsent
    exact hless hsent.1.symm
  constructor
  · by_cases htakes : c.Takes request
    · have hwhole : whole := hready.sentWhole htakes
      exact .inl ⟨hwhole, fun h => hexclusive ⟨hwhole, h⟩⟩
    · obtain ⟨f, hf, hpart⟩ := hready.sentInPart htakes
      have hsome : request ≠ [] := by
        rintro rfl
        exact htakes (congrArg Prod.fst (send_nil c.wire c.deadline))
      have hinPart : inPart := ⟨hsome, f, hf, hpart⟩
      exact .inr ⟨hinPart, fun h => hexclusive ⟨h, hinPart⟩⟩
  · rintro rfl
    have htakes : c.Takes [] := congrArg Prod.fst (send_nil c.wire c.deadline)
    have hwire : (c.awaiting []).wire = { c.wire with sent := [] :: c.wire.sent } :=
      congrArg Prod.snd (send_nil c.wire c.deadline)
    refine ⟨hready.sentWhole htakes, ?_, hwire⟩
    show (c.exchange []).value.2.wire.writes = c.wire.writes
    rw [(c.exchanged []).wire_of_takes hready htakes, ← wire_received, writes_received, hwire]

/-- A peer that takes two bytes, then one more behind an interrupted write, and is gone. -/
def brokenOff : Connection where
  wire :=
    { reads := [.data [9]]
      writes := [.accept 2, .fault (.ofKind .interrupted), .accept 1, .fault (.ofKind .brokenPipe),
        .accept 7] }
  peer := "peer"

/-- The write that fails is the fourth: three of five bytes went out, each of them once. -/
theorem sent_whole_or_in_part_of_broken_pipe :
    brokenOff.Ready ∧
      (brokenOff.exchange [1, 2, 3, 4, 5]).value.1 = .error (.io (.ofKind .brokenPipe)) ∧
      SentInPart brokenOff [1, 2, 3, 4, 5] (.io (.ofKind .brokenPipe))
        (brokenOff.exchange [1, 2, 3, 4, 5]).value.2 ∧
      (brokenOff.exchange [1, 2, 3, 4, 5]).value.2.wire.sent = [[1, 2, 3]] ∧
      (brokenOff.exchange [1, 2, 3, 4, 5]).value.2.wire.reads = [.data [9]] := by
  have hready : brokenOff.Ready := ⟨rfl, rfl⟩
  have hanswer :
      (brokenOff.exchange [1, 2, 3, 4, 5]).value.1 = .error (.io (.ofKind .brokenPipe)) := rfl
  have hsent : (brokenOff.exchange [1, 2, 3, 4, 5]).value.2.wire.sent = [[1, 2, 3]] := rfl
  obtain ⟨(⟨hwhole, -⟩ | ⟨⟨-, f, hf, hpart⟩, -⟩), -⟩ := sent_whole_or_in_part hready [1, 2, 3, 4, 5]
  · have hall := hwhole.sent
    rw [hsent] at hall
    cases hall
  · rw [hanswer, Except.error.injEq] at hf
    subst hf
    exact ⟨hready, hanswer, hpart, hsent, hpart.reads⟩

end ModbusTcp.Connection
