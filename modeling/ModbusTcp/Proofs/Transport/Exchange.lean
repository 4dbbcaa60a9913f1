import ModbusTcp.Proofs.Wire.Collection
import ModbusTcp.Transport.Session

/-!
# The ends of an exchange

An exchange has seven ends: two refusals, two failures to send, two failures to receive and a
reply. `Connection.Exchanged` has one constructor for each, with all that is known then: why it is
this end, what was logged, what the caller is told and which connection is left. Whatever is said
about exchanges is said by cases on it (`Connection.exchanged`), and what one of them leaves as it
was is stated once, below.
-/

namespace ModbusTcp.Connection

/-- Exchanges are not refused. -/
structure Ready (c : Connection) : Prop where
  check : c.settings.check = .ok ()
  isOpen : c.isOpen = true

theorem Ready.not_refused {c : Connection} (h : c.Ready) {why : SettingFault}
    (hcheck : c.settings.check = .error why) : False := by
  rw [h.check] at hcheck
  cases hcheck

theorem Ready.not_closed {c : Connection} (h : c.Ready) (hclosed : c.isOpen = false) : False := by
  rw [h.isOpen] at hclosed
  cases hclosed

/-- The peer takes a request whole, and in time. -/
def Takes (c : Connection) (request : Bytes) : Prop :=
  (c.wire.send request c.deadline).1 = .ready (.ok ())

theorem not_takes_of_send {c : Connection} {request : Bytes} {a : Awaited (Except IoFault Unit)}
    (hsend : (c.wire.send request c.deadline).1 = a) (ha : a ≠ .ready (.ok ())) :
    ¬ c.Takes request := by
  rw [Takes, hsend]
  exact ha

/-- The connection after a request was offered to the peer, with the request counted. -/
def offered (c : Connection) (request : Bytes) : Connection :=
  { c.countRequest with wire := (c.wire.send request c.deadline).2 }

/-- The connection that awaits the reply to a request. -/
def awaiting (c : Connection) (request : Bytes) : Connection :=
  (c.offered request).countSent request.length

/-- The connection after it received, or tried to. -/
def received (c : Connection) : Connection := { c with wire := c.receive.value.2 }

/-- What logging a request leaves in the log. -/
def sendEvents (c : Connection) (request : Bytes) : List LogEvent :=
  (c.logPacket "send" request[Limits.headerLength]? request).events

/-- What logging a reply leaves in the log. -/
def replyEvents (c : Connection) (request reply : Bytes) : List LogEvent :=
  (c.logPacket "receive" request[Limits.headerLength]? reply).events

/-- The ends of an exchange. -/
inductive Exchanged (c : Connection) (request : Bytes) :
    Logged (Except Failure Bytes × Connection) → Prop
  /-- the settings cannot be used -/
  | refused {why : SettingFault} (hcheck : c.settings.check = .error why) :
      Exchanged c request ⟨[], .error (.configuration why), c⟩
  /-- the connection was closed before -/
  | notConnected (hcheck : c.settings.check = .ok ()) (hclosed : c.isOpen = false) :
      Exchanged c request ⟨[], .error .notConnected, c⟩
  /-- the peer did not take the request in time -/
  | sendOverdue (hready : c.Ready) (hsend : (c.wire.send request c.deadline).1 = .overdue) :
      Exchanged c request
        ⟨c.sendEvents request, .error (c.timeoutIn .send), (c.offered request).countTimeout⟩
  /-- sending failed -/
  | sendFault {f : IoFault} (hready : c.Ready)
      (hsend : (c.wire.send request c.deadline).1 = .ready (.error f)) :
      Exchanged c request
        ⟨c.sendEvents request, .error (.io f), (c.offered request).countError⟩
  /-- the reply did not come in time -/
  | receiveOverdue (hready : c.Ready) (htakes : c.Takes request)
      (hreceive : (c.awaiting request).receive.value.1 = .overdue) :
      Exchanged c request
        ⟨c.sendEvents request ++ (c.awaiting request).receive.events,
          .error (c.timeoutIn .receive), (c.awaiting request).received.countTimeout⟩
  /-- receiving failed -/
  | receiveFault {f : Failure} (hready : c.Ready) (htakes : c.Takes request)
      (hreceive : (c.awaiting request).receive.value.1 = .ready (.error f)) :
      Exchanged c request
        ⟨c.sendEvents request ++ (c.awaiting request).receive.events,
          .error f, (c.awaiting request).received.countError⟩
  /-- a reply came -/
  | replied {reply : Bytes} (hready : c.Ready) (htakes : c.Takes request)
      (hreceive : (c.awaiting request).receive.value.1 = .ready (.ok reply)) :
      Exchanged c request
        ⟨c.sendEvents request ++ (c.awaiting request).receive.events ++
            c.replyEvents request reply,
          .ok reply, (c.awaiting request).received.countReply reply.length⟩

/-- Receiving the reply to a request, by what the stream brings. -/
theorem receiveReply_eq (c : Connection) (unit : Option UInt8) :
    c.receiveReply unit =
      match c.receive.value.1 with
      | .overdue =>
        ⟨c.receive.events, .error (c.timeoutIn .receive), c.received.countTimeout⟩
      | .ready (.error f) => ⟨c.receive.events, .error f, c.received.countError⟩
      | .ready (.ok reply) =>
        ⟨c.receive.events ++ (c.logPacket "receive" unit reply).events, .ok reply,
          c.received.countReply reply.length⟩ := by
  unfold receiveReply received
  rcases c.receive with ⟨events, (f | reply) | _, w⟩
  · exact Logged.ext (by simp) (by simp)
  · exact Logged.ext (by simp [logPacket]) (by simp)
  · exact Logged.ext (by simp) (by simp [timeoutIn])

/-- Sending a request and receiving the reply, by how the peer takes the request. -/
theorem converse_eq (c : Connection) (request : Bytes) :
    c.converse request =
      match (c.wire.send request c.deadline).1 with
      | .overdue =>
        ⟨c.sendEvents request, .error (c.timeoutIn .send), (c.offered request).countTimeout⟩
      | .ready (.error f) =>
        ⟨c.sendEvents request, .error (.io f), (c.offered request).countError⟩
      | .ready (.ok ()) =>
        let reply := (c.awaiting request).receiveReply request[Limits.headerLength]?
        ⟨c.sendEvents request ++ reply.events, reply.value⟩ := by
  -- counting the request first does not move the deadline of sending it
  unfold converse awaiting offered deadline
  simp only [countRequest]
  rcases c.wire.send request (some (c.wire.now + c.settings.timeout.ticks)) with
    ⟨(f | ⟨⟩) | _, w⟩
  · exact Logged.ext (by simp [sendEvents, logPacket]) (by simp)
  · exact Logged.ext (by simp [sendEvents, logPacket]) (by simp)
  · exact Logged.ext (by simp [sendEvents, logPacket]) (by simp [timeoutIn])

theorem exchange_refused {c : Connection} {why : SettingFault} (request : Bytes)
    (hcheck : c.settings.check = .error why) :
    c.exchange request = ⟨[], .error (.configuration why), c⟩ := by
  unfold exchange
  rw [hcheck]
  rfl

theorem exchange_notConnected {c : Connection} (request : Bytes)
    (hcheck : c.settings.check = .ok ()) (hclosed : c.isOpen = false) :
    c.exchange request = ⟨[], .error .notConnected, c⟩ := by
  unfold exchange
  rw [hcheck]
  simp only [hclosed, Bool.false_eq_true, if_false]
  rfl

theorem Ready.exchange_eq {c : Connection} (h : c.Ready) (request : Bytes) :
    c.exchange request = c.converse request := by
  unfold exchange
  rw [h.check]
  simp only [h.isOpen, if_true]

/-- An exchange that is not refused has one of the five ends of sending and receiving. -/
theorem Ready.exchanged {c : Connection} (h : c.Ready) (request : Bytes) :
    Exchanged c request (c.exchange request) := by
  rw [h.exchange_eq, converse_eq]
  rcases hsend : (c.wire.send request c.deadline).1 with (f | ⟨⟩) | _
  · exact .sendFault h hsend
  · rw [receiveReply_eq]
    rcases hreceive : (c.awaiting request).receive.value.1 with (f | reply) | _
    · exact .receiveFault h hsend hreceive
    · dsimp only
      rw [← List.append_assoc]
      exact .replied h hsend hreceive
    · exact .receiveOverdue h hsend hreceive
  · exact .sendOverdue h hsend

theorem Ready.exchange_of_send_overdue {c : Connection} (h : c.Ready) {request : Bytes}
    (hsend : (c.wire.send request c.deadline).1 = .overdue) :
    (c.exchange request).value =
      (.error (c.timeoutIn .send), (c.offered request).countTimeout) := by
  rw [h.exchange_eq, converse_eq, hsend]

theorem Ready.exchange_of_send_fault {c : Connection} (h : c.Ready) {request : Bytes} {f : IoFault}
    (hsend : (c.wire.send request c.deadline).1 = .ready (.error f)) :
    (c.exchange request).value = (.error (.io f), (c.offered request).countError) := by
  rw [h.exchange_eq, converse_eq, hsend]

/-- A request that the peer takes is followed by receiving the reply to it. -/
theorem Ready.exchange_of_takes {c : Connection} (h : c.Ready) {request : Bytes}
    (htakes : c.Takes request) :
    (c.exchange request).value =
      ((c.awaiting request).receiveReply request[Limits.headerLength]?).value := by
  unfold Takes at htakes
  rw [h.exchange_eq, converse_eq, htakes]

theorem Ready.exchange_of_reply {c : Connection} (h : c.Ready) {request reply : Bytes}
    (htakes : c.Takes request)
    (hreceive : (c.awaiting request).receive.value.1 = .ready (.ok reply)) :
    (c.exchange request).value =
      (.ok reply, (c.awaiting request).received.countReply reply.length) := by
  rw [h.exchange_of_takes htakes, receiveReply_eq, hreceive]

theorem Ready.exchange_of_fault {c : Connection} (h : c.Ready) {request : Bytes} {f : Failure}
    (htakes : c.Takes request)
    (hreceive : (c.awaiting request).receive.value.1 = .ready (.error f)) :
    (c.exchange request).value = (.error f, (c.awaiting request).received.countError) := by
  rw [h.exchange_of_takes htakes, receiveReply_eq, hreceive]

/-- What receiving comes to in time is what the exchange comes to. -/
theorem Ready.exchange_of_ready {c : Connection} (h : c.Ready) {request : Bytes}
    {result : Except Failure Bytes} (htakes : c.Takes request)
    (hreceive : (c.awaiting request).receive.value.1 = .ready result) :
    (c.exchange request).value.1 = result := by
  cases result with
  | error f => rw [h.exchange_of_fault htakes hreceive]
  | ok reply => rw [h.exchange_of_reply htakes hreceive]

theorem Ready.exchange_of_overdue {c : Connection} (h : c.Ready) {request : Bytes}
    (htakes : c.Takes request) (hreceive : (c.awaiting request).receive.value.1 = .overdue) :
    (c.exchange request).value =
      (.error (c.timeoutIn .receive), (c.awaiting request).received.countTimeout) := by
  rw [h.exchange_of_takes htakes, receiveReply_eq, hreceive]
  rfl

/-- Every exchange has one of the seven ends. -/
theorem exchanged (c : Connection) (request : Bytes) :
    Exchanged c request (c.exchange request) := by
  rcases hcheck : c.settings.check with why | ⟨⟩
  · rw [exchange_refused request hcheck]
    exact .refused hcheck
  · cases hopen : c.isOpen with
    | false =>
      rw [exchange_notConnected request hcheck hopen]
      exact .notConnected hcheck hopen
    | true => exact Ready.exchanged ⟨hcheck, hopen⟩ request

theorem wire_received (c : Connection) : c.received.wire = c.receive.value.2 := rfl

theorem value_receive_singleRead {c : Connection}
    (hmode : c.settings.receiveMode = .singleRead) :
    c.receive.value =
      ((c.wire.read c.settings.maxResponseSize c.deadline).1.map (·.mapError .io),
        (c.wire.read c.settings.maxResponseSize c.deadline).2) := by
  unfold receive
  rw [hmode]
  exact Wire.value_readOnce _ _ _

theorem value_receive_framed {c : Connection} (hmode : c.settings.receiveMode = .framed) :
    c.receive.value = c.wire.collect c.deadline := by
  unfold receive
  rw [hmode]
  exact Wire.value_readFrame _ _

/-- Receiving changes nothing of a wire but what there is to read and the time. -/
theorem exists_receive (c : Connection) :
    ∃ reads now, c.receive.value.2 = { c.wire with reads := reads, now := now } := by
  cases hmode : c.settings.receiveMode with
  | singleRead =>
    rw [value_receive_singleRead hmode]
    exact ⟨_, _, rfl⟩
  | framed =>
    rw [value_receive_framed hmode]
    exact Wire.exists_collect _ _

/-- What sending leaves in the record of the peer is the beginning of the request, and all of it if
and only if sending succeeds. -/
theorem exists_sent_offered (c : Connection) (request : Bytes) :
    ∃ part, part <+: request ∧ (c.Takes request ↔ part = request) ∧
      (c.offered request).wire.sent = part :: c.wire.sent := by
  obtain ⟨part, rest, htaken, hrequest, hall⟩ :=
    Uptake.taken_writeAll c.deadline c.wire.now [] request c.wire.writes
  rw [List.nil_append] at htaken
  refine ⟨part, ⟨rest, hrequest.symm⟩, ?_, congrArg (· :: c.wire.sent) htaken⟩
  refine hall.trans ⟨?_, ?_⟩
  · rintro rfl
    rw [hrequest, List.append_nil]
  · rintro rfl
    exact List.self_eq_append_right.mp hrequest

/-- The peer takes the beginning of a request, and all of it if and only if sending succeeds. -/
theorem exists_taken_offered (c : Connection) (request : Bytes) :
    ∃ more rest, (c.offered request).wire.taken = c.wire.taken ++ more ∧ request = more ++ rest ∧
      (c.Takes request ↔ rest = []) := by
  obtain ⟨more, ⟨rest, rfl⟩, hall, hsent⟩ := c.exists_sent_offered request
  refine ⟨more, rest, ?_, rfl, hall.trans List.self_eq_append_right⟩
  simp [Wire.taken, hsent]

/-- What the peer takes of a request that it takes whole is the request. -/
theorem Takes.sent_offered {c : Connection} {request : Bytes} (h : c.Takes request) :
    (c.offered request).wire.sent = request :: c.wire.sent := by
  obtain ⟨part, -, hall, hsent⟩ := c.exists_sent_offered request
  rw [hsent, hall.mp h]

theorem sent_received (c : Connection) : c.received.wire.sent = c.wire.sent := by
  obtain ⟨reads, now, h⟩ := c.exists_receive
  rw [wire_received, h]

theorem writes_received (c : Connection) : c.received.wire.writes = c.wire.writes := by
  obtain ⟨reads, now, h⟩ := c.exists_receive
  rw [wire_received, h]

/-! ## What an exchange leaves -/

theorem Exchanged.settings_eq {c : Connection} {request : Bytes}
    {r : Logged (Except Failure Bytes × Connection)} (h : Exchanged c request r) :
    r.value.2.settings = c.settings := by
  cases h <;> rfl

theorem Exchanged.takes_of_ok {c : Connection} {request reply : Bytes}
    {r : Logged (Except Failure Bytes × Connection)} (h : Exchanged c request r)
    (hreply : r.value.1 = .ok reply) : c.Ready ∧ c.Takes request := by
  cases h with
  | refused | notConnected | sendOverdue | sendFault | receiveOverdue | receiveFault =>
    cases hreply
  | replied hready htakes hreceive => exact ⟨hready, htakes⟩

/-- Where a request was not taken, the wire is left as sending left it. -/
theorem Exchanged.wire_of_not_takes {c : Connection} {request : Bytes}
    {r : Logged (Except Failure Bytes × Connection)} (h : Exchanged c request r)
    (hready : c.Ready) (htakes : ¬ c.Takes request) :
    r.value.2.wire = (c.wire.send request c.deadline).2 := by
  cases h with
  | refused hcheck => exact (hready.not_refused hcheck).elim
  | notConnected hcheck hclosed => exact (hready.not_closed hclosed).elim
  | sendOverdue | sendFault => rfl
  | receiveOverdue _ htaken | receiveFault _ htaken | replied _ htaken =>
    exact absurd htaken htakes

/-- Where a request was taken, the wire is left as receiving left it. -/
theorem Exchanged.wire_of_takes {c : Connection} {request : Bytes}
    {r : Logged (Except Failure Bytes × Connection)} (h : Exchanged c request r)
    (hready : c.Ready) (htakes : c.Takes request) :
    r.value.2.wire = (c.awaiting request).receive.value.2 := by
  cases h with
  | refused hcheck => exact (hready.not_refused hcheck).elim
  | notConnected hcheck hclosed => exact (hready.not_closed hclosed).elim
  | sendOverdue _ hsend | sendFault _ hsend =>
    exact absurd htakes (not_takes_of_send hsend (by simp))
  | receiveOverdue | receiveFault | replied => rfl

/-- An exchange that is not refused leaves what the peer took of its request. -/
theorem Exchanged.sent_eq {c : Connection} {request : Bytes}
    {r : Logged (Except Failure Bytes × Connection)} (h : Exchanged c request r)
    (hready : c.Ready) : r.value.2.wire.sent = (c.offered request).wire.sent := by
  cases h with
  | refused hcheck => exact (hready.not_refused hcheck).elim
  | notConnected hcheck hclosed => exact (hready.not_closed hclosed).elim
  | sendOverdue | sendFault => rfl
  | receiveOverdue | receiveFault | replied => exact sent_received _

theorem Exchanged.writes_eq {c : Connection} {request : Bytes}
    {r : Logged (Except Failure Bytes × Connection)} (h : Exchanged c request r) :
    r.value.2.wire.writes = c.wire.writes ∨
      r.value.2.wire.writes = (c.offered request).wire.writes := by
  cases h with
  | refused | notConnected => exact .inl rfl
  | sendOverdue | sendFault => exact .inr rfl
  | receiveOverdue | receiveFault | replied => exact .inr (writes_received _)

/-! ## What an exchange logs -/

theorem level_of_mem_logPacket {c : Connection} {direction : String} {unit : Option UInt8}
    {data : Bytes} {e : LogEvent} (h : e ∈ (c.logPacket direction unit data).events) :
    e.level = .info := by
  rw [logPacket, Logged.events_logIf] at h
  split at h
  · rw [List.mem_singleton.mp h]
    rfl
  · cases h

theorem level_of_mem_receive {c : Connection} {e : LogEvent} (h : e ∈ c.receive.events) :
    e.level = .debug := by
  unfold receive at h
  split at h
  · exact Wire.level_of_mem_readOnce h
  · exact Wire.level_of_mem_readFrame h

/-- An exchange never warns. -/
theorem Exchanged.level_of_mem {c : Connection} {request : Bytes}
    {r : Logged (Except Failure Bytes × Connection)} (h : Exchanged c request r) {e : LogEvent}
    (he : e ∈ r.events) : e.level = .info ∨ e.level = .debug := by
  cases h with
  | refused | notConnected => cases he
  | sendOverdue | sendFault => exact .inl (level_of_mem_logPacket he)
  | receiveOverdue | receiveFault =>
    rcases List.mem_append.mp he with he | he
    · exact .inl (level_of_mem_logPacket he)
    · exact .inr (level_of_mem_receive he)
  | replied =>
    rcases List.mem_append.mp he with he | he
    · rcases List.mem_append.mp he with he | he
      · exact .inl (level_of_mem_logPacket he)
      · exact .inr (level_of_mem_receive he)
    · exact .inl (level_of_mem_logPacket he)

end ModbusTcp.Connection
