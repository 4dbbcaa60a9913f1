import ModbusTcp.Proofs.Transport.Exchange
import ModbusTcp.Proofs.Wire.Stopping

/-!
# Where failures come from

An exchange that fails has a cause: the settings or an earlier close, or else something that the
peer did with the request or the stream did with the reply. `Connection.Cause` has one constructor
for each cause, with how much of the request was taken, the event that stopped the exchange and the
bytes that are gone. Every failed exchange has the cause that its failure names
(`Connection.Exchanged.cause`).
-/

namespace ModbusTcp.Connection

/-- The request was let through, and the peer took all of it. -/
structure Sent (c : Connection) (request : Bytes) (after : Wire) : Prop where
  ready : c.Ready
  taken : after.taken = c.wire.taken ++ request

/-- The request was let through, and the peer took less than all of it. -/
structure Unsent (c : Connection) (request : Bytes) (after : Wire) : Prop where
  ready : c.Ready
  taken : ∃ part rest, request = part ++ rest ∧ rest ≠ [] ∧
    after.taken = c.wire.taken ++ part

/-- Replies are received in frames, and less than a frame was taken from the peer. -/
structure Lost (c : Connection) (after : Wire) : Prop where
  framed : c.settings.receiveMode = .framed
  taken : ∃ taken, c.wire.unread = taken ++ after.unread ∧ Frame.Cut taken

/-- Why an exchange failed: the connection before it, the wire after it and the failure. -/
inductive Cause (c : Connection) (request : Bytes) (after : Wire) : Failure → Prop
  | configuration {why : SettingFault} (hcheck : c.settings.check = .error why) :
      Cause c request after (.configuration why)
  | notConnected (hcheck : c.settings.check = .ok ()) (hclosed : c.isOpen = false) :
      Cause c request after .notConnected
  | sendTimeout (hunsent : Unsent c request after) :
      Cause c request after (.timeout .send c.settings.timeoutMillis)
  /-- the stream reported a fault while the request was written -/
  | sendFault {f : IoFault} (hunsent : Unsent c request after)
      (hstop : Uptake.barrier c.wire.writes = .fault f :: after.writes) :
      Cause c request after (.io f)
  /-- the stream took nothing of what was written -/
  | nothingTaken (hunsent : Unsent c request after)
      (hstop : Uptake.barrier c.wire.writes = .accept 0 :: after.writes) :
      Cause c request after (.io Uptake.nothingTaken)
  | receiveTimeout (hsent : Sent c request after) :
      Cause c request after (.timeout .receive c.settings.timeoutMillis)
  /-- the stream reported a fault to a single read, whatever its kind -/
  | readFault {f : IoFault} (hsent : Sent c request after)
      (hmode : c.settings.receiveMode = .singleRead)
      (hstop : Arrival.answering c.wire.reads = .fault f :: after.reads) :
      Cause c request after (.io f)
  /-- the stream reported a fault inside a frame -/
  | frameFault {f : IoFault} (hsent : Sent c request after) (hlost : Lost c after)
      (hstop : Arrival.barrier c.wire.reads = .fault f :: after.reads)
      (hkind : f.kind ≠ .unexpectedEof) : Cause c request after (.io f)
  /-- the stream ended inside a frame -/
  | connectionClosed (hsent : Sent c request after) (hlost : Lost c after)
      (hend : Arrival.Ended (Arrival.barrier c.wire.reads))
      (hrest : after.reads = (Arrival.barrier c.wire.reads).tail) :
      Cause c request after .connectionClosed
  /-- a header came whose length field is zero or too large, and nothing behind it was taken -/
  | invalidFrame {head : Bytes} (hsent : Sent c request after)
      (hmode : c.settings.receiveMode = .framed)
      (hunread : c.wire.unread = head ++ after.unread)
      (hlength : head.length = Limits.headerLength)
      (hbad : Header.lengthField head = 0 ∨ Limits.maxMbapLength < Header.lengthField head) :
      Cause c request after (.invalidFrame (.length (Header.lengthField head)))

/-! ## Sending -/

theorem unsent_offered {c : Connection} {request : Bytes} (hready : c.Ready)
    (htakes : ¬ c.Takes request) : Unsent c request (c.offered request).wire := by
  obtain ⟨part, rest, htaken, hrequest, hall⟩ := c.exists_taken_offered request
  exact ⟨hready, part, rest, hrequest, fun hrest => htakes (hall.mpr hrest), htaken⟩

theorem sent_received_awaiting {c : Connection} {request : Bytes} (hready : c.Ready)
    (htakes : c.Takes request) : Sent c request (c.awaiting request).received.wire := by
  refine ⟨hready, ?_⟩
  obtain ⟨part, rest, htaken, hrequest, hall⟩ := c.exists_taken_offered request
  rw [hall.mp htakes, List.append_nil] at hrequest
  subst hrequest
  rw [Wire.taken, sent_received]
  exact htaken

/-- A fault of sending is that of the event which writing could not pass. -/
theorem barrier_of_send {c : Connection} {request : Bytes} {f : IoFault}
    (h : (c.wire.send request c.deadline).1 = .ready (.error f)) :
    Uptake.barrier c.wire.writes = .fault f :: (c.offered request).wire.writes ∨
      f = Uptake.nothingTaken ∧
        Uptake.barrier c.wire.writes = .accept 0 :: (c.offered request).wire.writes :=
  Uptake.barrier_writeAll h

/-! ## Receiving -/

theorem receive_error_singleRead {c : Connection} {f : Failure}
    (hmode : c.settings.receiveMode = .singleRead) (h : c.receive.value.1 = .ready (.error f)) :
    ∃ g, f = .io g ∧ Arrival.answering c.wire.reads = .fault g :: c.received.wire.reads := by
  rw [wire_received]
  rw [value_receive_singleRead hmode] at h ⊢
  rcases hanswer : (c.wire.read c.settings.maxResponseSize c.deadline).1 with (g | bs) | _ <;>
    rw [hanswer] at h <;> cases h
  exact ⟨g, rfl, Arrival.answering_read hanswer⟩

/-- A failure to receive a frame is one over its header, or the stream stopped inside the frame. -/
theorem receive_error_framed {c : Connection} {f : Failure}
    (hmode : c.settings.receiveMode = .framed) (h : c.receive.value.1 = .ready (.error f)) :
    (∃ head, c.wire.unread = head ++ c.received.wire.unread ∧
        head.length = Limits.headerLength ∧
        (Header.lengthField head = 0 ∨ Limits.maxMbapLength < Header.lengthField head) ∧
        f = .invalidFrame (.length (Header.lengthField head))) ∨
      Lost c c.received.wire ∧
        f = Wire.frameFailure (Arrival.stopFault (Arrival.barrier c.wire.reads)) ∧
        c.received.wire.reads = (Arrival.barrier c.wire.reads).tail := by
  obtain ⟨taken, hunread, hcollected⟩ := c.wire.collect_collected c.deadline
  have hbarrier := Wire.barrier_collect (w := c.wire) (d := c.deadline) (f := f)
  rw [← value_receive_framed hmode, ← wire_received] at hunread hbarrier
  rw [← value_receive_framed hmode, h] at hcollected
  cases hcollected with
  | badLength hlen hbad => exact .inl ⟨taken, hunread, hlen, hbad, rfl⟩
  | closed hcut | fault hcut hkind =>
    rcases hbarrier h with ⟨why, hwhy⟩ | hstop
    · cases hwhy
    · exact .inr ⟨⟨hmode, taken, hunread, hcut⟩, hstop⟩

/-! ## Failures and their causes -/

theorem cause_of_receive {c : Connection} {request : Bytes} {f : Failure} (hready : c.Ready)
    (htakes : c.Takes request)
    (h : (c.awaiting request).receive.value.1 = .ready (.error f)) :
    Cause c request (c.awaiting request).received.wire f := by
  have hsent := sent_received_awaiting hready htakes
  cases hmode : c.settings.receiveMode with
  | singleRead =>
    obtain ⟨g, rfl, hstop⟩ := receive_error_singleRead (c := c.awaiting request) hmode h
    exact .readFault hsent hmode hstop
  | framed =>
    rcases receive_error_framed (c := c.awaiting request) hmode h with
      ⟨head, hunread, hlength, hbad, rfl⟩ | ⟨hlost, hfault, hrest⟩
    · exact .invalidFrame hsent hmode hunread hlength hbad
    · have hlost' : Lost c (c.awaiting request).received.wire := ⟨hmode, hlost.taken⟩
      change f = Wire.frameFailure (Arrival.stopFault (Arrival.barrier c.wire.reads)) at hfault
      change _ = (Arrival.barrier c.wire.reads).tail at hrest
      rcases Arrival.ended_or_fault c.wire.reads with ⟨hend, hkind⟩ | ⟨g, rest, hstop, hkind⟩
      · rw [Wire.frameFailure, if_pos hkind] at hfault
        subst hfault
        exact .connectionClosed hsent hlost' hend hrest
      · rw [hstop] at hfault hrest
        rw [Arrival.stopFault, Wire.frameFailure, if_neg hkind] at hfault
        subst hfault
        exact .frameFault hsent hlost' (by rw [hstop, hrest]; rfl) hkind

/-- Every failed exchange has the cause that its failure names. -/
theorem Exchanged.cause {c : Connection} {request : Bytes}
    {r : Logged (Except Failure Bytes × Connection)} (h : Exchanged c request r) {f : Failure}
    (hf : r.value.1 = .error f) : Cause c request r.value.2.wire f := by
  cases h with
  | refused hcheck =>
    cases hf
    exact .configuration hcheck
  | notConnected hcheck hclosed =>
    cases hf
    exact .notConnected hcheck hclosed
  | sendOverdue hready hsend =>
    cases hf
    exact .sendTimeout (unsent_offered hready (not_takes_of_send hsend (by simp)))
  | sendFault hready hsend =>
    cases hf
    have hunsent := unsent_offered hready (not_takes_of_send hsend (by simp))
    rcases barrier_of_send hsend with hstop | ⟨rfl, hstop⟩
    · exact .sendFault hunsent hstop
    · exact .nothingTaken hunsent hstop
  | receiveOverdue hready htakes hreceive =>
    cases hf
    exact .receiveTimeout (sent_received_awaiting hready htakes)
  | receiveFault hready htakes hreceive =>
    cases hf
    exact cause_of_receive hready htakes hreceive
  | replied => cases hf

/-- An exchange is refused for the settings if and only if they cannot be used. -/
theorem exchange_eq_configuration_iff (c : Connection) (request : Bytes) (why : SettingFault) :
    (c.exchange request).value.1 = .error (.configuration why) ↔
      c.settings.check = .error why := by
  constructor
  · intro h
    cases (c.exchanged request).cause h with
    | configuration hcheck => exact hcheck
  · intro hcheck
    rw [exchange_refused request hcheck]

/-- An exchange is refused for a close if and only if the settings can be used and the connection
is not open. -/
theorem exchange_eq_notConnected_iff (c : Connection) (request : Bytes) :
    (c.exchange request).value.1 = .error .notConnected ↔
      c.settings.check = .ok () ∧ c.isOpen = false := by
  constructor
  · intro h
    cases (c.exchanged request).cause h with
    | notConnected hcheck hclosed => exact ⟨hcheck, hclosed⟩
  · rintro ⟨hcheck, hclosed⟩
    rw [exchange_notConnected request hcheck hclosed]

end ModbusTcp.Connection
