import ModbusTcp.Proofs.Probe.PartialReplies

/-!
# Protocol errors and what the peer sent

A protocol error says that there was an answer. A frame that cannot be collected has cost its
header, and a reply that is refused has cost its bytes, so the peer did send something; except for
one reply that has no bytes, the one that a single read brings from a stream at its end. It is
counted as a reply and refused as too short, where collecting a frame from the same stream tells of
a closed connection (`Client.protocol_error_of_read`, `Client.protocol_error_of_ended_stream`).
-/

namespace ModbusTcp

namespace Arrival

/-- The peer has ended the stream, and there are no bytes in front of the end. -/
def Exhausted (events : List Arrival) : Prop :=
  match answering events with
  | [] | .eof :: _ => True
  | _ => False

theorem not_exhausted_data {chunk : Bytes} (rest : List Arrival) (h : chunk ≠ []) :
    ¬ Exhausted (.data chunk :: rest) := by
  rw [Exhausted, answering_data rest h]
  exact id

/-- A single read of an exhausted stream brings nothing, if it is not given up first. -/
theorem read_of_exhausted {most : Nat} {d : Deadline} {now : Nat} {events : List Arrival}
    (h : Exhausted events) :
    (read most d now events).answer = .ready (.ok []) ∨
      (read most d now events).answer = .overdue := by
  fun_induction read most d now events with
  | case1 | case5 => exact .inl rfl
  | case2 now rest ih => exact ih h
  | case3 now chunk rest hne | case4 now chunk rest hne =>
    exact absurd h (not_exhausted_data rest hne)
  | case6 => exact h.elim
  | case7 now p rest later hw ih => exact ih h
  | case8 => exact .inr rfl

/-- A single read with room that brings nothing met the end of the stream. -/
theorem exhausted_of_read {most : Nat} {d : Deadline} {now : Nat} {events : List Arrival}
    (hmost : 0 < most) (h : (read most d now events).answer = .ready (.ok [])) :
    Exhausted events := by
  fun_induction read most d now events with
  | case1 | case5 => trivial
  | case2 now rest ih => exact ih h
  | case3 now chunk rest hne hlt =>
    simp only [Awaited.ready.injEq, Except.ok.injEq, List.take_eq_nil_iff] at h
    rcases h with hnone | hnil
    · omega
    · exact absurd hnil hne
  | case4 now chunk rest hne hle =>
    simp only [Awaited.ready.injEq, Except.ok.injEq] at h
    exact absurd h hne
  | case6 | case8 => simp at h
  | case7 now p rest later hw ih => exact ih h

/-- An exact read of an exhausted stream is told of the end, if it is not given up first. -/
theorem readExact_of_exhausted {d : Deadline} {now want : Nat} {got : Bytes}
    {events : List Arrival} (hwant : want ≠ 0) (h : Exhausted events) :
    (readExact d now want got events).answer = .ready (.error earlyEnd) ∨
      (readExact d now want got events).answer = .overdue := by
  fun_induction readExact d now want got events with
  | case1 | case3 => exact absurd rfl hwant
  | case2 | case6 => exact .inl rfl
  | case4 now want got rest hw chunk hlt =>
    have hchunk : chunk ≠ [] := List.length_pos_iff.mp (Nat.zero_lt_of_lt hlt)
    exact absurd h (not_exhausted_data rest hchunk)
  | case5 now want got rest hw chunk hle ih =>
    by_cases hchunk : chunk = []
    · subst hchunk
      exact ih hwant h
    · exact absurd h (not_exhausted_data rest hchunk)
  | case7 | case8 => exact h.elim
  | case9 now want got rest hw p later hp ih => exact ih hwant h
  | case10 => exact .inr rfl

end Arrival

/-- No frame can be collected from an exhausted stream. -/
theorem Wire.collect_of_exhausted {w : Wire} (d : Deadline) (h : Arrival.Exhausted w.reads) :
    (w.collect d).1 = .ready (.error .connectionClosed) ∨ (w.collect d).1 = .overdue := by
  have hread : (w.readExact Limits.headerLength d).1 = .ready (.error Arrival.earlyEnd) ∨
      (w.readExact Limits.headerLength d).1 = .overdue :=
    Arrival.readExact_of_exhausted (by decide) h
  unfold collect
  rcases hanswer : w.readExact Limits.headerLength d with ⟨answer, w'⟩
  rw [hanswer] at hread
  rcases hread with rfl | rfl
  · exact .inl rfl
  · exact .inr rfl

theorem Frame.toBytes_ne_nil (f : Frame) : f.toBytes ≠ [] := by
  rw [← List.length_pos_iff, f.length_toBytes]
  exact Nat.add_pos_left (by decide) _

theorem TransportSettings.minReplyLength_le_of_check {s : TransportSettings}
    (h : s.check = .ok ()) : Limits.minReplyLength ≤ s.maxResponseSize := by
  unfold check at h
  split at h
  · cases h
  · split at h
    · cases h
    · omega

namespace Connection

variable {c : Connection} {request : Bytes} {r : Logged (Except Failure Bytes × Connection)}

/-! ## One exchange -/

/-- What an exhausted stream is received as, if receiving is not given up first. -/
theorem receive_of_exhausted (h : Arrival.Exhausted c.wire.reads) :
    c.receive.value.1 = .overdue ∨
      c.receive.value.1 = .ready (match c.settings.receiveMode with
        | .singleRead => .ok []
        | .framed => .error .connectionClosed) := by
  cases hmode : c.settings.receiveMode with
  | singleRead =>
    have hread : (c.wire.read c.settings.maxResponseSize c.deadline).1 = .ready (.ok []) ∨
        (c.wire.read c.settings.maxResponseSize c.deadline).1 = .overdue :=
      Arrival.read_of_exhausted h
    rw [value_receive_singleRead hmode]
    rcases hread with hread | hread
    · rw [hread]
      exact .inr rfl
    · rw [hread]
      exact .inl rfl
  | framed =>
    rw [value_receive_framed hmode]
    exact (Wire.collect_of_exhausted c.deadline h).symm

/-- Over an exhausted stream an exchange fails, and not with a protocol error, unless it is a single
read that is answered. -/
theorem Exchanged.of_exhausted (h : Exchanged c request r)
    (hend : Arrival.Exhausted c.wire.reads) :
    (∃ f, r.value.1 = .error f ∧ f.isProtocolError = false) ∨
      c.settings.receiveMode = .singleRead ∧ r.value.1 = .ok [] := by
  have hreceived := receive_of_exhausted (c := c.awaiting request) hend
  have hsettings : (c.awaiting request).settings = c.settings := rfl
  rw [hsettings] at hreceived
  cases h with
  | refused | notConnected | sendOverdue | sendFault | receiveOverdue => exact .inl ⟨_, rfl, rfl⟩
  | receiveFault hready htakes hanswer =>
    rw [hanswer] at hreceived
    cases hmode : c.settings.receiveMode with
    | singleRead => simp [hmode] at hreceived
    | framed =>
      simp only [hmode, reduceCtorEq, false_or, Awaited.ready.injEq, Except.error.injEq]
        at hreceived
      exact .inl ⟨_, rfl, hreceived ▸ rfl⟩
  | replied hready htakes hanswer =>
    rw [hanswer] at hreceived
    cases hmode : c.settings.receiveMode with
    | singleRead =>
      simp only [hmode, reduceCtorEq, false_or, Awaited.ready.injEq] at hreceived
      exact .inr ⟨rfl, hreceived⟩
    | framed => simp [hmode] at hreceived

/-- What an exchange over an exhausted stream comes to, if the request is taken. -/
theorem Ready.exchange_of_exhausted (h : c.Ready) (htakes : c.Takes request)
    (hend : Arrival.Exhausted c.wire.reads) :
    (c.exchange request).value.1 = .error (c.timeoutIn .receive) ∨
      (c.exchange request).value.1 = match c.settings.receiveMode with
        | .singleRead => .ok []
        | .framed => .error .connectionClosed := by
  have hreceived := receive_of_exhausted (c := c.awaiting request) hend
  rcases hreceived with hreceive | hreceive
  · rw [h.exchange_of_overdue htakes hreceive]
    exact .inl rfl
  · rw [h.exchange_of_ready htakes hreceive]
    exact .inr rfl

/-- The only protocol error that an exchange fails with is that over a header, which was taken. -/
theorem Exchanged.exists_header (h : Exchanged c request r) {f : Failure}
    (hf : r.value.1 = .error f) (hprotocol : f.isProtocolError = true) :
    ∃ header, c.wire.unread = header ++ r.value.2.wire.unread ∧
      header.length = Limits.headerLength := by
  cases h.cause hf with
  | invalidFrame hsent hmode hunread hlength hbad => exact ⟨_, hunread, hlength⟩
  | configuration | notConnected | sendTimeout | sendFault | nothingTaken | receiveTimeout
  | readFault | frameFault | connectionClosed => cases hprotocol

/-- An exchange takes bytes from the front of the stream: those of its reply and no other, and
some if it fails with a protocol error. -/
theorem Exchanged.exists_taken (h : Exchanged c request r) :
    ∃ taken, c.wire.unread = taken ++ r.value.2.wire.unread ∧
      (∀ reply, r.value.1 = .ok reply → taken = reply) ∧
      ∀ f, r.value.1 = .error f → f.isProtocolError = true → taken ≠ [] := by
  obtain ⟨taken, hunread, htaken⟩ : ∃ taken, c.wire.unread = taken ++ r.value.2.wire.unread ∧
      ∀ reply, r.value.1 = .ok reply → taken = reply := by
    cases hmode : c.settings.receiveMode with
    | singleRead =>
      have hunread := h.unread_singleRead hmode
      rcases hanswer : r.value.1 with f | reply <;> rw [hanswer] at hunread
      · exact ⟨[], hunread, by simp⟩
      · exact ⟨reply, hunread.1, by simp⟩
    | framed =>
      obtain ⟨taken, hunread, htaken⟩ := h.unread_framed hmode
      refine ⟨taken, hunread, ?_⟩
      intro reply hreply
      rw [hreply] at htaken
      exact htaken
  refine ⟨taken, hunread, htaken, ?_⟩
  rintro f hf hprotocol rfl
  obtain ⟨header, hheader, hlength⟩ := h.exists_header hf hprotocol
  obtain rfl := List.append_cancel_right (hunread.symm.trans hheader)
  cases hlength

/-- A reply without bytes is that of a single read which met the end of the stream. -/
theorem Exchanged.exhausted_of_nil (h : Exchanged c request r) (hreply : r.value.1 = .ok []) :
    c.settings.receiveMode = .singleRead ∧ Arrival.Exhausted c.wire.reads := by
  cases hmode : c.settings.receiveMode with
  | singleRead =>
    have hroom := TransportSettings.minReplyLength_le_of_check (h.takes_of_ok hreply).1.check
    refine ⟨rfl, Arrival.exhausted_of_read ?_ (h.read_of_ok hmode hreply)⟩
    exact Nat.lt_of_lt_of_le (by decide) hroom
  | framed =>
    obtain ⟨taken, -, hcollected⟩ := receive_framed_collected (c := c.awaiting request) hmode
    cases h with
    | refused | notConnected | sendOverdue | sendFault | receiveOverdue | receiveFault =>
      cases hreply
    | replied hready htakes hanswer =>
      rw [hanswer, Except.ok.inj hreply] at hcollected
      generalize hnil : ([] : Bytes) = reply at hcollected
      cases hcollected with
      | frame f => exact absurd hnil.symm f.toBytes_ne_nil

end Connection

namespace Client

/-- Whatever happened to a client over a stream, a read that comes to a protocol error has taken
bytes of the peer, unless its reply is the one without bytes: that of a single read from an
exhausted stream, refused as too short. Without a byte taken a read fails, and with a protocol error
only in that case. So it does if the peer has ended the stream and sent nothing before. If its
request was taken there, and it was not given up, it is refused as too short in single reads, and
told that the connection is closed in frames. -/
theorem protocol_error_of_read (reads : List Arrival) (writes : List Uptake)
    (shutdownFault : Option IoFault) (peer : String) (settings : TransportSettings)
    (history : List Move) (unit function : UInt8) (start quantity : UInt16) :
    let fresh := Connection.fresh reads writes shutdownFault peer settings
    let p := ({ transport := fresh } : Client Connection).after history
    let request := Request.read p.nextTransaction unit function start quantity
    let report := (p.read unit function start quantity).value.1
    let left := (p.read unit function start quantity).value.2.transport.wire
    ∃ taken, p.transport.wire.unread = taken ++ left.unread ∧
      (∀ f, report.outcome = .error f → f.isProtocolError = true →
        taken ≠ [] ∨ settings.receiveMode = .singleRead ∧
          Arrival.Exhausted p.transport.wire.reads ∧ report.responseBytes = some [] ∧
          f = .tooShort 0) ∧
      (taken = [] ∨ Arrival.Exhausted p.transport.wire.reads → ∃ f, report.outcome = .error f ∧
        (f.isProtocolError = true ↔ report.responseBytes = some [])) ∧
      (Arrival.Exhausted p.transport.wire.reads → p.transport.Ready →
        p.transport.Takes request.toBytes →
        report.outcome = .error (.timeout .receive settings.timeoutMillis) ∨
          report.outcome = .error (match settings.receiveMode with
            | .singleRead => .tooShort 0
            | .framed => .connectionClosed)) := by
  intro fresh p request report left
  obtain ⟨on, hsettings⟩ : ∃ on, p.transport.settings = { settings with packetLogging := on } :=
    exists_settings_after _ history
  have hmode : p.transport.settings.receiveMode = settings.receiveMode := by rw [hsettings]
  have hlimit : p.transport.timeoutIn .receive = .timeout .receive settings.timeoutMillis := by
    rw [Connection.timeoutIn, hsettings]
    rfl
  have hexchanged := p.transport.exchanged request.toBytes
  have hreport : report = Report.ofResult request (p.transport.exchange request.toBytes).value.1 :=
    p.report_read unit function start quantity
  obtain ⟨taken, hunread, hreply, hfailed⟩ := hexchanged.exists_taken
  rw [hreport]
  refine ⟨taken, hunread, ?_, ?_, ?_⟩
  · intro f houtcome hprotocol
    rcases hresult : (p.transport.exchange request.toBytes).value.1 with g | reply
    · rw [hresult] at houtcome
      cases houtcome
      exact .inl (hfailed f hresult hprotocol)
    · by_cases hnil : reply = []
      · subst hnil
        rw [hresult] at houtcome
        cases houtcome
        obtain ⟨hsingle, hend⟩ := hexchanged.exhausted_of_nil hresult
        exact .inr ⟨hmode.symm.trans hsingle, hend, rfl, rfl⟩
      · exact .inl (hreply reply hresult ▸ hnil)
  · intro hnothing
    have hresult : (∃ f, (p.transport.exchange request.toBytes).value.1 = .error f ∧
        f.isProtocolError = false) ∨ (p.transport.exchange request.toBytes).value.1 = .ok [] := by
      rcases hnothing with rfl | hend
      · rcases hresult : (p.transport.exchange request.toBytes).value.1 with f | reply
        · exact .inl ⟨f, rfl, Bool.eq_false_iff.mpr fun h => hfailed f hresult h rfl⟩
        · exact .inr (by rw [← hreply reply hresult])
      · exact (hexchanged.of_exhausted hend).imp_right And.right
    rcases hresult with ⟨f, hresult, hprotocol⟩ | hresult
    · rw [hresult]
      exact ⟨f, rfl, by simp [hprotocol, Report.ofResult]⟩
    · rw [hresult]
      exact ⟨.tooShort 0, rfl, fun _ => rfl, fun _ => rfl⟩
  · intro hend hready htakes
    rw [← hmode, ← hlimit]
    rcases hready.exchange_of_exhausted htakes hend with hresult | hresult
    · rw [hresult]
      exact .inl rfl
    · rw [hresult]
      cases p.transport.settings.receiveMode with
      | singleRead => exact .inr rfl
      | framed => exact .inr rfl

/-- A stream that the peer ended without sending a byte: a single read of it comes to a protocol
error, collecting a frame from it does not, and neither takes a byte. -/
theorem protocol_error_of_ended_stream :
    let single := Connection.fresh [.eof] [] none "peer" {}
    let framed := Connection.fresh [.eof] [] none "peer" { receiveMode := .framed }
    let read := fun c => (({ transport := c } : Client Connection).read 1 3 0 10).value
    (read single).1.outcome = .error (.tooShort 0) ∧
      (Failure.tooShort 0).isProtocolError = true ∧
      (read framed).1.outcome = .error .connectionClosed ∧
      Failure.connectionClosed.isProtocolError = false ∧
      single.wire.unread = [] ∧ framed.wire.unread = [] := by
  decide

end Client

end ModbusTcp
