import ModbusTcp.Proofs.Frame.Decoding
import ModbusTcp.Proofs.Probe.Outcomes
import ModbusTcp.Proofs.Probe.ReceiveModes
import ModbusTcp.Proofs.Transport.Conservation

/-!
# Replies received in part

A single read brings the beginning of one chunk, as far as there is room, so it may bring less than
the reply or more. Of less, a read tells the beginning of what the whole reply says and nothing
else; and more behind the registers of a reply changes nothing (`Client.outcome_of_piece`).
-/

namespace ModbusTcp

namespace Connection

/-- In single reads a reply is what one read of the stream brings. -/
theorem Exchanged.read_of_ok {c : Connection} {request reply : Bytes}
    {r : Logged (Except Failure Bytes × Connection)} (h : Exchanged c request r)
    (hmode : c.settings.receiveMode = .singleRead) (hreply : r.value.1 = .ok reply) :
    ((c.awaiting request).wire.read c.settings.maxResponseSize (c.awaiting request).deadline).1 =
      .ready (.ok reply) := by
  cases h with
  | refused | notConnected | sendOverdue | sendFault | receiveOverdue | receiveFault =>
    cases hreply
  | replied hready htakes hreceive =>
    cases hreply
    rw [value_receive_singleRead (c := c.awaiting request) hmode] at hreceive
    change Awaited.map _ ((c.awaiting request).wire.read c.settings.maxResponseSize _).1 = _
      at hreceive
    rcases hanswer : ((c.awaiting request).wire.read c.settings.maxResponseSize
        (c.awaiting request).deadline).1 with (f | bs) | _
    · rw [hanswer] at hreceive
      cases hreceive
    · rw [hanswer] at hreceive
      cases hreceive
      rfl
    · rw [hanswer] at hreceive
      cases hreceive

/-- Where a single read is cut: at the end of the chunk it answers to or of the room there is, and
at nothing if the stream ends. -/
theorem Exchanged.cut_of_ok {c : Connection} {request reply : Bytes}
    {r : Logged (Except Failure Bytes × Connection)} (h : Exchanged c request r)
    (hmode : c.settings.receiveMode = .singleRead) (hreply : r.value.1 = .ok reply) :
    (∃ chunk rest, Arrival.answering c.wire.reads = .data chunk :: rest ∧
        reply = chunk.take c.settings.maxResponseSize) ∨
      Arrival.Ended (Arrival.answering c.wire.reads) ∧ reply = [] :=
  Arrival.answering_read_ok (h.read_of_ok hmode hreply)

end Connection

namespace Reading

/-- What a piece of a reply comes to, by what the whole reply comes to. -/
theorem ofFrame_piece {reply piece : Bytes} (h : piece <+: reply) :
    (piece.length < Limits.minReplyLength →
      ofFrame piece = .error (.tooShort piece.length)) ∧
    (Limits.minReplyLength ≤ piece.length →
      (∀ function code, ofFrame reply = .error (.exception function code) →
        ofFrame piece = .error (.exception function code)) ∧
      (∀ values, ofFrame reply = .ok (.registers values) →
        ofFrame piece = .ok (.registers (values.take ((piece.length - 9) / 2)))) ∧
      ∀ payload, ofFrame reply = .ok (.raw payload) →
        ofFrame piece = .ok (.raw (payload.take (piece.length - 8)))) ∧
    ∀ values, ofFrame piece = .ok (.registers values) →
      ∃ all, ofFrame reply = .ok (.registers all) ∧ values <+: all := by
  have hpiece : piece = reply.take piece.length := List.prefix_iff_eq_take.mp h
  refine ⟨ofFrame_of_length_lt, ?_, ?_⟩
  · intro hlong
    have hcut := ofFrame_take reply hlong
    rw [← hpiece] at hcut
    refine ⟨?_, ?_, ?_⟩
    · intro function code hwhole
      rw [hcut, hwhole]
      rfl
    · intro values hwhole
      rw [hcut, hwhole]
      rfl
    · intro payload hwhole
      rw [hcut, hwhole]
      rfl
  · intro values hvalues
    rw [hpiece] at hvalues
    obtain ⟨all, hwhole, hfirst⟩ := exists_registers_of_take hvalues
    refine ⟨all, hwhole, ?_⟩
    rw [hfirst]
    exact List.take_prefix _ _

end Reading

namespace Client

/-- A single read while a reply is what stands to be read, whatever follows it. If nothing stands
in the way, the read brings the beginning of the first chunk, as far as there is room; and whenever
it brings something, that is cut in this way. A piece of the reply below nine bytes is too short;
any other comes to the exception of the reply, to its first registers, as many as are whole in the
piece, or to the first bytes of its payload, and to no register that the reply does not have there.
More than a reply that carries its registers comes to what the reply does. -/
theorem outcome_of_piece {p : Client Connection}
    (hmode : p.transport.settings.receiveMode = .singleRead) {reply more : Bytes}
    (hunread : p.transport.wire.unread = reply ++ more) (unit function : UInt8)
    (start quantity : UInt16) :
    let c := p.transport
    let request := Request.read p.nextTransaction unit function start quantity
    let report := (p.read unit function start quantity).value.1
    (c.Ready → c.Takes request.toBytes → ∀ chunk rest, c.wire.reads = .data chunk :: rest →
      chunk ≠ [] → report.responseBytes = some (chunk.take c.settings.maxResponseSize)) ∧
    ∀ piece, report.responseBytes = some piece →
      ((∃ chunk rest, Arrival.answering c.wire.reads = .data chunk :: rest ∧
          piece = chunk.take c.settings.maxResponseSize) ∨
        Arrival.Ended (Arrival.answering c.wire.reads) ∧ piece = []) ∧
      (piece.length ≤ reply.length →
        piece <+: reply ∧
        (piece.length < 9 → report.outcome = .error (.tooShort piece.length)) ∧
        (9 ≤ piece.length →
          (∀ function code, Reading.ofFrame reply = .error (.exception function code) →
            report.outcome = .error (.exception function code)) ∧
          (∀ values, Reading.ofFrame reply = .ok (.registers values) →
            report.outcome = .ok (.registers (values.take ((piece.length - 9) / 2)))) ∧
          ∀ payload, Reading.ofFrame reply = .ok (.raw payload) →
            report.outcome = .ok (.raw (payload.take (piece.length - 8)))) ∧
        ∀ values, report.outcome = .ok (.registers values) →
          ∃ all, Reading.ofFrame reply = .ok (.registers all) ∧ values <+: all) ∧
      (Reading.CarriesRegisters reply → reply.length ≤ piece.length →
        report.outcome = Reading.ofFrame reply) := by
  intro c request report
  have hreport : report = Report.ofResult request (c.exchange request.toBytes).value.1 :=
    p.report_read unit function start quantity
  refine ⟨?_, ?_⟩
  · intro hready htakes chunk rest hreads hchunk
    have hsame : c.receiving .singleRead = c := by
      rw [Connection.receiving, ← hmode]
    have hreply := hready.exchange_singleRead htakes hreads hchunk
    rw [hsame] at hreply
    rw [hreport, hreply]
    rfl
  · intro piece hpiece
    have houtcome : report.outcome = Reading.ofFrame piece := by
      rw [hreport] at hpiece ⊢
      exact outcome_ofResult_of_reply hpiece
    have hreply : (c.exchange request.toBytes).value.1 = .ok piece := by
      rw [hreport] at hpiece
      exact responseBytes_ofResult.mp hpiece
    have htaken := (c.exchanged request.toBytes).unread_singleRead hmode
    rw [hreply] at htaken
    have hfront : piece <+: reply ++ more := by
      rw [← hunread]
      exact ⟨_, htaken.1.symm⟩
    refine ⟨(c.exchanged request.toBytes).cut_of_ok hmode hreply, ?_, ?_⟩
    · intro hle
      have hbegins : piece <+: reply := List.prefix_of_prefix_length_le hfront
        (List.prefix_append reply more) hle
      rw [houtcome]
      exact ⟨hbegins, Reading.ofFrame_piece hbegins⟩
    · intro hcarries hle
      obtain ⟨extra, rfl⟩ := List.prefix_of_prefix_length_le (List.prefix_append reply more)
        hfront hle
      rw [houtcome]
      exact hcarries.ofFrame_append extra

/-- Two registers in two chunks that are cut inside the second one. -/
theorem outcome_of_piece_of_cut_register :
    let reply : Bytes := [0, 1, 0, 0, 0, 7, 1, 3, 4, 1, 2, 3, 4]
    let c := Connection.fresh [.data (reply.take 12), .data (reply.drop 12)] [] none "peer" {}
    let report := (({ transport := c } : Client Connection).read 1 3 0 2).value.1
    c.settings.receiveMode = .singleRead ∧ c.wire.unread = reply ++ [] ∧
      Reading.ofFrame reply = .ok (.registers [258, 772]) ∧
      report.responseBytes = some (reply.take 12) ∧
      report.outcome = .ok (.registers [258]) := by
  intro reply c report
  have hunread : c.wire.unread = reply ++ [] := rfl
  obtain ⟨hbrings, hpieces⟩ := outcome_of_piece (p := { transport := c }) rfl hunread 1 3 0 2
  have hpiece : report.responseBytes = some (reply.take 12) :=
    hbrings ⟨rfl, rfl⟩ rfl _ _ rfl (by decide)
  have hwhole : Reading.ofFrame reply = .ok (.registers [258, 772]) := rfl
  obtain ⟨-, hpart, -⟩ := hpieces _ hpiece
  obtain ⟨-, -, hlong, -⟩ := hpart (by decide)
  have houtcome := (hlong (by decide)).2.1 _ hwhole
  have hfirst : ([258, 772] : List UInt16).take (((reply.take 12).length - 9) / 2) = [258] := by
    decide
  rw [hfirst] at houtcome
  exact ⟨rfl, hunread, hwhole, hpiece, houtcome⟩

end Client

end ModbusTcp
