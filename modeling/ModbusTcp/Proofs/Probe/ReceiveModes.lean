import ModbusTcp.Probe.Client
import ModbusTcp.Proofs.Frame.Decoding
import ModbusTcp.Proofs.Transport.Receiving
import ModbusTcp.Proofs.Transport.Turn

/-!
# The two ways of receiving

A single read takes what it has room for of the first chunk, and a frame is taken by the length in
its header. If a complete reply begins the first chunk they bring different bytes: a single read
may bring some of what follows the reply. Decoding does not see the difference, so a read comes to
the same outcome either way (`Client.outcomes_agree`).
-/

namespace ModbusTcp

namespace Connection

/-- The connection with replies received in a mode. -/
def receiving (c : Connection) (mode : ReceiveMode) : Connection :=
  { c with settings := { c.settings with receiveMode := mode } }

theorem Ready.receiving {c : Connection} (h : c.Ready) (mode : ReceiveMode) :
    (c.receiving mode).Ready := ⟨h.check, h.isOpen⟩

/-- A request that is not taken fails in the same way, however a reply would be received. -/
theorem Ready.exists_exchange_receiving {c : Connection} (h : c.Ready) {request : Bytes}
    (htakes : ¬ c.Takes request) :
    ∃ f, ∀ mode, ((c.receiving mode).exchange request).value.1 = .error f := by
  have hexchange (mode : ReceiveMode) := (h.receiving mode).exchange_eq request
  rcases hsend : (c.wire.send request c.deadline).1 with (f | ⟨⟩) | _
  · refine ⟨.io f, fun mode => ?_⟩
    rw [hexchange, converse_eq]
    have hsend' : ((c.receiving mode).wire.send request (c.receiving mode).deadline).1 =
      .ready (.error f) := hsend
    rw [hsend']
  · exact absurd hsend htakes
  · refine ⟨c.timeoutIn .send, fun mode => ?_⟩
    rw [hexchange, converse_eq]
    have hsend' : ((c.receiving mode).wire.send request (c.receiving mode).deadline).1 =
      .overdue := hsend
    rw [hsend']
    rfl

theorem Ready.exchange_singleRead {c : Connection} (h : c.Ready) {request : Bytes}
    (htakes : c.Takes request) {chunk : Bytes} {rest : List Arrival}
    (hreads : c.wire.reads = .data chunk :: rest) (hchunk : chunk ≠ []) :
    ((c.receiving .singleRead).exchange request).value.1 =
      .ok (chunk.take c.settings.maxResponseSize) :=
  (h.receiving .singleRead).exchange_chunk htakes (.singleRead rfl hchunk) hreads

theorem Ready.exchange_framed {c : Connection} (h : c.Ready) {request : Bytes}
    (htakes : c.Takes request) (f : Frame) {extra : Bytes} {rest : List Arrival}
    (hreads : c.wire.reads = .data (f.toBytes ++ extra) :: rest) :
    ((c.receiving .framed).exchange request).value.1 = .ok f.toBytes :=
  (h.receiving .framed).exchange_chunk htakes (.framed rfl f extra) hreads

end Connection

/-! ## Reads -/

namespace Client

/-- The client with replies received in a mode. -/
def receiving (p : Client Connection) (mode : ReceiveMode) : Client Connection :=
  { p with transport := p.transport.receiving mode }

/-- A read finds a complete reply at the beginning of the first chunk. It comes to the same outcome
whether it is received in one read or as a frame: registers or an exception, or the same failure to
send. What follows the reply in the chunk is in the bytes of a single read only, as far as there is
room. -/
theorem outcomes_agree {p : Client Connection} (hready : p.transport.Ready)
    {reply extra : Bytes} {rest : List Arrival} (hcomplete : Reading.Complete reply)
    (hroom : reply.length ≤ p.transport.settings.maxResponseSize)
    (hreads : p.transport.wire.reads = .data (reply ++ extra) :: rest)
    (unit function : UInt8) (start quantity : UInt16) :
    let request := Request.read p.nextTransaction unit function start quantity
    let single := ((p.receiving .singleRead).read unit function start quantity).value.1
    let framed := ((p.receiving .framed).read unit function start quantity).value.1
    single.outcome = framed.outcome ∧
      (p.transport.Takes request.toBytes →
        framed.responseBytes = some reply ∧
        (∃ more, more <+: extra ∧ single.responseBytes = some (reply ++ more)) ∧
        framed.outcome = Reading.ofFrame reply ∧
        ((∃ values, framed.outcome = .ok (.registers values)) ∨
          ∃ function code, framed.outcome = .error (.exception function code))) ∧
      (¬ p.transport.Takes request.toBytes →
        framed.responseBytes = none ∧ single = framed) := by
  intro request single framed
  have hsingle : single = Report.ofResult request
      ((p.transport.receiving .singleRead).exchange request.toBytes).value.1 :=
    (p.receiving .singleRead).report_read unit function start quantity
  have hframed : framed = Report.ofResult request
      ((p.transport.receiving .framed).exchange request.toBytes).value.1 :=
    (p.receiving .framed).report_read unit function start quantity
  by_cases htakes : p.transport.Takes request.toBytes
  · have hchunk : reply ++ extra ≠ [] := by
      intro hnil
      have hlong := hcomplete.minReplyLength_le
      rw [(List.append_eq_nil_iff.mp hnil).1] at hlong
      cases hlong
    -- a single read has room for the reply, and then for the beginning of what follows it
    have hmore : (reply ++ extra).take p.transport.settings.maxResponseSize =
        reply ++ extra.take (p.transport.settings.maxResponseSize - reply.length) := by
      rw [List.take_append, List.take_of_length_le hroom]
    rw [hready.exchange_singleRead htakes hreads hchunk, hmore] at hsingle
    obtain ⟨f, rfl⟩ := hcomplete.exists_toBytes_eq
    rw [hready.exchange_framed htakes f hreads] at hframed
    rw [hsingle, hframed]
    refine ⟨hcomplete.ofFrame_append _, fun _ => ?_, fun h => absurd htakes h⟩
    exact ⟨rfl, ⟨_, List.take_prefix _ _, rfl⟩, rfl, hcomplete.outcome_ofFrame⟩
  · obtain ⟨f, hfailure⟩ := hready.exists_exchange_receiving htakes
    rw [hfailure] at hsingle hframed
    rw [hsingle, hframed]
    exact ⟨rfl, fun h => absurd h htakes, fun _ => ⟨rfl, rfl⟩⟩

/-- Two registers in one chunk with the beginning of another frame, of which a buffer of fifteen
bytes has room for two. -/
theorem outcomes_agree_of_chunk :
    let reply : Bytes := [0, 1, 0, 0, 0, 7, 1, 3, 4, 1, 2, 3, 4]
    let c := Connection.fresh [.data (reply ++ [0, 2, 0, 0])] [] none "peer"
      { maxResponseSize := 15 }
    let single := (({ transport := c } : Client Connection).receiving .singleRead).read 1 3 0 2
    let framed := (({ transport := c } : Client Connection).receiving .framed).read 1 3 0 2
    single.value.1.outcome = framed.value.1.outcome ∧
      single.value.1.registers? = some [258, 772] ∧
      single.value.1.responseBytes = some (reply ++ [0, 2]) ∧
      framed.value.1.responseBytes = some reply := by
  intro reply c single framed
  have hcomplete : Reading.Complete reply :=
    ⟨rfl, by decide, by decide, 3, 4, rfl, rfl, .inr ⟨.inl rfl, by decide⟩⟩
  obtain ⟨hsame, htaken, -⟩ := outcomes_agree (p := { transport := c }) ⟨rfl, rfl⟩ hcomplete
    (by decide) rfl 1 3 0 2
  obtain ⟨hframed, -⟩ := htaken rfl
  exact ⟨hsame, by decide, by decide, hframed⟩

end Client

end ModbusTcp
