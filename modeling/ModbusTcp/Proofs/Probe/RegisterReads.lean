import ModbusTcp.Probe.Client
import ModbusTcp.Proofs.Frame.RegisterServer
import ModbusTcp.Proofs.Transport.Synchronisation

/-!
# Reading the registers of a server

A client that makes reads over a connection in frames to a server of registers. However the answers
of the server are cut, each read is told its own answer and the registers it asked for
(`Client.registers_read`), as long as they fit into a frame.
-/

namespace ModbusTcp

/-- A read of registers that one reply can carry. -/
structure RegisterRead where
  unit : UInt8
  function : UInt8
  start : UInt16
  quantity : UInt16
  readsRegisters : FunctionCode.readsRegisters function = true
  quantity_le : quantity.toNat ≤ Limits.maxReadRegisters

namespace RegisterRead

/-- The request of the read under a number. -/
def request (r : RegisterRead) (transaction : UInt16) : Request :=
  Request.read transaction r.unit r.function r.start r.quantity

/-- The step of a client that makes the read. -/
def step (r : RegisterRead) : Client.Step := .read r.unit r.function r.start r.quantity

/-- The requests of reads, numbered one after the other. -/
def requests (first : Nat) (reads : List RegisterRead) : List Request :=
  reads.mapIdx fun i r => r.request (UInt16.ofNat (first + i))

theorem requests_cons (first : Nat) (r : RegisterRead) (reads : List RegisterRead) :
    requests first (r :: reads) = r.request (UInt16.ofNat first) :: requests (first + 1) reads := by
  simp [requests, List.mapIdx_cons, Nat.add_assoc, Nat.add_comm 1]

end RegisterRead

/-- What is told of a read that a server answered. -/
def RegisterServer.report (s : RegisterServer) (r : Request) : Report where
  request := r
  requestBytes := r.toBytes
  responseBytes := some (s.answer r)
  outcome := .ok (.registers (s.block r.start r.quantity))

namespace Client

/-- The peer takes each request of a client whole when its turn comes. -/
def Served (p : Client Connection) : List Step → Prop
  | [] => True
  | .read unit function start quantity :: rest =>
    p.transport.Takes (Request.read p.nextTransaction unit function start quantity).toBytes ∧
      (p.step (.read unit function start quantity)).value.2.Served rest
  | .close :: rest => (p.step .close).value.2.Served rest

/-! ## One read -/

/-- What an answer of a server means for the read that asked for it. -/
theorem interpret_answer (s : RegisterServer) {r : Request}
    (hprotocol : r.protocol = Limits.modbusProtocol)
    (hfunction : FunctionCode.readsRegisters r.function = true) (hfits : r.quantity.toNat ≤ 127) :
    (interpret r (.ok (s.answer r))).value = s.report r ∧
      ∀ e ∈ (interpret r (.ok (s.answer r))).events, e.level ≠ .warn := by
  constructor
  · show Report.mk r r.toBytes (some (s.answer r)) (Reading.ofFrame (s.answer r)) = _
    rw [s.ofFrame_answer hfunction hfits]
    rfl
  · obtain ⟨header, hremarks⟩ := s.remarks_answer hfunction hfits
    have hforeign : (remarkForeign r (s.answer r)).events = [] := by
      simp [remarkForeign, s.ofFrame?_answer, Header.answers, hprotocol]
    intro e he
    have hevents : (interpret r (.ok (s.answer r))).events =
        (remarkForeign r (s.answer r)).events ++ (Reading.remarks (s.answer r) ++ []) := rfl
    rw [hevents, hforeign, hremarks] at he
    rw [List.mem_singleton.mp he]
    simp [LogEvent.level]

/-- A read that the server answers. -/
theorem read_answered {p : Client Connection} (h : p.transport.Flowing) (s : RegisterServer)
    (r : RegisterRead) {more : Bytes}
    (htakes : p.transport.Takes (r.request p.nextTransaction).toBytes)
    (hunread : p.transport.wire.unread = s.answer (r.request p.nextTransaction) ++ more) :
    (p.step r.step).value.1 = .report (s.report (r.request p.nextTransaction)) ∧
      (p.step r.step).value.2.nextTransaction = p.nextTransaction + 1 ∧
      (p.step r.step).value.2.transport.Flowing ∧
      (p.step r.step).value.2.transport.wire.unread = more ∧
      (p.step r.step).value.2.transport.wire.sent =
        (r.request p.nextTransaction).toBytes :: p.transport.wire.sent ∧
      ∀ e ∈ (p.step r.step).events, e.level ≠ .warn := by
  have hquantity : r.quantity.toNat ≤ 125 := r.quantity_le
  obtain ⟨f, hf⟩ := s.exists_toBytes_eq_answer (r := r.request p.nextTransaction) r.quantity_le
  rw [← hf] at hunread
  obtain ⟨hanswer, hflowing, hmore, -⟩ := h.exchange_frame htakes f hunread
  rw [hf] at hanswer
  obtain ⟨hreport, hevents⟩ := interpret_answer s (r := r.request p.nextTransaction) rfl
    r.readsRegisters (by show r.quantity.toNat ≤ 127; omega)
  have hsent : (p.transport.exchange (r.request p.nextTransaction).toBytes).value.2.wire.sent =
      (r.request p.nextTransaction).toBytes :: p.transport.wire.sent := by
    rw [(p.transport.exchanged _).sent_eq h.ready, htakes.sent_offered]
  refine ⟨?_, rfl, hflowing, hmore, hsent, ?_⟩
  · show Answer.report (interpret (r.request p.nextTransaction)
      (p.transport.exchange (r.request p.nextTransaction).toBytes).value.1).value = _
    rw [hanswer, hreport]
  · intro e he
    have hstep : (p.step r.step).events =
        (p.read r.unit r.function r.start r.quantity).events ++ [] := rfl
    rw [hstep, List.append_nil, events_read] at he
    rcases List.mem_cons.mp he with rfl | he
    · simp [LogEvent.level]
    rcases List.mem_cons.mp he with rfl | he
    · simp [LogEvent.level]
    rcases List.mem_append.mp he with he | he
    · rcases (p.transport.exchanged _).level_of_mem he with h | h <;> simp [h]
    · change e ∈ (interpret (r.request p.nextTransaction)
        (p.transport.exchange (r.request p.nextTransaction).toBytes).value.1).events at he
      rw [hanswer] at he
      exact hevents e he

/-! ## Many reads -/

/-- Reads that the server answers, one after the other. -/
theorem run_answered {p : Client Connection} (h : p.transport.Flowing) (s : RegisterServer)
    {reads : List RegisterRead} {first : Nat} (hfirst : p.nextTransaction = UInt16.ofNat first)
    (hserved : p.Served (reads.map RegisterRead.step)) {more : Bytes}
    (hunread : p.transport.wire.unread =
      ((RegisterRead.requests first reads).map s.answer).flatten ++ more) :
    (p.run (reads.map RegisterRead.step)).value.1 =
        (RegisterRead.requests first reads).map (fun r => Answer.report (s.report r)) ∧
      (p.run (reads.map RegisterRead.step)).value.2.nextTransaction =
        UInt16.ofNat (first + reads.length) ∧
      (p.run (reads.map RegisterRead.step)).value.2.transport.Flowing ∧
      (p.run (reads.map RegisterRead.step)).value.2.transport.wire.unread = more ∧
      (p.run (reads.map RegisterRead.step)).value.2.transport.wire.sent =
        ((RegisterRead.requests first reads).map Request.toBytes).reverse ++
          p.transport.wire.sent ∧
      ∀ e ∈ (p.run (reads.map RegisterRead.step)).events, e.level ≠ .warn := by
  -- what is left of the stream is always the answers to the reads that are left
  induction reads generalizing p first with
  | nil => exact ⟨rfl, hfirst, h, hunread, rfl, by simp [run]⟩
  | cons r rest ih =>
    rw [RegisterRead.requests_cons] at hunread ⊢
    rw [List.map_cons, List.flatten_cons, List.append_assoc, ← hfirst] at hunread
    obtain ⟨hreport, hnext, hflowing, hmore, hsent, hevents⟩ :=
      read_answered h s r hserved.1 hunread
    have hfirst' : (p.step r.step).value.2.nextTransaction = UInt16.ofNat (first + 1) := by
      rw [hnext, hfirst]
      simp
    obtain ⟨hreports, hnext', hflowing', hmore', hsent', hevents'⟩ :=
      ih hflowing hfirst' hserved.2 hmore
    rw [List.map_cons, value_run_cons, events_run_cons]
    refine ⟨?_, ?_, hflowing', hmore', ?_, ?_⟩
    · rw [hreports, hreport, hfirst, List.map_cons]
    · rw [hnext', List.length_cons, Nat.add_assoc, Nat.add_comm 1]
    · rw [hsent', hsent, hfirst, List.map_cons, List.reverse_cons, List.append_assoc]
      rfl
    · intro e he
      rcases List.mem_append.mp he with he | he
      · exact hevents e he
      · exact hevents' e he

/-- A read at the end of the stream finds the connection closed. -/
theorem read_end {p : Client Connection} (h : p.transport.Flowing)
    (hend : p.transport.wire.unread = []) (unit function : UInt8) (start quantity : UInt16)
    (htakes : p.transport.Takes
      (Request.read p.nextTransaction unit function start quantity).toBytes) :
    (p.read unit function start quantity).value.1 =
      ⟨Request.read p.nextTransaction unit function start quantity,
        (Request.read p.nextTransaction unit function start quantity).toBytes, none,
        .error .connectionClosed⟩ := by
  have hshort : p.transport.wire.unread.length < Limits.headerLength := by
    rw [hend]
    decide
  obtain ⟨hclosed, -⟩ := h.exchange_end htakes hshort
  rw [value_read]
  show (interpret _ (p.transport.exchange _).value.1).value = _
  rw [hclosed]
  rfl

/-- A read of more registers than a frame can carry fails, even if the server answers it. -/
theorem read_too_many {p : Client Connection} (h : p.transport.Flowing) (s : RegisterServer)
    {unit function : UInt8} {start quantity : UInt16}
    (hmany : Limits.maxReadRegisters < quantity.toNat) (hfits : quantity.toNat ≤ 127)
    {more : Bytes}
    (hunread : p.transport.wire.unread =
      s.answer (Request.read p.nextTransaction unit function start quantity) ++ more)
    (htakes : p.transport.Takes
      (Request.read p.nextTransaction unit function start quantity).toBytes) :
    (p.read unit function start quantity).value.1 =
      ⟨Request.read p.nextTransaction unit function start quantity,
        (Request.read p.nextTransaction unit function start quantity).toBytes, none,
        .error (.invalidFrame (.length (3 + 2 * quantity.toNat)))⟩ := by
  have hlarge := RegisterServer.maxMbapLength_lt_lengthField
    (r := Request.read p.nextTransaction unit function start quantity) hmany hfits
  have hfield := RegisterServer.lengthField_answerHead
    (Request.read p.nextTransaction unit function start quantity) hfits
  rw [RegisterServer.answer, List.append_assoc] at hunread
  have hreceive := (h.awaiting
      (Request.read p.nextTransaction unit function start quantity).toBytes).receive_badLength
    (RegisterServer.length_answerHead _) (.inr hlarge) hunread
  rw [hfield] at hreceive
  have hexchange := h.ready.exchange_of_fault htakes hreceive
  rw [value_read]
  show (interpret _ (p.transport.exchange _).value.1).value = _
  rw [hexchange]
  rfl

/-- Every read over a connection in frames is told its own answer and the registers that it asked
for, however the answers of the server are cut; a read after the last answer finds the connection
closed. One or two registers more than a frame can carry are refused, though they would decode. -/
theorem registers_read {c : Connection} (h : c.Flowing) (s : RegisterServer)
    {reads : List RegisterRead}
    (hserved : ({ transport := c } : Client Connection).Served (reads.map RegisterRead.step))
    (hunread :
      c.wire.unread = ((RegisterRead.requests 1 reads).map s.answer).flatten) :
    let requests := RegisterRead.requests 1 reads
    let result := ({ transport := c } : Client Connection).run (reads.map RegisterRead.step)
    result.value.1 = requests.map (fun r => Answer.report (s.report r)) ∧
      (∀ header transaction, .foreignHeader header transaction ∉ result.events) ∧
      result.value.2.transport.wire.sent =
        (requests.map Request.toBytes).reverse ++ c.wire.sent ∧
      (∀ i (hi : i < reads.length),
        requests[i]? = some (reads[i].request (UInt16.ofNat (i + 1)))) ∧
      (∀ r ∈ requests, s.reply? r.toBytes = some (s.answer r) ∧
        (s.report r).registers? = some (s.block r.start r.quantity)) ∧
      (∀ unit function start quantity,
        let r := Request.read (UInt16.ofNat (reads.length + 1)) unit function start quantity
        result.value.2.transport.Takes r.toBytes →
          (result.value.2.read unit function start quantity).value.1 =
            ⟨r, r.toBytes, none, .error .connectionClosed⟩) ∧
      ∀ (p : Client Connection) (unit function : UInt8) (start quantity : UInt16) (more : Bytes),
        let r := Request.read p.nextTransaction unit function start quantity
        FunctionCode.readsRegisters function = true →
        quantity.toNat = 126 ∨ quantity.toNat = 127 → p.transport.Flowing →
        p.transport.wire.unread = s.answer r ++ more → p.transport.Takes r.toBytes →
          Reading.ofFrame (s.answer r) = .ok (.registers (s.block start quantity)) ∧
          (p.read unit function start quantity).value.1 =
            ⟨r, r.toBytes, none, .error (.invalidFrame (.length (3 + 2 * quantity.toNat)))⟩ := by
  intro requests result
  rw [← List.append_nil (List.flatten _)] at hunread
  obtain ⟨hreports, hnext, hflowing, hmore, hsent, hevents⟩ :=
    run_answered (p := { transport := c }) h s rfl hserved hunread
  refine ⟨hreports, ?_, hsent, ?_, ?_, ?_, ?_⟩
  · intro header transaction hmem
    exact hevents _ hmem rfl
  · intro i hi
    simp [requests, RegisterRead.requests, hi, Nat.add_comm 1]
  · intro r _
    exact ⟨s.reply?_toBytes r, rfl⟩
  · intro unit function start quantity r htakes
    rw [Nat.add_comm 1] at hnext
    have hread := read_end hflowing hmore unit function start quantity
    rw [hnext] at hread
    exact hread htakes
  · intro p unit function start quantity more r hfunction hquantity hflowing hunread htakes
    have hfits : quantity.toNat ≤ 127 := by omega
    have hmany : Limits.maxReadRegisters < quantity.toNat := by
      show 125 < quantity.toNat
      omega
    exact ⟨s.ofFrame_answer hfunction hfits, read_too_many hflowing s hmany hfits hunread htakes⟩

/-- Two answers in three chunks, one of them from the end of the registers to their beginning. -/
theorem registers_read_of_chunks :
    let s : RegisterServer := ⟨fun address => address + 1⟩
    let first : RegisterRead := ⟨1, 3, 65535, 2, rfl, by decide⟩
    let second : RegisterRead := ⟨2, 4, 255, 1, rfl, by decide⟩
    let settings : TransportSettings := { receiveMode := .framed }
    let c := Connection.fresh
      [.data [0, 1, 0], .data [0, 0, 7, 1, 3, 4, 0],
        .data [0, 0, 1, 0, 2, 0, 0, 0, 5, 2, 4, 2, 1, 0]] [] none "peer" settings
    let result := ({ transport := c } : Client Connection).run [first.step, second.step]
    let many := Request.read 1 1 3 0 126
    let large := Connection.fresh [.data (s.answer many)] [] none "peer" settings
    result.value.1 =
        [.report (s.report (first.request 1)), .report (s.report (second.request 2))] ∧
      (s.report (first.request 1)).registers? = some [0, 1] ∧
      (result.value.2.read 1 3 0 1).value.1 =
        ⟨Request.read 3 1 3 0 1, (Request.read 3 1 3 0 1).toBytes, none,
          .error .connectionClosed⟩ ∧
      (({ transport := large } : Client Connection).read 1 3 0 126).value.1 =
        ⟨many, many.toBytes, none, .error (.invalidFrame (.length 255))⟩ := by
  intro s first second settings c result many large
  have h : c.Flowing := ⟨⟨rfl, rfl⟩, rfl, rfl⟩
  have hserved : ({ transport := c } : Client Connection).Served
      ([first, second].map RegisterRead.step) := ⟨rfl, rfl, trivial⟩
  have hunread : c.wire.unread =
      ((RegisterRead.requests 1 [first, second]).map s.answer).flatten := by decide
  obtain ⟨hreports, -, -, -, hregisters, hclosed, hlarge⟩ := registers_read h s hserved hunread
  have hmany := hlarge { transport := large } 1 3 0 126 [] rfl (.inl rfl)
    ⟨⟨rfl, rfl⟩, rfl, rfl⟩ rfl rfl
  refine ⟨hreports, ?_, hclosed 1 3 0 1 rfl, hmany.2⟩
  rw [(hregisters (first.request 1) (List.mem_cons_self ..)).2]
  decide

end Client

end ModbusTcp
