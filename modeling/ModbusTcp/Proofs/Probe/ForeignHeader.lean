import ModbusTcp.Probe.Client
import ModbusTcp.Proofs.Frame.Exactness
import ModbusTcp.Proofs.Transport.Turn

/-!
# Replies with the header of another request

A reply whose transaction or protocol is not the request's is remarked on and then decoded like any
other. Decoding reads nothing of the header, so what stands in the first seven bytes of a reply
changes no outcome; and the remark is made once, before the reply is decoded, whatever it decodes
to (`Client.foreign_header_only_remarked`). A reply of seven or eight bytes has a header to be
remarked on, but is too short to be decoded.
-/

namespace ModbusTcp

/-- The event remarks on a reply with a foreign header. -/
def LogEvent.isForeignHeader : LogEvent → Bool
  | .foreignHeader .. => true
  | _ => false

namespace Header

/-- The number that the two bytes of a frame from a place on spell. -/
def wordAt (frame : Bytes) (place : Nat) : Nat :=
  256 * (frame.getD place 0).toNat + (frame.getD (place + 1) 0).toNat

/-- A reply has a header, and its transaction or its protocol is not the request's. -/
def Foreign (request : Request) (reply : Bytes) : Prop :=
  Limits.headerWithUnitLength ≤ reply.length ∧
    (wordAt reply 0 ≠ request.transaction.toNat ∨ wordAt reply 2 ≠ request.protocol.toNat)

/-- Both words are compared. -/
instance (request : Request) (reply : Bytes) : Decidable (Foreign request reply) :=
  inferInstanceAs (Decidable (_ ∧ _))

/-- The event is the warning that names the two numbers in the header of a reply, and the number of
the request. -/
structure ForeignWarning (request : Request) (reply : Bytes) (e : LogEvent) : Prop where
  isForeignHeader : e.isForeignHeader = true
  level : e.level = .warn
  message : e.message =
    s!"Response header tid={wordAt reply 0} proto={wordAt reply 2} does not match " ++
      s!"request tid={request.transaction.toNat}"

/-- The header of a reply that is long enough, with its two numbers by the bytes of the reply. -/
theorem exists_ofFrame?_eq {reply : Bytes} (h : Limits.headerWithUnitLength ≤ reply.length) :
    ∃ header, ofFrame? reply = some header ∧
      header.transaction.toNat = wordAt reply 0 ∧ header.protocol.toNat = wordAt reply 2 := by
  match reply, h with
  | t₁ :: t₀ :: p₁ :: p₀ :: l₁ :: l₀ :: u :: _, _ =>
    exact ⟨_, rfl, Word.toNat_ofBytes t₁ t₀, Word.toNat_ofBytes p₁ p₀⟩

theorem ofFrame?_eq_none {reply : Bytes} (h : ¬ Limits.headerWithUnitLength ≤ reply.length) :
    ofFrame? reply = none := by
  rw [← Option.not_isSome_iff_eq_none, ofFrame?_isSome]
  exact h

theorem answers_iff (header : Header) (request : Request) :
    header.answers request = true ↔
      header.transaction.toNat = request.transaction.toNat ∧
        header.protocol.toNat = request.protocol.toNat := by
  rw [answers, Bool.and_eq_true, beq_iff_eq, beq_iff_eq, UInt16.toNat_inj, UInt16.toNat_inj]

theorem wordAt_of_take_eq {reply other : Bytes} {n place : Nat} (hplace : place + 1 < n)
    (h : other.take n = reply.take n) : wordAt other place = wordAt reply place := by
  have hbyte {i : Nat} (hi : i < n) : other.getD i 0 = reply.getD i 0 := by
    rw [List.getD_eq_getElem?_getD, List.getD_eq_getElem?_getD, ← List.getElem?_take_of_lt hi, h,
      List.getElem?_take_of_lt hi]
  rw [wordAt, wordAt, hbyte hplace, hbyte (Nat.lt_of_succ_lt hplace)]

/-- A header is told to be foreign by its first four bytes: not by its length field, and not by the
unit. -/
theorem foreign_congr {reply other : Bytes} (request : Request)
    (hlength : other.length = reply.length) (hids : other.take 4 = reply.take 4) :
    Foreign request other ↔ Foreign request reply := by
  rw [Foreign, Foreign, hlength, wordAt_of_take_eq (by decide) hids,
    wordAt_of_take_eq (by decide) hids]

end Header

namespace Reading

/-- Decoding reads the length of a reply and what stands behind its header. -/
theorem ofFrame_of_drop_header_eq {reply other : Bytes} (hlength : other.length = reply.length)
    (hdrop : other.drop Limits.functionOffset = reply.drop Limits.functionOffset) :
    ofFrame other = ofFrame reply := by
  unfold ofFrame
  rw [hdrop, hlength]

theorem not_isForeignHeader_of_mem_bodyRemarks {function ninth : UInt8} {rest : Bytes}
    {e : LogEvent} (h : e ∈ bodyRemarks function ninth rest) : e.isForeignHeader = false := by
  unfold bodyRemarks at h
  split at h
  · rw [List.mem_singleton.mp h]
    rfl
  · split at h
    · split at h
      · rw [List.mem_singleton.mp h]
        rfl
      · cases h
    · rw [List.mem_singleton.mp h]
      rfl

/-- Decoding itself does not remark on a foreign header. -/
theorem not_isForeignHeader_of_mem_remarks {reply : Bytes} {e : LogEvent}
    (h : e ∈ remarks reply) : e.isForeignHeader = false := by
  unfold remarks at h
  split at h
  · rcases List.mem_append.mp h with hheader | hbody
    · rw [Option.mem_toList, Option.map_eq_some_iff] at hheader
      obtain ⟨header, -, rfl⟩ := hheader
      rfl
    · exact not_isForeignHeader_of_mem_bodyRemarks hbody
  · cases h

end Reading

/-- No connection remarks on a foreign header. -/
theorem Connection.countP_isForeignHeader_exchange (c : Connection) (request : Bytes) :
    (c.exchange request).events.countP LogEvent.isForeignHeader = 0 := by
  rw [List.countP_eq_zero]
  intro e he hforeign
  cases e with
  | foreignHeader header transaction =>
    rcases (c.exchanged request).level_of_mem he with hlevel | hlevel
    · cases hlevel
    · cases hlevel
  | _ => cases hforeign

namespace Client

theorem events_remarkForeign_of_foreign {request : Request} {reply : Bytes}
    (h : Header.Foreign request reply) :
    ∃ e, (remarkForeign request reply).events = [e] ∧ Header.ForeignWarning request reply e := by
  obtain ⟨hlong, hids⟩ := h
  obtain ⟨header, hheader, htransaction, hprotocol⟩ := Header.exists_ofFrame?_eq hlong
  have hanswers : header.answers request = false := by
    rw [← Bool.not_eq_true, Header.answers_iff, htransaction, hprotocol]
    omega
  refine ⟨.foreignHeader header request.transaction, ?_, rfl, rfl, ?_⟩
  · rw [remarkForeign, hheader]
    simp [hanswers]
  · rw [← htransaction, ← hprotocol]
    rfl

theorem events_remarkForeign_of_not_foreign {request : Request} {reply : Bytes}
    (h : ¬ Header.Foreign request reply) : (remarkForeign request reply).events = [] := by
  by_cases hlong : Limits.headerWithUnitLength ≤ reply.length
  · obtain ⟨header, hheader, htransaction, hprotocol⟩ := Header.exists_ofFrame?_eq hlong
    have hanswers : header.answers request = true := by
      rw [Header.answers_iff, htransaction, hprotocol]
      unfold Header.Foreign at h
      omega
    rw [remarkForeign, hheader]
    simp [hanswers]
  · rw [remarkForeign, Header.ofFrame?_eq_none hlong]
    rfl

theorem countP_remarkForeign (request : Request) (reply : Bytes) :
    (remarkForeign request reply).events.countP LogEvent.isForeignHeader =
      if Header.Foreign request reply then 1 else 0 := by
  by_cases h : Header.Foreign request reply
  · obtain ⟨e, hevents, hwarning⟩ := events_remarkForeign_of_foreign h
    rw [hevents, List.countP_singleton, hwarning.isForeignHeader, if_pos h, if_pos rfl]
  · rw [events_remarkForeign_of_not_foreign h, if_neg h, List.countP_nil]

variable {τ : Type} [Transport τ]

/-- The outcome of a read that has a reply is told by the reply. -/
theorem outcome_read_of_reply {p : Client τ} {unit function : UInt8} {start quantity : UInt16}
    {reply : Bytes}
    (hreply : (Transport.exchange p.transport
      (Request.read p.nextTransaction unit function start quantity).toBytes).value.1 =
        .ok reply) :
    (p.read unit function start quantity).value.1.outcome = Reading.ofFrame reply := by
  rw [report_read]
  dsimp only
  rw [hreply]
  rfl

/-- A read that has a reply has the outcome of any read whose reply has as many bytes and the same
ones from the eighth on, whatever the headers are. If the header of the reply is foreign, that is
remarked on between the exchange and the decoding, once, with the numbers of the reply and that of
the request; if not, or without a reply, there is no such remark. Whether the header is foreign is
told by its first four bytes, and the outcome takes no notice: the reply may be too short, or an
exception. -/
theorem foreign_header_only_remarked (p : Client τ) (unit function : UInt8)
    (start quantity : UInt16) :
    let request := Request.read p.nextTransaction unit function start quantity
    let sent := Transport.exchange p.transport request.toBytes
    let r := p.read unit function start quantity
    let before := .encoded request :: .sending function start quantity :: sent.events
    (∀ f, sent.value.1 = .error f → r.events = before) ∧
    ∀ reply, sent.value.1 = .ok reply →
      (∀ {σ : Type} [Transport σ] (q : Client σ) (unit' function' : UInt8)
          (start' quantity' : UInt16) (other : Bytes),
        (Transport.exchange q.transport (Request.read q.nextTransaction unit' function' start'
          quantity').toBytes).value.1 = .ok other →
        other.length = reply.length → other.drop 7 = reply.drop 7 →
        (q.read unit' function' start' quantity').value.1.outcome = r.value.1.outcome) ∧
      (∃ warning, r.events = before ++ warning ++ Reading.remarks reply ∧
        (∀ e ∈ Reading.remarks reply, e.isForeignHeader = false) ∧
        (Header.Foreign request reply →
          ∃ e, warning = [e] ∧ Header.ForeignWarning request reply e) ∧
        (¬ Header.Foreign request reply → warning = [])) ∧
      r.events.countP LogEvent.isForeignHeader =
        sent.events.countP LogEvent.isForeignHeader +
          (if Header.Foreign request reply then 1 else 0) ∧
      (∀ other : Bytes, other.length = reply.length → other.take 4 = reply.take 4 →
        (Header.Foreign request other ↔ Header.Foreign request reply)) ∧
      (reply.length < 9 → r.value.1.outcome = .error (.tooShort reply.length)) ∧
      (∀ marked code, reply[7]? = some marked → 0x80 ≤ marked → reply[8]? = some code →
        r.value.1.outcome = .error (.exception (marked - 0x80) code)) := by
  intro request sent r before
  have hevents : r.events = before ++ (interpret request sent.value.1).events :=
    p.events_read unit function start quantity
  constructor
  · intro f hf
    rw [hevents, hf]
    exact List.append_nil before
  · intro reply hreply
    have houtcome : r.value.1.outcome = Reading.ofFrame reply := outcome_read_of_reply hreply
    have hremarks : (interpret request sent.value.1).events =
        (remarkForeign request reply).events ++ Reading.remarks reply := by
      rw [hreply]
      simp [interpret, Reading.decode]
    rw [hremarks, ← List.append_assoc] at hevents
    refine ⟨?_, ⟨_, hevents, ?_, events_remarkForeign_of_foreign,
      events_remarkForeign_of_not_foreign⟩, ?_, ?_, ?_, ?_⟩
    · intro σ _ q unit' function' start' quantity' other hother hlength hdrop
      rw [outcome_read_of_reply hother, houtcome]
      exact Reading.ofFrame_of_drop_header_eq hlength hdrop
    · intro e
      exact Reading.not_isForeignHeader_of_mem_remarks
    · have hdecoding : (Reading.remarks reply).countP LogEvent.isForeignHeader = 0 := by
        rw [List.countP_eq_zero]
        intro e he
        rw [Reading.not_isForeignHeader_of_mem_remarks he]
        exact Bool.false_ne_true
      have hbefore : before.countP LogEvent.isForeignHeader =
          sent.events.countP LogEvent.isForeignHeader := rfl
      rw [hevents, List.countP_append, List.countP_append, hdecoding, countP_remarkForeign,
        hbefore, Nat.add_zero]
    · intro other
      exact Header.foreign_congr request
    · intro hshort
      rw [houtcome]
      exact Reading.ofFrame_of_length_lt hshort
    · intro marked code hmarked hmark hcode
      rw [houtcome]
      exact Reading.ofFrame_eq_iff.mpr (.exception hmarked hcode hmark)

/-- A reply to the ninth request and not to the first, of seven bytes: there is one remark, and
nothing to decode. -/
theorem foreign_header_only_remarked_of_seven_bytes :
    let c := Connection.fresh [.data [0, 9, 0, 0, 0, 3, 17]] [] none "peer" {}
    let r := ({ transport := c } : Client Connection).read 17 3 0 2
    r.value.1.outcome = .error (.tooShort 7) ∧
      r.events.countP LogEvent.isForeignHeader = 1 ∧
      ∃ e ∈ r.events, e.message =
        s!"Response header tid={9} proto={0} does not match " ++ s!"request tid={1}" := by
  intro c r
  obtain ⟨-, hreplied⟩ := foreign_header_only_remarked ({ transport := c } : Client Connection)
    17 3 0 2
  obtain ⟨-, ⟨warning, hevents, -, hwarning, -⟩, hcount, -, hshort, -⟩ :=
    hreplied [0, 9, 0, 0, 0, 3, 17] rfl
  have hforeign : Header.Foreign (Request.read 1 17 3 0 2) [0, 9, 0, 0, 0, 3, 17] := by decide
  obtain ⟨e, rfl, hnames⟩ := hwarning hforeign
  refine ⟨hshort (by decide), ?_, e, ?_, hnames.message⟩
  · rw [hcount, if_pos hforeign]
    exact congrArg (· + 1) (c.countP_isForeignHeader_exchange _)
  · rw [hevents]
    simp

end Client

end ModbusTcp
