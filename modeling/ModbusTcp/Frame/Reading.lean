import ModbusTcp.Log

/-!
# Decoding replies

A reply is decoded in one pass over its bytes: below nine bytes it is too short; with the mark in
its function it is an exception; after a register read it is a block of registers, as many as its
byte count says and as came; after any other function it is the bytes behind the function.
`Reading.ofFrame` gives the outcome, `Reading.remarks` what is logged on the way, and
`Reading.decode` both. The three outcomes are told apart by the length of a reply and by the mark in
its function (`Reading.outcome_ofFrame`).
-/

namespace ModbusTcp

/-- What a successful reply carries. -/
inductive Reading where
  /-- register values in ascending order of address -/
  | registers (values : List UInt16)
  /-- the bytes behind the function, without a meaning of their own -/
  | raw (payload : Bytes)
  deriving DecidableEq, Repr

namespace Reading

/-- The register values, if there are any. -/
def registers? : Reading → Option (List UInt16)
  | .registers values => some values
  | .raw _ => none

/-- The number of registers, or of bytes. -/
def length : Reading → Nat
  | .registers values => values.length
  | .raw payload => payload.length

/-- There is nothing in the reading. -/
def isEmpty (r : Reading) : Bool := r.length == 0

/-- The outcome of a reply whose function, ninth byte and remaining bytes are given. -/
def ofBody (function ninth : UInt8) (rest : Bytes) : Except Failure Reading :=
  if FunctionCode.isException function then
    .error (.exception (FunctionCode.base function) ninth)
  else if FunctionCode.readsRegisters function then
    .ok (.registers (Word.listOfBytes (rest.take ninth.toNat)))
  else .ok (.raw (ninth :: rest))

/-- The outcome of a reply: that of its body, unless it is too short to have one. -/
def ofFrame (frame : Bytes) : Except Failure Reading :=
  match frame.drop Limits.functionOffset with
  | function :: ninth :: rest => ofBody function ninth rest
  | _ => .error (.tooShort frame.length)

/-- What decoding logs after the header. -/
def bodyRemarks (function ninth : UInt8) (rest : Bytes) : List LogEvent :=
  if FunctionCode.isException function then [.exceptionReply function ninth]
  else if FunctionCode.readsRegisters function then
    if rest.length < ninth.toNat then [.shortData ninth.toNat rest.length] else []
  else [.rawReply function]

/-- What decoding logs: nothing for a reply that is too short. -/
def remarks (frame : Bytes) : List LogEvent :=
  match frame.drop Limits.functionOffset with
  | function :: ninth :: rest =>
    ((Header.ofFrame? frame).map LogEvent.replyHeader).toList ++ bodyRemarks function ninth rest
  | _ => []

/-- Decodes a reply, with remarks in the log. -/
def decode (frame : Bytes) : Logged (Except Failure Reading) := ⟨remarks frame, ofFrame frame⟩

/-! ## Outcomes -/

/-- Below nine bytes a reply is too short. -/
theorem ofFrame_of_length_lt {frame : Bytes} (h : frame.length < Limits.minReplyLength) :
    ofFrame frame = .error (.tooShort frame.length) := by
  have hdrop : (frame.drop Limits.functionOffset).length < 2 := by
    rw [List.length_drop]
    simp only [Limits.minReplyLength, Limits.functionOffset] at h ⊢
    omega
  unfold ofFrame
  split
  · rename_i hcons
    rw [hcons, List.length_cons, List.length_cons] at hdrop
    omega
  · rfl

/-- From nine bytes on, a reply has a function, a ninth byte and a rest. -/
theorem exists_drop_eq {frame : Bytes} (h : Limits.minReplyLength ≤ frame.length) :
    ∃ function ninth rest, frame.drop Limits.functionOffset = function :: ninth :: rest ∧
      frame[Limits.functionOffset]? = some function ∧
      frame[Limits.byteCountOffset]? = some ninth ∧
      rest.length + Limits.minReplyLength = frame.length := by
  simp only [Limits.minReplyLength, Limits.functionOffset, Limits.byteCountOffset] at h ⊢
  refine ⟨frame[7], frame[8], frame.drop 9, ?_, by simp, by simp, ?_⟩
  · rw [List.drop_eq_getElem_cons, List.drop_eq_getElem_cons]
  · rw [List.length_drop]
    omega

theorem ofFrame_of_drop_eq {frame : Bytes} {function ninth : UInt8} {rest : Bytes}
    (h : frame.drop Limits.functionOffset = function :: ninth :: rest) :
    ofFrame frame = ofBody function ninth rest := by
  rw [ofFrame, h]

theorem ofBody_of_isException {function : UInt8} (ninth : UInt8) (rest : Bytes)
    (h : FunctionCode.isException function = true) :
    ofBody function ninth rest = .error (.exception (function - 0x80) ninth) := by
  rw [ofBody, if_pos h, FunctionCode.base_of_isException h]

theorem ofBody_of_readsRegisters {function : UInt8} (ninth : UInt8) (rest : Bytes)
    (h : FunctionCode.readsRegisters function = true) :
    ofBody function ninth rest =
      .ok (.registers (Word.listOfBytes (rest.take ninth.toNat))) := by
  rw [ofBody, FunctionCode.not_isException_of_readsRegisters h, h]
  rfl

/-- Registers that one byte can count decode to themselves, whatever follows them. -/
theorem ofFrame_of_registers {frame : Bytes} {function : UInt8} {values : List UInt16}
    {trail : Bytes} (hreads : FunctionCode.readsRegisters function = true)
    (hfits : values.length ≤ 127)
    (hdrop : frame.drop Limits.functionOffset =
      function :: UInt8.ofNat (2 * values.length) :: (Word.listToBytes values ++ trail)) :
    ofFrame frame = .ok (.registers values) := by
  have hcount : (UInt8.ofNat (2 * values.length)).toNat = (Word.listToBytes values).length := by
    rw [UInt8.toNat_ofNat', Word.length_listToBytes]
    omega
  rw [ofFrame_of_drop_eq hdrop, ofBody_of_readsRegisters _ _ hreads, hcount, List.take_left,
    Word.listOfBytes_listToBytes]

/-- Without the mark of an exception, a body is a reading. -/
theorem exists_ofBody_eq_ok {function : UInt8} (ninth : UInt8) (rest : Bytes)
    (h : FunctionCode.isException function = false) :
    ∃ reading, ofBody function ninth rest = .ok reading := by
  rw [ofBody, h]
  cases FunctionCode.readsRegisters function with
  | true => exact ⟨_, rfl⟩
  | false => exact ⟨_, rfl⟩

/-- A reply is a reading, is too short, or is an exception; each is told by its own bytes. -/
theorem outcome_ofFrame (frame : Bytes) :
    (∃ reading, ofFrame frame = .ok reading ∧ Limits.minReplyLength ≤ frame.length) ∨
      ofFrame frame = .error (.tooShort frame.length) ∧
        frame.length < Limits.minReplyLength ∨
      ∃ function code, ofFrame frame = .error (.exception (function - 0x80) code) ∧
        Limits.minReplyLength ≤ frame.length ∧ 0x80 ≤ function ∧
        frame[Limits.functionOffset]? = some function ∧
        frame[Limits.byteCountOffset]? = some code := by
  by_cases hlength : frame.length < Limits.minReplyLength
  · exact .inr (.inl ⟨ofFrame_of_length_lt hlength, hlength⟩)
  · have hlong := Nat.le_of_not_lt hlength
    obtain ⟨function, ninth, rest, hdrop, hfunction, hninth, -⟩ := exists_drop_eq hlong
    rw [ofFrame_of_drop_eq hdrop]
    cases hmark : FunctionCode.isException function with
    | true =>
      rw [ofBody_of_isException ninth rest hmark]
      exact .inr (.inr ⟨function, ninth, rfl, hlong,
        (FunctionCode.isException_iff function).mp hmark, hfunction, hninth⟩)
    | false =>
      obtain ⟨reading, hreading⟩ := exists_ofBody_eq_ok ninth rest hmark
      exact .inl ⟨reading, hreading, hlong⟩

end Reading

/-- Puts a request into bytes, with a remark in the log. -/
def Request.encode (r : Request) : Logged Bytes := do
  Logged.log (.encoded r)
  return r.toBytes

end ModbusTcp
