import ModbusTcp.Bytes

/-!
# Frames

A frame is a header of six bytes (transaction, protocol and length, two bytes each) and then as
many bytes as the length field counts: the unit and the function, one byte each, and the data of
the function. The length counts at most one unit byte and the largest PDU. A read request is a
frame of twelve bytes (`Request`); of any other frame its header is read (`Header`), and whether it
is whole is told by its length field (`Frame`).
-/

namespace ModbusTcp.Limits

/-! ## Sizes and places -/

/-- The bytes before the unit: transaction, protocol and length. -/
def headerLength : Nat := 6

/-- The header and the unit. -/
def headerWithUnitLength : Nat := headerLength + 1

/-- The largest PDU, that is, function and data. -/
def maxPduSize : Nat := 253

/-- The largest length field: the unit and the largest PDU. -/
def maxMbapLength : Nat := 1 + maxPduSize

/-- The protocol number that Modbus has. -/
def modbusProtocol : UInt16 := 0

/-- The length field of a read request: unit, function, start and quantity. -/
def readRequestLength : UInt16 := 6

/-- The whole of a read request. -/
def readRequestFrameLength : Nat := headerLength + 6

/-- The smallest reply: the header with the unit, the function and one byte more. -/
def minReplyLength : Nat := 9

/-- Where a frame has its function. -/
def functionOffset : Nat := 7

/-- Where a reply has its byte count or its exception code. -/
def byteCountOffset : Nat := 8

/-- Where a reply has its first register. -/
def registerDataOffset : Nat := 9

/-- The receive buffer that is used unless another one is asked for. -/
def defaultBufferSize : Nat := 1024

/-- The largest receive buffer that is allowed. -/
def maxBufferSize : Nat := 65535

/-- The bit that marks the function of an exception reply. -/
def exceptionFlag : UInt8 := 0x80

/-- The most registers that one reply can carry. -/
def maxReadRegisters : Nat := 125

end ModbusTcp.Limits

namespace ModbusTcp

/-!
## Functions and exceptions

The functions of Modbus and the exceptions a device may answer with are numbers of one byte; the
names here are for display only. The mark of an exception reply does not change the name of a
function.
-/

namespace FunctionCode

/-- The function that reads holding registers. -/
def readHoldingRegisters : UInt8 := 0x03

/-- The function that reads input registers. -/
def readInputRegisters : UInt8 := 0x04

/-- The function marks an exception reply. -/
def isException (function : UInt8) : Bool := function &&& Limits.exceptionFlag != 0

/-- The function without the mark of an exception reply. -/
def base (function : UInt8) : UInt8 := function &&& 0x7F

/-- Replies to the function carry registers. -/
def readsRegisters (function : UInt8) : Bool :=
  function == readHoldingRegisters || function == readInputRegisters

/-- What a function is called, with the mark of an exception or without it. -/
def description (function : UInt8) : String :=
  match (base function).toNat with
  | 0x01 => "Read Coils"
  | 0x02 => "Read Discrete Inputs"
  | 0x03 => "Read Holding Registers"
  | 0x04 => "Read Input Registers"
  | 0x05 => "Write Single Coil"
  | 0x06 => "Write Single Register"
  | 0x0F => "Write Multiple Coils"
  | 0x10 => "Write Multiple Registers"
  | 0x17 => "Read/Write Multiple Registers"
  | _ => "Unknown Function"

/-- The mark of an exception reply is the highest bit. -/
theorem isException_iff (function : UInt8) : isException function = true ↔ 0x80 ≤ function := by
  obtain ⟨⟨n⟩⟩ := function
  revert n
  decide +kernel

theorem base_of_isException {function : UInt8} (h : isException function = true) :
    base function = function - 0x80 := by
  obtain ⟨⟨n⟩⟩ := function
  revert n
  decide +kernel

theorem readsRegisters_iff (function : UInt8) :
    readsRegisters function = true ↔ function = 3 ∨ function = 4 := by
  rw [readsRegisters, Bool.or_eq_true, beq_iff_eq, beq_iff_eq]
  rfl

theorem not_isException_of_readsRegisters {function : UInt8}
    (h : readsRegisters function = true) : isException function = false := by
  rcases (readsRegisters_iff function).mp h with rfl | rfl <;> rfl

end FunctionCode

namespace ExceptionCode

/-- What an exception code is called. -/
def name (code : UInt8) : String :=
  match code.toNat with
  | 0x01 => "Illegal Function"
  | 0x02 => "Illegal Data Address"
  | 0x03 => "Illegal Data Value"
  | 0x04 => "Server Device Failure"
  | 0x05 => "Acknowledge"
  | 0x06 => "Server Device Busy"
  | 0x08 => "Memory Parity Error"
  | 0x0A => "Gateway Path Unavailable"
  | 0x0B => "Gateway Target Device Failed to Respond"
  | _ => "Unknown Exception"

end ExceptionCode

/-!
## Read requests

A request is a header, a function, the first register asked for and how many follow. It is written
in twelve bytes, words with the more significant byte first (`Request.toBytes`), and those twelve
bytes give the request back (`Request.ofBytes?_toBytes`).
-/

/-- One request frame, field by field in the order of the wire. -/
structure Request where
  transaction : UInt16
  protocol : UInt16
  length : UInt16
  unit : UInt8
  function : UInt8
  start : UInt16
  quantity : UInt16
  deriving DecidableEq, Repr

namespace Request

/-- The request that reads `quantity` registers from `start` on. -/
def read (transaction : UInt16) (unit function : UInt8) (start quantity : UInt16) : Request where
  transaction := transaction
  protocol := Limits.modbusProtocol
  length := Limits.readRequestLength
  unit := unit
  function := function
  start := start
  quantity := quantity

/-- The twelve bytes of a request. -/
def toBytes (r : Request) : Bytes :=
  Word.toBytes r.transaction ++ Word.toBytes r.protocol ++ Word.toBytes r.length ++
    [r.unit, r.function] ++ Word.toBytes r.start ++ Word.toBytes r.quantity

/-- The request that twelve bytes spell. -/
def ofBytes? : Bytes → Option Request
  | [t₁, t₀, p₁, p₀, l₁, l₀, u, f, s₁, s₀, q₁, q₀] =>
    some ⟨Word.ofBytes t₁ t₀, Word.ofBytes p₁ p₀, Word.ofBytes l₁ l₀, u, f, Word.ofBytes s₁ s₀,
      Word.ofBytes q₁ q₀⟩
  | _ => none

@[simp]
theorem length_toBytes (r : Request) : r.toBytes.length = Limits.readRequestFrameLength := rfl

/-- A written request reads back as itself. -/
@[simp]
theorem ofBytes?_toBytes (r : Request) : ofBytes? r.toBytes = some r := by
  simp [ofBytes?, toBytes, Word.toBytes]

end Request

/-!
## Frame headers

The first seven bytes of a frame: transaction, protocol, length and unit. A header answers a
request if it repeats the request's transaction and protocol.
-/

/-- The header of a frame with its unit. -/
structure Header where
  transaction : UInt16
  protocol : UInt16
  length : UInt16
  unit : UInt8
  deriving DecidableEq, Repr

namespace Header

/-- The header that a frame begins with, if it has at least seven bytes. -/
def ofFrame? : Bytes → Option Header
  | t₁ :: t₀ :: p₁ :: p₀ :: l₁ :: l₀ :: u :: _ =>
    some ⟨Word.ofBytes t₁ t₀, Word.ofBytes p₁ p₀, Word.ofBytes l₁ l₀, u⟩
  | _ => none

/-- The header repeats the transaction and the protocol of a request. -/
def answers (h : Header) (r : Request) : Bool :=
  h.transaction == r.transaction && h.protocol == r.protocol

/-- The length field of a header of six bytes, or zero if the bytes are fewer. -/
def lengthField : Bytes → Nat
  | _ :: _ :: _ :: _ :: l₁ :: l₀ :: _ => (Word.ofBytes l₁ l₀).toNat
  | _ => 0

/-- A header is found in exactly the frames that have seven bytes. -/
theorem ofFrame?_isSome (frame : Bytes) :
    (ofFrame? frame).isSome ↔ Limits.headerWithUnitLength ≤ frame.length := by
  rcases frame with _ | ⟨_, _ | ⟨_, _ | ⟨_, _ | ⟨_, _ | ⟨_, _ | ⟨_, _ | ⟨_, _⟩⟩⟩⟩⟩⟩⟩ <;>
    simp [ofFrame?, Limits.headerWithUnitLength, Limits.headerLength]

end Header

/-!
## Whole frames

A whole frame is four bytes, a length field from one to the largest, and as many bytes as the field
says. What is less than a frame is told from its own bytes too (`Frame.Cut`): a piece of a header,
or a header with fewer bytes behind it than its length field says.
-/

/-- A whole frame, by what stands before its length field and what the field counts. -/
structure Frame where
  /-- the transaction and the protocol, whatever they are -/
  lead : Bytes
  /-- what the length field counts -/
  body : Bytes
  length_lead : lead.length = 4
  body_pos : 0 < body.length
  body_le : body.length ≤ Limits.maxMbapLength

namespace Frame

/-- The six bytes before the body. -/
def header (f : Frame) : Bytes := f.lead ++ Word.toBytes (UInt16.ofNat f.body.length)

/-- The frame as it stands on the wire. -/
def toBytes (f : Frame) : Bytes := f.header ++ f.body

/-- Bytes that a frame may begin with, but not all of one. -/
def Cut (bytes : Bytes) : Prop :=
  bytes.length < Limits.headerLength ∨
    Limits.headerLength ≤ bytes.length ∧ 0 < Header.lengthField bytes ∧
      Header.lengthField bytes ≤ Limits.maxMbapLength ∧
      bytes.length < Limits.headerLength + Header.lengthField bytes

@[simp]
theorem length_header (f : Frame) : f.header.length = Limits.headerLength := by
  simp [header, f.length_lead, Limits.headerLength]

@[simp]
theorem length_toBytes (f : Frame) :
    f.toBytes.length = Limits.headerLength + f.body.length := by
  simp [toBytes]

end Frame

namespace Header

/-- The length field stands in the fifth and sixth bytes, whatever follows. -/
theorem lengthField_append (lead : Bytes) (w : UInt16) (more : Bytes) (h : lead.length = 4) :
    lengthField (lead ++ Word.toBytes w ++ more) = w.toNat := by
  obtain ⟨a, b, c, d, rfl⟩ : ∃ a b c d, lead = [a, b, c, d] := by
    match lead, h with
    | [a, b, c, d], _ => exact ⟨a, b, c, d, rfl⟩
  simp [lengthField, Word.toBytes]

/-- What follows a header does not change its length field. -/
theorem lengthField_append_right {head : Bytes} (more : Bytes)
    (h : head.length = Limits.headerLength) : lengthField (head ++ more) = lengthField head := by
  match head, h with
  | [_, _, _, _, _, _], _ => rfl

/-- Six bytes are four bytes and a length field. -/
theorem eq_lead_append {head : Bytes} (h : head.length = Limits.headerLength) :
    head = head.take 4 ++ Word.toBytes (UInt16.ofNat (lengthField head)) := by
  match head, h with
  | [_, _, _, _, _, _], _ => simp [lengthField, Word.toBytes]

end Header

namespace Frame

theorem toNat_length (f : Frame) : (UInt16.ofNat f.body.length).toNat = f.body.length := by
  have : f.body.length ≤ 254 := f.body_le
  rw [UInt16.toNat_ofNat']
  omega

theorem lengthField_header (f : Frame) : Header.lengthField f.header = f.body.length := by
  have := Header.lengthField_append f.lead (UInt16.ofNat f.body.length) [] f.length_lead
  rw [List.append_nil, toNat_length] at this
  exact this

/-- A header with a length it may have and as many bytes are a whole frame. -/
theorem exists_toBytes_eq {head body : Bytes} (hhead : head.length = Limits.headerLength)
    (hpos : 0 < Header.lengthField head) (hle : Header.lengthField head ≤ Limits.maxMbapLength)
    (hbody : body.length = Header.lengthField head) : ∃ f : Frame, f.toBytes = head ++ body := by
  refine ⟨⟨head.take 4, body, ?_, by omega, by omega⟩, ?_⟩
  · rw [List.length_take, hhead]
    rfl
  · simp only [toBytes, header, hbody]
    rw [← Header.eq_lead_append hhead]

end Frame

end ModbusTcp
