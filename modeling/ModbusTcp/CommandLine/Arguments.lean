import ModbusTcp.Probe.Client
import ModbusTcp.Text.Characters

/-!
# Arguments of the command line

What the command line can set, each in its slot: two slots filled by place and nine by name, two of
which are flags without a value. `Arguments.set` puts a text into a slot, if it is a value for it,
and `Arguments.plan` is the plan that the arguments stand for. A slot that is not filled has a value
by default, which is the one that its text in the help is read as (`Arguments.set_default`), and all
defaults together make the plan that holds by itself (`Arguments.plan_empty`).
-/

namespace ModbusTcp.CommandLine

/-- The places for values on the command line. -/
inductive Slot where
  | host
  | port
  | unitId
  | function
  | start
  | quantity
  | timeoutMs
  | bufferSize
  | framed
  | packetLog
  | logLevel
  deriving DecidableEq, Repr

namespace Slot

/-- The slots filled by place, in order. -/
def positionals : List Slot := [.host, .port]

/-- The slots that are filled by name. -/
def named : List Slot :=
  [.unitId, .function, .start, .quantity, .timeoutMs, .bufferSize, .framed, .packetLog, .logLevel]

/-- What a slot is called; those that are filled by name have it behind two dashes. -/
def name : Slot → String
  | .host => "host"
  | .port => "port"
  | .unitId => "unit-id"
  | .function => "function"
  | .start => "start"
  | .quantity => "quantity"
  | .timeoutMs => "timeout-ms"
  | .bufferSize => "buffer-size"
  | .framed => "framed"
  | .packetLog => "packet-log"
  | .logLevel => "log-level"

/-- The slot is set by its name alone. -/
def isFlag : Slot → Bool
  | .framed | .packetLog => true
  | _ => false

/-- The slot as usage errors show it. -/
def label : Slot → String
  | .host => "[HOST]"
  | .port => "[PORT]"
  | .unitId => "--unit-id <UNIT_ID>"
  | .function => "--function <FUNCTION>"
  | .start => "--start <START>"
  | .quantity => "--quantity <QUANTITY>"
  | .timeoutMs => "--timeout-ms <TIMEOUT_MS>"
  | .bufferSize => "--buffer-size <BUFFER_SIZE>"
  | .framed => "--framed"
  | .packetLog => "--packet-log"
  | .logLevel => "--log-level <LOG_LEVEL>"

/-- The text of the value that holds if the slot is not filled. -/
def default? : Slot → Option String
  | .host => some "127.0.0.1"
  | .port => some "502"
  | .unitId => some "1"
  | .function => some "0x03"
  | .start => some "0"
  | .quantity => some "10"
  | .timeoutMs => some "5000"
  | .bufferSize => some "1024"
  | .framed | .packetLog => none
  | .logLevel => some "warn"

/-- The slot that is filled by a name. -/
def ofName? (name : String) : Option Slot := named.find? (·.name == name)

end Slot

/-- Why a text is no value for a slot. -/
inductive ValueFault where
  | number (fault : Number.Fault)
  | outOfRange (value : Int) (last : Nat)
  | byte (given : String) (fault : Number.Fault)
  deriving DecidableEq, Repr

/-- The wording of a value fault. -/
def ValueFault.message : ValueFault → String
  | .number fault => fault.message
  | .outOfRange value last => s!"{value} is not in 0..={last}"
  | .byte given fault => s!"invalid byte value '{given}': {fault.message}"

/-- Reads a whole number from zero to `last`. -/
def readUpTo (last : Nat) (text : String) : Except ValueFault Nat :=
  match Number.readSigned 9223372036854775807 text.toList with
  | .error fault => .error (.number fault)
  | .ok value =>
    if 0 ≤ value ∧ value ≤ last then .ok value.toNat else .error (.outOfRange value last)

/-- Reads a 64-bit number without a minus sign. -/
def readCount (text : String) : Except ValueFault Nat :=
  (Number.readUnsigned 10 18446744073709551615 text.toList).mapError .number

/-- Reads the digits of a byte: in base sixteen after `0x` or `0X`, else in base ten. -/
def readByteChars : List Char → Except Number.Fault Nat
  | '0' :: 'x' :: digits => Number.readUnsigned 16 255 digits
  | '0' :: 'X' :: digits => Number.readUnsigned 16 255 digits
  | digits => Number.readUnsigned 10 255 digits

/-- Reads a byte, with blanks around it allowed. A refusal quotes the text as it was given. -/
def readByte (text : String) : Except ValueFault UInt8 :=
  match readByteChars (Blank.trimList text.toList) with
  | .ok value => .ok (UInt8.ofNat value)
  | .error fault => .error (.byte text fault)

/-- The values on the command line, with those that hold where none is given. -/
structure Arguments where
  host : String := defaultHost
  port : UInt16 := defaultPort
  unit : UInt8 := defaultUnit
  function : UInt8 := 0x03
  start : UInt16 := 0
  quantity : UInt16 := defaultQuantity
  timeoutMillis : UInt64 := defaultTimeoutMillis
  bufferSize : Nat := Limits.defaultBufferSize
  framed : Bool := false
  packetLog : Bool := false
  logLevel : String := "warn"
  deriving DecidableEq, Repr

namespace Arguments

/-- Puts a text into a slot; a flag is set whatever the text. -/
def set (a : Arguments) (slot : Slot) (text : String) : Except ValueFault Arguments :=
  match slot with
  | .host => .ok { a with host := text }
  | .port => (readUpTo 65535 text).map fun n => { a with port := UInt16.ofNat n }
  | .unitId => (readUpTo 255 text).map fun n => { a with unit := UInt8.ofNat n }
  | .function => (readByte text).map fun b => { a with function := b }
  | .start => (readUpTo 65535 text).map fun n => { a with start := UInt16.ofNat n }
  | .quantity => (readUpTo 65535 text).map fun n => { a with quantity := UInt16.ofNat n }
  | .timeoutMs => (readCount text).map fun n => { a with timeoutMillis := UInt64.ofNat n }
  | .bufferSize => (readCount text).map fun n => { a with bufferSize := n }
  | .framed => .ok { a with framed := true }
  | .packetLog => .ok { a with packetLog := true }
  | .logLevel => .ok { a with logLevel := text }

/-- The settings of the transport that the values give. -/
def transport (a : Arguments) : TransportSettings where
  timeout := .ofMillis a.timeoutMillis
  maxResponseSize := a.bufferSize
  receiveMode := if a.framed then .framed else .singleRead
  packetLogging := a.packetLog

/-- The plan that the values give. -/
def plan (a : Arguments) : Plan where
  host := a.host
  port := a.port
  unit := a.unit
  function := a.function
  start := a.start
  quantity := a.quantity
  transport := a.transport

/-- Without arguments the plan is the one that holds by itself. -/
theorem plan_empty : ({} : Arguments).plan = {} := rfl

/-- What holds by default is read as any other value: to give it changes nothing. -/
theorem set_default {slot : Slot} {text : String} (h : slot.default? = some text) :
    ({} : Arguments).set slot text = .ok {} := by
  cases slot <;> cases h <;> rfl

end Arguments

end ModbusTcp.CommandLine
