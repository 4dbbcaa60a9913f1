import ModbusTcp.Bytes
import ModbusTcp.Frame.Layout

/-!
# Failures

Everything that can go wrong between a setting and a decoded reply, by cause. The wording of each
cause is in `Failure.message`, and three questions about a failure tell a caller what to do next:
was it a matter of time, of the connection, or did the device answer with something unusable?
-/

namespace ModbusTcp

/-!
## Faults of input and output

What the operating system or a stream reports when an operation on a connection fails: a kind, by
which the program decides, and a text, which it only passes on. Faults that come as an error number
of the system have their kind and text from a table.
-/

/-- The kinds of faults, as far as the program or its texts tell them apart. -/
inductive IoKind where
  | notFound
  | permissionDenied
  | connectionRefused
  | connectionReset
  | connectionAborted
  | notConnected
  | addressInUse
  | addressNotAvailable
  | hostUnreachable
  | networkUnreachable
  | brokenPipe
  | wouldBlock
  | invalidInput
  | invalidData
  | timedOut
  | writeZero
  | interrupted
  | unexpectedEof
  | tooManyOpenFiles
  | uncategorized
  | other
  deriving DecidableEq, Repr

/-- The text that a fault has unless it brings its own. -/
def IoKind.text : IoKind → String
  | .notFound => "entity not found"
  | .permissionDenied => "permission denied"
  | .connectionRefused => "connection refused"
  | .connectionReset => "connection reset"
  | .connectionAborted => "connection aborted"
  | .notConnected => "not connected"
  | .addressInUse => "address in use"
  | .addressNotAvailable => "address not available"
  | .hostUnreachable => "host unreachable"
  | .networkUnreachable => "network unreachable"
  | .brokenPipe => "broken pipe"
  | .wouldBlock => "operation would block"
  | .invalidInput => "invalid input parameter"
  | .invalidData => "invalid data"
  | .timedOut => "timed out"
  | .writeZero => "write zero"
  | .interrupted => "operation interrupted"
  | .unexpectedEof => "unexpected end of file"
  | .tooManyOpenFiles => "too many open files"
  | .uncategorized => "uncategorized error"
  | .other => "other error"

/-- A fault: its kind and its text. -/
structure IoFault where
  kind : IoKind
  text : String
  deriving DecidableEq, Repr

namespace IoFault

/-- The fault of a kind with the text of the kind. -/
def ofKind (kind : IoKind) : IoFault := ⟨kind, kind.text⟩

/-- What the system calls an error number, and the kind it belongs to. -/
def describe (number : Nat) : String × IoKind :=
  match number with
  | 1 => ("Operation not permitted", .permissionDenied)
  | 2 => ("No such file or directory", .notFound)
  | 13 => ("Permission denied", .permissionDenied)
  | 22 => ("Invalid argument", .invalidInput)
  | 24 => ("Too many open files", .tooManyOpenFiles)
  | 32 => ("Broken pipe", .brokenPipe)
  | 98 => ("Address already in use", .addressInUse)
  | 99 => ("Cannot assign requested address", .addressNotAvailable)
  | 101 => ("Network is unreachable", .networkUnreachable)
  | 103 => ("Software caused connection abort", .connectionAborted)
  | 104 => ("Connection reset by peer", .connectionReset)
  | 105 => ("No buffer space available", .uncategorized)
  | 110 => ("Connection timed out", .timedOut)
  | 111 => ("Connection refused", .connectionRefused)
  | 112 => ("Host is down", .uncategorized)
  | 113 => ("No route to host", .hostUnreachable)
  | n => (s!"Unknown error {n}", .uncategorized)

/-- The fault that an error number of the system stands for; its text shows the number too. -/
def ofErrno (number : Nat) : IoFault :=
  ⟨(describe number).2, s!"{(describe number).1} (os error {number})"⟩

end IoFault

/-! ## Failures of settings and exchanges -/

/-- The half of an exchange that a time limit cut off. -/
inductive Phase where
  | send
  | receive
  | named (text : String)
  deriving DecidableEq, Repr

/-- What was being done, as a failure says it. -/
def Phase.text : Phase → String
  | .send => "send request"
  | .receive => "receive response"
  | .named text => text

/-- Why a header cannot be used to collect the rest of its frame. -/
inductive FrameFault where
  | length (value : Nat)
  | named (text : String)
  deriving DecidableEq, Repr

/-- What a failure says of the header. -/
def FrameFault.text : FrameFault → String
  | .length value => s!"MBAP length {value} outside 1..={Limits.maxMbapLength}"
  | .named text => text

/-- Why a setting is refused. -/
inductive SettingFault where
  | zeroTimeout
  | bufferTooSmall (size : Nat)
  | bufferTooLarge (size : Nat)
  | emptyHost
  | zeroPort
  | unknownLogLevel (given : String)
  | loggerInstalled
  | named (text : String)
  deriving DecidableEq, Repr

/-- What a failure says of the setting. -/
def SettingFault.text : SettingFault → String
  | .zeroTimeout => "Timeout must be greater than zero"
  | .bufferTooSmall size =>
    s!"Response buffer of {size} bytes cannot hold a {Limits.minReplyLength}-byte minimum frame"
  | .bufferTooLarge size =>
    s!"Response buffer of {size} bytes exceeds the {Limits.maxBufferSize}-byte limit"
  | .emptyHost => "Host must not be empty"
  | .zeroPort => "Port must not be 0"
  | .unknownLogLevel given => s!"Unknown log level: {given}"
  | .loggerInstalled =>
    "Logger already initialized: a global default trace dispatcher has already been set"
  | .named text => text

/-- Why an exchange, or an attempt at one, gave no reading. -/
inductive Failure where
  /-- no connection within the time limit -/
  | connectTimeout (address : String) (millis : UInt64)
  | connectionRefused (address : String)
  /-- a reply below the smallest frame -/
  | tooShort (length : Nat)
  /-- the device answered with an exception -/
  | exception (function code : UInt8)
  /-- a phase of the exchange did not end within the time limit -/
  | timeout (phase : Phase) (millis : UInt64)
  /-- the frame's boundary cannot be told from its header -/
  | invalidFrame (why : FrameFault)
  /-- the stream ended inside a frame -/
  | connectionClosed
  | notConnected
  /-- a setting that no exchange can be made with -/
  | configuration (why : SettingFault)
  /-- any other fault of the stream or the system -/
  | io (fault : IoFault)
  deriving DecidableEq, Repr

namespace Failure

/-- The wording of a failure. -/
def message : Failure → String
  | .connectTimeout address millis =>
    s!"Connection timeout: {address} did not accept within {millis.toNat}ms"
  | .connectionRefused address => s!"Connection refused by {address}"
  | .tooShort length =>
    s!"Response too short: {length} bytes (minimum {Limits.minReplyLength})"
  | .exception function code =>
    s!"Modbus exception: {code.toNat} for function {Hex.ofByte function}"
  | .timeout phase millis => s!"Timeout during {phase.text} after {millis.toNat}ms"
  | .invalidFrame why => s!"Invalid frame: {why.text}"
  | .connectionClosed => "Connection closed by peer"
  | .notConnected => "Transport is not connected"
  | .configuration why => s!"Configuration error: {why.text}"
  | .io fault => s!"I/O error: {fault.text}"

/-- A time limit ran out: that of connecting, or that of a phase of an exchange. -/
def isTimeout : Failure → Bool
  | .connectTimeout .. | .timeout .. => true
  | _ => false

/-- The connection could not be made or kept. -/
def isConnectionError : Failure → Bool
  | .connectTimeout .. | .connectionRefused _ | .connectionClosed | .notConnected => true
  | _ => false

/-- There was an answer, but an unusable one or an exception. -/
def isProtocolError : Failure → Bool
  | .tooShort _ | .exception .. | .invalidFrame _ => true
  | _ => false

/-- The code that the device answered with, if it answered with an exception. -/
def exceptionCode? : Failure → Option UInt8
  | .exception _ code => some code
  | _ => none

/-- The code of an exception with its name. -/
def exceptionDescription? (f : Failure) : Option String :=
  f.exceptionCode?.map fun code => s!"{code.toNat} ({ExceptionCode.name code})"

/-- The failure as one line of a report. -/
def line (f : Failure) : String :=
  match f with
  | .connectTimeout .. => "[ERROR] Connection timeout"
  | .connectionRefused _ => "[ERROR] Connection refused"
  | .exception .. => "[ERROR] Modbus Exception: " ++ f.exceptionDescription?.getD ""
  | _ => s!"[ERROR] {f.message}"

end Failure

end ModbusTcp
