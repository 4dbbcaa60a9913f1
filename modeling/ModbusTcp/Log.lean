import ModbusTcp.Failure
import ModbusTcp.Frame.Layout
import ModbusTcp.Text.Characters
import ModbusTcp.Text.Terminal

/-!
# The log

What happens on the way to a result is told in events. A function that logs gives its events
together with its result (`Logged`), and the logger of the process writes those of them that its
filter lets through (`Logger`).
-/

namespace ModbusTcp

/-!
## Log levels and filters

An event has one of five levels; a filter lets through its own level and the more severe ones, or,
if it is `off`, nothing. A filter is named by one of six words, in any case and with blanks around
it (`LogFilter.ofText`).
-/

/-- How much an event matters, the least first. -/
inductive LogLevel where
  | trace
  | debug
  | info
  | warn
  | error
  deriving DecidableEq, Repr

namespace LogLevel

/-- The rank of a level among the five. -/
def severity : LogLevel → Nat
  | .trace => 0
  | .debug => 1
  | .info => 2
  | .warn => 3
  | .error => 4

/-- What a line of the log calls its level. -/
def name : LogLevel → String
  | .trace => "TRACE"
  | .debug => "DEBUG"
  | .info => "INFO"
  | .warn => "WARN"
  | .error => "ERROR"

end LogLevel

/-- Which events are wanted: those from a level on, or none. -/
inductive LogFilter where
  | atLeast (least : LogLevel)
  | off
  deriving DecidableEq, Repr

namespace LogFilter

/-- All filters, the most talkative first. -/
def all : List LogFilter :=
  [.atLeast .trace, .atLeast .debug, .atLeast .info, .atLeast .warn, .atLeast .error, .off]

/-- The word that stands for a filter. -/
def name : LogFilter → String
  | .atLeast .trace => "trace"
  | .atLeast .debug => "debug"
  | .atLeast .info => "info"
  | .atLeast .warn => "warn"
  | .atLeast .error => "error"
  | .off => "off"

/-- The filter lets events of a level through. -/
def accepts : LogFilter → LogLevel → Bool
  | .atLeast least, level => least.severity ≤ level.severity
  | .off, _ => false

/-- The text without blanks at its ends and in lower case. -/
def normalize (text : String) : String :=
  String.ofList (LowerCase.ofList (Blank.trimList text.toList))

/-- The filter that a text names. A text that names none is quoted in the refusal as it was given.
-/
def ofText (text : String) : Except SettingFault LogFilter :=
  match all.find? (·.name == normalize text) with
  | some filter => .ok filter
  | none => .error (.unknownLogLevel text)

end LogFilter

/-!
## Log events

What the library says about its work, one constructor for each kind of remark. The level and the
wording of a remark are functions of it (`LogEvent.level`, `LogEvent.message`), so what was logged
can be reasoned about without looking at text.
-/

/-- A remark for the log. -/
inductive LogEvent where
  | encoded (request : Request)
  | sending (function : UInt8) (start quantity : UInt16)
  /-- bytes went one way or the other -/
  | packet (direction : String) (unit : Option UInt8) (data : Bytes)
  /-- a single read brought so many bytes -/
  | singleRead (length : Nat)
  /-- a frame of so many bytes was collected -/
  | reassembled (length : Nat)
  /-- the header of the reply being decoded -/
  | replyHeader (header : Header)
  | exceptionReply (function code : UInt8)
  /-- fewer bytes came than the byte count says -/
  | shortData (declared received : Nat)
  /-- the reply's function has no register decoding -/
  | rawReply (function : UInt8)
  /-- the reply's header does not answer the request -/
  | foreignHeader (header : Header) (transaction : UInt16)
  | connecting (peer : String) (millis : UInt64)
  | connected (peer : String)
  /-- the connection of a probe was made -/
  | probing (address : String)
  /-- shutting the stream down reported a fault -/
  | shutdownFault (peer : String) (fault : IoFault)
  | closed (peer : String)
  | closeFailed (why : Failure)
  | note (level : LogLevel) (text : String)
  deriving DecidableEq, Repr

namespace LogEvent

/-- The level of an event. -/
def level : LogEvent → LogLevel
  | .packet .. | .probing _ => .info
  | .shortData .. | .foreignHeader .. | .closeFailed _ => .warn
  | .note level _ => level
  | _ => .debug

/-- A function code with its description, as several events show it. -/
def functionText (function : UInt8) : String :=
  s!"FC={Hex.ofByte function} ({FunctionCode.description function})"

/-- The wording of an event. -/
def message : LogEvent → String
  | .encoded r =>
    s!"Request encoded: tid={r.transaction.toNat} unit={r.unit.toNat} {functionText r.function} " ++
      s!"start={r.start.toNat} qty={r.quantity.toNat}"
  | .sending function start quantity =>
    s!"Sending {functionText function} start={start.toNat} qty={quantity.toNat}"
  | .packet direction (some unit) data =>
    s!"[MODBUS-TCP] {direction} unit:{unit.toNat} {Hex.dump data}"
  | .packet direction none data => s!"[MODBUS-TCP] {direction} {Hex.dump data}"
  | .singleRead length => s!"Single read returned {length} bytes"
  | .reassembled length => s!"Reassembled frame of {length} bytes"
  | .replyHeader h =>
    s!"Response header: tid={h.transaction.toNat} proto={h.protocol.toNat} " ++
      s!"len={h.length.toNat} unit={h.unit.toNat}"
  | .exceptionReply function code =>
    s!"Exception response: {functionText function}, exception_code={Hex.ofByte code}"
  | .shortData declared received =>
    s!"Byte count {declared} exceeds received data ({received} bytes), decoding what arrived"
  | .rawReply function =>
    s!"{functionText function} has no register decoding, returning raw payload"
  | .foreignHeader h transaction =>
    s!"Response header tid={h.transaction.toNat} proto={h.protocol.toNat} does not match " ++
      s!"request tid={transaction.toNat}"
  | .connecting peer millis => s!"Connecting to {peer} (timeout {millis.toNat}ms)"
  | .connected peer => s!"Connected to {peer}"
  | .probing address => s!"Connected to {address}"
  | .shutdownFault peer fault => s!"Shutdown of {peer} reported: {fault.text}"
  | .closed peer => s!"Connection to {peer} closed"
  | .closeFailed why => s!"Error while closing transport: {why.message}"
  | .note _ text => text

/-- The event as a line of the log, after the time. -/
def line (e : LogEvent) : String := s!"[{e.level.name}] {Terminal.escape e.message}"

end LogEvent

/-- The events of a list that a filter lets through. -/
def LogFilter.select (filter : LogFilter) (events : List LogEvent) : List LogEvent :=
  events.filter fun e => filter.accepts e.level

/-!
## Results with a log

`Logged α` is a result together with the events that led to it, in order. It is a monad: a later
step's events follow those of the earlier ones, and no step can see or change what was logged
before it.
-/

/-- A result and the events of its making. -/
structure Logged (α : Type) where
  events : List LogEvent
  value : α
  deriving Repr

namespace Logged

variable {α β γ : Type}

/-- The events of a step come behind those of the steps before it. -/
instance : Monad Logged where
  pure a := ⟨[], a⟩
  bind x f := ⟨x.events ++ (f x.value).events, (f x.value).value⟩

/-- Logs one event. -/
def log (e : LogEvent) : Logged Unit := ⟨[e], ()⟩

/-- Logs an event under a condition. -/
def logIf (b : Bool) (e : LogEvent) : Logged Unit := if b then log e else pure ()

@[simp]
theorem value_pure (a : α) : (pure a : Logged α).value = a := rfl

@[simp]
theorem events_pure (a : α) : (pure a : Logged α).events = [] := rfl

@[simp]
theorem value_bind (x : Logged α) (f : α → Logged β) : (x >>= f).value = (f x.value).value := rfl

@[simp]
theorem events_bind (x : Logged α) (f : α → Logged β) :
    (x >>= f).events = x.events ++ (f x.value).events := rfl

@[simp]
theorem value_map (f : α → β) (x : Logged α) : (f <$> x).value = f x.value := rfl

@[simp]
theorem events_map (f : α → β) (x : Logged α) : (f <$> x).events = x.events := by
  change x.events ++ [] = x.events
  simp

@[simp]
theorem events_log (e : LogEvent) : (log e).events = [e] := rfl

@[simp]
theorem events_logIf (b : Bool) (e : LogEvent) : (logIf b e).events = if b then [e] else [] := by
  cases b <;> rfl

/-- Two logged results are the same if their events and their values are. -/
@[ext]
theorem ext {x y : Logged α} (he : x.events = y.events) (hv : x.value = y.value) : x = y := by
  cases x
  cases y
  simp_all

/-- Steps may be grouped as one likes: lists of events are appended. -/
instance : LawfulMonad Logged :=
  LawfulMonad.mk' Logged (fun x => by ext1 <;> simp) (fun a f => by ext1 <;> simp)
    (fun x f g => by ext1 <;> simp)

end Logged

/-!
## Loggers

The logger of a process is installed once, with a filter that stays; before that, and for events
that the filter holds back, nothing is written.
-/

/-- The logger of a process: its filter, once it is installed. -/
structure Logger where
  filter : Option LogFilter := none
  deriving DecidableEq, Repr

namespace Logger

/-- Installs a filter by its name, if none is installed yet. A name that is none is refused first.
-/
def install (l : Logger) (level : String) : Except SettingFault Logger :=
  match LogFilter.ofText level, l.filter with
  | .error why, _ => .error why
  | .ok _, some _ => .error .loggerInstalled
  | .ok filter, none => .ok ⟨some filter⟩

/-- The events that the logger writes: none before it is installed. -/
def select (l : Logger) (events : List LogEvent) : List LogEvent :=
  l.filter.elim [] (·.select events)

/-- The lines that the logger writes, without their times. -/
def lines (l : Logger) (events : List LogEvent) : List String := (l.select events).map LogEvent.line

end Logger

end ModbusTcp
