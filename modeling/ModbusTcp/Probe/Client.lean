import ModbusTcp.Frame.Reading
import ModbusTcp.Text.Characters
import ModbusTcp.Transport.Basic

/-!
# Plans, reports and clients

A plan says what to read and where, a report tells what came of a read, and a client makes reads
over one transport.
-/

namespace ModbusTcp

/-!
## Probe plans

What to probe and how: the endpoint, the one read to make there, and the settings of the transport.
A plan without a host or a port, or with settings that no exchange can be made with, is refused by
`Plan.check`.
-/

/-- The host that is probed unless another one is named. -/
def defaultHost : String := "127.0.0.1"

/-- The port of Modbus TCP. -/
def defaultPort : UInt16 := 502

/-- The unit that is asked unless another one is given. -/
def defaultUnit : UInt8 := 1

/-- The number of registers that is read unless another one is given. -/
def defaultQuantity : UInt16 := 10

/-- The endpoint and the read of one probe. -/
structure Plan where
  host : String := defaultHost
  port : UInt16 := defaultPort
  unit : UInt8 := defaultUnit
  function : UInt8 := FunctionCode.readHoldingRegisters
  start : UInt16 := 0
  quantity : UInt16 := defaultQuantity
  transport : TransportSettings := {}
  deriving DecidableEq, Repr

namespace Plan

/-- The endpoint as a text. -/
def address (p : Plan) : String := Address.text p.host p.port

/-- Refuses a blank host, the port zero, and settings that no exchange can be made with. -/
def check (p : Plan) : Except SettingFault Unit :=
  if Blank.trimList p.host.toList = [] then .error .emptyHost
  else if p.port = 0 then .error .zeroPort
  else p.transport.check

end Plan

/-!
## Reports

A report holds what was sent, what came back and what it meant. `Report.lines` is the report for
the eye: the bytes of the request, those of the reply if there was one, and then either one line
for each register, numbered from the first address on without a limit, or the payload, or the
failure.
-/

/-- The outcome of one read with the bytes that led to it. -/
structure Report where
  request : Request
  requestBytes : Bytes
  /-- the reply, if the transport delivered one -/
  responseBytes : Option Bytes
  outcome : Except Failure Reading

namespace Report

/-- The read gave a reading. -/
def isSuccess (r : Report) : Bool := r.outcome.isOk

/-- The register values of a successful register read. -/
def registers? (r : Report) : Option (List UInt16) := r.outcome.toOption.bind Reading.registers?

/-- One register with its value in decimal and in hexadecimal. -/
def registerLine (address : Nat) (value : UInt16) : String :=
  s!"  Register {address}: {value.toNat} (0x{Hex.ofWord value})"

/-- The lines of registers whose addresses ascend from `address`. -/
def registerLines (address : Nat) : List UInt16 → List String
  | [] => []
  | value :: rest => registerLine address value :: registerLines (address + 1) rest

/-- The lines of a reading, under a line that says how much was read. -/
def readingLines (start : UInt16) : Reading → List String
  | .registers values =>
    s!"[OK] Successfully read {values.length} registers:" :: registerLines start.toNat values
  | .raw payload => [s!"[OK] Received {payload.length} payload bytes: {Hex.dump payload}"]

/-- The lines of an outcome: those of the reading, or the one of the failure. -/
def outcomeLines (start : UInt16) : Except Failure Reading → List String
  | .ok reading => readingLines start reading
  | .error f => [f.line]

/-- The lines of the bytes of a reply, if there was one. -/
def responseLines : Option Bytes → List String
  | some bytes => [s!"Received {bytes.length} bytes", s!"Response bytes: {Hex.dump bytes}"]
  | none => []

/-- The report as lines; registers are numbered from `start`. -/
def lines (r : Report) (start : UInt16) : List String :=
  s!"Request bytes: {Hex.dump r.requestBytes}" ::
    (responseLines r.responseBytes ++ outcomeLines start r.outcome)

end Report

/-!
## Clients

A client makes reads over one transport. It numbers them from one on, without a gap, and starts
again at zero after the largest number; whatever a read comes to, it is told in a report and the
transport stays open. `Client.readAndClose` makes one read and closes the transport, whatever the
read came to.
-/

/-- Makes reads over a transport and numbers them. -/
structure Client (τ : Type) where
  transport : τ
  nextTransaction : UInt16 := 1

namespace Client

variable {τ : Type} [Transport τ]

/-- A reply with another transaction or protocol than the request's is remarked on. -/
def remarkForeign (request : Request) (reply : Bytes) : Logged Unit :=
  match Header.ofFrame? reply with
  | some header =>
    Logged.logIf (!header.answers request) (.foreignHeader header request.transaction)
  | none => pure ()

/-- What an exchange means for a read. -/
def interpret (request : Request) : Except Failure Bytes → Logged Report
  | .error f => return ⟨request, request.toBytes, none, .error f⟩
  | .ok reply => do
    remarkForeign request reply
    let outcome ← Reading.decode reply
    return ⟨request, request.toBytes, some reply, outcome⟩

/-- Makes one read: the request is put into bytes and exchanged, and the result is told in a report.
The next read has the next number, whatever came of this one. -/
def read (c : Client τ) (unit function : UInt8) (start quantity : UInt16) :
    Logged (Report × Client τ) := do
  let request := Request.read c.nextTransaction unit function start quantity
  let bytes ← request.encode
  Logged.log (.sending function start quantity)
  let (result, transport) ← Transport.exchange c.transport bytes
  let report ← interpret request result
  return (report, ⟨transport, c.nextTransaction + 1⟩)

/-- Closes the transport. -/
def close (c : Client τ) : Logged (Except Failure Unit × Client τ) := do
  let (result, transport) ← Transport.close c.transport
  return (result, { c with transport := transport })

/-- Makes one read and closes the transport; a close that fails is only remarked on. -/
def readAndClose (c : Client τ) (unit function : UInt8) (start quantity : UInt16) :
    Logged (Report × Client τ) := do
  let (report, c) ← c.read unit function start quantity
  let (result, c) ← c.close
  if let .error why := result then
    Logged.log (.closeFailed why)
  return (report, c)

/-- Makes the read of a plan and closes the transport. -/
def runPlan (c : Client τ) (plan : Plan) : Logged (Report × Client τ) :=
  c.readAndClose plan.unit plan.function plan.start plan.quantity

/-- One thing to do with a client that stays open. -/
inductive Step where
  | read (unit function : UInt8) (start quantity : UInt16)
  | close
  deriving DecidableEq, Repr

/-- What a step comes to. -/
inductive Answer where
  | report (r : Report)
  | closed (result : Except Failure Unit)

/-- Takes one step. -/
def step (c : Client τ) : Step → Logged (Answer × Client τ)
  | .read unit function start quantity => do
    let (report, c) ← c.read unit function start quantity
    return (.report report, c)
  | .close => do
    let (result, c) ← c.close
    return (.closed result, c)

/-- Takes steps one after the other; the answers are in the order of the steps. -/
def run (c : Client τ) : List Step → Logged (List Answer × Client τ)
  | [] => return ([], c)
  | s :: rest => do
    let (answer, c) ← c.step s
    let (answers, c) ← c.run rest
    return (answer :: answers, c)

end Client

/-!
## The steps of a client

A read makes one exchange and a close makes one close; that is all a client asks of its transport.
What is told of a read depends on its request and on the result of its exchange alone
(`Report.ofResult`).
-/

/-- What is told of a request, by the result of its exchange. -/
def Report.ofResult (r : Request) : Except Failure Bytes → Report
  | .ok reply => ⟨r, r.toBytes, some reply, Reading.ofFrame reply⟩
  | .error f => ⟨r, r.toBytes, none, .error f⟩

namespace Client

variable {τ : Type} [Transport τ]

theorem value_interpret (r : Request) (result : Except Failure Bytes) :
    (interpret r result).value = Report.ofResult r result := by
  cases result <;> rfl

/-- A read, by the exchange that it makes. -/
theorem value_read (p : Client τ) (unit function : UInt8) (start quantity : UInt16) :
    (p.read unit function start quantity).value =
      let request := Request.read p.nextTransaction unit function start quantity
      let sent := Transport.exchange p.transport request.toBytes
      ((interpret request sent.value.1).value, ⟨sent.value.2, p.nextTransaction + 1⟩) := rfl

/-- What is told of a read, by the result of its exchange. -/
theorem report_read (p : Client τ) (unit function : UInt8) (start quantity : UInt16) :
    (p.read unit function start quantity).value.1 =
      let request := Request.read p.nextTransaction unit function start quantity
      Report.ofResult request (Transport.exchange p.transport request.toBytes).value.1 := by
  rw [value_read]
  exact value_interpret _ _

theorem events_read (p : Client τ) (unit function : UInt8) (start quantity : UInt16) :
    (p.read unit function start quantity).events =
      let request := Request.read p.nextTransaction unit function start quantity
      let sent := Transport.exchange p.transport request.toBytes
      .encoded request :: .sending function start quantity ::
        (sent.events ++ (interpret request sent.value.1).events) := by
  simp [read, Request.encode]

theorem value_run_cons (p : Client τ) (s : Step) (rest : List Step) :
    (p.run (s :: rest)).value =
      ((p.step s).value.1 :: ((p.step s).value.2.run rest).value.1,
        ((p.step s).value.2.run rest).value.2) := rfl

theorem events_run_cons (p : Client τ) (s : Step) (rest : List Step) :
    (p.run (s :: rest)).events = (p.step s).events ++ ((p.step s).value.2.run rest).events := by
  simp [run]

/-- A step that reads, by its exchange. -/
theorem value_step_read (p : Client τ) (unit function : UInt8) (start quantity : UInt16) :
    (p.step (.read unit function start quantity)).value =
      let request := Request.read p.nextTransaction unit function start quantity
      let sent := Transport.exchange p.transport request.toBytes
      (.report (Report.ofResult request sent.value.1),
        ⟨sent.value.2, p.nextTransaction + 1⟩) := by
  simp only [← value_interpret]
  rfl

end Client

end ModbusTcp
