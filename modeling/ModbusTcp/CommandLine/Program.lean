import ModbusTcp.CommandLine.Reader
import ModbusTcp.Log
import ModbusTcp.Probe.Network

/-!
# The program

`check` is the work of the program: it tells what it is about to do, connects, makes the read of a
plan and closes, and prints the report. `program` reads the command line and installs the logger
before that. The lines a run prints, what it logs and what it leaves of the connection are its
result; the exit code is zero if the read succeeded, or if only help or the version was asked for.
-/

namespace ModbusTcp.CommandLine

/-!
## Help and version texts

What the program prints about itself instead of probing.
-/

/-- The version of the program. -/
def version : String := "0.1.0"

/-- The program and its version, in one line for the eye. -/
def info : String := s!"Modbus Probe v{version} - Modbus TCP connectivity check"

/-- What is printed when the version is asked for. -/
def versionLines : List String := [s!"modbus-probe {version}"]

/-- What the help says of a slot. -/
def Slot.about : Slot → String
  | .host => "Host name or IP address of the Modbus TCP endpoint"
  | .port => "TCP port"
  | .unitId => "Unit id (slave address behind a gateway)"
  | .function =>
    "Function code, decimal or 0x-prefixed hex (3 = holding, 4 = input registers)"
  | .start => "First register address"
  | .quantity => "Number of registers to read"
  | .timeoutMs => "Connect/send/receive timeout in milliseconds"
  | .bufferSize => "Receive buffer size for the single-read mode"
  | .framed => "Reassemble the response from its MBAP length instead of a single read"
  | .packetLog => "Log every frame as hex"
  | .logLevel => "Log level (trace, debug, info, warn, error, off)"

/-- What the help says of a slot, and the default behind it. -/
def Slot.help (slot : Slot) : String :=
  slot.about ++ slot.default?.elim "" fun text => s!" [default: {text}]"

/-- A line of the help on an option, with the name in a column of its own. -/
def optionLine (name about : String) : String :=
  String.ofList (name.toList.rightpad 33 ' ') ++ "  " ++ about

/-- What is printed when help is asked for. -/
def helpLines : List String :=
  ["Check that a Modbus TCP endpoint answers a register read",
    "",
    "Usage: modbus-probe [OPTIONS] [HOST] [PORT]",
    "",
    "Arguments:"] ++
  Slot.positionals.map (fun slot => s!"  {slot.label}  {slot.help}") ++
  ["", "Options:"] ++
  Slot.named.map (fun slot => optionLine s!"      {slot.label}" slot.help) ++
  [optionLine "  -h, --help" "Print help", optionLine "  -V, --version" "Print version"]

/-! ## Runs of the program -/

/-- What checking a plan came to. -/
structure Checked where
  success : Bool
  /-- the lines printed, one for each print -/
  lines : List String
  connection : Option Connection := none

/-- The line that announces a request. -/
def sendingLine (plan : Plan) : String :=
  s!"Sending read request (FC={Hex.ofByte plan.function} " ++
    s!"{FunctionCode.description plan.function}, Start={plan.start.toNat}, " ++
    s!"Qty={plan.quantity.toNat})..."

/-- Checks a plan over a network and prints what happens. -/
def check (plan : Plan) (net : Network) : Logged Checked :=
  let testing := s!"Testing Modbus connection to {plan.address}"
  match plan.check with
  | .error why => return ⟨false, [testing, s!"[ERROR] {(Failure.configuration why).message}"], none⟩
  | .ok () => do
    let connecting := s!"Connecting to {plan.address}..."
    match ← Connection.connect plan.host plan.port plan.transport net with
    | .error f => return ⟨false, [testing, connecting, f.line], none⟩
    | .ok connection =>
      let (report, client) ← (Client.mk connection 1).runPlan plan
      return ⟨report.isSuccess,
        [testing, connecting, "[OK] Connected successfully", sendingLine plan] ++
          report.lines plan.start ++ ["Connection closed"],
        some client.transport⟩

/-- What a run of the program leaves behind. -/
structure Finish where
  exitCode : UInt8
  /-- the lines on standard output, one for each print -/
  output : List String := []
  /-- the refusal of the command line or of the log level, on standard error -/
  complaint : Option String := none
  /-- the events written to the log on standard error -/
  log : List LogEvent := []
  connection : Option Connection := none

/-- How the program ends if its command line is not to be worked with. -/
def Stop.finish : Stop → Finish
  | .help => { exitCode := 0, output := helpLines }
  | .version => { exitCode := 0, output := versionLines }
  | .usage error => { exitCode := 1, complaint := some error.written }

/-- How the program ends after a check, with the events that its logger writes. -/
def Checked.finish (logger : Logger) (c : Logged Checked) : Finish where
  exitCode := if c.value.success then 0 else 1
  output := c.value.lines
  log := logger.select c.events
  connection := c.value.connection

/-- Runs the program on the arguments after its name. The runtime that a check is made on is taken
to start: the end of a run in which it does not, behind the logger and with exit code one, is left
out. -/
def program (arguments : List String) (net : Network) : Finish :=
  match read arguments with
  | .error stop => stop.finish
  | .ok a =>
    match ({} : Logger).install a.logLevel with
    | .error why =>
      { exitCode := 1, complaint := some s!"[ERROR] {(Failure.configuration why).message}" }
    | .ok logger => Checked.finish logger (check a.plan net)

end ModbusTcp.CommandLine
