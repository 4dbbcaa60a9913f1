import ModbusTcp.CommandLine.Program
import ModbusTcp.Probe.Network
import Std.Async.DNS
import Std.Async.TCP
import Std.Async.Timer
import Std.Time

/-!
# The command

Observes the peer that the command line names, runs the program over what was observed, and prints
what the run leaves behind.
-/

namespace ModbusTcp.Command

open Std.Async

/-- The fault that an error of the system stands for. -/
def faultOf (e : IO.Error) : IoFault :=
  let number (code : UInt32) : Nat :=
    if code.toNat < 2147483648 then code.toNat else 4294967296 - code.toNat
  match e with
  | .alreadyExists _ code _ | .invalidArgument _ code _ | .permissionDenied _ code _
  | .resourceExhausted _ code _ | .inappropriateType _ code _ | .noSuchThing _ code _
  | .interrupted _ code _ | .noFileOrDirectory _ code _
  | .otherError code _ | .resourceBusy code _ | .resourceVanished code _
  | .unsupportedOperation code _ | .hardwareFault code _ | .unsatisfiedConstraints code _
  | .illegalOperation code _ | .protocolError code _ | .timeExpired code _ =>
    .ofErrno (number code)
  | .unexpectedEof => .ofKind .unexpectedEof
  | .userError text => ⟨.other, text⟩

/-- The longest wait that is asked of the system's timer: thirty years. -/
def longestWait : Nat := 946080000000

/-- Waits for an action, but not longer than so many milliseconds; its error is a value. -/
def within {α : Type} (millis : Nat) (action : Async α) :
    Async (Option (Except IoFault α)) :=
  let tried : Async (Option (Except IoFault α)) :=
    tryCatch (do return some (.ok (← action))) fun e => return some (.error (faultOf e))
  Async.race tried do
    sleep (.ofNat (min millis longestWait))
    return none

/-- The addresses of a host, which may be given as an address itself. -/
def addressesOf (host : String) : Async (List Std.Net.IPAddr) :=
  match Std.Net.IPv4Addr.ofString host, Std.Net.IPv6Addr.ofString host with
  | some v4, _ => return [.v4 v4]
  | none, some v6 => return [.v6 v6]
  | none, none => do
    try
      return (← DNS.getAddrInfo host "").toList
    catch e =>
      throw (.userError s!"failed to lookup address information: {e}")

/-- The endpoint of a port at an address. -/
def endpoint (port : UInt16) : Std.Net.IPAddr → Std.Net.SocketAddress
  | .v4 a => .v4 ⟨a, port⟩
  | .v6 a => .v6 ⟨a, port⟩

/-- Connects to the first address that accepts. -/
def connectAny (port : UInt16) : List Std.Net.IPAddr → Async TCP.Socket.Client
  | [] => throw (.userError "could not resolve to any addresses")
  | [a] => do
    let socket ← TCP.Socket.Client.mk
    socket.connect (endpoint port a)
    return socket
  | a :: rest => do
    try
      let socket ← TCP.Socket.Client.mk
      socket.connect (endpoint port a)
      return socket
    catch _ => connectAny port rest

/-- Reads from a socket for as long as the probe would wait, and no longer than until `ends`. -/
partial def observeReads (plan : Plan) (socket : TCP.Socket.Client) (ends : Nat)
    (seen : List Arrival) : Async (List Arrival) := do
  if !plan.awaitsMore seen then
    return seen
  let now ← IO.monoMsNow
  match ← within (ends - now) (socket.recv? 65535) with
  | none => return seen ++ [.pause .stall]
  | some (.error fault) => return seen ++ [.fault fault]
  | some (.ok none) => return seen ++ [.eof]
  | some (.ok (some bytes)) =>
    observeReads plan socket ends (seen ++ [.data bytes.toList])

/-- Sends the request of a plan over a socket and observes what comes back. -/
def observeWire (plan : Plan) (socket : TCP.Socket.Client) : Async Wire := do
  let limit := plan.transport.timeout.ticks
  match ← within limit (socket.send (ByteArray.mk plan.request.toBytes.toArray)) with
  | none => return { writes := [.pause .stall] }
  | some (.error fault) => return { writes := [.fault fault] }
  | some (.ok ()) =>
    let reads ← observeReads plan socket ((← IO.monoMsNow) + limit) []
    let shutdown ← within limit socket.shutdown
    let fault := match shutdown with
      | some (.error fault) => some fault
      | _ => none
    return { reads := reads, shutdownFault := fault }

/-- Connects as a plan says and observes what the connection meets. -/
def observe (plan : Plan) : Async Network := do
  let connecting := do connectAny plan.port (← addressesOf plan.host)
  match ← within plan.transport.timeout.ticks connecting with
  | none => return { result := none }
  | some (.error fault) => return { result := some (.error fault) }
  | some (.ok socket) => return { result := some (.ok (← observeWire plan socket)) }

/-- The plan that the program would connect for. -/
def planOf? (arguments : List String) : Option Plan :=
  match CommandLine.read arguments with
  | .ok a =>
    match LogFilter.ofText a.logLevel, a.plan.check with
    | .ok _, .ok () => some a.plan
    | _, _ => none
  | .error _ => none

/-- The time of a log line. -/
def timestamp : IO String := do
  let now ← Std.Time.Timestamp.now
  let date := Std.Time.DateTime.ofTimestamp now Std.Time.TimeZone.ZoneRules.UTC
  return date.format "uuuu-MM-dd'T'HH:mm:ss.SSS'Z'"

/-- Prints what a run leaves behind and gives its exit code. -/
def conclude (finish : CommandLine.Finish) : IO UInt32 := do
  for line in finish.output do
    IO.println line
  if let some complaint := finish.complaint then
    IO.eprintln complaint
  for event in finish.log do
    let time ← timestamp
    IO.eprintln s!"{time} {event.line}"
  return finish.exitCode.toUInt32

/-- Observes the peer, if the arguments name one, and runs the program over it. -/
def run (arguments : List String) : IO UInt32 := do
  let network : Network ← match planOf? arguments with
    | some plan => (observe plan).block
    | none => pure { result := none }
  conclude (CommandLine.program arguments network)

end ModbusTcp.Command

/-- Probes the peer that the arguments name; the exit code is zero if the read succeeded. -/
def main (arguments : List String) : IO UInt32 := ModbusTcp.Command.run arguments
