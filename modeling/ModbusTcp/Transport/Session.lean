import ModbusTcp.Transport.Basic
import ModbusTcp.Wire.Basic

/-!
# Connections and sessions

A connection is a transport over a wire, and a session is a run of steps on one connection.
-/

namespace ModbusTcp

/-!
## Connections

A connection is a transport over a wire. An exchange writes the request and then receives the
reply, each within the time limit; every way it can end is counted once. Refused exchanges, those
with unusable settings or after a close, touch nothing. Closing shuts the wire down once and never
fails.
-/

/-- A transport over one wire. -/
structure Connection where
  wire : Wire
  peer : String
  settings : TransportSettings := {}
  isOpen : Bool := true
  stats : TransportStats := {}
  deriving Repr

namespace Connection

/-- The deadline of a phase that begins now. -/
def deadline (c : Connection) : Deadline := some (c.wire.now + c.settings.timeout.ticks)

/-- Logs bytes that went one way or the other, if packets are logged. -/
def logPacket (c : Connection) (direction : String) (unit : Option UInt8) (data : Bytes) :
    Logged Unit :=
  Logged.logIf c.settings.packetLogging (.packet direction unit data)

/-- Receives a reply as the settings say. -/
def receive (c : Connection) : Logged (Awaited (Except Failure Bytes) × Wire) :=
  match c.settings.receiveMode with
  | .singleRead => c.wire.readOnce c.settings.maxResponseSize c.deadline
  | .framed => c.wire.readFrame c.deadline

/-- Counts a request that is about to be sent. -/
def countRequest (c : Connection) : Connection :=
  { c with stats := { c.stats with requestsSent := c.stats.requestsSent + 1 } }

/-- Counts a request that was taken completely. -/
def countSent (c : Connection) (length : Nat) : Connection :=
  { c with stats := { c.stats with bytesSent := c.stats.bytesSent + length } }

/-- Counts an exchange that failed, but not for the time. -/
def countError (c : Connection) : Connection :=
  { c with stats := { c.stats with errors := c.stats.errors + 1 } }

/-- Counts an exchange that failed for the time, among the errors too. -/
def countTimeout (c : Connection) : Connection :=
  { c with stats := { c.stats with
      errors := c.stats.errors + 1, timeouts := c.stats.timeouts + 1 } }

/-- Counts a reply and its bytes. -/
def countReply (c : Connection) (length : Nat) : Connection :=
  { c with stats := { c.stats with
      responsesReceived := c.stats.responsesReceived + 1
      bytesReceived := c.stats.bytesReceived + length } }

/-- The failure of a phase that the time limit cut off. -/
def timeoutIn (c : Connection) (phase : Phase) : Failure := .timeout phase c.settings.timeoutMillis

/-- Receives the reply to a request that was sent. -/
def receiveReply (c : Connection) (unit : Option UInt8) :
    Logged (Except Failure Bytes × Connection) := do
  let (answer, wire) ← c.receive
  let c := { c with wire := wire }
  match answer with
  | .overdue => return (.error (c.timeoutIn .receive), c.countTimeout)
  | .ready (.error f) => return (.error f, c.countError)
  | .ready (.ok reply) =>
    c.logPacket "receive" unit reply
    return (.ok reply, c.countReply reply.length)

/-- Sends a request over an open connection and receives the reply. -/
def converse (c : Connection) (request : Bytes) : Logged (Except Failure Bytes × Connection) := do
  let unit := request[Limits.headerLength]?
  let c := c.countRequest
  c.logPacket "send" unit request
  let (answer, wire) := c.wire.send request c.deadline
  let c := { c with wire := wire }
  match answer with
  | .overdue => return (.error (c.timeoutIn .send), c.countTimeout)
  | .ready (.error f) => return (.error (.io f), c.countError)
  | .ready (.ok ()) => (c.countSent request.length).receiveReply unit

/-- Exchanges a request for a reply, unless the settings or an earlier close forbid it. -/
def exchange (c : Connection) (request : Bytes) : Logged (Except Failure Bytes × Connection) :=
  match c.settings.check with
  | .error why => pure (.error (.configuration why), c)
  | .ok () => if c.isOpen then c.converse request else pure (.error .notConnected, c)

/-- Shuts the wire down, unless that was done before. -/
def close (c : Connection) : Logged (Except Failure Unit × Connection) :=
  if c.isOpen then do
    let (fault, wire) := c.wire.shutdown
    if let some f := fault then
      Logged.log (.shutdownFault c.peer f)
    Logged.log (.closed c.peer)
    return (.ok (), { c with wire := wire, isOpen := false })
  else
    return (.ok (), c)

/-- Turns the logging of packets on or off. -/
def setPacketLogging (c : Connection) (on : Bool) : Connection :=
  { c with settings := { c.settings with packetLogging := on } }

/-- A connection is a transport. -/
instance : Transport Connection where
  exchange := exchange
  close := close
  isConnected := isOpen
  stats := stats

end Connection

end ModbusTcp

namespace ModbusTcp.Connection

/-!
## Sessions on a connection

A session is a run of steps on one connection: exchanges, closes, changes of packet logging and
time that passes. A step ends by settling the wire, so that a stall it has waited for in vain is
gone at the next step, while a delay that was begun runs on.
-/

/-- One thing to do with a connection. -/
inductive Step where
  | exchange (request : Bytes)
  | close
  | setPacketLogging (on : Bool)
  | wait (millis : Nat)
  deriving DecidableEq, Repr

/-- What a step comes to. -/
inductive Answer where
  | reply (result : Except Failure Bytes)
  | closed (result : Except Failure Unit)
  | done
  deriving Repr

/-- Settles the wire. -/
def settle (c : Connection) : Connection := { c with wire := c.wire.settle }

/-- Takes a step, before the wire is settled. -/
def act (c : Connection) : Step → Logged (Answer × Connection)
  | .exchange request => do
    let (result, c) ← c.exchange request
    return (.reply result, c)
  | .close => do
    let (result, c) ← c.close
    return (.closed result, c)
  | .setPacketLogging on => return (.done, c.setPacketLogging on)
  | .wait millis => return (.done, { c with wire := c.wire.pass millis })

/-- Takes a step and settles the wire. -/
def step (c : Connection) (s : Step) : Logged (Answer × Connection) := do
  let (answer, c) ← c.act s
  return (answer, c.settle)

/-- Takes steps one after the other; the answers are in the order of the steps. -/
def run (c : Connection) : List Step → Logged (List Answer × Connection)
  | [] => return ([], c)
  | s :: rest => do
    let (answer, c) ← c.step s
    let (answers, c) ← c.run rest
    return (answer :: answers, c)

end ModbusTcp.Connection
