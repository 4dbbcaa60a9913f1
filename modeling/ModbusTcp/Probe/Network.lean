import ModbusTcp.Probe.Client
import ModbusTcp.Transport.Basic
import ModbusTcp.Transport.Session

/-!
# Probes over a network

A probe connects, makes the one read of its plan and closes.
-/

namespace ModbusTcp

/-!
## Making a connection

What an attempt to connect meets: after some milliseconds it succeeds with a wire, fails, or never
ends. `Connecting.within` gives it a time limit and sorts its failures; `Connection.connect` refuses
unusable settings before anything is attempted.
-/

/-- An attempt to connect: how long it takes and how it ends, if it does. -/
structure Connecting (α : Type) where
  delay : Nat := 0
  /-- the end of the attempt; without one it goes on for ever -/
  result : Option (Except IoFault α)

/-- What connecting to a peer meets. -/
abbrev Network := Connecting Wire

namespace Connecting

variable {α : Type}

/-- What a failed attempt is to its caller. -/
def failure (address : String) (limit : Duration) (f : IoFault) : Failure :=
  match f.kind with
  | .connectionRefused => .connectionRefused address
  | .timedOut => .connectTimeout address limit.millis
  | _ => .io f

/-- Attempts to connect within a time limit. -/
def within (c : Connecting α) (address : String) (limit : Duration) : Except Failure α :=
  match c.result with
  | some result =>
    if c.delay ≤ limit.ticks then result.mapError (failure address limit)
    else .error (.connectTimeout address limit.millis)
  | none => .error (.connectTimeout address limit.millis)

end Connecting

/-- Connects to a host within the time limit of the settings. -/
def Connection.connect (host : String) (port : UInt16) (settings : TransportSettings)
    (net : Network) : Logged (Except Failure Connection) :=
  match settings.check with
  | .error why => pure (.error (.configuration why))
  | .ok () => do
    let peer := Address.text host port
    Logged.log (.connecting peer settings.timeoutMillis)
    match net.within peer settings.timeout with
    | .error f => return .error f
    | .ok wire =>
      Logged.log (.connected peer)
      return .ok { wire := wire, peer := peer, settings := settings }

end ModbusTcp

namespace ModbusTcp.Plan

/-!
## Probes

A probe connects, makes the one read of its plan and closes. It fails only before the connection
stands; after that whatever happens is in the report. `Plan.probe` also gives back the connection
that was made, closed, so that what went over it can be looked at.
-/

/-- Checks the plan, connects, makes the read and closes. -/
def probe (plan : Plan) (net : Network) :
    Logged (Except Failure (Report × Connection)) :=
  match plan.check with
  | .error why => pure (.error (.configuration why))
  | .ok () => do
    match ← Connection.connect plan.host plan.port plan.transport net with
    | .error f => return .error f
    | .ok connection =>
      Logged.log (.probing plan.address)
      let (report, client) ← (Client.mk connection 1).runPlan plan
      return .ok (report, client.transport)

/-!
## Observing a peer

A probe of a real peer is made in two parts: the peer is observed for as long as the probe of it
would wait, and then the probe is made over what was observed. These are the questions that an
observer asks: what to send, and whether to go on.
-/

/-- The one request of a probe. -/
def request (plan : Plan) : Request :=
  Request.read 1 plan.unit plan.function plan.start plan.quantity

/-- After these arrivals the probe would still be waiting. -/
def awaitsMore (plan : Plan) (arrivals : List Arrival) : Bool :=
  let wire : Wire := { reads := arrivals ++ [.pause .stall] }
  let connection : Connection :=
    { wire := wire, peer := plan.address, settings := plan.transport }
  match (connection.exchange plan.request.toBytes).value.1 with
  | .error (.timeout .receive _) => true
  | _ => false

end ModbusTcp.Plan
