import ModbusTcp.Log
import ModbusTcp.Wire.Stream

/-!
# Wires

A wire is the stream of one connection as a program meets it: what reading will bring, how writing
will be taken, what shutting down reports, the time it is, and a record of what was sent and how
often the stream was shut down. A frame is collected in two exact reads, the header and then as
many bytes as its length field says (`Wire.readFrame`); a single read takes what is there
(`Wire.readOnce`).
-/

namespace ModbusTcp

/-- One connection as a program meets it; everything that is still to come is in it. -/
structure Wire where
  reads : List Arrival := []
  writes : List Uptake := []
  shutdownFault : Option IoFault := none
  now : Nat := 0
  /-- the bytes taken of each request, the latest request first -/
  sent : List Bytes := []
  shutdowns : Nat := 0
  deriving Repr

namespace Wire

/-- The bytes that have not been read yet. -/
def unread (w : Wire) : Bytes := Arrival.bytes w.reads

/-- All bytes that the other side has taken. -/
def taken (w : Wire) : Bytes := w.sent.reverse.flatten

/-- Writes a request, and records the bytes of it that were taken. -/
def send (w : Wire) (request : Bytes) (d : Deadline) : Awaited (Except IoFault Unit) × Wire :=
  let p := Uptake.writeAll d w.now [] request w.writes
  (p.answer, { w with writes := p.rest, now := p.now, sent := p.taken :: w.sent })

/-- One read of at most `most` bytes. -/
def read (w : Wire) (most : Nat) (d : Deadline) : Awaited (Except IoFault Bytes) × Wire :=
  let p := Arrival.read most d w.now w.reads
  (p.answer, { w with reads := p.rest, now := p.now })

/-- Reads exactly `want` bytes. -/
def readExact (w : Wire) (want : Nat) (d : Deadline) : Awaited (Except IoFault Bytes) × Wire :=
  let p := Arrival.readExact d w.now want [] w.reads
  (p.answer, { w with reads := p.rest, now := p.now })

/-- What a failed exact read means for the frame: an early end is a connection closed by the peer.
-/
def frameFailure (f : IoFault) : Failure :=
  if f.kind = .unexpectedEof then .connectionClosed else .io f

/-- Reads the bytes that follow a header, after its length field. -/
def readBody (w : Wire) (header : Bytes) (d : Deadline) : Awaited (Except Failure Bytes) × Wire :=
  let length := Header.lengthField header
  if length = 0 ∨ Limits.maxMbapLength < length then
    (.ready (.error (.invalidFrame (.length length))), w)
  else
    let (answer, w) := w.readExact length d
    (answer.map fun r => (r.map (header ++ ·)).mapError frameFailure, w)

/-- Collects one frame: the header, and what its length field announces. -/
def collect (w : Wire) (d : Deadline) : Awaited (Except Failure Bytes) × Wire :=
  match w.readExact Limits.headerLength d with
  | (.ready (.ok header), w) => w.readBody header d
  | (.ready (.error f), w) => (.ready (.error (frameFailure f)), w)
  | (.overdue, w) => (.overdue, w)

/-- One read, with a remark in the log if it succeeds. -/
def readOnce (w : Wire) (most : Nat) (d : Deadline) :
    Logged (Awaited (Except Failure Bytes) × Wire) := do
  let (answer, w) := w.read most d
  if let .ready (.ok bytes) := answer then
    Logged.log (.singleRead bytes.length)
  return (answer.map (·.mapError .io), w)

/-- Collects one frame, with a remark in the log if it succeeds. -/
def readFrame (w : Wire) (d : Deadline) : Logged (Awaited (Except Failure Bytes) × Wire) := do
  let (answer, w) := w.collect d
  if let .ready (.ok frame) := answer then
    Logged.log (.reassembled frame.length)
  return (answer, w)

/-- Shuts the stream down; a fault is reported and changes nothing. -/
def shutdown (w : Wire) : Option IoFault × Wire :=
  (w.shutdownFault, { w with shutdowns := w.shutdowns + 1 })

/-- Lets time pass that no operation waits for. -/
def pass (w : Wire) (millis : Nat) : Wire := { w with now := w.now + millis }

/-- Drops a first arrival that an operation has waited for in vain. -/
def dropHanging : List Arrival → List Arrival
  | .pause .hanging :: rest => rest
  | events => events

/-- Drops a first uptake that an operation has waited for in vain. -/
def dropHangingWrite : List Uptake → List Uptake
  | .pause .hanging :: rest => rest
  | events => events

/-- Ends a step: what was waited for in vain does not stand in the way of the next one. -/
def settle (w : Wire) : Wire :=
  { w with reads := dropHanging w.reads, writes := dropHangingWrite w.writes }

end Wire

end ModbusTcp
