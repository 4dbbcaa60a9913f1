import ModbusTcp.Failure
import ModbusTcp.Log

/-!
# Transports

A transport sends one request and brings back one reply, within a time limit and as its settings
say. A probe needs no more of it than that and to be able to close it, so it works over every
instance of the class `Transport`.
-/

namespace ModbusTcp

/-!
## Durations

A duration is whole seconds and a part of a second in nanoseconds. Two coarser readings are used:
the whole milliseconds in it, which error texts show, and the ticks of the millisecond clock, which
deadlines count.
-/

/-- A length of time: whole seconds, and the nanoseconds beyond them. -/
structure Duration where
  seconds : UInt64
  nanos : Fin 1000000000
  deriving DecidableEq, Repr

namespace Duration

/-- The duration of a number of milliseconds. -/
def ofMillis (ms : UInt64) : Duration :=
  ⟨ms / 1000, Fin.ofNat 1000000000 (ms.toNat % 1000 * 1000000)⟩

/-- The nanoseconds in a duration. -/
def toNanos (d : Duration) : Nat := 1000000000 * d.seconds.toNat + d.nanos.val

/-- The milliseconds in a duration that are complete. -/
def wholeMillis (d : Duration) : Nat := d.toNanos / 1000000

/-- The whole milliseconds as a 64-bit count, in which longer durations wrap around. -/
def millis (d : Duration) : UInt64 := UInt64.ofNat d.wholeMillis

/-- The ticks of a clock that ticks every millisecond: a started millisecond counts as one. -/
def ticks (d : Duration) : Nat := (d.toNanos + 999999) / 1000000

/-- The duration takes no time at all. -/
def isZero (d : Duration) : Bool := d.seconds == 0 && d.nanos == 0

theorem isZero_iff (d : Duration) : d.isZero = true ↔ d.toNanos = 0 := by
  rw [isZero, Bool.and_eq_true, beq_iff_eq, beq_iff_eq]
  constructor
  · rintro ⟨hseconds, hnanos⟩
    rw [toNanos, hseconds, hnanos]
    rfl
  · intro h
    unfold toNanos at h
    constructor
    · apply UInt64.toNat_inj.mp
      show d.seconds.toNat = 0
      omega
    · apply Fin.ext
      show d.nanos.val = 0
      omega

theorem toNat_millis (d : Duration) : d.millis.toNat = d.wholeMillis % UInt64.size :=
  UInt64.toNat_ofNat'

/-- A number of milliseconds is kept exactly. -/
theorem toNanos_ofMillis (ms : UInt64) : (ofMillis ms).toNanos = 1000000 * ms.toNat := by
  have hsmall : ms.toNat % 1000 * 1000000 % 1000000000 = ms.toNat % 1000 * 1000000 := by omega
  have hseconds : (ms / 1000).toNat = ms.toNat / 1000 := UInt64.toNat_div ms 1000
  simp only [toNanos, ofMillis, Fin.ofNat, hseconds, hsmall]
  omega

end Duration

/-!
## Settings of a transport

How long each phase of an exchange may take, how a reply is received, how much room it has, and
whether packets are logged. `TransportSettings.check` refuses settings that no exchange can be made
with.
-/

/-- How a reply is received. -/
inductive ReceiveMode where
  /-- one read, and what it brings is the reply -/
  | singleRead
  /-- exactly one frame, by the length in its header -/
  | framed
  deriving DecidableEq, Repr

/-- The time limit that is used unless another one is asked for, in milliseconds. -/
def defaultTimeoutMillis : UInt64 := 5000

/-- How a transport exchanges frames. -/
structure TransportSettings where
  timeout : Duration := .ofMillis defaultTimeoutMillis
  maxResponseSize : Nat := Limits.defaultBufferSize
  receiveMode : ReceiveMode := .singleRead
  packetLogging : Bool := false
  deriving DecidableEq, Repr

namespace TransportSettings

/-- The time limit in whole milliseconds, as failures show it. -/
def timeoutMillis (s : TransportSettings) : UInt64 := s.timeout.millis

/-- Refuses a time limit of zero, and a buffer too small for the smallest reply or too large. -/
def check (s : TransportSettings) : Except SettingFault Unit :=
  if s.timeout.isZero then .error .zeroTimeout
  else if s.maxResponseSize < Limits.minReplyLength then .error (.bufferTooSmall s.maxResponseSize)
  else if Limits.maxBufferSize < s.maxResponseSize then .error (.bufferTooLarge s.maxResponseSize)
  else .ok ()

end TransportSettings

end ModbusTcp

namespace ModbusTcp.Address

/-!
## Addresses

The text of an endpoint: the host and the port with a colon between. A host that contains a colon
itself, as an IPv6 address does, is put into brackets unless it has them already.
-/

/-- The host as it stands before the port. -/
def hostPart (host : String) : String :=
  if host.toList.contains ':' ∧ host.toList.head? ≠ some '[' then s!"[{host}]" else host

/-- The endpoint as a text. -/
def text (host : String) (port : UInt16) : String := s!"{hostPart host}:{port.toNat}"

end ModbusTcp.Address

namespace ModbusTcp

/-! ## The interface -/

/-- Counts of what a transport has done. They are numbers without a bound here; a counter of 64 bits
agrees with them as long as they stay below 2^64. -/
structure TransportStats where
  requestsSent : Nat := 0
  responsesReceived : Nat := 0
  errors : Nat := 0
  timeouts : Nat := 0
  bytesSent : Nat := 0
  bytesReceived : Nat := 0
  deriving DecidableEq, Repr

/-- Something that exchanges requests for replies until it is closed. -/
class Transport (τ : Type) where
  exchange : τ → Bytes → Logged (Except Failure Bytes × τ)
  close : τ → Logged (Except Failure Unit × τ)
  isConnected : τ → Bool
  stats : τ → TransportStats

end ModbusTcp
