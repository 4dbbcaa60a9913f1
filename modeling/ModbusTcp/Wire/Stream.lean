import ModbusTcp.Bytes
import ModbusTcp.Failure

/-!
# Streams

A stream is met as two lists of events, in order: what reading it will bring (`Arrival`), and how
it will take what is written (`Uptake`). Both may make an operation wait (`Pause`), and a deadline
may cut the waiting off.
-/

namespace ModbusTcp

/-!
## Pauses and deadlines

Time on a wire is a count of milliseconds, and it moves only while something is waited for. A pause
is what an operation may have to sit out: some milliseconds, counted from when it is first met and
running on even if the operation is given up, or for ever. An operation given a deadline is in time
up to and including that moment.
-/

/-- The moment up to which an operation may take, if there is one. -/
abbrev Deadline := Option Nat

namespace Deadline

/-- What is ready at the moment is in time. -/
def allows (d : Deadline) (moment : Nat) : Bool := d.all (moment ≤ ·)

/-- When an operation that never gets ready is given up, if it is begun now. -/
def expiry (d : Deadline) (now : Nat) : Nat := max now (d.getD now)

@[simp]
theorem allows_none (moment : Nat) : allows none moment = true := rfl

@[simp]
theorem allows_some (d moment : Nat) : allows (some d) moment = decide (moment ≤ d) := rfl

@[simp]
theorem expiry_none (now : Nat) : expiry none now = now := by simp [expiry]

@[simp]
theorem expiry_some (d now : Nat) : expiry (some d) now = max now d := rfl

end Deadline

/-- Something to sit out before a stream goes on. -/
inductive Pause where
  /-- so many milliseconds, not begun yet -/
  | delay (millis : Nat)
  /-- begun, and over at a moment -/
  | running (ends : Nat)
  /-- without end, not begun yet -/
  | stall
  /-- without end, and begun -/
  | hanging
  deriving DecidableEq, Repr

namespace Pause

/-- What became of waiting: the pause is over, or it was still going on when the deadline passed. -/
inductive Wait where
  | ended (now : Nat)
  | cut (left : Pause) (now : Nat)
  deriving DecidableEq, Repr

/-- Waits for a moment, which may be over already. -/
def waitUntil (moment : Nat) (d : Deadline) (now : Nat) : Wait :=
  if d.allows (max now moment) then .ended (max now moment)
  else .cut (.running moment) (d.expiry now)

/-- Sits a pause out, up to a deadline. -/
def wait (p : Pause) (d : Deadline) (now : Nat) : Wait :=
  match p with
  | .delay millis => waitUntil (now + millis) d now
  | .running ends => waitUntil ends d now
  | .stall | .hanging => .cut .hanging (d.expiry now)

end Pause

/-- The answer of something that may be given up: it was ready, or the deadline passed first. -/
inductive Awaited (α : Type) where
  | ready (a : α)
  | overdue
  deriving DecidableEq, Repr

/-- The same of an answer that is ready; one that is overdue stays so. -/
def Awaited.map {α β : Type} (f : α → β) : Awaited α → Awaited β
  | .ready a => .ready (f a)
  | .overdue => .overdue

/-!
## Reading from a stream

What a stream will bring is a list of arrivals, met in order. `Arrival.read` is one read: it takes
from at most one chunk and leaves the rest of that chunk for the next read. `Arrival.readExact`
reads until it has all the bytes it wants, over as many chunks as that takes; an interrupted read
is tried again there, and the end of the stream is a fault. What was taken before a fault or a
deadline is gone.
-/

/-- The next thing that reading a stream meets. -/
inductive Arrival where
  | data (bytes : Bytes)
  /-- one read that finds the stream at its end -/
  | eof
  | fault (f : IoFault)
  /-- something to wait for first -/
  | pause (p : Pause)
  deriving DecidableEq, Repr

/-- How far an operation on a list of events got: its answer, the events left and the time it is. -/
structure Progress (ε α : Type) where
  answer : Awaited α
  rest : List ε
  now : Nat
  deriving Repr

namespace Arrival

/-- The bytes of all chunks, in order. -/
def bytes : List Arrival → Bytes
  | [] => []
  | .data bs :: rest => bs ++ bytes rest
  | _ :: rest => bytes rest

/-- One read of at most `most` bytes. No bytes mean the end of the stream, or that none were asked
for. An empty chunk is passed over. -/
def read (most : Nat) (d : Deadline) (now : Nat) :
    List Arrival → Progress Arrival (Except IoFault Bytes)
  | [] => ⟨.ready (.ok []), [], now⟩
  | .data [] :: rest => read most d now rest
  | .data bs :: rest =>
    if most < bs.length then ⟨.ready (.ok (bs.take most)), .data (bs.drop most) :: rest, now⟩
    else ⟨.ready (.ok bs), rest, now⟩
  | .eof :: rest => ⟨.ready (.ok []), rest, now⟩
  | .fault f :: rest => ⟨.ready (.error f), rest, now⟩
  | .pause p :: rest =>
    match p.wait d now with
    | .ended now => read most d now rest
    | .cut left now => ⟨.overdue, .pause left :: rest, now⟩

/-- The fault of a stream that ends before all bytes wanted have come. -/
def earlyEnd : IoFault := .ofKind .unexpectedEof

/-- Reads until `want` more bytes have come after those in `got`. -/
def readExact (d : Deadline) (now want : Nat) (got : Bytes) :
    List Arrival → Progress Arrival (Except IoFault Bytes)
  | [] => if want = 0 then ⟨.ready (.ok got), [], now⟩ else ⟨.ready (.error earlyEnd), [], now⟩
  | event :: rest =>
    if want = 0 then ⟨.ready (.ok got), event :: rest, now⟩
    else match event with
    | .data bs =>
      if want < bs.length then
        ⟨.ready (.ok (got ++ bs.take want)), .data (bs.drop want) :: rest, now⟩
      else readExact d now (want - bs.length) (got ++ bs) rest
    | .eof => ⟨.ready (.error earlyEnd), rest, now⟩
    | .fault f =>
      if f.kind = .interrupted then readExact d now want got rest
      else ⟨.ready (.error f), rest, now⟩
    | .pause p =>
      match p.wait d now with
      | .ended now => readExact d now want got rest
      | .cut left now => ⟨.overdue, .pause left :: rest, now⟩

/-- A read that succeeds takes what it brings from the front of the stream; any other takes
nothing. -/
theorem bytes_read (most : Nat) (d : Deadline) (now : Nat) (events : List Arrival) :
    match (read most d now events).answer with
    | .ready (.ok bs) => bytes events = bs ++ bytes (read most d now events).rest
    | _ => bytes events = bytes (read most d now events).rest := by
  fun_induction read most d now events with
  | case1 => rfl
  | case2 now rest ih => simpa [bytes] using ih
  | case3 now bs rest hne hlt => simp [bytes, ← List.append_assoc]
  | case4 now bs rest hne hle => rfl
  | case5 => rfl
  | case6 => rfl
  | case7 now p rest later hw ih => simpa [bytes] using ih
  | case8 => rfl

/-- A read brings no more bytes than it was asked for. -/
theorem length_le_of_read {most : Nat} {d : Deadline} {now : Nat} {events : List Arrival}
    {bs : Bytes} (h : (read most d now events).answer = .ready (.ok bs)) : bs.length ≤ most := by
  fun_induction read most d now events with
  | case1 =>
    simp only [Awaited.ready.injEq, Except.ok.injEq] at h
    simp [← h]
  | case2 now rest ih => exact ih h
  | case3 now chunk rest hne hlt =>
    simp only [Awaited.ready.injEq, Except.ok.injEq] at h
    rw [← h, List.length_take]
    exact Nat.min_le_left _ _
  | case4 now chunk rest hne hle =>
    simp only [Awaited.ready.injEq, Except.ok.injEq] at h
    rw [← h]
    exact Nat.le_of_not_lt hle
  | case5 =>
    simp only [Awaited.ready.injEq, Except.ok.injEq] at h
    simp [← h]
  | case6 => simp at h
  | case7 now p rest later hw ih => exact ih h
  | case8 => simp at h

/-- An exact read takes bytes from the front of the stream and no other. If it succeeds they are as
many as were wanted, and it answers with them; if not, they are fewer. -/
theorem bytes_readExact (d : Deadline) (now want : Nat) (got : Bytes) (events : List Arrival) :
    ∃ taken, bytes events = taken ++ bytes (readExact d now want got events).rest ∧
      (∀ bs, (readExact d now want got events).answer = .ready (.ok bs) →
        bs = got ++ taken ∧ taken.length = want) ∧
      ((∀ bs, (readExact d now want got events).answer ≠ .ready (.ok bs)) →
        taken.length < want) := by
  fun_induction readExact d now want got events with
  | case1 now got => exact ⟨[], rfl, by simp, fun h => absurd rfl (h got)⟩
  | case2 now want got hw => exact ⟨[], rfl, by simp, fun _ => Nat.pos_of_ne_zero hw⟩
  | case3 now got event rest => exact ⟨[], rfl, by simp, fun h => absurd rfl (h got)⟩
  | case4 now want got rest hw chunk hlt =>
    refine ⟨chunk.take want, ?_, ?_, fun h => absurd rfl (h _)⟩
    · simp [bytes, ← List.append_assoc]
    · intro bs h
      simp only [Awaited.ready.injEq, Except.ok.injEq] at h
      exact ⟨h.symm, by rw [List.length_take]; omega⟩
  | case5 now want got rest hw chunk hle ih =>
    obtain ⟨taken, hb, hok, hshort⟩ := ih
    refine ⟨chunk ++ taken, by simp [bytes, hb], ?_, ?_⟩
    · intro bs h
      obtain ⟨hbs, hlen⟩ := hok bs h
      exact ⟨by simp [hbs], by simp [hlen]; omega⟩
    · intro h
      have := hshort h
      rw [List.length_append]
      omega
  | case6 now want got rest hw => exact ⟨[], rfl, by simp, fun _ => Nat.pos_of_ne_zero hw⟩
  | case7 now want got rest hw f hf ih => simpa [bytes] using ih
  | case8 now want got rest hw f hf => exact ⟨[], rfl, by simp, fun _ => Nat.pos_of_ne_zero hw⟩
  | case9 now want got rest hw p later hp ih => simpa [bytes] using ih
  | case10 now want got rest hw p left later hp =>
    exact ⟨[], rfl, by simp, fun _ => Nat.pos_of_ne_zero hw⟩

end Arrival

/-!
## Writing to a stream

How a stream will take what is written is a list of uptakes, one for each write, and after the list
it takes everything. `Uptake.writeAll` writes until all bytes are taken; an interrupted write is
tried again, and a write of which nothing is taken is a fault. What was taken before a fault or a
deadline has been sent.
-/

/-- The next thing that writing to a stream meets. -/
inductive Uptake where
  /-- one write of which at most so many bytes are taken -/
  | accept (most : Nat)
  | fault (f : IoFault)
  /-- something to wait for first -/
  | pause (p : Pause)
  deriving DecidableEq, Repr

/-- How far writing got: its answer, the bytes taken, the events left and the time it is. -/
structure Delivery where
  answer : Awaited (Except IoFault Unit)
  taken : Bytes
  rest : List Uptake
  now : Nat
  deriving Repr

namespace Uptake

/-- The fault of a write of which nothing is taken. -/
def nothingTaken : IoFault := .ofKind .writeZero

/-- Writes what is left of a request after the bytes taken so far. -/
def writeAll (d : Deadline) (now : Nat) (taken left : Bytes) : List Uptake → Delivery
  | [] => ⟨.ready (.ok ()), taken ++ left, [], now⟩
  | event :: rest =>
    if left.isEmpty then ⟨.ready (.ok ()), taken, event :: rest, now⟩
    else match event with
    | .accept most =>
      if most = 0 then ⟨.ready (.error nothingTaken), taken, rest, now⟩
      else writeAll d now (taken ++ left.take most) (left.drop most) rest
    | .fault f =>
      if f.kind = .interrupted then writeAll d now taken left rest
      else ⟨.ready (.error f), taken, rest, now⟩
    | .pause p =>
      match p.wait d now with
      | .ended now => writeAll d now taken left rest
      | .cut left' now => ⟨.overdue, taken, .pause left' :: rest, now⟩

/-- What was taken is the beginning of what was offered, and all of it if and only if writing
succeeded. -/
theorem taken_writeAll (d : Deadline) (now : Nat) (taken left : Bytes) (events : List Uptake) :
    ∃ more rest, (writeAll d now taken left events).taken = taken ++ more ∧ left = more ++ rest ∧
      ((writeAll d now taken left events).answer = .ready (.ok ()) ↔ rest = []) := by
  fun_induction writeAll d now taken left events with
  | case1 => exact ⟨_, [], rfl, by simp, by simp⟩
  | case2 now taken left event rest hl =>
    exact ⟨[], left, by simp, rfl, by simpa using hl⟩
  | case3 now taken left rest hl => exact ⟨[], left, by simp, rfl, by simpa using hl⟩
  | case4 now taken left rest hl most hm ih =>
    obtain ⟨more, rest, ht, hrest, ha⟩ := ih
    refine ⟨left.take most ++ more, rest, by simp [ht], ?_, ha⟩
    rw [List.append_assoc, ← hrest, List.take_append_drop]
  | case5 now taken left rest hl f hf ih => exact ih
  | case6 now taken left rest hl => exact ⟨[], left, by simp, rfl, by simpa using hl⟩
  | case7 now taken left rest hl p later hp ih => exact ih
  | case8 now taken left rest hl => exact ⟨[], left, by simp, rfl, by simpa using hl⟩

end Uptake

end ModbusTcp
