import ModbusTcp.Proofs.Transport.TimeLimits
import ModbusTcp.Proofs.Wire.Delivered

/-!
# Receiving by what comes next

What comes next on a stream decides what receiving does: it takes the beginning of a chunk, and it
sits a pause out or is given up in it.
-/

namespace ModbusTcp

/-!
## Reading from one chunk, and from behind a pause

Where the next arrival is a chunk with all that is asked for, a read takes the beginning of it in
no time, and leaves the rest of the chunk in front of what follows. Where it is a pause, a read
that sits it out goes on as if it had begun behind it, and a read that is given up first leaves
what remains of the pause, and everything behind it. That is so of a single read and of a frame.
-/

/-- An exact read that one chunk is enough for. -/
theorem Arrival.readExact_data (d : Deadline) (now : Nat) {want : Nat} (got : Bytes)
    {chunk : Bytes} (rest : List Arrival) (hpos : 0 < want) (hle : want ≤ chunk.length) :
    readExact d now want got (.data chunk :: rest) =
      ⟨.ready (.ok (got ++ chunk.take want)), behind (chunk.drop want) rest, now⟩ := by
  have hwant : want ≠ 0 := Nat.ne_zero_of_lt hpos
  by_cases hlt : want < chunk.length
  · have hremains : chunk.drop want ≠ [] := by
      rw [← List.length_pos_iff, List.length_drop]
      omega
    simp only [readExact, hwant, hlt, if_true, if_false, behind, hremains]
  · obtain rfl : want = chunk.length := by omega
    -- the chunk is used up, and nothing more is wanted of what follows it
    simp only [readExact, hwant, hlt, if_false, Nat.sub_self, readExact_zero, List.take_length,
      List.drop_length, behind, if_true]

namespace Wire

/-- A single read takes the beginning of a chunk, as far as it has room. -/
theorem read_chunk {w : Wire} (most : Nat) (d : Deadline) {chunk : Bytes} {rest : List Arrival}
    (hreads : w.reads = .data chunk :: rest) (hchunk : chunk ≠ []) :
    w.read most d =
      (.ready (.ok (chunk.take most)),
        { w with reads := Arrival.behind (chunk.drop most) rest }) := by
  obtain ⟨b, bs, rfl⟩ := List.exists_cons_of_ne_nil hchunk
  simp only [read, hreads, Arrival.read]
  by_cases hlt : most < (b :: bs).length
  · have hremains : (b :: bs).drop most ≠ [] := by
      rw [← List.length_pos_iff, List.length_drop]
      omega
    rw [if_pos hlt, Arrival.behind, if_neg hremains]
  · have hall : (b :: bs).length ≤ most := Nat.le_of_not_lt hlt
    rw [if_neg hlt, List.take_of_length_le hall, List.drop_of_length_le hall, Arrival.behind,
      if_pos rfl]

/-- A frame at the beginning of a chunk is collected, whatever follows it. -/
theorem collect_chunk {w : Wire} (d : Deadline) (f : Frame) {extra : Bytes} {rest : List Arrival}
    (hreads : w.reads = .data (f.toBytes ++ extra) :: rest) :
    w.collect d =
      (.ready (.ok f.toBytes), { w with reads := Arrival.behind extra rest }) := by
  have hpos := f.body_pos
  have hle := f.body_le
  have hheader : (f.toBytes ++ extra).take Limits.headerLength = f.header := by
    rw [Frame.toBytes, List.append_assoc, ← f.length_header, List.take_left]
  have hbehind : (f.toBytes ++ extra).drop Limits.headerLength = f.body ++ extra := by
    rw [Frame.toBytes, List.append_assoc, ← f.length_header, List.drop_left]
  have hlength : Limits.headerLength ≤ (f.toBytes ++ extra).length := by
    rw [List.length_append, f.length_toBytes]
    omega
  have hread := Arrival.readExact_data d w.now [] rest (by decide) hlength
  have hremains : f.body ++ extra ≠ [] :=
    List.append_ne_nil_of_left_ne_nil (List.length_pos_iff.mp hpos) extra
  rw [hheader, hbehind, Arrival.behind, if_neg hremains] at hread
  have hbodyLength : f.body.length ≤ (f.body ++ extra).length := by
    rw [List.length_append]
    omega
  have hbody := Arrival.readExact_data d w.now [] rest hpos hbodyLength
  rw [List.take_left, List.drop_left] at hbody
  have hgood : ¬ (f.body.length = 0 ∨ Limits.maxMbapLength < f.body.length) := by omega
  simp only [collect, readExact, hreads, hread, List.nil_append, readBody, f.lengthField_header,
    hgood, if_false, hbody]
  rfl

section

variable {w : Wire} {d : Deadline} {p remains : Pause} {rest : List Arrival} {later : Nat}
  (hreads : w.reads = .pause p :: rest)

include hreads

theorem read_pause_ended (hwait : p.wait d w.now = .ended later) (most : Nat) :
    w.read most d = ({ w with reads := rest, now := later } : Wire).read most d := by
  simp only [read, hreads, Arrival.read, hwait]

theorem read_pause_cut (hwait : p.wait d w.now = .cut remains later) (most : Nat) :
    w.read most d = (.overdue, { w with reads := .pause remains :: rest, now := later }) := by
  simp only [read, hreads, Arrival.read, hwait]

theorem collect_pause_ended (hwait : p.wait d w.now = .ended later) :
    w.collect d = ({ w with reads := rest, now := later } : Wire).collect d := by
  have hwanted : Limits.headerLength ≠ 0 := by decide
  have hread : w.readExact Limits.headerLength d =
      ({ w with reads := rest, now := later } : Wire).readExact Limits.headerLength d := by
    simp only [readExact, hreads, Arrival.readExact, hwanted, if_false, hwait]
  rw [collect, collect, hread]

theorem collect_pause_cut (hwait : p.wait d w.now = .cut remains later) :
    w.collect d = (.overdue, { w with reads := .pause remains :: rest, now := later }) := by
  have hwanted : Limits.headerLength ≠ 0 := by decide
  have hread : w.readExact Limits.headerLength d =
      (.overdue, { w with reads := .pause remains :: rest, now := later }) := by
    simp only [readExact, hreads, Arrival.readExact, hwanted, if_false, hwait]
  rw [collect, hread]

end

end Wire

/-!
## Receiving a reply

If a chunk comes next, its beginning is the reply: as much as there is room for in a single read,
or the frame that stands there (`TransportSettings.Brings`). If a pause comes next, receiving goes
on behind it, or is given up in it and leaves everything else as it was.
-/

/-- The reply that is received of a chunk: a single read takes as much of it as there is room for,
and a frame is taken whole. -/
inductive TransportSettings.Brings (s : TransportSettings) : Bytes → Bytes → Prop
  | singleRead {chunk : Bytes} (hmode : s.receiveMode = .singleRead) (hchunk : chunk ≠ []) :
      Brings s chunk (chunk.take s.maxResponseSize)
  | framed (hmode : s.receiveMode = .framed) (f : Frame) (extra : Bytes) :
      Brings s (f.toBytes ++ extra) f.toBytes

namespace Connection

theorem receiveUntil_chunk {c : Connection} {chunk reply : Bytes} {rest : List Arrival}
    (hbrings : c.settings.Brings chunk reply) (hreads : c.wire.reads = .data chunk :: rest)
    (d : Deadline) :
    c.receiveUntil d =
      (.ready (.ok reply),
        { c.wire with reads := Arrival.behind (chunk.drop reply.length) rest }) := by
  unfold receiveUntil
  cases hbrings with
  | singleRead hmode hchunk =>
    have hdrop : chunk.drop (chunk.take c.settings.maxResponseSize).length =
        chunk.drop c.settings.maxResponseSize := by
      rw [List.length_take, ← List.drop_eq_drop_min]
    rw [hmode, hdrop]
    dsimp only
    rw [Wire.value_readOnce, Wire.read_chunk _ d hreads hchunk]
    rfl
  | framed hmode f extra =>
    rw [hmode, List.drop_left]
    dsimp only
    rw [Wire.value_readFrame, Wire.collect_chunk d f hreads]

section

variable {c : Connection} {d : Deadline} {p remains : Pause} {rest : List Arrival} {later : Nat}
  (hreads : c.wire.reads = .pause p :: rest)

include hreads

theorem receiveUntil_ended (hwait : p.wait d c.wire.now = .ended later) :
    c.receiveUntil d =
      ({ c with wire := { c.wire with reads := rest, now := later } } : Connection).receiveUntil
        d := by
  unfold receiveUntil
  cases c.settings.receiveMode with
  | singleRead =>
    dsimp only
    rw [Wire.value_readOnce, Wire.value_readOnce, Wire.read_pause_ended hreads hwait]
  | framed =>
    dsimp only
    rw [Wire.value_readFrame, Wire.value_readFrame, Wire.collect_pause_ended hreads hwait]

theorem receiveUntil_cut (hwait : p.wait d c.wire.now = .cut remains later) :
    c.receiveUntil d =
      (.overdue, { c.wire with reads := .pause remains :: rest, now := later }) := by
  unfold receiveUntil
  cases c.settings.receiveMode with
  | singleRead =>
    dsimp only
    rw [Wire.value_readOnce, Wire.read_pause_cut hreads hwait]
    rfl
  | framed =>
    dsimp only
    rw [Wire.value_readFrame, Wire.collect_pause_cut hreads hwait]

end

/-- The exchange of a request that the peer takes gets the reply that the next chunk brings. -/
theorem Ready.exchange_chunk {c : Connection} (h : c.Ready) {request : Bytes}
    (htakes : c.Takes request) {chunk reply : Bytes} {rest : List Arrival}
    (hbrings : c.settings.Brings chunk reply) (hreads : c.wire.reads = .data chunk :: rest) :
    (c.exchange request).value.1 = .ok reply := by
  have hawaits : (c.awaiting request).wire.reads = .data chunk :: rest := hreads
  have hreceive : (c.awaiting request).receive.value.1 = .ready (.ok reply) := by
    rw [value_receive, receiveUntil_chunk (c := c.awaiting request) hbrings hawaits]
  rw [h.exchange_of_reply htakes hreceive]

end Connection

end ModbusTcp
