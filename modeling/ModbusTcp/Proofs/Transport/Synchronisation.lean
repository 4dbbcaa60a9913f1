import ModbusTcp.Proofs.Transport.Turn
import ModbusTcp.Proofs.Wire.Plain

/-!
# Staying in step with the frames of a peer

The boundary of a frame is found from a length inside the stream. As long as the peer sends whole
frames and takes whole requests, every exchange stops right behind one frame, so the next exchange
begins at the next frame, however the stream is cut (`Connection.frames_synchronised`).
-/

namespace ModbusTcp

/-- The counts after an exchange with a reply. -/
def TransportStats.answered (s : TransportStats) (request reply : Bytes) : TransportStats :=
  { s with
    requestsSent := s.requestsSent + 1
    responsesReceived := s.responsesReceived + 1
    bytesSent := s.bytesSent + request.length
    bytesReceived := s.bytesReceived + reply.length }

namespace Connection

/-- Exchanges are made in frames over a stream that only brings bytes. -/
structure Flowing (c : Connection) : Prop where
  ready : c.Ready
  framed : c.settings.receiveMode = .framed
  plain : c.wire.Plain

/-- The peer takes each of the requests whole when its turn comes. -/
def TakesAll (c : Connection) (requests : List Bytes) : Prop := c.Throughout Takes requests

theorem dropHangingWrite_willing {events : List Uptake}
    (hwilling : events.all Uptake.isWilling) :
    (Wire.dropHangingWrite events).all Uptake.isWilling := by
  unfold Wire.dropHangingWrite
  split
  · cases hwilling
  · exact hwilling

/-- A willing peer takes a request whole and in no time, and it is willing afterwards. -/
theorem takes_of_willing {c : Connection} (hwilling : c.wire.writes.all Uptake.isWilling)
    (request : Bytes) :
    c.Takes request ∧ (c.offered request).wire.now = c.wire.now ∧
      (c.turn (.exchange request)).after.wire.writes.all Uptake.isWilling := by
  obtain ⟨htakes, hnow, hrest⟩ :=
    Uptake.writeAll_willing c.deadline c.wire.now [] request hwilling
  refine ⟨htakes, hnow, dropHangingWrite_willing ?_⟩
  rcases (c.exchanged request).writes_eq with h | h
  · rw [h]
    exact hwilling
  · rw [h]
    exact hrest

/-- What holds of every request to a willing peer holds throughout. -/
theorem throughout_of_willing {P : Connection → Bytes → Prop}
    (hturn : ∀ (c : Connection) (request : Bytes), c.wire.writes.all Uptake.isWilling →
      P c request) {c : Connection} (hwilling : c.wire.writes.all Uptake.isWilling)
    (requests : List Bytes) : c.Throughout P requests :=
  throughout_of_keeps (I := fun c => c.wire.writes.all Uptake.isWilling)
    (fun _ request h => (takes_of_willing h request).2.2) hturn requests hwilling

/-- A willing peer takes all requests. -/
theorem takesAll_of_willing {c : Connection} (hwilling : c.wire.writes.all Uptake.isWilling)
    (requests : List Bytes) : c.TakesAll requests :=
  throughout_of_willing (fun _ request h => (takes_of_willing h request).1) hwilling requests

/-! ## One exchange -/

theorem Flowing.awaiting {c : Connection} (h : c.Flowing) (request : Bytes) :
    (c.awaiting request).Flowing := ⟨⟨h.ready.check, h.ready.isOpen⟩, h.framed, h.plain⟩

theorem dropHanging_plain {events : List Arrival} (hplain : events.all Arrival.isPlain) :
    Wire.dropHanging events = events := by
  cases events with
  | nil => rfl
  | cons event rest =>
    cases event with
    | data | eof | fault => rfl
    | pause p => cases hplain

theorem Flowing.settle {c : Connection} (h : c.Flowing) : c.settle.Flowing := by
  refine ⟨⟨h.ready.check, h.ready.isOpen⟩, h.framed, ?_⟩
  have hsame : c.settle.wire.reads = c.wire.reads := dropHanging_plain h.plain
  rw [Wire.Plain, hsame]
  exact h.plain

/-- Receiving takes the frame that stands in front. -/
theorem Flowing.receive_frame {c : Connection} (h : c.Flowing) (f : Frame) {more : Bytes}
    (hunread : c.wire.unread = f.toBytes ++ more) :
    c.receive.value.1 = .ready (.ok f.toBytes) ∧ c.received.wire.unread = more ∧
      c.received.Flowing := by
  obtain ⟨w, hcollect, hmore, hplain, -⟩ := Wire.collect_frame h.plain c.deadline f hunread
  have hreceive := value_receive_framed h.framed
  rw [hcollect] at hreceive
  have hwire : c.received.wire = w := by rw [wire_received, hreceive]
  refine ⟨by rw [hreceive], by rw [hwire]; exact hmore, ⟨h.ready.check, h.ready.isOpen⟩,
    h.framed, ?_⟩
  rw [hwire]
  exact hplain

/-- Receiving at the end of the stream finds the connection closed. -/
theorem Flowing.receive_end {c : Connection} (h : c.Flowing)
    (hshort : c.wire.unread.length < Limits.headerLength) :
    c.receive.value.1 = .ready (.error .connectionClosed) := by
  rw [value_receive_framed h.framed, Wire.collect_short h.plain c.deadline hshort]

/-- Receiving a header that cannot be used fails. -/
theorem Flowing.receive_badLength {c : Connection} (h : c.Flowing) {head more : Bytes}
    (hhead : head.length = Limits.headerLength)
    (hbad : Header.lengthField head = 0 ∨ Limits.maxMbapLength < Header.lengthField head)
    (hunread : c.wire.unread = head ++ more) :
    c.receive.value.1 =
      .ready (.error (.invalidFrame (.length (Header.lengthField head)))) := by
  obtain ⟨w, hcollect, -⟩ := Wire.collect_badLength h.plain c.deadline hhead hbad hunread
  rw [value_receive_framed h.framed, hcollect]

/-- An exchange takes the frame that stands in front, and what stands behind it stays. -/
theorem Flowing.exchange_frame {c : Connection} (h : c.Flowing) {request : Bytes}
    (htakes : c.Takes request) (f : Frame) {more : Bytes}
    (hunread : c.wire.unread = f.toBytes ++ more) :
    (c.exchange request).value.1 = .ok f.toBytes ∧
      (c.exchange request).value.2.Flowing ∧
      (c.exchange request).value.2.wire.unread = more ∧
      (c.exchange request).value.2.stats = c.stats.answered request f.toBytes := by
  obtain ⟨hreceive, hmore, hflowing⟩ := (h.awaiting request).receive_frame f hunread
  rw [h.ready.exchange_of_reply htakes hreceive]
  exact ⟨rfl, ⟨⟨hflowing.ready.check, hflowing.ready.isOpen⟩, hflowing.framed, hflowing.plain⟩,
    hmore, rfl⟩

/-- An exchange at the end of the stream finds the connection closed. -/
theorem Flowing.exchange_end {c : Connection} (h : c.Flowing) {request : Bytes}
    (htakes : c.Takes request) (hshort : c.wire.unread.length < Limits.headerLength) :
    (c.exchange request).value.1 = .error .connectionClosed ∧
      (c.exchange request).value.2.stats =
        { c.stats with
          requestsSent := c.stats.requestsSent + 1
          errors := c.stats.errors + 1
          bytesSent := c.stats.bytesSent + request.length } := by
  rw [h.ready.exchange_of_fault htakes ((h.awaiting request).receive_end hshort)]
  exact ⟨rfl, rfl⟩

/-! ## Runs of exchanges -/

theorem Flowing.turn_frame {c : Connection} (h : c.Flowing) {request : Bytes}
    (htakes : c.Takes request) (f : Frame) {more : Bytes}
    (hunread : c.wire.unread = f.toBytes ++ more) :
    (c.turn (.exchange request)).answer = .reply (.ok f.toBytes) ∧
      (c.turn (.exchange request)).after.Flowing ∧
      (c.turn (.exchange request)).after.wire.unread = more ∧
      (c.turn (.exchange request)).after.stats = c.stats.answered request f.toBytes := by
  obtain ⟨hanswer, hflowing, hmore, hstats⟩ := h.exchange_frame htakes f hunread
  rw [turn_exchange, unread_settle, stats_settle, hanswer]
  exact ⟨rfl, hflowing.settle, hmore, hstats⟩

/-- Exchanges over a stream of frames take one frame each. -/
theorem Flowing.run_frames {c : Connection} (h : c.Flowing) {requests : List Bytes}
    (htakes : c.TakesAll requests) {frames : List Frame}
    (hlength : requests.length = frames.length) {more : Bytes}
    (hunread : c.wire.unread = (frames.map Frame.toBytes).flatten ++ more) :
    (c.run (requests.map .exchange)).value.1 =
        frames.map (fun f => Answer.reply (.ok f.toBytes)) ∧
      (c.run (requests.map .exchange)).value.2.Flowing ∧
      (c.run (requests.map .exchange)).value.2.wire.unread = more ∧
      (c.run (requests.map .exchange)).value.2.stats =
        { c.stats with
          requestsSent := c.stats.requestsSent + frames.length
          responsesReceived := c.stats.responsesReceived + frames.length
          bytesSent := c.stats.bytesSent + requests.flatten.length
          bytesReceived :=
            c.stats.bytesReceived + (frames.map Frame.toBytes).flatten.length } := by
  induction requests generalizing c frames with
  | nil =>
    obtain rfl : frames = [] := List.length_eq_zero_iff.mp hlength.symm
    exact ⟨rfl, h, hunread, rfl⟩
  | cons request rest ih =>
    cases frames with
    | nil => cases hlength
    | cons f others =>
      rw [List.map_cons, List.flatten_cons, List.append_assoc] at hunread
      obtain ⟨hanswer, hflowing, hmore, hstats⟩ := h.turn_frame htakes.1 f hunread
      obtain ⟨hanswers, hflowing', hmore', hstats'⟩ :=
        ih hflowing htakes.2 (Nat.succ.inj hlength) hmore
      rw [List.map_cons, answers_run, turns_cons, List.map_cons, ← answers_run, run_cons]
      refine ⟨?_, hflowing', hmore', ?_⟩
      · rw [hanswers, hanswer, List.map_cons]
      · rw [hstats', hstats]
        simp only [TransportStats.answered, List.map_cons, List.flatten_cons,
          List.length_append, List.length_cons, TransportStats.mk.injEq, true_and]
        omega

/-- Every call gives the next frame of the peer and reads nothing of those behind it, however the
stream is cut; after the last frame the connection is found closed. -/
theorem frames_synchronised {c : Connection} (h : c.Flowing) {frames : List Frame} {tail : Bytes}
    (hunread : c.wire.unread = (frames.map Frame.toBytes).flatten ++ tail)
    {requests : List Bytes} (hlength : requests.length = frames.length)
    (htakes : c.TakesAll requests) :
    (c.run (requests.map .exchange)).value.1 =
        frames.map (fun f => Answer.reply (.ok f.toBytes)) ∧
      (∀ n ≤ frames.length, (c.run ((requests.take n).map .exchange)).value.2.wire.unread =
        ((frames.drop n).map Frame.toBytes).flatten ++ tail) ∧
      (tail = [] → c.stats = {} → ∀ last, c.TakesAll (requests ++ [last]) →
        (c.run ((requests ++ [last]).map .exchange)).value.1 =
            frames.map (fun f => Answer.reply (.ok f.toBytes)) ++
              [.reply (.error .connectionClosed)] ∧
          (c.run ((requests ++ [last]).map .exchange)).value.2.stats =
            { requestsSent := frames.length + 1
              responsesReceived := frames.length
              errors := 1
              timeouts := 0
              bytesSent := (requests ++ [last]).flatten.length
              bytesReceived := (frames.map Frame.toBytes).flatten.length }) := by
  obtain ⟨hanswers, hflowing, hmore, hstats⟩ := h.run_frames htakes hlength hunread
  refine ⟨hanswers, ?_, ?_⟩
  · intro n hn
    rw [← List.take_append_drop n requests] at htakes
    rw [← List.take_append_drop n frames, List.map_append, List.flatten_append,
      List.append_assoc] at hunread
    have htaken : (requests.take n).length = (frames.take n).length := by
      rw [List.length_take, List.length_take, hlength]
    -- the first calls only, with the later frames as what stands behind theirs
    obtain ⟨-, -, hrest, -⟩ := h.run_frames htakes.of_append htaken hunread
    exact hrest
  · intro htail hnew last hlast
    have hshort : (c.run (requests.map .exchange)).value.2.wire.unread.length <
        Limits.headerLength := by
      rw [hmore, htail]
      decide
    obtain ⟨hclosed, hcounts⟩ := hflowing.exchange_end hlast.last hshort
    rw [List.map_append, run_append, hanswers]
    have hrun (c : Connection) : (c.run [.exchange last]).value =
        ([.reply (c.exchange last).value.1], (c.exchange last).value.2.settle) := rfl
    rw [List.map_singleton, hrun, hclosed, stats_settle, hcounts, hstats, hnew]
    refine ⟨rfl, ?_⟩
    simp

/-- Two frames in three chunks, with an interrupted read inside the first header. -/
theorem frames_synchronised_of_chunks :
    let first : Frame := ⟨[0, 1, 0, 0], [7], rfl, by decide, by decide⟩
    let second : Frame := ⟨[0, 2, 9, 9], [8, 0, 1], rfl, by decide, by decide⟩
    let c := fresh
      [.data [0, 1, 0], .fault (.ofKind .interrupted), .data [0, 0, 1, 7, 0, 2, 9, 9, 0],
        .data [3, 8, 0, 1]]
      [.accept 1] none "peer" { receiveMode := .framed }
    (c.run [.exchange [5, 6], .exchange [], .exchange [4]]).value.1 =
        [.reply (.ok first.toBytes), .reply (.ok second.toBytes),
          .reply (.error .connectionClosed)] ∧
      (c.run [.exchange [5, 6]]).value.2.wire.unread = second.toBytes ∧
      (c.run [.exchange [5, 6], .exchange [], .exchange [4]]).value.2.stats =
        { requestsSent := 3, responsesReceived := 2, errors := 1, timeouts := 0, bytesSent := 3,
          bytesReceived := 16 } := by
  intro first second c
  have h : c.Flowing := ⟨⟨rfl, rfl⟩, rfl, rfl⟩
  have htakes (requests : List Bytes) : c.TakesAll requests := takesAll_of_willing rfl requests
  have hunread : c.wire.unread = ([first, second].map Frame.toBytes).flatten ++ [] := by decide
  obtain ⟨-, hleft, hclosed⟩ := frames_synchronised h hunread rfl (htakes [[5, 6], []])
  obtain ⟨hanswers, hstats⟩ := hclosed rfl rfl [4] (htakes _)
  exact ⟨hanswers, hleft 1 (by decide), hstats⟩

end Connection

end ModbusTcp
