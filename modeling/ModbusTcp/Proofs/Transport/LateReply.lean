import ModbusTcp.Proofs.Transport.Receiving
import ModbusTcp.Proofs.Transport.Synchronisation

/-!
# Replies that come late

Receiving that is given up in a pause, before anything came, takes nothing, and the pause runs on.
So a connection stays in use after a reply was not in time, and the reply is not lost: of the
exchanges made one after the other, each waits for one time limit, and the first within whose limit
the pause ends gets it (`Connection.late_reply`). A pause that ends exactly at the limit is in time.
-/

namespace ModbusTcp

/-- The counts after an exchange whose reply was not in time. -/
def TransportStats.unanswered (s : TransportStats) (request : Bytes) : TransportStats :=
  { s with
    requestsSent := s.requestsSent + 1
    errors := s.errors + 1
    timeouts := s.timeouts + 1
    bytesSent := s.bytesSent + request.length }

theorem TransportSettings.zero_lt_of_check {s : TransportSettings} {limit : Nat}
    (hcheck : s.check = .ok ()) (hlimit : s.timeout.toNanos = 1000000 * limit) : 0 < limit := by
  apply Nat.pos_of_ne_zero
  rintro rfl
  rw [TransportSettings.check, if_pos (s.timeout.isZero_iff.mpr hlimit)] at hcheck
  cases hcheck

namespace Connection

/-! ## One exchange -/

/-- The peer takes a request whole and in no time. -/
structure TakesAtOnce (c : Connection) (request : Bytes) : Prop where
  takes : c.Takes request
  now_eq : (c.offered request).wire.now = c.wire.now

theorem TakesAtOnce.sent_turn {c : Connection} {request : Bytes} (h : c.TakesAtOnce request)
    (hready : c.Ready) :
    (c.turn (.exchange request)).after.wire.sent = request :: c.wire.sent := by
  rw [turn_exchange]
  show (c.exchange request).value.2.wire.sent = _
  rw [(c.exchanged request).sent_eq hready]
  exact h.takes.sent_offered

/-- The peer takes each of the requests whole and in no time when its turn comes. -/
def TakesAllAtOnce (c : Connection) (requests : List Bytes) : Prop :=
  c.Throughout TakesAtOnce requests

theorem takesAllAtOnce_of_willing {c : Connection}
    (hwilling : c.wire.writes.all Uptake.isWilling) (requests : List Bytes) :
    c.TakesAllAtOnce requests := by
  refine throughout_of_willing (fun c request h => ?_) hwilling requests
  obtain ⟨htakes, hnow, -⟩ := takes_of_willing h request
  exact ⟨htakes, hnow⟩

/-- A connection in use, with a time limit of whole milliseconds: behind a pause that goes on for
so many milliseconds comes a chunk, and a reply in it. -/
structure Expects (c : Connection) (limit millis : Nat) (chunk reply : Bytes)
    (rest : List Arrival) : Prop where
  ready : c.Ready
  limit_eq : c.settings.timeout.toNanos = 1000000 * limit
  brings : c.settings.Brings chunk reply
  pause : ∃ p, c.wire.reads = .pause p :: .data chunk :: rest ∧ p.left c.wire.now = some millis

namespace Expects

variable {c : Connection} {limit millis : Nat} {chunk reply : Bytes} {rest : List Arrival}

/-- The same is expected with another pause in front, as long as the settings are the same. -/
theorem of_pause {c' : Connection} {millis' : Nat} (h : c.Expects limit millis chunk reply rest)
    (hsettings : c'.settings = c.settings) (hopen : c'.isOpen = c.isOpen)
    (hpause : ∃ p, c'.wire.reads = .pause p :: .data chunk :: rest ∧
      p.left c'.wire.now = some millis') : c'.Expects limit millis' chunk reply rest := by
  refine ⟨⟨?_, ?_⟩, ?_, ?_, hpause⟩
  · rw [hsettings]
    exact h.ready.check
  · rw [hopen]
    exact h.ready.isOpen
  · rw [hsettings]
    exact h.limit_eq
  · rw [hsettings]
    exact h.brings

theorem settle (h : c.Expects limit millis chunk reply rest) :
    c.settle.Expects limit millis chunk reply rest := by
  obtain ⟨p, hreads, hleft⟩ := h.pause
  refine h.of_pause rfl rfl ⟨p, ?_, hleft⟩
  show Wire.dropHanging c.wire.reads = _
  rw [hreads]
  cases p with
  | delay | running | stall => rfl
  | hanging => cases hleft

theorem awaiting (h : c.Expects limit millis chunk reply rest) {request : Bytes}
    (htakes : c.TakesAtOnce request) :
    (c.awaiting request).Expects limit millis chunk reply rest := by
  obtain ⟨p, hreads, hleft⟩ := h.pause
  rw [← htakes.now_eq] at hleft
  exact h.of_pause rfl rfl ⟨p, hreads, hleft⟩

/-- Receiving is given up at the limit if the pause goes on for longer, and what remains of it is
less by the limit. -/
theorem receive_late (h : c.Expects limit millis chunk reply rest) (hlate : limit < millis) :
    c.receive.value.1 = .overdue ∧ c.received.wire.now = c.wire.now + limit ∧
      c.received.Expects limit (millis - limit) chunk reply rest := by
  obtain ⟨p, hreads, hleft⟩ := h.pause
  obtain ⟨remains, hcut, hremains⟩ := Pause.wait_of_lt hleft (Nat.le_add_right c.wire.now limit)
    (Nat.add_lt_add_left hlate c.wire.now)
  rw [Nat.add_sub_add_left] at hremains
  have hreceive := c.value_receive
  rw [deadline_eq h.limit_eq, receiveUntil_cut hreads hcut] at hreceive
  unfold received
  rw [hreceive]
  exact ⟨rfl, rfl, h.of_pause rfl rfl ⟨remains, rfl, hremains⟩⟩

/-- Receiving sits the pause out if it ends within the limit, and takes the reply. -/
theorem receive_in_time (h : c.Expects limit millis chunk reply rest) (hin : millis ≤ limit) :
    c.receive.value.1 = .ready (.ok reply) ∧ c.received.wire.now = c.wire.now + millis ∧
      c.received.wire.unread = chunk.drop reply.length ++ Arrival.bytes rest := by
  obtain ⟨p, hreads, hleft⟩ := h.pause
  have hended : p.wait (some (c.wire.now + limit)) c.wire.now = .ended (c.wire.now + millis) := by
    apply Pause.wait_of_allows hleft
    exact decide_eq_true (Nat.add_le_add_left hin c.wire.now)
  have hreceive : c.receive.value = (.ready (.ok reply),
      { c.wire with
        reads := Arrival.behind (chunk.drop reply.length) rest
        now := c.wire.now + millis }) := by
    rw [value_receive, deadline_eq h.limit_eq, receiveUntil_ended hreads hended]
    exact receiveUntil_chunk
      (c := { c with
        wire := { c.wire with reads := .data chunk :: rest, now := c.wire.now + millis } })
      h.brings rfl _
  unfold received
  rw [hreceive]
  exact ⟨rfl, rfl, Arrival.bytes_behind _ rest⟩

/-- An exchange whose limit the pause outlasts fails after the limit, and the reply is still to
come. -/
theorem turn_late (h : c.Expects limit millis chunk reply rest) {request : Bytes}
    (htakes : c.TakesAtOnce request) (hlate : limit < millis) :
    let t := c.turn (.exchange request)
    t.answer = .reply (.error (.timeout .receive c.settings.timeoutMillis)) ∧
      t.after.Expects limit (millis - limit) chunk reply rest ∧
      t.after.settings = c.settings ∧ t.after.wire.sent = request :: c.wire.sent ∧
      t.after.wire.now = c.wire.now + limit ∧ t.after.stats = c.stats.unanswered request := by
  intro t
  obtain ⟨hreceive, hnow, hexpects⟩ := (h.awaiting htakes).receive_late hlate
  have hsent : t.after.wire.sent = request :: c.wire.sent := htakes.sent_turn h.ready
  have ht : t = c.turn (.exchange request) := rfl
  rw [turn_exchange, h.ready.exchange_of_overdue htakes.takes hreceive] at ht
  rw [ht] at hsent ⊢
  refine ⟨rfl, ?_, rfl, hsent, ?_, rfl⟩
  · apply Expects.settle
    exact hexpects.of_pause rfl rfl hexpects.pause
  · exact hnow.trans (congrArg (· + limit) htakes.now_eq)

/-- An exchange within whose limit the pause ends gets the reply. -/
theorem turn_in_time (h : c.Expects limit millis chunk reply rest) {request : Bytes}
    (htakes : c.TakesAtOnce request) (hin : millis ≤ limit) :
    let t := c.turn (.exchange request)
    t.answer = .reply (.ok reply) ∧ t.after.Ready ∧
      t.after.wire.unread = chunk.drop reply.length ++ Arrival.bytes rest ∧
      t.after.wire.sent = request :: c.wire.sent ∧
      t.after.wire.now = c.wire.now + millis ∧
      t.after.stats = c.stats.answered request reply := by
  intro t
  obtain ⟨hreceive, hnow, hunread⟩ := (h.awaiting htakes).receive_in_time hin
  have hsent : t.after.wire.sent = request :: c.wire.sent := htakes.sent_turn h.ready
  have ht : t = c.turn (.exchange request) := rfl
  rw [turn_exchange, h.ready.exchange_of_reply htakes.takes hreceive] at ht
  rw [ht] at hsent ⊢
  refine ⟨rfl, ⟨h.ready.check, h.ready.isOpen⟩, ?_, hsent, ?_, rfl⟩
  · rw [unread_settle]
    exact hunread
  · exact hnow.trans (congrArg (· + millis) htakes.now_eq)

/-! ## Runs of exchanges -/

/-- Exchanges made one after the other until the reply comes: each of them but the last spends one
time limit of the pause. -/
theorem run (h : c.Expects limit millis chunk reply rest) {requests : List Bytes}
    (htakes : c.TakesAllAtOnce requests)
    (hlength : requests.length = (millis - 1) / limit + 1) :
    let missed := (millis - 1) / limit
    let after := (c.run (requests.map .exchange)).value.2
    (c.run (requests.map .exchange)).value.1 =
        List.replicate missed (.reply (.error (.timeout .receive c.settings.timeoutMillis))) ++
          [.reply (.ok reply)] ∧
      after.Ready ∧ after.wire.unread = chunk.drop reply.length ++ Arrival.bytes rest ∧
      after.wire.sent = requests.reverse ++ c.wire.sent ∧
      after.wire.now = c.wire.now + millis ∧
      after.stats =
        { requestsSent := c.stats.requestsSent + missed + 1
          responsesReceived := c.stats.responsesReceived + 1
          errors := c.stats.errors + missed
          timeouts := c.stats.timeouts + missed
          bytesSent := c.stats.bytesSent + requests.flatten.length
          bytesReceived := c.stats.bytesReceived + reply.length } := by
  have hpos := TransportSettings.zero_lt_of_check h.ready.check h.limit_eq
  induction requests generalizing c millis with
  | nil => cases hlength
  | cons request others ih =>
    rw [List.map_cons, answers_run, turns_cons, List.map_cons, ← answers_run, run_cons]
    intro missed after
    by_cases hlate : limit < millis
    -- one limit of the pause is spent, and the same is said of what remains of it
    · obtain ⟨hanswer, hexpects, hsettings, hsent, hnow, hstats⟩ := h.turn_late htakes.1 hlate
      have hmissed : missed = (millis - limit - 1) / limit + 1 := by
        show (millis - 1) / limit = _
        rw [Nat.div_eq_sub_div hpos (by omega), Nat.sub_right_comm]
      have hothers : others.length = (millis - limit - 1) / limit + 1 :=
        Nat.succ.inj (hlength.trans (congrArg (· + 1) hmissed))
      obtain ⟨hanswers, hready, hunread, hsent', hnow', hstats'⟩ :=
        ih hexpects htakes.2 hothers
      rw [hmissed, hanswers, hanswer, hsettings, List.replicate_succ, List.cons_append]
      refine ⟨rfl, hready, hunread, ?_, ?_, ?_⟩
      · rw [hsent', hsent, List.reverse_cons, List.append_assoc, List.singleton_append]
      · show after.wire.now = _
        rw [hnow', hnow, Nat.add_assoc, Nat.add_sub_cancel' (Nat.le_of_lt hlate)]
      · rw [hstats', hstats]
        simp only [TransportStats.unanswered, List.flatten_cons, List.length_append,
          TransportStats.mk.injEq, true_and, and_true]
        omega
    · have hin : millis ≤ limit := Nat.le_of_not_lt hlate
      have hmissed : missed = 0 := Nat.div_eq_of_lt (by omega)
      obtain rfl : others = [] :=
        List.length_eq_zero_iff.mp (Nat.succ.inj (hlength.trans (congrArg (· + 1) hmissed)))
      obtain ⟨hanswer, hready, hunread, hsent, hnow, hstats⟩ := h.turn_in_time htakes.1 hin
      rw [hmissed, hanswer]
      refine ⟨rfl, hready, hunread, hsent, hnow, ?_⟩
      show (c.turn (.exchange request)).after.stats = _
      rw [hstats]
      simp [TransportStats.answered]

end Expects

/-- The reply on a new connection comes after a delay, and the peer takes all requests at once.
Then as many exchanges time out as there are whole time limits in the delay less one millisecond,
and the next one gets the reply: as much of the chunk as there is room for in a single read, and
exactly the frame that stands in front if frames are received. All requests are sent whole, what
was not taken of the chunk is left in front of what follows, and the counts tell all of it. -/
theorem late_reply {settings : TransportSettings} {limit delay : Nat}
    (hcheck : settings.check = .ok ()) (hlimit : settings.timeout.toNanos = 1000000 * limit)
    {chunk reply : Bytes} (hbrings : settings.Brings chunk reply) (rest : List Arrival)
    (writes : List Uptake) (shutdownFault : Option IoFault) (peer : String)
    {requests : List Bytes} (hlength : requests.length = (delay - 1) / limit + 1)
    (htakes : (fresh (.pause (.delay delay) :: .data chunk :: rest) writes shutdownFault peer
      settings).TakesAllAtOnce requests) :
    let c := fresh (.pause (.delay delay) :: .data chunk :: rest) writes shutdownFault peer settings
    let missed := (delay - 1) / limit
    let after := (c.run (requests.map .exchange)).value.2
    (c.run (requests.map .exchange)).value.1 =
        List.replicate missed (.reply (.error (.timeout .receive settings.timeoutMillis))) ++
          [.reply (.ok reply)] ∧
      after.Ready ∧ after.wire.unread = chunk.drop reply.length ++ Arrival.bytes rest ∧
      after.wire.sent = requests.reverse ∧ after.wire.now = delay ∧
      after.stats =
        { requestsSent := missed + 1
          responsesReceived := 1
          errors := missed
          timeouts := missed
          bytesSent := requests.flatten.length
          bytesReceived := reply.length } := by
  intro c missed after
  have hexpects : c.Expects limit delay chunk reply rest :=
    ⟨⟨hcheck, rfl⟩, hlimit, hbrings, .delay delay, rfl, rfl⟩
  obtain ⟨hanswers, hready, hunread, hsent, hnow, hstats⟩ := hexpects.run htakes hlength
  have hnone : c.wire.sent = [] := rfl
  have hstart : c.wire.now = 0 := rfl
  have hnew : c.stats = {} := rfl
  rw [hnone, List.append_nil] at hsent
  rw [hstart, Nat.zero_add] at hnow
  rw [hnew] at hstats
  simp only [Nat.zero_add] at hstats
  exact ⟨hanswers, hready, hunread, hsent, hnow, hstats⟩

/-- Frames are received within a tenth of a second each. -/
def tenthOfSecond : TransportSettings := { timeout := .ofMillis 100, receiveMode := .framed }

/-- An exception reply, with a code for an address that the device does not have. -/
def exceptionFrame : Frame := ⟨[0, 1, 0, 0], [17, 131, 2], rfl, by decide, by decide⟩

/-- A stream that brings a frame, and the beginning of another, in two tenths of a second. -/
def lateFrame : Connection :=
  fresh [.pause (.delay 200), .data (exceptionFrame.toBytes ++ [0, 2]), .pause .stall, .data [0]]
    [.accept 1] none "peer" tenthOfSecond

/-- A reply that comes exactly with the end of the second time limit is in time for the second
exchange. -/
theorem late_reply_of_two_limits :
    tenthOfSecond.check = .ok () ∧ lateFrame.TakesAllAtOnce [[1, 2], [3]] ∧
      (lateFrame.run [.exchange [1, 2], .exchange [3]]).value.1 =
        [.reply (.error (.timeout .receive 100)), .reply (.ok exceptionFrame.toBytes)] ∧
      (lateFrame.run [.exchange [1, 2], .exchange [3]]).value.2.wire.unread = [0, 2, 0] ∧
      (lateFrame.run [.exchange [1, 2], .exchange [3]]).value.2.stats =
        { requestsSent := 2, responsesReceived := 1, errors := 1, timeouts := 1, bytesSent := 3,
          bytesReceived := 9 } := by
  have hcheck : tenthOfSecond.check = .ok () := rfl
  have hlimit : tenthOfSecond.timeout.toNanos = 1000000 * 100 := rfl
  have hmillis : tenthOfSecond.timeoutMillis = 100 := rfl
  have htakes : lateFrame.TakesAllAtOnce [[1, 2], [3]] := takesAllAtOnce_of_willing rfl _
  obtain ⟨hanswers, -, hunread, -, -, hstats⟩ := late_reply hcheck hlimit
    (.framed rfl exceptionFrame [0, 2]) [.pause .stall, .data [0]] [.accept 1] none "peer" rfl
    htakes
  rw [hmillis] at hanswers
  exact ⟨hcheck, htakes, hanswers, hunread, hstats⟩

end Connection

end ModbusTcp
