import ModbusTcp.Proofs.Transport.Exchange
import ModbusTcp.Transport.Session

/-!
# The turns of a session

A turn is one step of a session with its answer and the connections before and after it. What a
session came to is read off its turns: which exchanges were admitted, what was answered, which
bytes the peer took and which were taken from the peer. A statement about sessions is proved of one
turn first (`Connection.turn`) and then of all turns (`Connection.turns`).
-/

namespace ModbusTcp.Connection

/-- One step of a session, with what it gave and the connections around it. -/
structure Turn where
  before : Connection
  step : Step
  answer : Answer
  after : Connection

/-- A connection over a stream that nothing has gone over yet. -/
def fresh (reads : List Arrival) (writes : List Uptake) (shutdownFault : Option IoFault)
    (peer : String) (settings : TransportSettings) : Connection where
  wire := { reads := reads, writes := writes, shutdownFault := shutdownFault }
  peer := peer
  settings := settings

/-- The turn that a step makes. -/
def turn (c : Connection) (s : Step) : Turn := ⟨c, s, (c.step s).value.1, (c.step s).value.2⟩

/-- The turns of a session, in the order of its steps. -/
def turns (c : Connection) : List Step → List Turn
  | [] => []
  | s :: rest => c.turn s :: (c.step s).value.2.turns rest

namespace Turn

/-- The request, if the step is an exchange. -/
def request? (t : Turn) : Option Bytes :=
  match t.step with
  | .exchange request => some request
  | _ => none

/-- The reply, if the step is an exchange and there was one. -/
def reply? (t : Turn) : Option Bytes :=
  match t.answer with
  | .reply (.ok reply) => some reply
  | _ => none

/-- The failure, if the step is an exchange and failed. -/
def failure? (t : Turn) : Option Failure :=
  match t.answer with
  | .reply (.error f) => some f
  | _ => none

/-- An exchange on an open connection whose settings can be used. -/
def admitted (t : Turn) : Bool :=
  t.request?.isSome && t.before.isOpen && t.before.settings.check.isOk

/-- The bytes that the peer took in this step. -/
def taken (t : Turn) : Bytes := t.after.wire.taken.drop t.before.wire.taken.length

/-- The bytes that this step took from the peer. -/
def consumed (t : Turn) : Bytes :=
  t.before.wire.unread.take (t.before.wire.unread.length - t.after.wire.unread.length)

/-- An admitted exchange whose request the peer took completely. -/
def takenWhole (t : Turn) : Bool := t.admitted && t.request? == some t.taken

theorem taken_of_append {t : Turn} {more : Bytes}
    (h : t.after.wire.taken = t.before.wire.taken ++ more) : t.taken = more := by
  rw [taken, h, List.drop_left]

theorem consumed_of_append {t : Turn} {some : Bytes}
    (h : t.before.wire.unread = some ++ t.after.wire.unread) : t.consumed = some := by
  have hlen : t.before.wire.unread.length - t.after.wire.unread.length = some.length := by
    rw [h, List.length_append]
    omega
  rw [consumed, hlen, h, List.take_left]

end Turn

/-! ## Settling a wire -/

theorem bytes_dropHanging (events : List Arrival) :
    Arrival.bytes (Wire.dropHanging events) = Arrival.bytes events := by
  unfold Wire.dropHanging
  split <;> rfl

@[simp]
theorem unread_settle (c : Connection) : c.settle.wire.unread = c.wire.unread :=
  bytes_dropHanging c.wire.reads

@[simp]
theorem taken_settle (c : Connection) : c.settle.wire.taken = c.wire.taken := rfl

@[simp]
theorem stats_settle (c : Connection) : c.settle.stats = c.stats := rfl

/-! ## Sessions as turns -/

theorem turns_cons (c : Connection) (s : Step) (rest : List Step) :
    c.turns (s :: rest) = c.turn s :: (c.turn s).after.turns rest := rfl

theorem run_cons (c : Connection) (s : Step) (rest : List Step) :
    (c.run (s :: rest)).value.2 = ((c.turn s).after.run rest).value.2 := rfl

/-- A session may be broken off anywhere and gone on with. -/
theorem run_append (c : Connection) (steps more : List Step) :
    (c.run (steps ++ more)).value =
      ((c.run steps).value.1 ++ ((c.run steps).value.2.run more).value.1,
        ((c.run steps).value.2.run more).value.2) := by
  induction steps generalizing c with
  | nil => rfl
  | cons s rest ih =>
    have hrest := ih (c.turn s).after
    have hcons (steps : List Step) : (c.run (s :: steps)).value =
        ((c.turn s).answer :: ((c.turn s).after.run steps).value.1,
          ((c.turn s).after.run steps).value.2) := rfl
    rw [List.cons_append, hcons, hcons, hrest]
    rfl

/-- The answers of a session are those of its turns. -/
theorem answers_run (c : Connection) (steps : List Step) :
    (c.run steps).value.1 = (c.turns steps).map Turn.answer := by
  induction steps generalizing c with
  | nil => rfl
  | cons s rest ih =>
    rw [turns_cons, List.map_cons, ← ih]
    rfl

/-- What holds of every turn that a connection can make, as long as the connection keeps a
property that its turns keep, holds of all turns of a session. -/
theorem forall_mem_turns {I : Connection → Prop} {P : Turn → Prop}
    (hkeep : ∀ c s, I c → I (c.turn s).after) (hturn : ∀ c s, I c → P (c.turn s))
    (steps : List Step) {c : Connection} (hc : I c) : ∀ t ∈ c.turns steps, P t := by
  induction steps generalizing c with
  | nil => simp [turns]
  | cons s rest ih =>
    intro t ht
    rw [turns_cons] at ht
    rcases List.mem_cons.mp ht with rfl | ht
    · exact hturn c s hc
    · exact ih (hkeep c s hc) t ht

/-- What every turn of a connection keeps holds after every session. -/
theorem run_keeps {I : Connection → Prop} (hkeep : ∀ c s, I c → I (c.turn s).after)
    (steps : List Step) {c : Connection} (hc : I c) : I (c.run steps).value.2 := by
  induction steps generalizing c with
  | nil => exact hc
  | cons s rest ih => exact ih (hkeep c s hc)

/-! ## Sessions of exchanges -/

/-- Requests are exchanged one after the other, and a condition holds of each of them and of the
connection when its turn comes. -/
def Throughout (P : Connection → Bytes → Prop) (c : Connection) : List Bytes → Prop
  | [] => True
  | request :: rest => P c request ∧ (c.turn (.exchange request)).after.Throughout P rest

/-- What holds of every request, as long as the connection keeps a property that exchanges keep,
holds throughout. -/
theorem throughout_of_keeps {I : Connection → Prop} {P : Connection → Bytes → Prop}
    (hkeep : ∀ c request, I c → I (c.turn (.exchange request)).after)
    (hturn : ∀ c request, I c → P c request) (requests : List Bytes) {c : Connection}
    (hc : I c) : c.Throughout P requests := by
  induction requests generalizing c with
  | nil => trivial
  | cons request rest ih => exact ⟨hturn c request hc, ih (hkeep c request hc)⟩

theorem Throughout.of_append {P : Connection → Bytes → Prop} {c : Connection}
    {requests more : List Bytes} (h : c.Throughout P (requests ++ more)) :
    c.Throughout P requests := by
  induction requests generalizing c with
  | nil => trivial
  | cons request rest ih => exact ⟨h.1, ih h.2⟩

theorem Throughout.last {P : Connection → Bytes → Prop} {c : Connection}
    {requests : List Bytes} {last : Bytes} (h : c.Throughout P (requests ++ [last])) :
    P (c.run (requests.map .exchange)).value.2 last := by
  induction requests generalizing c with
  | nil => exact h.1
  | cons request rest ih =>
    rw [List.map_cons, run_cons]
    exact ih h.2

/-! ## One step -/

/-- Closing an open connection shuts its wire down; closing it again does nothing. -/
theorem value_close (c : Connection) :
    c.close.value =
      (.ok (), if c.isOpen then { c with wire := c.wire.shutdown.2, isOpen := false } else c) := by
  unfold close Wire.shutdown
  cases c.isOpen with
  | true =>
    rcases c.wire.shutdownFault with _ | f
    · simp
    · simp
  | false => simp

theorem isOpen_close (c : Connection) : c.close.value.2.isOpen = false := by
  rw [value_close]
  cases hopen : c.isOpen with
  | true => rfl
  | false => exact hopen

theorem sent_close (c : Connection) : c.close.value.2.wire.sent = c.wire.sent := by
  rw [value_close]
  split <;> rfl

theorem settings_close (c : Connection) : c.close.value.2.settings = c.settings := by
  rw [value_close]
  split <;> rfl

/-- A step that is no exchange has neither a reply nor a failure. -/
theorem answer_of_request?_eq_none {c : Connection} {s : Step}
    (h : (c.turn s).request? = none) :
    (c.turn s).reply? = none ∧ (c.turn s).failure? = none := by
  cases s with
  | exchange request => cases h
  | close | setPacketLogging | wait => exact ⟨rfl, rfl⟩

/-- A step that is no exchange leaves the counts, what there is to read and what was sent. -/
theorem turn_of_request?_eq_none {c : Connection} {s : Step}
    (h : (c.turn s).request? = none) :
    (c.turn s).after.stats = c.stats ∧ (c.turn s).after.wire.unread = c.wire.unread ∧
      (c.turn s).after.wire.taken = c.wire.taken := by
  cases s with
  | exchange request => cases h
  | close =>
    have hafter : (c.turn .close).after = c.close.value.2.settle := rfl
    rw [hafter, stats_settle, unread_settle, taken_settle, value_close]
    split <;> exact ⟨rfl, rfl, rfl⟩
  | setPacketLogging on =>
    have hafter : (c.turn (.setPacketLogging on)).after = (c.setPacketLogging on).settle := rfl
    rw [hafter, stats_settle, unread_settle, taken_settle]
    exact ⟨rfl, rfl, rfl⟩
  | wait millis =>
    have hafter : (c.turn (.wait millis)).after =
      ({ c with wire := c.wire.pass millis } : Connection).settle := rfl
    rw [hafter, stats_settle, unread_settle, taken_settle]
    exact ⟨rfl, rfl, rfl⟩

/-! ## Exchanges as turns -/

theorem eq_exchange_of_request? {c : Connection} {s : Step} {request : Bytes}
    (h : (c.turn s).request? = some request) : s = .exchange request := by
  cases s with
  | exchange given =>
    cases h
    rfl
  | close | setPacketLogging | wait => cases h

/-- The turn of an exchange, with the connection that the exchange left. -/
theorem turn_exchange (c : Connection) (request : Bytes) :
    c.turn (.exchange request) =
      ⟨c, .exchange request, .reply (c.exchange request).value.1,
        (c.exchange request).value.2.settle⟩ := rfl

theorem reply?_turn_exchange {c : Connection} {request reply : Bytes} :
    (c.turn (.exchange request)).reply? = some reply ↔
      (c.exchange request).value.1 = .ok reply := by
  rw [turn_exchange, Turn.reply?]
  cases (c.exchange request).value.1 <;> simp

theorem failure?_turn_exchange {c : Connection} {request : Bytes} {f : Failure} :
    (c.turn (.exchange request)).failure? = some f ↔
      (c.exchange request).value.1 = .error f := by
  rw [turn_exchange, Turn.failure?]
  cases (c.exchange request).value.1 <;> simp

/-- An exchange has a reply or a failure only if it is admitted, or it is refused. -/
theorem answer_of_not_ready {c : Connection} (request : Bytes) (hready : ¬ c.Ready) :
    (∃ why, (c.exchange request).value.1 = .error (.configuration why)) ∨
      (c.exchange request).value.1 = .error .notConnected := by
  have h := c.exchanged request
  generalize c.exchange request = r at h
  cases h with
  | refused hcheck => exact .inl ⟨_, rfl⟩
  | notConnected => exact .inr rfl
  | sendOverdue h | sendFault h | receiveOverdue h | receiveFault h | replied h =>
    exact absurd h hready

/-- What the turn of an exchange takes from the peer, by what the exchange leaves to read. -/
theorem consumed_turn_exchange {c : Connection} {request taken : Bytes}
    (h : c.wire.unread = taken ++ (c.exchange request).value.2.wire.unread) :
    (c.turn (.exchange request)).consumed = taken ∧
      c.wire.unread = taken ++ (c.turn (.exchange request)).after.wire.unread := by
  have hafter : c.wire.unread = taken ++ (c.turn (.exchange request)).after.wire.unread := by
    rw [turn_exchange, unread_settle]
    exact h
  exact ⟨Turn.consumed_of_append hafter, hafter⟩

/-- A turn leaves the settings but for packet logging. -/
theorem exists_settings_turn (c : Connection) (s : Step) :
    ∃ on, (c.turn s).after.settings = { c.settings with packetLogging := on } := by
  cases s with
  | exchange request => exact ⟨_, (c.exchanged request).settings_eq⟩
  | close =>
    refine ⟨c.settings.packetLogging, ?_⟩
    change c.close.value.2.settings = _
    rw [settings_close]
  | setPacketLogging on => exact ⟨on, rfl⟩
  | wait millis => exact ⟨_, rfl⟩

theorem receiveMode_turn (c : Connection) (s : Step) :
    (c.turn s).after.settings.receiveMode = c.settings.receiveMode := by
  obtain ⟨on, h⟩ := c.exists_settings_turn s
  rw [h]

theorem admitted_turn_exchange (c : Connection) (request : Bytes) :
    (c.turn (.exchange request)).admitted = true ↔ c.Ready := by
  have hadmitted : (c.turn (.exchange request)).admitted =
      (c.isOpen && c.settings.check.isOk) := rfl
  rw [hadmitted, Bool.and_eq_true]
  constructor
  · rintro ⟨hopen, hok⟩
    refine ⟨?_, hopen⟩
    rcases hcheck : c.settings.check with why | ⟨⟩
    · rw [hcheck] at hok
      cases hok
    · rfl
  · intro h
    exact ⟨h.isOpen, by rw [h.check]; rfl⟩

/-- A refused exchange changes nothing. -/
theorem Exchanged.eq_of_not_ready {c : Connection} {request : Bytes}
    {r : Logged (Except Failure Bytes × Connection)} (h : Exchanged c request r)
    (hready : ¬ c.Ready) : r.value.2 = c := by
  cases h with
  | refused | notConnected => rfl
  | sendOverdue h | sendFault h | receiveOverdue h | receiveFault h | replied h =>
    exact absurd h hready

/-- In the turn of an admitted exchange the peer takes the beginning of the request, and all of it
if and only if sending succeeds. -/
theorem exists_taken_turn_exchange {c : Connection} (request : Bytes) (hready : c.Ready) :
    ∃ rest, (c.turn (.exchange request)).after.wire.taken =
        c.wire.taken ++ (c.turn (.exchange request)).taken ∧
      request = (c.turn (.exchange request)).taken ++ rest ∧ (c.Takes request ↔ rest = []) := by
  obtain ⟨more, rest, htaken, hrequest, htakes⟩ := c.exists_taken_offered request
  have hafter : (c.turn (.exchange request)).after.wire.taken = c.wire.taken ++ more := by
    rw [turn_exchange, taken_settle, Wire.taken, (c.exchanged request).sent_eq hready]
    exact htaken
  have hmore : (c.turn (.exchange request)).taken = more := Turn.taken_of_append hafter
  rw [hmore]
  exact ⟨rest, hafter, hrequest, htakes⟩

theorem takenWhole_turn_exchange (c : Connection) (request : Bytes) :
    (c.turn (.exchange request)).takenWhole = true ↔ c.Ready ∧ c.Takes request := by
  rw [Turn.takenWhole, Bool.and_eq_true, admitted_turn_exchange]
  refine and_congr_right fun hready => ?_
  obtain ⟨rest, -, hrequest, htakes⟩ := exists_taken_turn_exchange request hready
  have hsome : (c.turn (.exchange request)).request? = some request := rfl
  rw [hsome, htakes, beq_iff_eq, Option.some.injEq]
  constructor
  · intro heq
    rw [← heq] at hrequest
    exact List.self_eq_append_right.mp hrequest
  · intro hnil
    rwa [hnil, List.append_nil] at hrequest

theorem taken_turn_of_not_ready {c : Connection} (request : Bytes) (hready : ¬ c.Ready) :
    (c.turn (.exchange request)).after.wire.taken = c.wire.taken := by
  rw [turn_exchange, taken_settle, (c.exchanged request).eq_of_not_ready hready]

/-- What the peer took never changes but by what it takes in a turn. -/
theorem taken_turn (c : Connection) (s : Step) :
    (c.turn s).after.wire.taken = c.wire.taken ++ (c.turn s).taken := by
  have hnothing (h : (c.turn s).after.wire.taken = c.wire.taken) :
      (c.turn s).after.wire.taken = c.wire.taken ++ (c.turn s).taken := by
    have hafter : (c.turn s).after.wire.taken = (c.turn s).before.wire.taken ++ [] := by
      rw [h, List.append_nil]
      rfl
    rw [Turn.taken_of_append hafter, hafter]
    rfl
  rcases hrequest : (c.turn s).request? with _ | request
  · exact hnothing (turn_of_request?_eq_none hrequest).2.2
  · obtain rfl := eq_exchange_of_request? hrequest
    by_cases hready : c.Ready
    · obtain ⟨rest, htaken, -, -⟩ := exists_taken_turn_exchange request hready
      exact htaken
    · exact hnothing (taken_turn_of_not_ready request hready)

end ModbusTcp.Connection
