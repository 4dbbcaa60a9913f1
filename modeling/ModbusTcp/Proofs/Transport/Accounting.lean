import ModbusTcp.Proofs.Transport.Turn

/-!
# The counts of a connection

Six counts are kept over seven ends of an exchange. Each of them is the number, or the total
length, of the turns it stands for: `Connection.Accounted` says so of the counts before and after
any stretch of turns, one turn keeps it, and stretches can be put together, so it holds of whole
sessions. What the peer took beyond the counted requests is what failed sends left behind
(`Turn.wasted`).
-/

namespace ModbusTcp

/-- Counts are compared one by one. -/
instance : LE TransportStats where
  le s s' := s.requestsSent ≤ s'.requestsSent ∧ s.responsesReceived ≤ s'.responsesReceived ∧
    s.errors ≤ s'.errors ∧ s.timeouts ≤ s'.timeouts ∧ s.bytesSent ≤ s'.bytesSent ∧
    s.bytesReceived ≤ s'.bytesReceived

namespace Connection

namespace Turn

/-- An admitted exchange without a reply. -/
def failed (t : Turn) : Bool := t.admitted && t.reply?.isNone

/-- An exchange that was cut off by the time limit. -/
def timedOut (t : Turn) : Bool :=
  match t.answer with
  | .reply (.error (.timeout ..)) => true
  | _ => false

/-- The request, if the step is an admitted exchange and the peer took its request completely. -/
def sent? (t : Turn) : Option Bytes := if t.takenWhole then t.request? else none

/-- The bytes that the peer took of a request that it did not take completely. -/
def wasted (t : Turn) : Bytes := if t.takenWhole then [] else t.taken

end Turn

/-- What the counts after some turns are, given those before. -/
structure Accounted (s s' : TransportStats) (turns : List Turn) : Prop where
  requestsSent : s'.requestsSent = s.requestsSent + turns.countP Turn.admitted
  responsesReceived :
    s'.responsesReceived = s.responsesReceived + (turns.filterMap Turn.reply?).length
  errors : s'.errors = s.errors + turns.countP Turn.failed
  timeouts : s'.timeouts = s.timeouts + turns.countP Turn.timedOut
  bytesSent :
    s'.bytesSent = s.bytesSent + (turns.filterMap Turn.sent?).flatten.length
  bytesReceived :
    s'.bytesReceived = s.bytesReceived + (turns.filterMap Turn.reply?).flatten.length

theorem Accounted.nil (s : TransportStats) : Accounted s s [] := by
  constructor <;> rfl

/-- Stretches of turns are accounted for one after the other. -/
theorem Accounted.append {s s' s'' : TransportStats} {ts us : List Turn}
    (h : Accounted s s' ts) (h' : Accounted s' s'' us) : Accounted s s'' (ts ++ us) where
  requestsSent := by rw [h'.requestsSent, h.requestsSent, List.countP_append, Nat.add_assoc]
  responsesReceived := by
    rw [h'.responsesReceived, h.responsesReceived, List.filterMap_append, List.length_append,
      Nat.add_assoc]
  errors := by rw [h'.errors, h.errors, List.countP_append, Nat.add_assoc]
  timeouts := by rw [h'.timeouts, h.timeouts, List.countP_append, Nat.add_assoc]
  bytesSent := by
    rw [h'.bytesSent, h.bytesSent, List.filterMap_append, List.flatten_append,
      List.length_append, Nat.add_assoc]
  bytesReceived := by
    rw [h'.bytesReceived, h.bytesReceived, List.filterMap_append, List.flatten_append,
      List.length_append, Nat.add_assoc]

/-- A turn that is no admitted exchange and leaves the counts is accounted for. -/
theorem Accounted.of_not_admitted {s : TransportStats} {t : Turn} (hadmitted : t.admitted = false)
    (hreply : t.reply? = none) (htimeout : t.timedOut = false) : Accounted s s [t] := by
  have hfailed : t.failed = false := by rw [Turn.failed, hadmitted, Bool.false_and]
  have hsent : t.sent? = none := by simp [Turn.sent?, Turn.takenWhole, hadmitted]
  constructor <;> simp [hadmitted, hreply, htimeout, hfailed, hsent]

/-- A failure to receive is no timeout: that is the caller's business. -/
theorem receive_error_ne_timeout {c : Connection} {f : Failure}
    (h : c.receive.value.1 = .ready (.error f)) (phase : Phase) (millis : UInt64) :
    f ≠ .timeout phase millis := by
  cases hmode : c.settings.receiveMode with
  | singleRead =>
    rw [value_receive_singleRead hmode] at h
    rcases hanswer : (c.wire.read c.settings.maxResponseSize c.deadline).1 with (g | bs) | _ <;>
      rw [hanswer] at h <;> cases h
    simp
  | framed =>
    obtain ⟨taken, -, hcollected⟩ := c.wire.collect_collected c.deadline
    rw [← value_receive_framed hmode, h] at hcollected
    cases hcollected <;> simp

theorem sent?_of_takes {c : Connection} {request : Bytes} (hready : c.Ready)
    (htakes : c.Takes request) : (c.turn (.exchange request)).sent? = some request := by
  rw [Turn.sent?, (takenWhole_turn_exchange c request).mpr ⟨hready, htakes⟩]
  rfl

theorem sent?_of_not_takes {c : Connection} {request : Bytes} (htakes : ¬ c.Takes request) :
    (c.turn (.exchange request)).sent? = none := by
  have hwhole : (c.turn (.exchange request)).takenWhole = false := by
    rw [← Bool.not_eq_true, takenWhole_turn_exchange]
    exact fun h => htakes h.2
  rw [Turn.sent?, hwhole]
  rfl

theorem timedOut_turn_exchange (c : Connection) (request : Bytes) :
    (c.turn (.exchange request)).timedOut =
      match (c.exchange request).value.1 with
      | .error (.timeout ..) => true
      | _ => false := by
  rw [turn_exchange, Turn.timedOut]
  rcases (c.exchange request).value.1 with f | reply
  · cases f <;> rfl
  · rfl

theorem turn_of_error {c : Connection} {request : Bytes} {f : Failure} (hready : c.Ready)
    (h : (c.exchange request).value.1 = .error f) :
    (c.turn (.exchange request)).reply? = none ∧
      (c.turn (.exchange request)).failed = true := by
  have hreply : (c.turn (.exchange request)).reply? = none := by
    rw [turn_exchange, h]
    rfl
  refine ⟨hreply, ?_⟩
  rw [Turn.failed, hreply, (admitted_turn_exchange c request).mpr hready]
  rfl

theorem turn_of_reply {c : Connection} {request reply : Bytes}
    (h : (c.exchange request).value.1 = .ok reply) :
    (c.turn (.exchange request)).reply? = some reply ∧
      (c.turn (.exchange request)).failed = false := by
  have hreply := reply?_turn_exchange.mpr h
  refine ⟨hreply, ?_⟩
  rw [Turn.failed, hreply]
  exact Bool.and_false _

/-- An admitted exchange is accounted for, whichever end it has. -/
theorem accounted_exchange {c : Connection} (request : Bytes) (hready : c.Ready) :
    Accounted c.stats (c.turn (.exchange request)).after.stats [c.turn (.exchange request)] := by
  have hadmitted := (admitted_turn_exchange c request).mpr hready
  have htimedOut := timedOut_turn_exchange c request
  have hstats : (c.turn (.exchange request)).after.stats = (c.exchange request).value.2.stats :=
    rfl
  rw [hstats]
  -- at each end: what the turn is counted as, and the counts written out
  have hexchanged := c.exchanged request
  generalize hr : c.exchange request = r at hexchanged htimedOut
  cases hexchanged with
  | refused hcheck => exact (hready.not_refused hcheck).elim
  | notConnected hcheck hclosed => exact (hready.not_closed hclosed).elim
  | sendOverdue _ hsend =>
    obtain ⟨hreply, hfailed⟩ := turn_of_error (f := c.timeoutIn .send) hready (by rw [hr])
    have hsent := sent?_of_not_takes (not_takes_of_send hsend (by simp))
    constructor <;>
      simp [hadmitted, hreply, hfailed, htimedOut, hsent, countTimeout, offered, countRequest,
        timeoutIn]
  | @sendFault f _ hsend =>
    obtain ⟨hreply, hfailed⟩ := turn_of_error (f := .io f) hready (by rw [hr])
    have hsent := sent?_of_not_takes (not_takes_of_send hsend (by simp))
    constructor <;>
      simp [hadmitted, hreply, hfailed, htimedOut, hsent, countError, offered, countRequest]
  | receiveOverdue _ htakes hreceive =>
    obtain ⟨hreply, hfailed⟩ := turn_of_error (f := c.timeoutIn .receive) hready (by rw [hr])
    have hsent := sent?_of_takes hready htakes
    constructor <;>
      simp [hadmitted, hreply, hfailed, htimedOut, hsent, countTimeout, received, awaiting,
        offered, countRequest, countSent, timeoutIn]
  | @receiveFault f _ htakes hreceive =>
    obtain ⟨hreply, hfailed⟩ := turn_of_error (f := f) hready (by rw [hr])
    have hsent := sent?_of_takes hready htakes
    -- receiving does not fail with a timeout, so this end is not counted as one
    have hno : (c.turn (.exchange request)).timedOut = false := by
      rw [htimedOut]
      cases f with
      | timeout phase millis => exact absurd rfl (receive_error_ne_timeout hreceive phase millis)
      | _ => rfl
    constructor <;>
      simp [hadmitted, hreply, hfailed, hno, hsent, countError, received, awaiting, offered,
        countRequest, countSent]
  | @replied reply _ htakes hreceive =>
    have hok : (c.exchange request).value.1 = .ok reply := by rw [hr]
    obtain ⟨hreply, hfailed⟩ := turn_of_reply hok
    have hsent := sent?_of_takes hready htakes
    constructor <;>
      simp [hadmitted, hreply, hfailed, htimedOut, hsent, countReply, received, awaiting,
        offered, countRequest, countSent]

theorem accounted_refused {c : Connection} (request : Bytes) (hready : ¬ c.Ready) :
    (c.turn (.exchange request)).after.stats = c.stats ∧
      Accounted c.stats c.stats [c.turn (.exchange request)] := by
  have hadmitted : (c.turn (.exchange request)).admitted = false := by
    rw [← Bool.not_eq_true, admitted_turn_exchange]
    exact hready
  have hstats : (c.turn (.exchange request)).after.stats = c.stats := by
    rw [turn_exchange, stats_settle, (c.exchanged request).eq_of_not_ready hready]
  refine ⟨hstats, ?_⟩
  have htimedOut := timedOut_turn_exchange c request
  rcases answer_of_not_ready request hready with ⟨why, h⟩ | h
  all_goals
    rw [h] at htimedOut
    refine .of_not_admitted hadmitted ?_ htimedOut
    rw [turn_exchange, h]
    rfl

/-- A turn that is no admitted exchange changes no count and is counted nowhere. -/
theorem accounted_of_not_admitted {c : Connection} {s : Step}
    (h : (c.turn s).admitted = false) :
    (c.turn s).after.stats = c.stats ∧ Accounted c.stats c.stats [c.turn s] := by
  rcases hrequest : (c.turn s).request? with _ | request
  · refine ⟨(turn_of_request?_eq_none hrequest).1, ?_⟩
    refine .of_not_admitted h (answer_of_request?_eq_none hrequest).1 ?_
    cases s with
    | exchange => cases hrequest
    | close | setPacketLogging | wait => rfl
  · obtain rfl := eq_exchange_of_request? hrequest
    refine accounted_refused request fun hready => ?_
    rw [(admitted_turn_exchange c request).mpr hready] at h
    cases h

theorem accounted_turn (c : Connection) (s : Step) :
    Accounted c.stats (c.turn s).after.stats [c.turn s] := by
  by_cases h : (c.turn s).admitted = true
  · rcases hrequest : (c.turn s).request? with _ | request
    · simp [Turn.admitted, hrequest] at h
    · obtain rfl := eq_exchange_of_request? hrequest
      exact accounted_exchange request ((admitted_turn_exchange c request).mp h)
  · obtain ⟨hstats, haccounted⟩ := accounted_of_not_admitted (Bool.not_eq_true _ ▸ h)
    rw [hstats]
    exact haccounted

/-- Every session is accounted for. -/
theorem accounted_run (c : Connection) (steps : List Step) :
    Accounted c.stats (c.run steps).value.2.stats (c.turns steps) := by
  induction steps generalizing c with
  | nil => exact .nil c.stats
  | cons s rest ih =>
    rw [turns_cons, run_cons]
    exact (c.accounted_turn s).append (ih (c.turn s).after)

/-! ## The counts among themselves -/

theorem admitted_of_reply? {c : Connection} {s : Step} (h : (c.turn s).reply?.isSome) :
    (c.turn s).admitted = true := by
  rcases hrequest : (c.turn s).request? with _ | request
  · rw [(answer_of_request?_eq_none hrequest).1] at h
    cases h
  · obtain rfl := eq_exchange_of_request? hrequest
    obtain ⟨reply, hreply⟩ := Option.isSome_iff_exists.mp h
    rw [reply?_turn_exchange] at hreply
    exact (admitted_turn_exchange c request).mpr ((c.exchanged request).takes_of_ok hreply).1

theorem failed_of_timedOut {c : Connection} {s : Step} (h : (c.turn s).timedOut = true) :
    (c.turn s).failed = true := by
  rcases hrequest : (c.turn s).request? with _ | request
  · cases s with
    | exchange => cases hrequest
    | close | setPacketLogging | wait => cases h
  · obtain rfl := eq_exchange_of_request? hrequest
    rw [timedOut_turn_exchange] at h
    by_cases hready : c.Ready
    · rcases hanswer : (c.exchange request).value.1 with f | reply
      · exact (turn_of_error hready hanswer).2
      · rw [hanswer] at h
        cases h
    · rcases answer_of_not_ready request hready with ⟨why, hanswer⟩ | hanswer <;>
        rw [hanswer] at h <;> cases h

/-- Admitted exchanges have a reply or fail. -/
theorem countP_admitted (c : Connection) (steps : List Step) :
    (c.turns steps).countP Turn.admitted =
      ((c.turns steps).filterMap Turn.reply?).length + (c.turns steps).countP Turn.failed := by
  induction steps generalizing c with
  | nil => rfl
  | cons s rest ih =>
    rw [turns_cons, List.countP_cons, List.countP_cons, ih]
    rcases hreply : (c.turn s).reply? with _ | reply
    · have hfailed : (c.turn s).failed = (c.turn s).admitted := by
        rw [Turn.failed, hreply]
        exact Bool.and_true _
      rw [List.filterMap_cons_none hreply, hfailed]
      omega
    · have hadmitted := admitted_of_reply? (c := c) (s := s) (by rw [hreply]; rfl)
      have hfailed : (c.turn s).failed = false := by
        rw [Turn.failed, hreply]
        exact Bool.and_false _
      rw [List.filterMap_cons_some hreply, List.length_cons, hfailed, hadmitted]
      simp only [if_true, Bool.false_eq_true, if_false]
      omega

/-- What the peer took of all requests. -/
theorem taken_run (c : Connection) (steps : List Step) :
    (c.run steps).value.2.wire.taken =
      c.wire.taken ++ ((c.turns steps).map Turn.taken).flatten := by
  induction steps generalizing c with
  | nil => simp [run, turns]
  | cons s rest ih =>
    rw [turns_cons, run_cons, ih, taken_turn, List.map_cons, List.flatten_cons,
      List.append_assoc]

namespace Turn

/-- What the peer took in a turn is a request that it took completely or is wasted. -/
theorem length_taken (t : Turn) :
    t.taken.length = (t.sent?.map List.length).getD 0 + t.wasted.length := by
  rw [sent?, wasted]
  cases hwhole : t.takenWhole with
  | true =>
    have hrequest : t.request? = some t.taken := by
      rw [takenWhole, Bool.and_eq_true, beq_iff_eq] at hwhole
      exact hwhole.2
    simp [hrequest]
  | false => simp

theorem length_flatten_taken (turns : List Turn) :
    (turns.map taken).flatten.length =
      (turns.filterMap sent?).flatten.length + (turns.map wasted).flatten.length := by
  induction turns with
  | nil => rfl
  | cons t rest ih =>
    rw [List.map_cons, List.map_cons, List.flatten_cons, List.flatten_cons, List.length_append,
      List.length_append, ih, t.length_taken]
    rcases hsent : t.sent? with _ | request
    · rw [List.filterMap_cons_none hsent]
      simp only [Option.map_none, Option.getD_none]
      omega
    · rw [List.filterMap_cons_some hsent, List.flatten_cons, List.length_append]
      simp only [Option.map_some, Option.getD_some]
      omega

theorem wasted_eq_nil_iff (t : Turn) : t.wasted = [] ↔ (t.takenWhole = false → t.taken = []) := by
  rw [wasted]
  cases t.takenWhole <;> simp

end Turn

/-- What a failed send leaves with the peer is the beginning of its request, and not all of it. -/
theorem exists_of_wasted_ne_nil {c : Connection} {s : Step} (h : (c.turn s).wasted ≠ []) :
    (c.turn s).failed = true ∧
      ∃ request rest, s = .exchange request ∧ request = (c.turn s).wasted ++ rest ∧
        rest ≠ [] := by
  rw [Ne, Turn.wasted_eq_nil_iff, Classical.not_imp] at h
  obtain ⟨hwhole, htaken⟩ := h
  have hwasted : (c.turn s).wasted = (c.turn s).taken := by
    rw [Turn.wasted, hwhole]
    rfl
  rw [hwasted]
  have hafter := c.taken_turn s
  rcases hrequest : (c.turn s).request? with _ | request
  · rw [(turn_of_request?_eq_none hrequest).2.2] at hafter
    exact absurd (List.self_eq_append_right.mp hafter) htaken
  · obtain rfl := eq_exchange_of_request? hrequest
    have hready : c.Ready := by
      by_cases hready : c.Ready
      · exact hready
      · rw [taken_turn_of_not_ready request hready] at hafter
        exact absurd (List.self_eq_append_right.mp hafter) htaken
    obtain ⟨rest, -, happend, htakes⟩ := exists_taken_turn_exchange request hready
    have hnot : ¬ c.Takes request := by
      intro h
      rw [(takenWhole_turn_exchange c request).mpr ⟨hready, h⟩] at hwhole
      cases hwhole
    refine ⟨?_, request, rest, rfl, happend, fun hrest => hnot (htakes.mpr hrest)⟩
    rcases hanswer : (c.exchange request).value.1 with f | reply
    · exact (turn_of_error hready hanswer).2
    · exact absurd ((c.exchanged request).takes_of_ok hanswer).2 hnot

/-- An admitted exchange is counted, so the counts change with it and with nothing else. -/
theorem stats_of_not_admitted {c : Connection} {s : Step} (h : (c.turn s).admitted = false) :
    (c.turn s).after.stats = c.stats := (accounted_of_not_admitted h).1

/-- No count ever decreases. -/
theorem stats_le_turn (c : Connection) (s : Step) : c.stats ≤ (c.turn s).after.stats := by
  have h := c.accounted_turn s
  refine ⟨?_, ?_, ?_, ?_, ?_, ?_⟩
  · rw [h.requestsSent]
    exact Nat.le_add_right _ _
  · rw [h.responsesReceived]
    exact Nat.le_add_right _ _
  · rw [h.errors]
    exact Nat.le_add_right _ _
  · rw [h.timeouts]
    exact Nat.le_add_right _ _
  · rw [h.bytesSent]
    exact Nat.le_add_right _ _
  · rw [h.bytesReceived]
    exact Nat.le_add_right _ _

/-! ## Sessions on a new connection -/

/-- What the counts of a connection say about the turns that led to it. -/
structure Reconciled (turns : List Turn) (c : Connection) : Prop where
  requestsSent : c.stats.requestsSent = turns.countP Turn.admitted
  balance : c.stats.requestsSent = c.stats.responsesReceived + c.stats.errors
  responsesReceived : c.stats.responsesReceived = (turns.filterMap Turn.reply?).length
  bytesReceived : c.stats.bytesReceived = (turns.filterMap Turn.reply?).flatten.length
  timeouts : c.stats.timeouts = turns.countP Turn.timedOut
  timeouts_le : c.stats.timeouts ≤ c.stats.errors
  bytesSent : c.stats.bytesSent = (turns.filterMap Turn.sent?).flatten.length
  bytesSent_le : c.stats.bytesSent ≤ c.wire.taken.length
  bytesSent_eq : c.stats.bytesSent = c.wire.taken.length ↔ ∀ t ∈ turns, t.wasted = []

/-- What a turn does to the counts. -/
structure Turn.CountsUp (t : Turn) : Prop where
  unchanged : t.admitted = false → t.after.stats = t.before.stats
  le : t.before.stats ≤ t.after.stats
  wasted : t.wasted ≠ [] → t.failed = true ∧
    ∃ request rest, t.step = .exchange request ∧ request = t.wasted ++ rest ∧ rest ≠ []

theorem countsUp_turn (c : Connection) (s : Step) : (c.turn s).CountsUp where
  unchanged := stats_of_not_admitted
  le := c.stats_le_turn s
  wasted := exists_of_wasted_ne_nil

theorem length_taken_run {c : Connection} (hnew : c.wire.taken = []) (steps : List Step) :
    (c.run steps).value.2.wire.taken.length =
      ((c.turns steps).filterMap Turn.sent?).flatten.length +
        ((c.turns steps).map Turn.wasted).flatten.length := by
  rw [taken_run, hnew, List.nil_append, Turn.length_flatten_taken]

theorem reconciled_run {c : Connection} (hstats : c.stats = {}) (hnew : c.wire.taken = [])
    (steps : List Step) : Reconciled (c.turns steps) (c.run steps).value.2 := by
  have h := c.accounted_run steps
  have hlength := length_taken_run hnew steps
  have hadmitted := c.countP_admitted steps
  have htimedOut : (c.turns steps).countP Turn.timedOut ≤ (c.turns steps).countP Turn.failed := by
    refine List.countP_mono_left ?_
    exact forall_mem_turns (I := fun _ => True) (fun _ _ _ => trivial)
      (fun _ _ _ => failed_of_timedOut) steps trivial
  obtain ⟨hsent, hreplies, herrors, htimeouts, hbytesSent, hbytesReceived⟩ := h
  rw [hstats] at hsent hreplies herrors htimeouts hbytesSent hbytesReceived
  simp only [Nat.zero_add] at hsent hreplies herrors htimeouts hbytesSent hbytesReceived
  refine ⟨hsent, ?_, hreplies, hbytesReceived, htimeouts, ?_, hbytesSent, ?_, ?_⟩
  · rw [hsent, hreplies, herrors, hadmitted]
  · rw [htimeouts, herrors]
    exact htimedOut
  · rw [hbytesSent, hlength]
    exact Nat.le_add_right _ _
  · rw [hbytesSent, hlength, Nat.left_eq_add, List.length_eq_zero_iff,
      List.flatten_eq_nil_iff, List.forall_mem_map]

/-- The counts of a connection account for every session on it, whatever its stream does. -/
theorem stats_reconciled (reads : List Arrival) (writes : List Uptake)
    (shutdownFault : Option IoFault) (peer : String) (settings : TransportSettings)
    (steps : List Step) :
    Reconciled ((fresh reads writes shutdownFault peer settings).turns steps)
        ((fresh reads writes shutdownFault peer settings).run steps).value.2 ∧
      ∀ t ∈ (fresh reads writes shutdownFault peer settings).turns steps, t.CountsUp := by
  refine ⟨reconciled_run rfl rfl steps, ?_⟩
  exact forall_mem_turns (I := fun _ => True) (fun _ _ _ => trivial)
    (fun c s _ => c.countsUp_turn s) steps trivial

end Connection

end ModbusTcp
