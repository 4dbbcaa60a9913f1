import ModbusTcp.Proofs.Text.Digits
import ModbusTcp.Proofs.Transport.Lifecycle

/-!
# The packet log

Logging packets is watching: a connection does the same with it and without it, however often it is
turned on and off (`Connection.turns_proper`). Two sessions that differ in nothing else are told
apart by their logs alone. While it is on, the log has a line for each request that was let through
and one for each reply, in order (`Connection.infoEvents_run`), and the dump in a line gives back
the bytes.
-/

namespace ModbusTcp.Connection

/-- The step turns packet logging on or off, and does nothing else. -/
def Step.isLogging : Step → Bool
  | .setPacketLogging _ => true
  | .exchange _ | .close | .wait _ => false

/-- The steps that do something else than turning packet logging on or off. -/
def proper (steps : List Step) : List Step := steps.filter fun s => !s.isLogging

/-- The connection, whether it logs packets or not. -/
def quiet (c : Connection) : Connection := c.setPacketLogging false

/-- The turn, whether packets are logged or not. -/
def Turn.quiet (t : Turn) : Turn := { t with before := t.before.quiet, after := t.after.quiet }

/-- What a session shows to those who do not look at its log: the steps that do something else than
turning packet logging on or off, with their answers and the connections around them. -/
def shown (c : Connection) (steps : List Step) : List Turn :=
  ((c.turns steps).filter fun t => !t.step.isLogging).map Turn.quiet

/-! ## Doing the same -/

theorem value_receiveReply_setPacketLogging (c : Connection) (on : Bool) (unit : Option UInt8) :
    ((c.setPacketLogging on).receiveReply unit).value =
      ((c.receiveReply unit).value.1, (c.receiveReply unit).value.2.setPacketLogging on) := by
  have hreceive : (c.setPacketLogging on).receive = c.receive := rfl
  rw [receiveReply_eq, receiveReply_eq, hreceive]
  rcases c.receive.value.1 with (f | reply) | _
  · rfl
  · rfl
  · rfl

theorem value_converse_setPacketLogging (c : Connection) (on : Bool) (request : Bytes) :
    ((c.setPacketLogging on).converse request).value =
      ((c.converse request).value.1, (c.converse request).value.2.setPacketLogging on) := by
  have hsend : (c.setPacketLogging on).wire.send request (c.setPacketLogging on).deadline =
      c.wire.send request c.deadline := rfl
  rw [converse_eq, converse_eq, hsend]
  rcases (c.wire.send request c.deadline).1 with (f | ⟨⟩) | _
  · rfl
  · exact (c.awaiting request).value_receiveReply_setPacketLogging on _
  · rfl

theorem value_exchange_setPacketLogging (c : Connection) (on : Bool) (request : Bytes) :
    ((c.setPacketLogging on).exchange request).value =
      ((c.exchange request).value.1, (c.exchange request).value.2.setPacketLogging on) := by
  have hcheck : (c.setPacketLogging on).settings.check = c.settings.check := rfl
  have hopen : (c.setPacketLogging on).isOpen = c.isOpen := rfl
  unfold exchange
  rw [hcheck, hopen]
  rcases c.settings.check with why | ⟨⟩
  · rfl
  · cases c.isOpen with
    | false => rfl
    | true => exact c.value_converse_setPacketLogging on request

/-- Every other step does the same, whether packets are logged or not. -/
theorem turn_quiet (c : Connection) {s : Step} (hs : s.isLogging = false) :
    c.quiet.turn s = (c.turn s).quiet := by
  cases s with
  | exchange request =>
    have hsame := c.value_exchange_setPacketLogging false request
    rw [turn_exchange, turn_exchange, quiet, hsame]
    rfl
  | close =>
    have hsame : c.quiet.close.value = (.ok (), c.close.value.2.quiet) := by
      rw [value_close, value_close]
      have hopen : c.quiet.isOpen = c.isOpen := rfl
      rw [hopen]
      cases c.isOpen with
      | true => rfl
      | false => rfl
    have hok : c.close.value.1 = .ok () := by rw [value_close]
    show Turn.mk c.quiet .close (.closed c.quiet.close.value.1) c.quiet.close.value.2.settle =
      ⟨c.quiet, .close, .closed c.close.value.1, c.close.value.2.settle.quiet⟩
    rw [hsame, hok]
    rfl
  | setPacketLogging on => cases hs
  | wait millis => rfl

/-- Turning packet logging on or off does nothing else. -/
theorem quiet_after_setPacketLogging {c : Connection} (h : c.wire.Settled) (on : Bool) :
    (c.turn (.setPacketLogging on)).after.quiet = c.quiet := by
  have hafter : (c.turn (.setPacketLogging on)).after.quiet = c.settle.quiet := rfl
  rw [hafter, settle_eq_of_settled h]

theorem proper_cons_of_isLogging {s : Step} (h : s.isLogging = true) (rest : List Step) :
    proper (s :: rest) = proper rest := by
  simp [proper, h]

theorem proper_cons {s : Step} (h : s.isLogging = false) (rest : List Step) :
    proper (s :: rest) = s :: proper rest := by
  simp [proper, h]

/-- A session shows what it would show without packet logging. -/
theorem turns_proper {c : Connection} (h : c.Rested) (steps : List Step) :
    c.quiet.turns (proper steps) = c.shown steps := by
  induction steps generalizing c with
  | nil => rfl
  | cons s rest ih =>
    have hrest := ih (h.turn s)
    cases hs : s.isLogging with
    | true =>
      cases s with
      | setPacketLogging on =>
        have hskip : c.shown (.setPacketLogging on :: rest) =
            (c.turn (.setPacketLogging on)).after.shown rest := rfl
        rw [quiet_after_setPacketLogging h.settled] at hrest
        rw [proper_cons_of_isLogging hs, hskip, hrest]
      | exchange | close | wait => cases hs
    | false =>
      have hshown : c.shown (s :: rest) =
          (c.turn s).quiet :: (c.turn s).after.shown rest := by
        have hstep : (c.turn s).step.isLogging = false := hs
        simp [shown, turns_cons, hstep]
      have hafter : (c.quiet.turn s).after = (c.turn s).after.quiet := by
        rw [turn_quiet c hs]
        rfl
      rw [proper_cons hs, turns_cons, hafter, hrest, hshown, turn_quiet c hs]

/-- A session leaves what it would leave without packet logging. -/
theorem run_proper {c : Connection} (h : c.Rested) (steps : List Step) :
    (c.quiet.run (proper steps)).value.2 = (c.run steps).value.2.quiet := by
  induction steps generalizing c with
  | nil => rfl
  | cons s rest ih =>
    have hrest := ih (h.turn s)
    rw [run_cons, ← hrest]
    cases hs : s.isLogging with
    | true =>
      cases s with
      | setPacketLogging on =>
        rw [proper_cons_of_isLogging hs, quiet_after_setPacketLogging h.settled]
      | exchange | close | wait => cases hs
    | false =>
      rw [proper_cons hs, run_cons, turn_quiet c hs]
      rfl

/-! ## What is logged -/

/-- The events that a log at the usual level shows. -/
def infoEvents (events : List LogEvent) : List LogEvent :=
  events.filter fun e => e.level == .info

/-- The line of a request or of a reply to it: the direction, the seventh byte of the request as the
unit if it has so many, and the dump of what went over the wire. -/
def packetLine (direction : String) (request data : Bytes) : String :=
  if h : Limits.headerLength < request.length then
    s!"[MODBUS-TCP] {direction} unit:{request[Limits.headerLength].toNat} {Hex.dump data}"
  else s!"[MODBUS-TCP] {direction} {Hex.dump data}"

/-- The lines that a turn leaves in the log while packets are logged: one for a request that was let
through, and one for the reply if there was one. -/
def Turn.packetLines (t : Turn) : List String :=
  match t.request? with
  | some request =>
    if t.admitted then
      packetLine "send" request request ::
        (t.reply?.map (packetLine "receive" request)).toList
    else []
  | none => []

theorem message_packet (direction : String) (request data : Bytes) :
    (LogEvent.packet direction request[Limits.headerLength]? data).message =
      packetLine direction request data := by
  unfold packetLine
  by_cases h : Limits.headerLength < request.length
  · rw [dif_pos h, List.getElem?_eq_getElem h]
    rfl
  · rw [dif_neg h, List.getElem?_eq_none (Nat.le_of_not_lt h)]
    rfl

theorem infoEvents_append (events more : List LogEvent) :
    infoEvents (events ++ more) = infoEvents events ++ infoEvents more := List.filter_append ..

theorem infoEvents_eq_nil {events : List LogEvent} (h : ∀ e ∈ events, e.level = .debug) :
    infoEvents events = [] := by
  rw [infoEvents, List.filter_eq_nil_iff]
  intro e he
  rw [h e he]
  decide

theorem infoEvents_receive (c : Connection) : infoEvents c.receive.events = [] :=
  infoEvents_eq_nil fun _ => level_of_mem_receive

theorem infoEvents_logPacket {c : Connection} (hon : c.settings.packetLogging = true)
    (direction : String) (request data : Bytes) :
    (infoEvents (c.logPacket direction request[Limits.headerLength]? data).events).map
      LogEvent.message = [packetLine direction request data] := by
  rw [← message_packet, logPacket, Logged.events_logIf, hon]
  rfl

/-- What an exchange logs while packets are logged, by what came of it. -/
theorem infoEvents_exchange {c : Connection} (hon : c.settings.packetLogging = true)
    (request : Bytes) :
    (infoEvents (c.exchange request).events).map LogEvent.message =
      (c.turn (.exchange request)).packetLines := by
  have hadmitted := c.admitted_turn_exchange request
  have hlines : (c.turn (.exchange request)).packetLines =
      if (c.turn (.exchange request)).admitted then
        packetLine "send" request request ::
          ((c.turn (.exchange request)).reply?.map (packetLine "receive" request)).toList
      else [] := rfl
  have hsend : (infoEvents (c.sendEvents request)).map LogEvent.message =
      [packetLine "send" request request] := infoEvents_logPacket hon "send" request request
  rw [hlines]
  have h := c.exchanged request
  rw [turn_exchange] at hadmitted ⊢
  generalize c.exchange request = r at h hadmitted ⊢
  cases h with
  | refused hcheck =>
    rw [if_neg fun had => (hadmitted.mp had).not_refused hcheck]
    rfl
  | notConnected hcheck hclosed =>
    rw [if_neg fun had => (hadmitted.mp had).not_closed hclosed]
    rfl
  | sendOverdue hready | sendFault hready =>
    rw [if_pos (hadmitted.mpr hready)]
    exact hsend
  | receiveOverdue hready | receiveFault hready =>
    rw [if_pos (hadmitted.mpr hready), infoEvents_append, infoEvents_receive, List.append_nil]
    exact hsend
  | @replied reply hready htakes hreceive =>
    have hreply : (infoEvents (c.replyEvents request reply)).map LogEvent.message =
        [packetLine "receive" request reply] := infoEvents_logPacket hon "receive" request reply
    rw [if_pos (hadmitted.mpr hready), infoEvents_append, infoEvents_append, infoEvents_receive,
      List.append_nil, List.map_append, hsend, hreply]
    rfl

theorem infoEvents_close (c : Connection) : infoEvents c.close.events = [] := by
  unfold close Wire.shutdown
  cases c.isOpen with
  | true =>
    rcases c.wire.shutdownFault with _ | f
    · rfl
    · rfl
  | false => rfl

theorem infoEvents_turn {c : Connection} (hon : c.settings.packetLogging = true) (s : Step) :
    (infoEvents (c.step s).events).map LogEvent.message = (c.turn s).packetLines := by
  cases s with
  | exchange request =>
    have hevents : (c.step (.exchange request)).events = (c.exchange request).events := by
      simp [step, act]
    rw [hevents, infoEvents_exchange hon]
  | close =>
    have hevents : (c.step .close).events = c.close.events := by simp [step, act]
    rw [hevents, infoEvents_close]
    rfl
  | setPacketLogging | wait => rfl

theorem packetLogging_turn {c : Connection} (hon : c.settings.packetLogging = true) {s : Step}
    (hs : s ≠ .setPacketLogging false) : (c.turn s).after.settings.packetLogging = true := by
  cases s with
  | exchange request =>
    exact (congrArg TransportSettings.packetLogging (c.exchanged request).settings_eq).trans hon
  | close =>
    exact (congrArg TransportSettings.packetLogging c.settings_close).trans hon
  | setPacketLogging on =>
    cases on with
    | true => rfl
    | false => exact absurd rfl hs
  | wait millis => exact hon

theorem events_run (c : Connection) (s : Step) (rest : List Step) :
    (c.run (s :: rest)).events = (c.step s).events ++ ((c.turn s).after.run rest).events := by
  have hcons : (c.run (s :: rest)).events =
      (c.step s).events ++ (((c.turn s).after.run rest).events ++ []) := rfl
  rw [hcons, List.append_nil]

/-- While packets are logged, a session logs the lines of its turns, in order. -/
theorem infoEvents_run {c : Connection} (hon : c.settings.packetLogging = true)
    {steps : List Step} (hsteps : Step.setPacketLogging false ∉ steps) :
    (infoEvents (c.run steps).events).map LogEvent.message =
      (c.turns steps).flatMap Turn.packetLines := by
  induction steps generalizing c with
  | nil => rfl
  | cons s rest ih =>
    obtain ⟨hs, hrest⟩ := not_or.mp (mt List.mem_cons.mpr hsteps)
    rw [events_run, infoEvents_append, List.map_append, infoEvents_turn hon,
      ih (packetLogging_turn hon (Ne.symm hs)) hrest, turns_cons, List.flatMap_cons]

/-- The packet log only watches. Two sessions on one script that differ in packet logging alone,
from the start or by steps that turn it on or off anywhere, show the same answers and leave the same
connections behind every other step and in the end: what was sent, what is still to be read, the
time, the counts and whether they are open. While packets are logged, the lines at the usual level
are those of the requests that were let through, each followed by that of its reply if and only if
there was one; and the dump in a line gives back all its bytes. -/
theorem packetLog_watches (s : Script) (peer : String) (settings : TransportSettings) :
    let logging (on : Bool) := fresh s.reads s.writes s.shutdownFault peer
      { settings with packetLogging := on }
    (∀ on on' steps steps', proper steps = proper steps' →
      (logging on).shown steps = (logging on').shown steps' ∧
        ((logging on).run steps).value.2.quiet = ((logging on').run steps').value.2.quiet) ∧
    (∀ steps, Step.setPacketLogging false ∉ steps →
      (infoEvents ((logging true).run steps).events).map LogEvent.message =
        ((logging true).turns steps).flatMap Turn.packetLines) ∧
    (∀ data, Hex.readDump? (Hex.dump data) = some data) ∧
    Function.Injective Hex.dump := by
  intro logging
  have hrested (on : Bool) : (logging on).Rested := rested_fresh s peer _
  have hquiet (on : Bool) : (logging on).quiet = logging false := rfl
  refine ⟨?_, ?_, Hex.readDump?_dump, Hex.dump_injective⟩
  · intro on on' steps steps' hproper
    constructor
    · rw [← turns_proper (hrested on), ← turns_proper (hrested on'), hquiet, hquiet, hproper]
    · rw [← run_proper (hrested on), ← run_proper (hrested on'), hquiet, hquiet, hproper]
  · intro steps hsteps
    exact infoEvents_run rfl hsteps

end ModbusTcp.Connection
