import ModbusTcp.Proofs.Transport.Provenance
import ModbusTcp.Proofs.Transport.Turn
import ModbusTcp.Proofs.Wire.Script

/-!
# The life of a connection

A connection is open until it is closed for the first time; then its stream is shut down, once, and
whatever that reports the close succeeds. An exchange is refused for its settings first and for an
earlier close second, and a refused exchange leaves the connection and its stream exactly as they
were (`Connection.lifecycle`).
-/

namespace ModbusTcp.Connection

/-! ## What a turn does to being open -/

theorem shutdowns_received (c : Connection) : c.received.wire.shutdowns = c.wire.shutdowns := by
  obtain ⟨reads, now, h⟩ := c.exists_receive
  rw [wire_received, h]

theorem Exchanged.isOpen_eq {c : Connection} {request : Bytes}
    {r : Logged (Except Failure Bytes × Connection)} (h : Exchanged c request r) :
    r.value.2.isOpen = c.isOpen := by
  cases h <;> rfl

theorem Exchanged.shutdowns_eq {c : Connection} {request : Bytes}
    {r : Logged (Except Failure Bytes × Connection)} (h : Exchanged c request r) :
    r.value.2.wire.shutdowns = c.wire.shutdowns := by
  cases h with
  | refused | notConnected | sendOverdue | sendFault => rfl
  | receiveOverdue | receiveFault | replied => exact shutdowns_received (c.awaiting request)

/-- A close closes, and no other step does. -/
theorem isOpen_turn (c : Connection) (s : Step) :
    (c.turn s).after.isOpen = true ↔ c.isOpen = true ∧ s ≠ .close := by
  cases s with
  | exchange request =>
    have hafter : (c.turn (.exchange request)).after.isOpen = c.isOpen :=
      (c.exchanged request).isOpen_eq
    simp [hafter]
  | close =>
    have hafter : (c.turn .close).after.isOpen = c.close.value.2.isOpen := rfl
    rw [hafter, isOpen_close]
    simp
  | setPacketLogging on =>
    have hafter : (c.turn (.setPacketLogging on)).after.isOpen = c.isOpen := rfl
    simp [hafter]
  | wait millis =>
    have hafter : (c.turn (.wait millis)).after.isOpen = c.isOpen := rfl
    simp [hafter]

/-- The stream is shut down by the close of an open connection, and by nothing else. -/
theorem shutdowns_turn (c : Connection) (s : Step) :
    (c.turn s).after.wire.shutdowns =
      c.wire.shutdowns + if c.isOpen = true ∧ s = .close then 1 else 0 := by
  cases s with
  | exchange request =>
    have hafter : (c.turn (.exchange request)).after.wire.shutdowns = c.wire.shutdowns :=
      (c.exchanged request).shutdowns_eq
    simp [hafter]
  | close =>
    have hafter : (c.turn .close).after.wire.shutdowns = c.close.value.2.wire.shutdowns := rfl
    rw [hafter, value_close]
    cases hopen : c.isOpen <;> simp [Wire.shutdown]
  | setPacketLogging on =>
    have hafter : (c.turn (.setPacketLogging on)).after.wire.shutdowns = c.wire.shutdowns := rfl
    simp [hafter]
  | wait millis =>
    have hafter : (c.turn (.wait millis)).after.wire.shutdowns = c.wire.shutdowns := rfl
    simp [hafter]

theorem check_turn (c : Connection) (s : Step) :
    (c.turn s).after.settings.check = c.settings.check := by
  obtain ⟨on, h⟩ := c.exists_settings_turn s
  rw [h]
  rfl

/-! ## Sessions -/

theorem isOpen_run (c : Connection) (steps : List Step) :
    (c.run steps).value.2.isOpen = true ↔ c.isOpen = true ∧ Step.close ∉ steps := by
  induction steps generalizing c with
  | nil => simp [run]
  | cons s rest ih =>
    rw [run_cons, ih, isOpen_turn, List.mem_cons, not_or, and_assoc, ne_comm]

theorem shutdowns_run (c : Connection) (steps : List Step) :
    (c.run steps).value.2.wire.shutdowns =
      c.wire.shutdowns + if c.isOpen = true ∧ Step.close ∈ steps then 1 else 0 := by
  induction steps generalizing c with
  | nil => simp [run]
  | cons s rest ih =>
    rw [run_cons, ih, shutdowns_turn]
    by_cases hs : s = .close
    · -- the connection is closed behind it, so the rest shuts nothing down
      simp [isOpen_turn, hs]
    · have hne : Step.close ≠ s := fun h => hs h.symm
      simp [isOpen_turn, hs, hne]

theorem check_run (c : Connection) (steps : List Step) :
    (c.run steps).value.2.settings.check = c.settings.check :=
  run_keeps (I := fun c' => c'.settings.check = c.settings.check)
    (fun c' s h => (check_turn c' s).trans h) steps rfl

/-! ## The stream between steps -/

theorem tidy_received {c : Connection} (h : c.wire.Tidy) : c.received.wire.Tidy := by
  rw [wire_received]
  cases hmode : c.settings.receiveMode with
  | singleRead =>
    rw [value_receive_singleRead hmode]
    exact h.read _ _
  | framed =>
    rw [value_receive_framed hmode]
    exact h.collect _

theorem Exchanged.tidy {c : Connection} {request : Bytes}
    {r : Logged (Except Failure Bytes × Connection)} (h : Exchanged c request r)
    (htidy : c.wire.Tidy) : r.value.2.wire.Tidy := by
  have hoffered : (c.awaiting request).wire.Tidy := htidy.send request c.deadline
  cases h with
  | refused | notConnected => exact htidy
  | sendOverdue | sendFault => exact hoffered
  | receiveOverdue | receiveFault | replied => exact tidy_received hoffered

theorem tidy_act {c : Connection} (h : c.wire.Tidy) (s : Step) :
    (c.act s).value.2.wire.Tidy := by
  cases s with
  | exchange request => exact (c.exchanged request).tidy h
  | close =>
    have hact : (c.act .close).value.2 = c.close.value.2 := rfl
    rw [hact, value_close]
    split
    · exact ⟨h.reads, h.writes⟩
    · exact h
  | setPacketLogging on => exact h
  | wait millis => exact ⟨h.reads, h.writes⟩

/-- Between steps, only the first event of a stream can have been waited for, and nothing is left to
settle. -/
structure Rested (c : Connection) : Prop where
  tidy : c.wire.Tidy
  settled : c.wire.Settled

theorem Rested.turn {c : Connection} (h : c.Rested) (s : Step) : (c.turn s).after.Rested :=
  ⟨(tidy_act h.tidy s).settle, (tidy_act h.tidy s).settled⟩

theorem rested_fresh (s : Script) (peer : String) (settings : TransportSettings) :
    (fresh s.reads s.writes s.shutdownFault peer settings).Rested :=
  ⟨s.tidy_wire, s.settled_wire⟩

/-- Between the steps of a session on a script, nothing is left to settle. -/
theorem settled_run (s : Script) (peer : String) (settings : TransportSettings)
    (steps : List Step) :
    ((fresh s.reads s.writes s.shutdownFault peer settings).run steps).value.2.wire.Settled :=
  (run_keeps (fun _ t h => h.turn t) steps (rested_fresh s peer settings)).settled

theorem settle_eq_of_settled {c : Connection} (h : c.wire.Settled) : c.settle = c := by
  rw [settle, h]

/-! ## Refusals -/

/-- A step that is a refused exchange, by its failure: it logs nothing and changes nothing. -/
theorem step_of_refused {c : Connection} (hsettled : c.wire.Settled) {request : Bytes}
    {f : Failure} (h : c.exchange request = ⟨[], .error f, c⟩) :
    c.step (.exchange request) = ⟨[], .reply (.error f), c⟩ := by
  have hstep : c.step (.exchange request) =
      ⟨(c.exchange request).events ++ [] ++ [], .reply (c.exchange request).value.1,
        (c.exchange request).value.2.settle⟩ := rfl
  rw [hstep, h]
  simp only [List.append_nil, settle_eq_of_settled hsettled]

/-- After every session, whatever the stream does: the stream was shut down once if the connection
was closed at all, and the connection is open if it was not; every close succeeds, whatever
shutting down reports; an exchange with unusable settings is refused for them, and any other after
a close for the close, without a trace; and no other exchange is refused. -/
theorem lifecycle (s : Script) (peer : String) (settings : TransportSettings)
    (history : List Step) :
    let c := ((fresh s.reads s.writes s.shutdownFault peer settings).run history).value.2
    c.wire.shutdowns = (if Step.close ∈ history then 1 else 0) ∧
      (Transport.isConnected c = true ↔ Step.close ∉ history) ∧
      (c.turn .close).answer = .closed (.ok ()) ∧
      (∀ why, settings.check = .error why → ∀ request,
        c.step (.exchange request) = ⟨[], .reply (.error (.configuration why)), c⟩) ∧
      (settings.check = .ok () → Step.close ∈ history → ∀ request,
        c.step (.exchange request) = ⟨[], .reply (.error .notConnected), c⟩) ∧
      (settings.check = .ok () → Step.close ∉ history → ∀ request f,
        (c.turn (.exchange request)).failure? = some f →
          f ≠ .notConnected ∧ ∀ why, f ≠ .configuration why) := by
  intro c
  have hcheck : c.settings.check = settings.check := check_run _ history
  have hopen : c.isOpen = true ↔ Step.close ∉ history := by
    rw [isOpen_run]
    simp [fresh]
  have hsettled := settled_run s peer settings history
  refine ⟨?_, hopen, ?_, ?_, ?_, ?_⟩
  · rw [shutdowns_run]
    simp [fresh]
  · show Answer.closed c.close.value.1 = _
    rw [value_close]
  · intro why hwhy request
    exact step_of_refused hsettled (exchange_refused request (hcheck.trans hwhy))
  · intro hok hclose request
    have hclosed : c.isOpen = false := by
      rw [← Bool.not_eq_true, hopen]
      exact not_not_intro hclose
    exact step_of_refused hsettled (exchange_notConnected request (hcheck.trans hok) hclosed)
  · intro hok hclose request f hf
    have hready : c.Ready := ⟨hcheck.trans hok, hopen.mpr hclose⟩
    have hfailed := failure?_turn_exchange.mp hf
    constructor
    · rintro rfl
      exact hready.not_closed ((c.exchange_eq_notConnected_iff request).mp hfailed).2
    · rintro why rfl
      exact hready.not_refused ((c.exchange_eq_configuration_iff request why).mp hfailed)

end ModbusTcp.Connection
