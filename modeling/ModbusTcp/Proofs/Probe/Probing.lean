import ModbusTcp.Probe.Network
import ModbusTcp.Proofs.Probe.OneShot

/-!
# What a probe comes to

A probe has three ends: its plan is refused, no connection is made, or there is one, and then the
read is made over it and it is closed. `Plan.Probed` has one constructor for each, with all that is
known then. An attempt to connect that fails has run out of time, was refused or met a fault of the
system (`Connecting.failed_of_within`), so a failure of the plan is told from a failure to connect.
-/

namespace ModbusTcp

namespace Connecting

variable {α : Type}

/-- The failures of an attempt to connect. -/
inductive Failed (address : String) (limit : Duration) : Failure → Prop
  | timeout : Failed address limit (.connectTimeout address limit.millis)
  | refused : Failed address limit (.connectionRefused address)
  | io (f : IoFault) : Failed address limit (.io f)

theorem failed_failure (address : String) (limit : Duration) (f : IoFault) :
    Failed address limit (failure address limit f) := by
  unfold failure
  split
  · exact .refused
  · exact .timeout
  · exact .io f

theorem failed_of_within {c : Connecting α} {address : String} {limit : Duration} {f : Failure}
    (h : c.within address limit = .error f) : Failed address limit f := by
  unfold within at h
  rcases hresult : c.result with _ | result
  · rw [hresult] at h
    cases h
    exact .timeout
  · rw [hresult] at h
    by_cases hin : c.delay ≤ limit.ticks
    · simp only [hin, if_true] at h
      cases result with
      | error g =>
        cases h
        exact failed_failure address limit g
      | ok a => cases h
    · simp only [hin, if_false] at h
      cases h
      exact .timeout

theorem result_of_within {c : Connecting α} {address : String} {limit : Duration} {a : α}
    (h : c.within address limit = .ok a) : c.result = some (.ok a) := by
  unfold within at h
  rcases hresult : c.result with _ | result
  · rw [hresult] at h
    cases h
  · rw [hresult] at h
    by_cases hin : c.delay ≤ limit.ticks
    · simp only [hin, if_true] at h
      cases result with
      | error g => cases h
      | ok b =>
        cases h
        rfl
    · simp only [hin, if_false] at h
      cases h

end Connecting

namespace Plan

/-- A plan is accepted only with settings that exchanges can be made with. -/
theorem check_transport {plan : Plan} (h : plan.check = .ok ()) :
    plan.transport.check = .ok () := by
  unfold check at h
  split at h
  · cases h
  · split at h
    · cases h
    · exact h

/-- The connection of a plan over a wire. -/
def connection (plan : Plan) (w : Wire) : Connection :=
  { wire := w, peer := plan.address, settings := plan.transport }

theorem ready_connection {plan : Plan} (h : plan.check = .ok ()) (w : Wire) :
    (plan.connection w).Ready := ⟨check_transport h, rfl⟩

theorem value_connect {plan : Plan} (h : plan.check = .ok ()) (net : Network) :
    (Connection.connect plan.host plan.port plan.transport net).value =
      (net.within plan.address plan.transport.timeout).map plan.connection := by
  unfold address
  rcases hwithin : net.within (Address.text plan.host plan.port) plan.transport.timeout with f | w
  · simp only [Connection.connect, check_transport h, hwithin]
    rfl
  · simp only [Connection.connect, check_transport h, hwithin]
    rfl

/-- What comes of the read and the close over a wire. -/
def inspect (plan : Plan) (w : Wire) : Report × Connection :=
  let once := ((Client.mk (plan.connection w) 1).runPlan plan).value
  (once.1, once.2.transport)

theorem inspect_eq (plan : Plan) (w : Wire) :
    plan.inspect w =
      let sent := ((plan.connection w).exchange plan.request.toBytes).value
      (Report.ofResult plan.request sent.1, sent.2.close.value.2) := by
  unfold inspect Client.runPlan
  rw [Client.readAndClose_eq_read_close]
  dsimp only
  rw [Client.report_read]
  rfl

theorem probe_of_refused {plan : Plan} {why : SettingFault} (h : plan.check = .error why)
    (net : Network) : plan.probe net = pure (.error (.configuration why)) := by
  unfold probe
  rw [h]

theorem value_probe {plan : Plan} (h : plan.check = .ok ()) (net : Network) :
    (plan.probe net).value =
      (net.within plan.address plan.transport.timeout).map plan.inspect := by
  unfold probe
  rw [h, Logged.value_bind, value_connect h]
  rcases net.within plan.address plan.transport.timeout with f | w
  · rfl
  · rfl

/-- The ends of a probe. -/
inductive Probed (plan : Plan) (net : Network) : Except Failure (Report × Connection) → Prop
  /-- the plan is refused -/
  | refused {why : SettingFault} (hcheck : plan.check = .error why) :
      Probed plan net (.error (.configuration why))
  /-- no connection was made -/
  | unconnected {f : Failure} (hcheck : plan.check = .ok ())
      (hfailed : Connecting.Failed plan.address plan.transport.timeout f) :
      Probed plan net (.error f)
  /-- the read was made over a connection, and the connection was closed -/
  | inspected {w : Wire} (hcheck : plan.check = .ok ()) (hresult : net.result = some (.ok w)) :
      Probed plan net (.ok (plan.inspect w))

theorem probed (plan : Plan) (net : Network) : Probed plan net (plan.probe net).value := by
  rcases hcheck : plan.check with why | ⟨⟩
  · rw [probe_of_refused hcheck]
    exact .refused hcheck
  · rw [value_probe hcheck]
    rcases hwithin : net.within plan.address plan.transport.timeout with f | w
    · exact .unconnected hcheck (Connecting.failed_of_within hwithin)
    · exact .inspected hcheck (Connecting.result_of_within hwithin)

theorem probe_eq_configuration_iff (plan : Plan) (net : Network) (why : SettingFault) :
    (plan.probe net).value = .error (.configuration why) ↔ plan.check = .error why := by
  constructor
  · intro h
    have hprobed := plan.probed net
    rw [h] at hprobed
    cases hprobed with
    | refused hcheck => exact hcheck
    | unconnected _ hfailed => cases hfailed
  · intro h
    rw [probe_of_refused h]
    rfl

/-! ## Over a wire -/

/-- The connection is closed behind the read, and its stream shut down once. -/
theorem closed_inspect (plan : Plan) (w : Wire) :
    (plan.inspect w).2.isOpen = false ∧
      (plan.inspect w).2.wire.shutdowns = w.shutdowns + 1 :=
  (Client.mk (plan.connection w) 1).shutdowns_readAndClose plan.unit plan.function plan.start
    plan.quantity

/-- The peer takes the one request of the plan, or the beginning of it, and nothing else. -/
theorem exists_taken_inspect {plan : Plan} (h : plan.check = .ok ()) (w : Wire) :
    ∃ sent rest, (plan.inspect w).2.wire.taken = w.taken ++ sent ∧
      plan.request.toBytes = sent ++ rest := by
  have hready := ready_connection h w
  obtain ⟨sent, rest, htaken, hrequest, -⟩ :=
    (plan.connection w).exists_taken_offered plan.request.toBytes
  refine ⟨sent, rest, ?_, hrequest⟩
  rw [inspect_eq, Wire.taken, Connection.sent_close,
    ((plan.connection w).exchanged plan.request.toBytes).sent_eq hready]
  exact htaken

/-- The read of an accepted plan is never refused. -/
theorem outcome_inspect_ne {plan : Plan} (h : plan.check = .ok ()) (w : Wire) :
    (∀ why, (plan.inspect w).1.outcome ≠ .error (.configuration why)) ∧
      (plan.inspect w).1.outcome ≠ .error .notConnected := by
  have hready := ready_connection h w
  rw [inspect_eq]
  constructor
  · intro why hrefused
    rw [Client.outcome_ofResult_iff fun reply => (Client.ofFrame_ne_refusal reply).2 why,
      Connection.exchange_eq_configuration_iff] at hrefused
    exact hready.not_refused hrefused
  · intro hrefused
    rw [Client.outcome_ofResult_iff fun reply => (Client.ofFrame_ne_refusal reply).1,
      Connection.exchange_eq_notConnected_iff] at hrefused
    exact hready.not_closed hrefused.2

end Plan

end ModbusTcp
