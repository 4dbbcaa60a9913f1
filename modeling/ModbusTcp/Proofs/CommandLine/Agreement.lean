import ModbusTcp.CommandLine.Program
import ModbusTcp.Proofs.Probe.Probing

/-!
# The program and the probe

A check does not call the probe of its plan: it takes the same steps itself and prints between
them. Still it comes to what the probe comes to (`CommandLine.value_check`). If the probe fails, so
does the check, and the failure is the last line that it prints; if the probe has a report, the
check prints it over the same connection, and succeeds if the report does.
-/

namespace ModbusTcp

/-- Every failure is printed with a mark in front. -/
theorem Failure.head?_line (f : Failure) : f.line.toList.head? = some '[' := by
  unfold line
  split
  · decide
  · decide
  · simp
  · simp [toString]

namespace CommandLine

/-! ## What is printed -/

/-- The line that a check begins with. -/
def testingLine (plan : Plan) : String := s!"Testing Modbus connection to {plan.address}"

/-- The line that announces the attempt to connect. -/
def connectingLine (plan : Plan) : String := s!"Connecting to {plan.address}..."

/-- The last line over a connection. -/
def closedLine : String := "Connection closed"

/-- What is printed before a failure: a refused plan is not connected for. -/
def linesBefore (plan : Plan) : Failure → List String
  | .configuration _ => [testingLine plan]
  | _ => [testingLine plan, connectingLine plan]

/-- What is printed up to the request. -/
def linesToRequest (plan : Plan) : List String :=
  [testingLine plan, connectingLine plan, "[OK] Connected successfully", sendingLine plan]

theorem testingLine_ne (plan : Plan) : testingLine plan ≠ closedLine := by
  intro h
  unfold testingLine closedLine at h
  have hchars := congrArg String.toList h
  simp [toString] at hchars

theorem connectingLine_ne (plan : Plan) : connectingLine plan ≠ closedLine := by
  intro h
  unfold connectingLine closedLine at h
  have hchars := congrArg String.toList h
  simp [toString] at hchars

theorem line_ne (f : Failure) : f.line ≠ closedLine := by
  intro h
  have hmark := f.head?_line
  rw [h] at hmark
  revert hmark
  decide

/-- No close is told of without a connection. -/
theorem closedLine_notMem (plan : Plan) (f : Failure) :
    closedLine ∉ linesBefore plan f ++ [f.line] := by
  have hbefore : ∀ line ∈ linesBefore plan f, line ≠ closedLine := by
    intro line hline
    have hlines : line = testingLine plan ∨ line = connectingLine plan := by
      unfold linesBefore at hline
      split at hline
      · exact .inl (List.mem_singleton.mp hline)
      · simpa using hline
    rcases hlines with rfl | rfl
    · exact testingLine_ne plan
    · exact connectingLine_ne plan
  intro hmem
  rcases List.mem_append.mp hmem with h | h
  · exact hbefore _ h rfl
  · exact line_ne f (List.mem_singleton.mp h).symm

/-! ## What a check comes to -/

/-- What a check comes to, told by what the probe of the plan comes to. -/
def Checked.ofProbe (plan : Plan) : Except Failure (Report × Connection) → Checked
  | .error f => ⟨false, linesBefore plan f ++ [f.line], none⟩
  | .ok (report, c) =>
    ⟨report.isSuccess, linesToRequest plan ++ report.lines plan.start ++ [closedLine], some c⟩

theorem Checked.success_ofProbe {plan : Plan} {probed : Except Failure (Report × Connection)} :
    (Checked.ofProbe plan probed).success = true ↔
      ∃ report c, probed = .ok (report, c) ∧ report.isSuccess = true := by
  cases probed with
  | error f => simp [ofProbe]
  | ok made =>
    obtain ⟨report, c⟩ := made
    simp [ofProbe]

theorem Checked.connection_ofProbe (plan : Plan) (probed : Except Failure (Report × Connection)) :
    (Checked.ofProbe plan probed).connection = probed.toOption.map Prod.snd := by
  cases probed with
  | error f => rfl
  | ok made => rfl

theorem check_of_refused {plan : Plan} {why : SettingFault} (h : plan.check = .error why)
    (net : Network) :
    check plan net = pure (Checked.ofProbe plan (.error (.configuration why))) := by
  unfold check
  rw [h]
  rfl

theorem value_check (plan : Plan) (net : Network) :
    (check plan net).value = Checked.ofProbe plan (plan.probe net).value := by
  rcases hcheck : plan.check with why | ⟨⟩
  · rw [check_of_refused hcheck, Plan.probe_of_refused hcheck]
    rfl
  · have hconnect := Plan.value_connect hcheck net
    rw [Plan.value_probe hcheck]
    unfold check
    rw [hcheck]
    dsimp only
    rw [Logged.value_bind, hconnect]
    rcases hwithin : net.within plan.address plan.transport.timeout with f | w
    · cases Connecting.failed_of_within hwithin with
      | timeout => rfl
      | refused => rfl
      | io g => rfl
    · rfl

/-- A check and the probe of its plan agree, whatever the network does. The check succeeds if and
only if the probe has a report that does. Both make the same connection or none, which has taken
the request or the beginning of it and nothing else, and which is closed and was shut down once.
The probe is refused if and only if the plan is, and then neither of the two meets the network;
any other failure is one of connecting, and a failure is the last line printed, with no close told
of. With a report, the lines behind the request are those of the report and that of the close, and
the read was not refused. -/
theorem check_agrees (plan : Plan) (net : Network) :
    let probed := (plan.probe net).value
    let checked := (check plan net).value
    (checked.success = true ↔ ∃ report c, probed = .ok (report, c) ∧ report.isSuccess = true) ∧
    checked.connection = probed.toOption.map Prod.snd ∧
    (∀ c, checked.connection = some c →
      c.isOpen = false ∧ ∃ w sent rest, net.result = some (.ok w) ∧
        c.wire.shutdowns = w.shutdowns + 1 ∧ c.wire.taken = w.taken ++ sent ∧
        plan.request.toBytes = sent ++ rest) ∧
    (∀ why, probed = .error (.configuration why) ↔ plan.check = .error why) ∧
    (∀ why, plan.check = .error why →
      (plan.probe net).events = [] ∧ (check plan net).events = [] ∧
        ∀ other, plan.probe other = plan.probe net ∧ check plan other = check plan net) ∧
    (∀ f, probed = .error f →
      ((∃ why, f = .configuration why) ∨
        Connecting.Failed plan.address plan.transport.timeout f) ∧
      checked.lines.getLast? = some f.line ∧ closedLine ∉ checked.lines) ∧
    (∀ report c, probed = .ok (report, c) →
      checked.lines = linesToRequest plan ++ report.lines plan.start ++ [closedLine] ∧
        (∀ why, report.outcome ≠ .error (.configuration why)) ∧
        report.outcome ≠ .error .notConnected) := by
  intro probed checked
  have hchecked : checked = Checked.ofProbe plan probed := value_check plan net
  have hprobed : Plan.Probed plan net probed := plan.probed net
  have hiff : ∀ why, probed = .error (.configuration why) ↔ plan.check = .error why :=
    plan.probe_eq_configuration_iff net
  rw [hchecked, Checked.connection_ofProbe]
  clear_value probed
  refine ⟨Checked.success_ofProbe, rfl, ?_, hiff, ?_, ?_, ?_⟩
  · intro c hc
    cases hprobed with
    | refused | unconnected => cases hc
    | @inspected w hcheck hresult =>
      obtain rfl := Option.some.inj hc
      obtain ⟨hclosed, hshut⟩ := plan.closed_inspect w
      obtain ⟨sent, rest, htaken, hrequest⟩ := Plan.exists_taken_inspect hcheck w
      exact ⟨hclosed, w, sent, rest, hresult, hshut, htaken, hrequest⟩
  · intro why hrefused
    rw [Plan.probe_of_refused hrefused, check_of_refused hrefused]
    refine ⟨rfl, rfl, ?_⟩
    intro other
    exact ⟨Plan.probe_of_refused hrefused other, check_of_refused hrefused other⟩
  · intro f hf
    rw [hf]
    refine ⟨?_, List.getLast?_concat, closedLine_notMem plan f⟩
    rw [hf] at hprobed
    cases hprobed with
    | refused hcheck => exact .inl ⟨_, rfl⟩
    | unconnected _ hfailed => exact .inr hfailed
  · intro report c hok
    rw [hok]
    refine ⟨rfl, ?_⟩
    cases hprobed with
    | refused | unconnected => cases hok
    | @inspected w hcheck hresult =>
      obtain rfl : (plan.inspect w).1 = report := congrArg Prod.fst (Except.ok.inj hok)
      exact Plan.outcome_inspect_ne hcheck w

end CommandLine

end ModbusTcp
