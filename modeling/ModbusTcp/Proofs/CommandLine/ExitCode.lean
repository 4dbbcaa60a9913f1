import Mathlib.Logic.ExistsUnique
import ModbusTcp.Proofs.CommandLine.Agreement
import ModbusTcp.Proofs.Probe.Printed

/-!
# The exit code and the printed lines

A check has three ends, as the probe of its plan has, and each end prints lines of its own outline
(`CommandLine.Outline`). The outlines differ in length, so the lines tell which end it was. An error
line is printed if and only if the read did not succeed, and then only one; so the exit code and
the lines tell the same (`CommandLine.exitCode_program`).
-/

namespace ModbusTcp

theorem Report.isSuccess_ofResult {r : Request} {result : Except Failure Bytes} :
    (Report.ofResult r result).isSuccess = true ↔
      ∃ reply reading, result = .ok reply ∧ Reading.ofFrame reply = .ok reading := by
  rw [isSuccess_iff]
  cases result with
  | error f => simp [ofResult]
  | ok reply => simp [ofResult]

theorem Plan.isSuccess_inspect {plan : Plan} {w : Wire} :
    (plan.inspect w).1.isSuccess = true ↔
      ∃ reply reading,
        ((plan.connection w).exchange plan.request.toBytes).value.1 = .ok reply ∧
          Reading.ofFrame reply = .ok reading := by
  rw [inspect_eq]
  exact Report.isSuccess_ofResult

namespace CommandLine

/-! ## Error lines -/

/-- The line begins with these characters. -/
def Begins (head line : String) : Prop := head.toList <+: line.toList

theorem Begins.refl (line : String) : Begins line line := List.prefix_refl _

theorem Begins.append {head line : String} (h : Begins head line) (rest : String) :
    Begins head (line ++ rest) := by
  unfold Begins
  rw [String.toList_append]
  exact h.trans (List.prefix_append _ _)

/-- The line is marked as that of an error. -/
def isErrorLine (line : String) : Bool := "[ERROR]".toList.isPrefixOf line.toList

theorem isErrorLine_iff {line : String} : isErrorLine line = true ↔ Begins "[ERROR]" line :=
  List.isPrefixOf_iff_prefix

theorem isErrorLine_line (f : Failure) : isErrorLine f.line = true := by
  unfold Failure.line
  split
  · decide
  · decide
  · simp [isErrorLine]
  · simp [isErrorLine, toString]

/-- Seven characters tell whether a line is marked. -/
theorem isErrorLine_of_begins {head line : String} (h : Begins head line)
    (hlength : 7 ≤ head.toList.length) : isErrorLine line = isErrorLine head := by
  obtain ⟨rest, hrest⟩ := h
  have htake : line.toList.take 7 = head.toList.take 7 := by
    rw [← hrest, List.take_append_of_le_length hlength]
  have hmark : "[ERROR]".toList.length = 7 := by decide
  unfold isErrorLine
  rw [Bool.eq_iff_iff, List.isPrefixOf_iff_prefix, List.isPrefixOf_iff_prefix,
    List.prefix_iff_eq_take, List.prefix_iff_eq_take, hmark, htake]

theorem not_isErrorLine_of_mem_linesToRequest {plan : Plan} {line : String}
    (h : line ∈ linesToRequest plan) : isErrorLine line = false := by
  simp only [linesToRequest, List.mem_cons, List.not_mem_nil, or_false] at h
  rcases h with rfl | rfl | rfl | rfl
  · exact isErrorLine_of_begins ((Begins.refl _).append _) (by decide)
  · exact isErrorLine_of_begins (((Begins.refl _).append _).append _) (by decide)
  · decide
  · exact isErrorLine_of_begins (((((Begins.refl _).append _).append _).append _).append _)
      (by decide)

theorem not_isErrorLine_of_mem_responseLines {response : Option Bytes} {line : String}
    (h : line ∈ Report.responseLines response) : isErrorLine line = false := by
  cases response with
  | none => cases h
  | some bytes =>
    simp only [Report.responseLines, List.mem_cons, List.not_mem_nil, or_false] at h
    rcases h with rfl | rfl
    · exact isErrorLine_of_begins (((Begins.refl _).append _).append _) (by decide)
    · exact isErrorLine_of_begins ((Begins.refl _).append _) (by decide)

/-- Every register is shown in a line of its own. -/
theorem begins_of_mem_registerLines {address : Nat} {values : List UInt16} {line : String}
    (h : line ∈ Report.registerLines address values) : Begins "  Register " line :=
  List.isPrefixOf_iff_prefix.mp (Report.isRegisterLine_of_mem h)

theorem length_registerLines (address : Nat) (values : List UInt16) :
    (Report.registerLines address values).length = values.length := by
  induction values generalizing address with
  | nil => rfl
  | cons value rest ih => simp [Report.registerLines, ih]

theorem not_isErrorLine_of_mem_readingLines {start : UInt16} {reading : Reading} {line : String}
    (h : line ∈ Report.readingLines start reading) : isErrorLine line = false := by
  cases reading with
  | registers values =>
    rcases List.mem_cons.mp h with rfl | h
    · exact isErrorLine_of_begins (((Begins.refl _).append _).append _) (by decide)
    · exact isErrorLine_of_begins (begins_of_mem_registerLines h) (by decide)
  | raw payload =>
    rw [List.mem_singleton.mp h]
    exact isErrorLine_of_begins ((((Begins.refl _).append _).append _).append _) (by decide)

theorem countP_eq_zero_of_not_isErrorLine {lines : List String}
    (h : ∀ line ∈ lines, isErrorLine line = false) : lines.countP isErrorLine = 0 := by
  rw [List.countP_eq_zero]
  intro line hline
  simp [h line hline]

/-- A report has an error line if its read failed, and else none. -/
theorem countP_lines (report : Report) (start : UInt16) :
    (report.lines start).countP isErrorLine = if report.isSuccess then 0 else 1 := by
  have hrequest : isErrorLine s!"Request bytes: {Hex.dump report.requestBytes}" = false :=
    isErrorLine_of_begins ((Begins.refl _).append _) (by decide)
  have hresponse : (Report.responseLines report.responseBytes).countP isErrorLine = 0 :=
    countP_eq_zero_of_not_isErrorLine fun _ => not_isErrorLine_of_mem_responseLines
  have houtcome : (Report.outcomeLines start report.outcome).countP isErrorLine =
      if report.isSuccess then 0 else 1 := by
    unfold Report.isSuccess
    cases report.outcome with
    | ok reading =>
      exact countP_eq_zero_of_not_isErrorLine fun _ => not_isErrorLine_of_mem_readingLines
    | error f =>
      show [f.line].countP isErrorLine = 1
      rw [List.countP_singleton, isErrorLine_line, if_pos rfl]
  rw [Report.lines, List.countP_cons, List.countP_append, hresponse, houtcome, hrequest]
  simp

/-! ## Outlines -/

/-- The ways in which the lines of a check are laid out. -/
inductive Outline where
  /-- the plan was refused -/
  | refused
  /-- no connection was made -/
  | unconnected
  /-- the read was made -/
  | inspected
  deriving DecidableEq, Repr

/-- The last thing that a report tells: an error in one line, or a count in one line, and behind the
count of registers a line for each of them. -/
def ResultLines : Except Failure Reading → List String → Prop
  | .error _, lines => ∃ error, isErrorLine error = true ∧ lines = [error]
  | .ok (.registers values), lines =>
    ∃ registers, lines = s!"[OK] Successfully read {values.length} registers:" :: registers ∧
      registers.length = values.length ∧ ∀ line ∈ registers, Begins "  Register " line
  | .ok (.raw payload), lines =>
    lines = [s!"[OK] Received {payload.length} payload bytes: {Hex.dump payload}"]

/-- The lines are laid out so. With a connection, they tell of the report of the read made over
it. -/
def Outline.Fits (plan : Plan) (net : Network) : Outline → List String → Prop
  | .refused, lines => ∃ error, isErrorLine error = true ∧ lines = [testingLine plan, error]
  | .unconnected, lines =>
    ∃ error, isErrorLine error = true ∧ lines = [testingLine plan, connectingLine plan, error]
  | .inspected, lines =>
    ∃ w result, net.within plan.address plan.transport.timeout = .ok w ∧
      ResultLines (plan.inspect w).1.outcome result ∧
      lines =
        [testingLine plan, connectingLine plan, "[OK] Connected successfully", sendingLine plan,
          s!"Request bytes: {Hex.dump (plan.inspect w).1.requestBytes}"] ++
        (match (plan.inspect w).1.responseBytes with
          | some bytes => [s!"Received {bytes.length} bytes", s!"Response bytes: {Hex.dump bytes}"]
          | none => []) ++
        result ++ [closedLine]

theorem resultLines_outcomeLines (start : UInt16) (outcome : Except Failure Reading) :
    ResultLines outcome (Report.outcomeLines start outcome) := by
  rcases outcome with f | (values | payload)
  · exact ⟨f.line, isErrorLine_line f, rfl⟩
  · exact ⟨Report.registerLines start.toNat values, rfl, length_registerLines _ _,
      fun _ => begins_of_mem_registerLines⟩
  · rfl

/-- How many lines there are tells the outline. -/
theorem Outline.Fits.length {plan : Plan} {net : Network} {o : Outline} {lines : List String}
    (h : o.Fits plan net lines) :
    match o with
    | .refused => lines.length = 2
    | .unconnected => lines.length = 3
    | .inspected => 3 < lines.length := by
  cases o with
  | refused =>
    obtain ⟨error, -, rfl⟩ := h
    rfl
  | unconnected =>
    obtain ⟨error, -, rfl⟩ := h
    rfl
  | inspected =>
    obtain ⟨w, result, -, -, rfl⟩ := h
    simp only [List.length_append, List.length_cons]
    omega

theorem Outline.Fits.unique {plan : Plan} {net : Network} {o o' : Outline} {lines : List String}
    (h : o.Fits plan net lines) (h' : o'.Fits plan net lines) : o = o' := by
  have hlength := h.length
  have hlength' := h'.length
  cases o <;> cases o' <;> first | rfl | (simp only at hlength hlength'; omega)

/-! ## What a check prints -/

/-- The ends of a check. -/
inductive Ended (plan : Plan) (net : Network) : Checked → Prop
  /-- the plan is refused -/
  | refused {why : SettingFault} (hcheck : plan.check = .error why) :
      Ended plan net ⟨false, [testingLine plan, (Failure.configuration why).line], none⟩
  /-- no connection was made -/
  | unconnected {f : Failure} (hcheck : plan.check = .ok ())
      (hwithin : net.within plan.address plan.transport.timeout = .error f) :
      Ended plan net ⟨false, [testingLine plan, connectingLine plan, f.line], none⟩
  /-- the read was made over a connection -/
  | inspected {w : Wire} (hcheck : plan.check = .ok ())
      (hwithin : net.within plan.address plan.transport.timeout = .ok w) :
      Ended plan net
        ⟨(plan.inspect w).1.isSuccess,
          linesToRequest plan ++ (plan.inspect w).1.lines plan.start ++ [closedLine],
          some (plan.inspect w).2⟩

theorem ended (plan : Plan) (net : Network) : Ended plan net (check plan net).value := by
  rw [value_check]
  rcases hcheck : plan.check with why | ⟨⟩
  · rw [Plan.probe_of_refused hcheck]
    exact .refused hcheck
  · rw [Plan.value_probe hcheck]
    rcases hwithin : net.within plan.address plan.transport.timeout with f | w
    · have hend := Ended.unconnected hcheck hwithin
      cases Connecting.failed_of_within hwithin with
      | timeout | refused | io => exact hend
    · exact .inspected hcheck hwithin

variable {plan : Plan} {net : Network} {checked : Checked}

theorem Ended.success_iff (h : Ended plan net checked) :
    checked.success = true ↔ plan.check = .ok () ∧
      ∃ connection reply reading,
        (Connection.connect plan.host plan.port plan.transport net).value = .ok connection ∧
          (connection.exchange plan.request.toBytes).value.1 = .ok reply ∧
            Reading.ofFrame reply = .ok reading := by
  cases h with
  | refused hcheck => simp [hcheck]
  | unconnected hcheck hwithin =>
    rw [Plan.value_connect hcheck, hwithin]
    simp [Except.map]
  | @inspected w hcheck hwithin =>
    rw [Plan.isSuccess_inspect, Plan.value_connect hcheck, hwithin]
    simp [Except.map, hcheck]

theorem Ended.exists_fits (h : Ended plan net checked) :
    ∃ o : Outline, o.Fits plan net checked.lines := by
  cases h with
  | refused => exact ⟨.refused, _, isErrorLine_line _, rfl⟩
  | unconnected => exact ⟨.unconnected, _, isErrorLine_line _, rfl⟩
  | @inspected w hcheck hwithin =>
    refine ⟨.inspected, w, _, hwithin, resultLines_outcomeLines plan.start _, ?_⟩
    simp only [linesToRequest, Report.lines, List.append_assoc, List.cons_append,
      List.nil_append]
    rfl

/-- A check that does not succeed prints one error line, and one that does prints none. -/
theorem Ended.countP_lines (h : Ended plan net checked) :
    checked.lines.countP isErrorLine = if checked.success then 0 else 1 := by
  have hbefore : (linesToRequest plan).countP isErrorLine = 0 :=
    countP_eq_zero_of_not_isErrorLine fun _ => not_isErrorLine_of_mem_linesToRequest
  have htesting : isErrorLine (testingLine plan) = false :=
    not_isErrorLine_of_mem_linesToRequest (.head _)
  have hconnecting : isErrorLine (connectingLine plan) = false :=
    not_isErrorLine_of_mem_linesToRequest (.tail _ (.head _))
  cases h with
  | refused => simp [htesting, isErrorLine_line]
  | unconnected => simp [htesting, hconnecting, isErrorLine_line]
  | inspected =>
    have hclosed : [closedLine].countP isErrorLine = 0 := by decide
    rw [List.countP_append, List.countP_append, hbefore, CommandLine.countP_lines, hclosed,
      Nat.zero_add, Nat.add_zero]

/-! ## The program -/

/-- A run whose command line and whose log level are accepted is a check of the plan. -/
theorem program_of_accepted {arguments : List String} {net : Network} {a : Arguments}
    {filter : LogFilter} (hread : read arguments = .ok a)
    (hlevel : LogFilter.ofText a.logLevel = .ok filter) :
    program arguments net = Checked.finish ⟨some filter⟩ (check a.plan net) := by
  simp only [program, hread, Logger.install, hlevel]

/-- A check ends with zero or one, and with zero if and only if it succeeded. -/
theorem exitCode_finish (logger : Logger) (c : Logged Checked) :
    (c.value.success = true ∧ (Checked.finish logger c).exitCode = 0) ∨
      (c.value.success = false ∧ (Checked.finish logger c).exitCode = 1) := by
  unfold Checked.finish
  cases c.value.success with
  | true => exact .inl ⟨rfl, rfl⟩
  | false => exact .inr ⟨rfl, rfl⟩

/-- The exit code counts the error lines. -/
theorem countP_output_finish (logger : Logger) (plan : Plan) (net : Network) :
    let finish := Checked.finish logger (check plan net)
    finish.output.countP isErrorLine = finish.exitCode.toNat := by
  have hcount := (ended plan net).countP_lines
  dsimp only
  rcases exitCode_finish logger (check plan net) with ⟨hsuccess, hcode⟩ | ⟨hsuccess, hcode⟩
  · rw [hcode, Checked.finish, hcount, hsuccess]
    rfl
  · rw [hcode, Checked.finish, hcount, hsuccess]
    rfl

theorem exitCode_finish_eq_one_iff (logger : Logger) (plan : Plan) (net : Network) :
    let finish := Checked.finish logger (check plan net)
    finish.exitCode = 1 ↔ ∃ line ∈ finish.output, Begins "[ERROR]" line := by
  intro finish
  have hcount : finish.output.countP isErrorLine = finish.exitCode.toNat :=
    countP_output_finish logger plan net
  have hcode : finish.exitCode = 0 ∨ finish.exitCode = 1 :=
    (exitCode_finish logger (check plan net)).imp And.right And.right
  have hline : (∃ line ∈ finish.output, Begins "[ERROR]" line) ↔ 0 < finish.exitCode.toNat := by
    rw [← hcount, List.countP_pos_iff]
    simp only [isErrorLine_iff]
  rw [hline]
  rcases hcode with hcode | hcode
  · simp [hcode]
  · simp [hcode]

theorem exitCode_finish_eq_zero_iff (logger : Logger) (plan : Plan) (net : Network) :
    (Checked.finish logger (check plan net)).exitCode = 0 ↔ plan.check = .ok () ∧
      ∃ connection reply reading,
        (Connection.connect plan.host plan.port plan.transport net).value = .ok connection ∧
          (connection.exchange plan.request.toBytes).value.1 = .ok reply ∧
            Reading.ofFrame reply = .ok reading := by
  rw [← (ended plan net).success_iff]
  rcases exitCode_finish logger (check plan net) with ⟨hsuccess, hcode⟩ | ⟨hsuccess, hcode⟩
  · simp [hsuccess, hcode]
  · simp [hsuccess, hcode]

/-- Every run ends with the exit code zero or one, and with zero if and only if only help or the
version was asked for, or if the command line, the log level and the plan are accepted, the
connection is made, and its reply to the request can be read. A run that gets to its check prints
the lines of exactly one outline. Its exit code is one if and only if an error line is among them,
and there is never more than one. -/
theorem exitCode_program (arguments : List String) (net : Network) :
    let finish := program arguments net
    (finish.exitCode = 0 ∨ finish.exitCode = 1) ∧
      (finish.exitCode = 0 ↔
        read arguments = .error .help ∨ read arguments = .error .version ∨
          ∃ a filter connection reply reading,
            read arguments = .ok a ∧ LogFilter.ofText a.logLevel = .ok filter ∧
              a.plan.check = .ok () ∧
              (Connection.connect a.plan.host a.plan.port a.plan.transport net).value =
                .ok connection ∧
              (connection.exchange a.plan.request.toBytes).value.1 = .ok reply ∧
              Reading.ofFrame reply = .ok reading) ∧
      ∀ a filter, read arguments = .ok a → LogFilter.ofText a.logLevel = .ok filter →
        (∃! o : Outline, o.Fits a.plan net finish.output) ∧
          (finish.exitCode = 1 ↔ ∃ line ∈ finish.output, Begins "[ERROR]" line) ∧
          finish.output.countP isErrorLine = finish.exitCode.toNat := by
  dsimp only
  rcases hread : read arguments with stop | a
  · -- nothing is checked; help and version texts are a success
    have hfinish : program arguments net = stop.finish := by simp only [program, hread]
    rw [hfinish]
    cases stop with
    | help => simp [Stop.finish]
    | version => simp [Stop.finish]
    | usage error => simp [Stop.finish]
  rcases hlevel : LogFilter.ofText a.logLevel with why | filter
  · -- the log level is refused before anything is printed
    have hcode : (program arguments net).exitCode = 1 := by
      simp only [program, hread, Logger.install, hlevel]
    have hrefused : ∀ filter, LogFilter.ofText a.logLevel ≠ .ok filter := by simp [hlevel]
    refine ⟨.inr hcode, by simp [hcode, hlevel], ?_⟩
    rintro _ filter ⟨⟩ haccepted
    exact absurd haccepted (hrefused filter)
  rw [program_of_accepted hread hlevel]
  refine ⟨(exitCode_finish _ _).imp And.right And.right, ?_, ?_⟩
  · rw [exitCode_finish_eq_zero_iff]
    simp [hlevel]
  · rintro _ _ ⟨⟩ -
    obtain ⟨o, hfits⟩ := (ended a.plan net).exists_fits
    exact ⟨⟨o, hfits, fun o' hfits' => hfits'.unique hfits⟩,
      exitCode_finish_eq_one_iff _ a.plan net, countP_output_finish _ a.plan net⟩

end CommandLine

end ModbusTcp
