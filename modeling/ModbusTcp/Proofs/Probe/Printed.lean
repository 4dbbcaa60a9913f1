import ModbusTcp.Probe.Client
import ModbusTcp.Proofs.Text.Digits

/-!
# Reports read back

The lines of a report are read back in their order (`Report.readLines?`): the request, then the
reply if its two lines are there, then the reading. A register is read from its line alone, with
both forms of its value. For a successful report this gives back what was printed, so two such
reports that print the same agree, and the registers are numbered upwards without wrapping around
(`Report.lines_faithful`).
-/

namespace ModbusTcp

namespace Hex

@[simp]
theorem length_ofWord (w : UInt16) : (ofWord w).toList.length = 4 := by
  simp [ofWord, byteChars]

theorem value?_ofWord (w : UInt16) : Number.value? 16 (ofWord w).toList = some w.toNat := by
  have hw := w.toNat_lt
  have hdigit : ∀ n < 16, Number.digitValue? 16 (digit n) = some n := fun n => digitValue?_digit
  have hdigits : Number.Digits 16 (ofWord w).toList
      [w.toNat / 256 / 16, w.toNat / 256 % 16, w.toNat % 256 / 16, w.toNat % 256 % 16] := by
    rw [ofWord, String.toList_ofList, byteChars, byteChars, Word.toNat_high, Word.toNat_low]
    refine .cons (hdigit _ ?_) (.cons (hdigit _ ?_) (.cons (hdigit _ ?_)
      (.cons (hdigit _ ?_) .nil)))
    all_goals omega
  have hne : (ofWord w).toList ≠ [] := by
    rw [← List.length_pos_iff, length_ofWord]
    omega
  rw [Number.value?_of_digits hne hdigits]
  simp only [Number.evaluate, List.foldl_cons, List.foldl_nil, Option.some.injEq]
  omega

end Hex

namespace Report

/-! ## Reading lines -/

/-- What stands behind a head, if a text begins with it. -/
def behind? (head : String) (cs : List Char) : Option (List Char) := cs.dropPrefix? head.toList

/-- The bytes of a line that shows them behind a head. -/
def readDumpLine? (head line : String) : Option Bytes := do
  let dump ← behind? head line.toList
  Hex.readDump? (String.ofList dump)

/-- What the line of a register shows, with both forms of its value. -/
structure Entry where
  address : Nat
  decimal : Nat
  hexadecimal : Nat
  deriving DecidableEq, Repr

/-- The line begins as the lines of registers do. -/
def isRegisterLine (line : String) : Bool := "  Register ".toList.isPrefixOf line.toList

/-- Reads the line of a register; its hexadecimal form has four digits. -/
def readRegisterLine? (line : String) : Option Entry := do
  let rest ← behind? "  Register " line.toList
  let (address, rest) ← Number.front? 10 rest
  let rest ← behind? ": " rest
  let (decimal, rest) ← Number.front? 10 rest
  let rest ← behind? " (0x" rest
  guard (rest.drop 4 = [')'])
  let hexadecimal ← Number.value? 16 (rest.take 4)
  return ⟨address, decimal, hexadecimal⟩

/-- The bytes that a payload line shows. -/
def readPayloadLine? (line : String) : Option Bytes := do
  let rest ← behind? "[OK] Received " line.toList
  let (_, rest) ← Number.front? 10 rest
  let dump ← behind? " payload bytes: " rest
  Hex.readDump? (String.ofList dump)

/-- The reading that lines tell of. -/
def readReading? : List String → Option Reading
  | [] => none
  | line :: rest =>
    match behind? "[OK] Successfully read " line.toList with
    | some _ => do
      let entries ← rest.mapM readRegisterLine?
      return .registers (entries.map fun entry => UInt16.ofNat entry.decimal)
    | none => Reading.raw <$> readPayloadLine? line

/-- The reply that lines begin with, if they do, and the lines behind it. -/
def readResponse : List String → Option Bytes × List String
  | received :: response :: rest =>
    match readDumpLine? "Response bytes: " response with
    | some bytes => (some bytes, rest)
    | none => (none, received :: response :: rest)
  | lines => (none, lines)

/-- The request, the reply and the reading that the lines of a report tell of. -/
def readLines? : List String → Option (Bytes × Option Bytes × Reading)
  | [] => none
  | request :: rest => do
    let requestBytes ← readDumpLine? "Request bytes: " request
    let (responseBytes, rest) := readResponse rest
    let reading ← readReading? rest
    return (requestBytes, responseBytes, reading)

@[simp]
theorem behind?_append (head : String) (rest : List Char) :
    behind? head (head.toList ++ rest) = some rest :=
  List.dropPrefix?_append_of_beq rest (beq_self_eq_true _)

theorem readDumpLine?_append_dump (head : String) (data : Bytes) :
    readDumpLine? head (head ++ Hex.dump data) = some data := by
  rw [readDumpLine?, String.toList_append, behind?_append]
  simp

/-! ## Register lines -/

theorem toList_registerLine (address : Nat) (value : UInt16) :
    (registerLine address value).toList =
      "  Register ".toList ++ (address.repr.toList ++ (": ".toList ++ (value.toNat.repr.toList ++
        (" (0x".toList ++ ((Hex.ofWord value).toList ++ [')']))))) := by
  have hline : registerLine address value = "  Register " ++ address.repr ++ ": " ++
    value.toNat.repr ++ " (0x" ++ Hex.ofWord value ++ ")" := rfl
  simp [hline]

theorem readRegisterLine?_registerLine (address : Nat) (value : UInt16) :
    readRegisterLine? (registerLine address value) =
      some ⟨address, value.toNat, value.toNat⟩ := by
  have hcolon : (": ".toList.head?).map (Number.isDigit 10) = some false := by decide
  have hspace : (" (0x".toList.head?).map (Number.isDigit 10) = some false := by decide
  have hdrop : ((Hex.ofWord value).toList ++ [')']).drop 4 = [')'] :=
    List.drop_left' (Hex.length_ofWord value)
  have htake : ((Hex.ofWord value).toList ++ [')']).take 4 = (Hex.ofWord value).toList :=
    List.take_left' (Hex.length_ofWord value)
  simp only [readRegisterLine?, toList_registerLine, behind?_append, Option.bind_eq_bind,
    Option.bind_some, Number.front?_repr_append hcolon, Number.front?_repr_append hspace,
    hdrop, htake, Hex.value?_ofWord]
  rfl

theorem isRegisterLine_registerLine (address : Nat) (value : UInt16) :
    isRegisterLine (registerLine address value) = true := by
  rw [isRegisterLine, toList_registerLine, List.isPrefixOf_iff_prefix]
  exact List.prefix_append _ _

/-- The line of a register is told by its first character already. -/
theorem not_isRegisterLine {line : String} {c : Char} (h : line.toList.head? = some c)
    (hc : c ≠ ' ') : ¬ isRegisterLine line = true := by
  rw [isRegisterLine, List.isPrefixOf_iff_prefix]
  rintro ⟨rest, hline⟩
  rw [← hline] at h
  exact hc (Option.some.inj h).symm

/-- The addresses go on upwards from the first one. -/
theorem mapM_readRegisterLine? (address : Nat) (values : List UInt16) :
    (registerLines address values).mapM readRegisterLine? =
      some (values.mapIdx fun i value => ⟨address + i, value.toNat, value.toNat⟩) := by
  induction values generalizing address with
  | nil => rfl
  | cons value rest ih =>
    simp only [registerLines, List.mapM_cons, readRegisterLine?_registerLine, ih,
      List.mapIdx_cons, Nat.add_zero, Nat.add_assoc, Nat.add_comm 1]
    rfl

theorem map_decimal_entries (address : Nat) (values : List UInt16) :
    (values.mapIdx fun i value => (⟨address + i, value.toNat, value.toNat⟩ : Entry)).map
      (fun entry => UInt16.ofNat entry.decimal) = values := by
  apply List.ext_getElem
  · simp
  · simp

theorem isRegisterLine_of_mem {address : Nat} {values : List UInt16} {line : String}
    (h : line ∈ registerLines address values) : isRegisterLine line = true := by
  induction values generalizing address with
  | nil => cases h
  | cons value rest ih =>
    rcases List.mem_cons.mp h with rfl | h
    · exact isRegisterLine_registerLine address value
    · exact ih h

/-! ## The lines of a report -/

theorem readPayloadLine?_line (payload : Bytes) :
    readPayloadLine? s!"[OK] Received {payload.length} payload bytes: {Hex.dump payload}" =
      some payload := by
  have hspace : (" payload bytes: ".toList.head?).map (Number.isDigit 10) = some false := by
    decide
  have hline : (s!"[OK] Received {payload.length} payload bytes: {Hex.dump payload}").toList =
      "[OK] Received ".toList ++ (payload.length.repr.toList ++
        (" payload bytes: ".toList ++ (Hex.dump payload).toList)) := by
    simp [toString]
  simp only [readPayloadLine?, hline, behind?_append, Option.bind_eq_bind,
    Option.bind_some, Number.front?_repr_append hspace, String.ofList_toList,
    Hex.readDump?_dump]

theorem readReading?_readingLines (start : UInt16) (reading : Reading) :
    readReading? (readingLines start reading) = some reading := by
  cases reading with
  | registers values =>
    have hhead : (s!"[OK] Successfully read {values.length} registers:").toList =
        "[OK] Successfully read ".toList ++
          (values.length.repr.toList ++ " registers:".toList) := by
      simp [toString]
    rw [readingLines, readReading?, hhead, behind?_append, mapM_readRegisterLine?]
    dsimp only [Option.bind_eq_bind, Option.bind_some]
    rw [map_decimal_entries]
    rfl
  | raw payload =>
    have hhead : behind? "[OK] Successfully read "
        (s!"[OK] Received {payload.length} payload bytes: {Hex.dump payload}").toList = none := by
      simp [behind?, List.dropPrefix?, toString]
    rw [readingLines, readReading?, hhead, readPayloadLine?_line]
    rfl

theorem readResponse_append (start : UInt16) (response : Option Bytes) (reading : Reading) :
    readResponse (responseLines response ++ readingLines start reading) =
      (response, readingLines start reading) := by
  cases response with
  | some bytes =>
    have hread : readDumpLine? "Response bytes: " s!"Response bytes: {Hex.dump bytes}" =
      some bytes := readDumpLine?_append_dump _ _
    simp only [responseLines, readResponse, List.cons_append, List.nil_append, hread]
  | none =>
    rw [responseLines, List.nil_append]
    rcases reading with (_ | ⟨value, rest⟩) | payload
    · rfl
    · have hread : readDumpLine? "Response bytes: " (registerLine start.toNat value) = none := by
        rw [readDumpLine?, toList_registerLine]
        simp [behind?, List.dropPrefix?]
      simp only [readingLines, registerLines, readResponse, hread]
    · rfl

theorem isSuccess_iff {r : Report} : r.isSuccess = true ↔ ∃ reading, r.outcome = .ok reading := by
  cases houtcome : r.outcome with
  | ok reading => simp [isSuccess, houtcome, Except.isOk, Except.toBool]
  | error f => simp [isSuccess, houtcome, Except.isOk, Except.toBool]

theorem readLines?_lines {r : Report} {reading : Reading} (h : r.outcome = .ok reading)
    (start : UInt16) :
    readLines? (r.lines start) = some (r.requestBytes, r.responseBytes, reading) := by
  have hrequest : readDumpLine? "Request bytes: " s!"Request bytes: {Hex.dump r.requestBytes}" =
    some r.requestBytes := readDumpLine?_append_dump _ _
  rw [lines, h, outcomeLines, readLines?, hrequest]
  simp only [readResponse_append, readReading?_readingLines, Option.bind_eq_bind,
    Option.bind_some]
  rfl

theorem filter_isRegisterLine_readingLines (start : UInt16) (reading : Reading) :
    (readingLines start reading).filter isRegisterLine =
      registerLines start.toNat (reading.registers?.getD []) := by
  cases reading with
  | registers values =>
    have hhead : ¬ isRegisterLine s!"[OK] Successfully read {values.length} registers:" = true :=
      not_isRegisterLine (c := '[') (by simp [toString]) (by decide)
    have hall : (registerLines start.toNat values).filter isRegisterLine =
        registerLines start.toNat values :=
      List.filter_eq_self.mpr fun _ => isRegisterLine_of_mem
    rw [readingLines, List.filter_cons_of_neg hhead, hall]
    rfl
  | raw payload =>
    have hline : ¬ isRegisterLine
        s!"[OK] Received {payload.length} payload bytes: {Hex.dump payload}" = true :=
      not_isRegisterLine (c := '[') (by simp [toString]) (by decide)
    rw [readingLines, List.filter_cons_of_neg hline]
    rfl

theorem filter_isRegisterLine_responseLines (response : Option Bytes) :
    (responseLines response).filter isRegisterLine = [] := by
  cases response with
  | none => rfl
  | some bytes =>
    have hreceived : ¬ isRegisterLine s!"Received {bytes.length} bytes" = true :=
      not_isRegisterLine (c := 'R') (by simp [toString]) (by decide)
    have hbytes : ¬ isRegisterLine s!"Response bytes: {Hex.dump bytes}" = true :=
      not_isRegisterLine (c := 'R') (by simp [toString]) (by decide)
    rw [responseLines, List.filter_cons_of_neg hreceived, List.filter_cons_of_neg hbytes]
    rfl

/-- The register lines of a report are those of its reading. -/
theorem filter_isRegisterLine_lines {r : Report} {reading : Reading} (h : r.outcome = .ok reading)
    (start : UInt16) :
    (r.lines start).filter isRegisterLine =
      registerLines start.toNat (reading.registers?.getD []) := by
  have hrequest : ¬ isRegisterLine s!"Request bytes: {Hex.dump r.requestBytes}" = true :=
    not_isRegisterLine (c := 'R') (by simp [toString]) (by decide)
  rw [lines, h, outcomeLines, List.filter_cons_of_neg hrequest, List.filter_append,
    filter_isRegisterLine_responseLines, List.nil_append, filter_isRegisterLine_readingLines]

/-- The lines of a report that tells of a reading give back its request, its reply and the reading.
The register lines among them are one for each register, numbered upwards from the first address
without wrapping around, and both forms of a value agree. Another report that tells of a reading
has the same lines only if it has the same request, reply and reading. -/
theorem lines_faithful {r : Report} {reading : Reading} (h : r.outcome = .ok reading)
    (start : UInt16) :
    readLines? (r.lines start) = some (r.requestBytes, r.responseBytes, reading) ∧
    ((r.lines start).filter isRegisterLine).mapM readRegisterLine? =
      some ((reading.registers?.getD []).mapIdx fun i value =>
        ⟨start.toNat + i, value.toNat, value.toNat⟩) ∧
    ∀ (r' : Report) (start' : UInt16), r'.isSuccess = true → r.lines start = r'.lines start' →
      r.requestBytes = r'.requestBytes ∧ r.responseBytes = r'.responseBytes ∧
        r.outcome = r'.outcome := by
  refine ⟨readLines?_lines h start, ?_, ?_⟩
  · rw [filter_isRegisterLine_lines h, mapM_readRegisterLine?]
  · intro r' start' hsuccess hlines
    obtain ⟨reading', h'⟩ := isSuccess_iff.mp hsuccess
    have hread := readLines?_lines h start
    rw [hlines, readLines?_lines h' start'] at hread
    simp only [Option.some.injEq, Prod.mk.injEq] at hread
    obtain ⟨hrequest, hresponse, rfl⟩ := hread
    exact ⟨hrequest.symm, hresponse.symm, h.trans h'.symm⟩

/-- Two registers from the last address on: the second line goes on past it, and another value in it
changes the lines. -/
theorem lines_faithful_of_two_registers :
    ∃ r : Report, r.outcome = .ok (.registers [256, 43981]) ∧
      ((r.lines 65535).filter isRegisterLine).mapM readRegisterLine? =
        some [⟨65535, 256, 256⟩, ⟨65536, 43981, 43981⟩] ∧
      r.lines 65535 ≠
        ({ r with outcome := .ok (.registers [256, 43982]) } : Report).lines 65535 := by
  let request := Request.read 1 1 3 65535 2
  let r : Report :=
    ⟨request, request.toBytes, some [0, 1, 0, 0, 0, 7, 1, 3, 4, 1, 0, 171, 205],
      .ok (.registers [256, 43981])⟩
  obtain ⟨-, hregisters, hinjective⟩ := lines_faithful (r := r) rfl 65535
  refine ⟨r, rfl, hregisters, ?_⟩
  intro hlines
  have houtcome := (hinjective _ 65535 rfl hlines).2.2
  revert houtcome
  decide

end Report

end ModbusTcp
